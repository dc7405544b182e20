import Mathlib.Data.List.DropRight
import ReleaseGate.Proofs.Relocation

/-!
# The directory of the release notes

The release notes are to lie in the configured directory: where root, directory and file name lead
when they are joined one after the other. Paths count up to repeated slashes (`Files.SamePath`), and
then lead to the same place in every file system (`SamePath.locate_eq`).

The slashes at the end of the directory are dropped before the file name is set behind it, so a
directory of nothing but slashes is taken for none: then the file is looked for at the root of the
repository and not at the root of the file system. This is the only exception
(`releaseNotes_samePath_iff`).
-/

namespace ReleaseGate

namespace Files

/-! ### Repeated slashes -/

/-- A path with one slash for every run of them. -/
def squeeze : List Char → List Char
  | [] => []
  | c :: s => if c = '/' ∧ s.head? = some '/' then squeeze s else c :: squeeze s

/-- Paths that differ in repeated slashes only. -/
def SamePath (p q : String) : Prop := squeeze p.toList = squeeze q.toList

instance (p q : String) : Decidable (SamePath p q) :=
  inferInstanceAs (Decidable (squeeze p.toList = squeeze q.toList))

@[simp] theorem head?_squeeze (s : List Char) : (squeeze s).head? = s.head? := by
  induction s with
  | nil => rfl
  | cons c s ih =>
    rw [squeeze]
    split
    · next h => rw [ih, h.2, h.1, List.head?_cons]
    · rfl

@[simp] theorem squeeze_eq_nil_iff {s : List Char} : squeeze s = [] ↔ s = [] := by
  rw [← List.head?_eq_none_iff, head?_squeeze, List.head?_eq_none_iff]

@[simp] theorem getLast?_squeeze (s : List Char) : (squeeze s).getLast? = s.getLast? := by
  induction s with
  | nil => rfl
  | cons c s ih =>
    rw [squeeze]
    split
    · next h =>
      obtain ⟨r, rfl⟩ := List.head?_eq_some_iff.1 h.2
      rw [ih, List.getLast?_cons_cons]
    · rw [List.getLast?_cons, List.getLast?_cons, ih]

theorem mem_squeeze_iff {c : Char} (hc : c ≠ '/') (s : List Char) : c ∈ squeeze s ↔ c ∈ s := by
  induction s with
  | nil => rfl
  | cons d s ih =>
    rw [squeeze]
    split
    · next h => rw [ih, List.mem_cons, or_iff_right (h.1 ▸ hc)]
    · rw [List.mem_cons, List.mem_cons, ih]

/-- The first pieces are the same, and the others but for empty ones. -/
theorem exists_pieces_squeeze (s : List Char) :
    ∃ l ls ls', pieces s = l :: ls ∧ pieces (squeeze s) = l :: ls' ∧
      ls.filter (· ≠ []) = ls'.filter (· ≠ []) := by
  induction s with
  | nil => exact ⟨[], [], [], rfl, rfl, rfl⟩
  | cons c s ih =>
    obtain ⟨l, ls, ls', hs, hs', hls⟩ := ih
    by_cases hc : c = '/'
    · subst hc
      rw [squeeze]
      split
      · next h =>
        -- the slash that goes leaves an empty piece
        obtain ⟨r, rfl⟩ := List.head?_eq_some_iff.1 h.2
        have hl : l = [] := by
          rw [pieces, if_pos rfl] at hs
          exact (List.cons.inj hs).1.symm
        refine ⟨[], l :: ls, ls', by rw [pieces, if_pos rfl, hs], by rw [hs', hl], ?_⟩
        rw [hl, List.filter_cons_of_neg (by simp), hls]
      · refine ⟨[], l :: ls, l :: ls', by rw [pieces, if_pos rfl, hs],
          by rw [pieces, if_pos rfl, hs'], ?_⟩
        rw [List.filter_cons, List.filter_cons, hls]
    · refine ⟨c :: l, ls, ls', by rw [pieces, if_neg hc, hs], ?_, hls⟩
      rw [squeeze, if_neg fun h => hc h.1, pieces, if_neg hc, hs']

theorem components_squeeze (s : List Char) : components (squeeze s) = components s := by
  obtain ⟨l, ls, ls', hs, hs', hls⟩ := exists_pieces_squeeze s
  rw [components, components, hs, hs', List.filter_cons, List.filter_cons, hls]

/-! ### Longer paths -/

theorem squeeze_cons_congr (c : Char) {s t : List Char} (h : squeeze s = squeeze t) :
    squeeze (c :: s) = squeeze (c :: t) := by
  have hd : s.head? = t.head? := by rw [← head?_squeeze s, h, head?_squeeze]
  rw [squeeze, squeeze, hd, h]

theorem squeeze_append_congr_left (a : List Char) {s t : List Char} (h : squeeze s = squeeze t) :
    squeeze (a ++ s) = squeeze (a ++ t) := by
  induction a with
  | nil => exact h
  | cons c a ih => exact squeeze_cons_congr c ih

theorem squeeze_squeeze_append (a s : List Char) : squeeze (squeeze a ++ s) = squeeze (a ++ s) := by
  induction a with
  | nil => rfl
  | cons c a ih =>
    rw [squeeze, List.cons_append]
    split
    · next h =>
      have hd : (a ++ s).head? = some '/' := by rw [List.head?_append, h.2, Option.some_or]
      rw [ih, squeeze, if_pos ⟨h.1, hd⟩]
    · exact squeeze_cons_congr c ih

theorem squeeze_append_congr_right {s t : List Char} (h : squeeze s = squeeze t) (a : List Char) :
    squeeze (s ++ a) = squeeze (t ++ a) := by
  rw [← squeeze_squeeze_append, h, squeeze_squeeze_append]

/-- Any number of slashes counts as one. -/
theorem squeeze_slashes {s : List Char} (hs : ∀ c ∈ s, c = '/') (a : List Char) :
    squeeze (s ++ '/' :: a) = squeeze ('/' :: a) := by
  induction s with
  | nil => rfl
  | cons c s ih =>
    have hd : (s ++ '/' :: a).head? = some '/' := by
      cases s with
      | nil => rfl
      | cons d s => exact congrArg some (hs d (List.mem_cons_of_mem _ List.mem_cons_self))
    rw [List.cons_append, squeeze, if_pos ⟨hs c List.mem_cons_self, hd⟩]
    exact ih fun d hd => hs d (List.mem_cons_of_mem _ hd)

/-- A path that is not absolute is set behind the base, and the slash between is all that counts. -/
theorem squeeze_join {base path : String} (hbase : base ≠ "") (hpath : isAbsolute path = false) :
    squeeze (join base path).toList = squeeze (base.toList ++ '/' :: path.toList) := by
  rcases toList_join base hpath with ⟨hjoin, hempty | ⟨r, hr⟩⟩ | ⟨hjoin, -⟩
  · exact absurd (String.toList_eq_nil_iff.1 hempty) hbase
  · rw [hjoin, hr, List.append_assoc, List.append_assoc]
    refine squeeze_append_congr_left r ?_
    exact (squeeze_slashes (s := ['/']) (by simp) path.toList).symm
  · rw [hjoin]

theorem squeeze_join_join {base dir file : String} (hbase : base ≠ "")
    (hdir : isAbsolute dir = false) (hfile : isAbsolute file = false) :
    squeeze (join (join base dir) file).toList =
      squeeze (base.toList ++ '/' :: (dir.toList ++ '/' :: file.toList)) := by
  have hjoin : join base dir ≠ "" := by
    rw [Ne, ← String.toList_eq_nil_iff, ← squeeze_eq_nil_iff, squeeze_join hbase hdir,
      squeeze_eq_nil_iff]
    simp
  rw [squeeze_join hjoin hfile, squeeze_append_congr_right (squeeze_join hbase hdir),
    List.append_assoc, List.cons_append]

/-! ### Where a path leads -/

section

variable {p q : String} (same : SamePath p q)

include same

theorem SamePath.isAbsolute : isAbsolute p = isAbsolute q := by
  have same : squeeze p.toList = squeeze q.toList := same
  rw [Files.isAbsolute, Files.isAbsolute, ← head?_squeeze p.toList, same, head?_squeeze]

theorem SamePath.components : components p.toList = components q.toList := by
  have same : squeeze p.toList = squeeze q.toList := same
  rw [← components_squeeze p.toList, same, components_squeeze]

/-- **Repeated slashes lead nowhere else**, unless they make a path too long. -/
theorem SamePath.locate_eq (t : Tree) (cwd : Place) (hp : Tree.byteLength p.toList < Tree.maxPath)
    (hq : Tree.byteLength q.toList < Tree.maxPath) : t.locate cwd p = t.locate cwd q := by
  have habs := same.isAbsolute
  have hcomponents := same.components
  have same : squeeze p.toList = squeeze q.toList := same
  have hnul : p.toList.contains '\x00' = q.toList.contains '\x00' := by
    rw [Bool.eq_iff_iff, List.contains_iff_mem, List.contains_iff_mem,
      ← mem_squeeze_iff (by decide) p.toList, same, mem_squeeze_iff (by decide)]
  have hempty : (p.toList = []) = (q.toList = []) := by
    rw [← squeeze_eq_nil_iff, same, squeeze_eq_nil_iff]
  have hslash : endsInSlash p.toList = endsInSlash q.toList := by
    rw [endsInSlash, endsInSlash, ← getLast?_squeeze p.toList, same, getLast?_squeeze]
  simp only [Tree.locate, hnul, hempty, habs, hcomponents, hslash, if_neg (Nat.not_le.2 hp),
    if_neg (Nat.not_le.2 hq)]

end

/-! ### Slashes at the end -/

/-- A path of slashes only. It leads to the root of the file system. -/
def IsSlashes (path : String) : Prop := path ≠ "" ∧ ∀ c ∈ path.toList, c = '/'

instance (path : String) : Decidable (IsSlashes path) :=
  decidable_of_iff (path ≠ "" ∧ path.toList.all (· == '/')) (by simp [IsSlashes])

theorem IsSlashes.isAbsolute {path : String} (h : IsSlashes path) : isAbsolute path = true := by
  obtain ⟨c, s, hp⟩ := List.exists_cons_of_ne_nil (mt String.toList_eq_nil_iff.1 h.1)
  have hc : c = '/' := h.2 c (hp ▸ List.mem_cons_self)
  rw [Files.isAbsolute, hp, hc]
  rfl

theorem components_eq_nil_iff {s : List Char} : components s = [] ↔ ∀ c ∈ s, c = '/' := by
  induction s with
  | nil => simp [components, pieces]
  | cons c s ih =>
    rw [List.forall_mem_cons]
    by_cases hc : c = '/'
    · rw [hc, and_iff_right rfl, ← ih, ← List.nil_append ('/' :: s), components_append,
        show components [] = [] from rfl, List.nil_append]
    · rw [iff_false_right fun h => hc h.1]
      obtain ⟨l, ls, hs⟩ := List.exists_cons_of_ne_nil (pieces_ne_nil s)
      rw [components, pieces, if_neg hc, hs]
      simp

theorem exists_slashes (s : List Char) :
    ∃ slashes, (∀ c ∈ slashes, c = '/') ∧ s = dropTrailingSlashes s ++ slashes :=
  ⟨s.rtakeWhile (· == '/'), fun _ hc => by simpa using List.mem_rtakeWhile_imp hc,
    List.rdropWhile_append_rtakeWhile.symm⟩

theorem dropTrailingSlashes_eq_nil_iff {s : List Char} :
    dropTrailingSlashes s = [] ↔ ∀ c ∈ s, c = '/' := by
  have h : dropTrailingSlashes s = s.rdropWhile (· == '/') := rfl
  simp [h]

/-- An absolute path is joined to nothing. -/
theorem join_of_isAbsolute (root : String) {path : String} (h : isAbsolute path = true) :
    join root path = path :=
  if_pos h

end Files

/-! ### The release notes -/

namespace Release

open Files

section

variable {dir file : String}

/-- A directory of slashes only is taken for none. -/
theorem notesPath_of_forall_slash (h : ∀ c ∈ dir.toList, c = '/') : notesPath dir file = file := by
  rw [notesPath, dropTrailingSlashes_eq_nil_iff.2 h]

/-- Otherwise no more is lost than repeated slashes. -/
theorem notesPath_cases (file : String) (h : ¬IsSlashes dir) :
    dir = "" ∧ notesPath dir file = file ∨
      dir ≠ "" ∧ squeeze (notesPath dir file).toList =
        squeeze (dir.toList ++ '/' :: file.toList) := by
  by_cases hempty : dir = ""
  · exact .inl ⟨hempty, notesPath_of_forall_slash (by simp [hempty])⟩
  · obtain ⟨slashes, hs, hdir⟩ := exists_slashes dir.toList
    have hkept : dropTrailingSlashes dir.toList ≠ [] :=
      mt dropTrailingSlashes_eq_nil_iff.1 fun hslashes => h ⟨hempty, hslashes⟩
    have hnotes : (notesPath dir file).toList =
        dropTrailingSlashes dir.toList ++ '/' :: file.toList := by
      obtain ⟨c, kept, hkept⟩ := List.exists_cons_of_ne_nil hkept
      simp [notesPath, hkept]
    refine .inr ⟨hempty, ?_⟩
    generalize dropTrailingSlashes dir.toList = kept at hdir hnotes
    rw [hnotes, hdir, List.append_assoc]
    exact (squeeze_append_congr_left _ (squeeze_slashes hs _)).symm

variable (hfile : isAbsolute file = false)

include hfile

/-- The file lies in its directory below every root. -/
theorem samePath_join_notesPath (root : String) (h : ¬IsSlashes dir) :
    SamePath (join root (notesPath dir file)) (join (join root dir) file) := by
  rcases notesPath_cases file h with ⟨rfl, hnotes⟩ | ⟨hne, hnotes⟩
  · rw [hnotes]
    by_cases hroot : root = ""
    · rw [hroot]
      simp only [join_empty]
      rfl
    · -- a directory without a name adds a slash
      rw [SamePath, squeeze_join hroot hfile, squeeze_join_join hroot rfl hfile]
      exact squeeze_append_congr_left _ (squeeze_slashes (s := ['/']) (by simp) _).symm
  · have hjoin : SamePath (notesPath dir file) (join dir file) :=
      hnotes.trans (squeeze_join hne hfile).symm
    have habs : isAbsolute (notesPath dir file) = isAbsolute dir := by
      rw [isAbsolute, isAbsolute, ← head?_squeeze, hnotes, head?_squeeze,
        List.head?_append_of_ne_nil _ (mt String.toList_eq_nil_iff.1 hne)]
    cases hdir : isAbsolute dir with
    | true =>
      rw [join_of_isAbsolute root hdir, join_of_isAbsolute root (habs.trans hdir)]
      exact hjoin
    | false =>
      by_cases hroot : root = ""
      · rw [hroot, join_empty, join_empty]
        exact hjoin
      · rw [SamePath, squeeze_join hroot (habs.trans hdir), squeeze_join_join hroot hdir hfile]
        exact squeeze_append_congr_left _ (squeeze_cons_congr _ hnotes)

/-- With a directory of slashes only the file would lie at the root of the file system. Only if the
root has no name either is it found there. -/
theorem samePath_join_file_iff (root : String) (h : IsSlashes dir) :
    SamePath (join root file) (join (join root dir) file) ↔ IsSlashes root := by
  rw [join_of_isAbsolute root h.isAbsolute]
  constructor
  · intro same
    constructor
    · rintro rfl
      have habs := same.isAbsolute
      rw [join_empty, hfile, isAbsolute_join hfile, h.isAbsolute] at habs
      cases habs
    · have hcomponents := same.components
      rw [components_join hfile, components_join hfile, components_eq_nil_iff.2 h.2] at hcomponents
      exact components_eq_nil_iff.1 (List.append_left_eq_self.1 hcomponents)
  · intro hroot
    rw [SamePath, squeeze_join hroot.1 hfile, squeeze_join h.1 hfile, squeeze_slashes hroot.2,
      squeeze_slashes h.2]

end

theorem isAbsolute_notesFile (tag : Tag) : isAbsolute tag.notesFile = false := by
  simp [isAbsolute, Tag.notesFile]

/-- **The release notes lie in the configured directory**, wherever the root and the directory are
and however many slashes end them: their path is, up to repeated slashes, what root, directory and
file name give when they are joined one after the other. The one exception is a directory of slashes
only below a root that has a name: it is taken for no directory, and the notes for a file of the
root. Paths that are the same up to repeated slashes lead to the same place, unless one of them is
too long. -/
theorem releaseNotes_samePath_iff (root : String) (paths : PathSettings) (tag : Tag) :
    let artifacts := Artifacts.of root paths tag
    let location := artifacts.resolve artifacts.releaseNotes
    let inDirectory := join (join root paths.releaseNotesDir) tag.notesFile
    (SamePath location inDirectory ↔ ¬IsSlashes paths.releaseNotesDir ∨ IsSlashes root) ∧
      (IsSlashes paths.releaseNotesDir → location = join root tag.notesFile) ∧
      (SamePath location inDirectory → ∀ (t : Tree) (cwd : Place),
        Tree.byteLength location.toList < Tree.maxPath →
        Tree.byteLength inDirectory.toList < Tree.maxPath →
        t.locate cwd location = t.locate cwd inDirectory) := by
  intro artifacts location inDirectory
  have hfile := isAbsolute_notesFile tag
  have exception (h : IsSlashes paths.releaseNotesDir) : location = join root tag.notesFile :=
    congrArg (join root) (notesPath_of_forall_slash h.2)
  refine ⟨?_, exception, SamePath.locate_eq⟩
  by_cases h : IsSlashes paths.releaseNotesDir
  · rw [exception h, or_iff_right (not_not_intro h)]
    exact samePath_join_file_iff hfile root h
  · exact iff_of_true (samePath_join_notesPath hfile root h) (.inl h)

/-- A directory with slashes at its end, and the notes in it. -/
theorem releaseNotes_samePath_iff_trailingSlashes :
    let artifacts := Artifacts.of "repo/" { Config.default.paths with releaseNotesDir := "notes//" }
      ⟨"1.0.0"⟩
    let t : Tree := ⟨[(["repo".toList], .directory), (["repo".toList, "notes".toList], .directory),
      (["repo".toList, "notes".toList, "RELEASE_NOTES_v1.0.0.md".toList], .file [])]⟩
    artifacts.resolve artifacts.releaseNotes = "repo/notes/RELEASE_NOTES_v1.0.0.md" ∧
      SamePath "repo/notes/RELEASE_NOTES_v1.0.0.md" "repo/notes//RELEASE_NOTES_v1.0.0.md" ∧
      t.locate [] "repo/notes/RELEASE_NOTES_v1.0.0.md" =
        t.locate [] "repo/notes//RELEASE_NOTES_v1.0.0.md" ∧
      (t.view []).isFile "repo/notes//RELEASE_NOTES_v1.0.0.md" = true := by
  intro artifacts t
  obtain ⟨samePath, -, located⟩ := releaseNotes_samePath_iff "repo/"
    { Config.default.paths with releaseNotesDir := "notes//" } ⟨"1.0.0"⟩
  have same := samePath.2 (.inl (by decide))
  exact ⟨by decide, same, located same t [] (by decide) (by decide), by decide +kernel⟩

/-- The root of the file system as the directory: the notes are looked for below the root. -/
theorem not_samePath_rootDirectory :
    let paths := { Config.default.paths with releaseNotesDir := "/" }
    let artifacts := Artifacts.of "repo" paths ⟨"1.0.0"⟩
    let location := artifacts.resolve artifacts.releaseNotes
    let inDirectory := join (join "repo" paths.releaseNotesDir) (Tag.notesFile ⟨"1.0.0"⟩)
    location = "repo/RELEASE_NOTES_v1.0.0.md" ∧ inDirectory = "/RELEASE_NOTES_v1.0.0.md" ∧
      ¬SamePath location inDirectory := by
  decide

end Release

end ReleaseGate
