import Mathlib.Logic.Relation
import ReleaseGate.Proofs.Headings
import ReleaseGate.Proofs.InsertedLines
import ReleaseGate.Proofs.Observations
import ReleaseGate.Proofs.TreeChanges

/-!
# Entries of other releases

The changelog and the index name many releases. An entry of one release does not speak for another,
however alike their versions are: a heading is a heading of its own version only, and the link of a
tag does not stand in the entry of another (`Tag.not_infix_indexEntry`). So entries of other
releases may come and go, and the linkage of a tag is the same after every run of such edits.
-/

namespace ReleaseGate

/-- A line comes into a text or goes out of it. -/
def Text.EditsLine (line s t : List Char) : Prop := InsertsLine line s t ∨ InsertsLine line t s

/-- What is told of a text as before, after an edit, is told of the edited file as before. -/
theorem Files.Tree.EditsFile.ask_eq {R : List Char → List Char → Prop} {t t' : Tree} {cwd : Place}
    {path : String} (h : EditsFile R t t' cwd path) {γ : Type} {g : List Char → γ}
    (hg : ∀ s s', R s s' → g s' = g s) : (t'.view cwd).ask g path = (t.view cwd).ask g path := by
  obtain ⟨s, s', hr, hr', hR⟩ := h.read
  rw [View.ask, View.ask, hr, hr']
  simpa [Except.map] using hg s s' hR

namespace Release

variable {tag other : Tag}

/-- The entry of a release in the index. -/
def Tag.indexEntry (tag : Tag) : String := "- " ++ tag.indexLink

/-- What begins with the only `c` of a text is found there and nowhere else. -/
theorem prefix_of_infix_cons {c : Char} {p a b : List Char} (ha : c ∉ a) (hb : c ∉ b)
    (h : c :: p <:+: a ++ c :: b) : p <+: b := by
  induction a with
  | nil =>
    rcases List.infix_cons_iff.1 h with h | h
    · exact (List.cons_prefix_cons.1 h).2
    · exact absurd (h.subset List.mem_cons_self) hb
  | cons d a ih =>
    rw [List.mem_cons, not_or] at ha
    rcases List.infix_cons_iff.1 h with h | h
    · exact absurd (List.cons_prefix_cons.1 h).1 ha.1
    · exact ih ha.2 h

/-- A link is a bracket and the tag, and the tag ends at the closing bracket. -/
theorem Tag.exists_toList_indexLink_eq (hv : IsVersion tag.version.toList) :
    ∃ rest, '[' ∉ rest ∧
      tag.indexLink.toList = '[' :: 'v' :: (tag.version.toList ++ ']' :: rest) := by
  refine ⟨"(RELEASE_NOTES_v".toList ++ (tag.version.toList ++ ".md)".toList), ?_, ?_⟩
  · simp [hv.not_mem (c := '[') (by decide)]
  · simp [indexLink, notesFile, name]

/-! ### Two releases -/

section

variable (hv : IsVersion tag.version.toList) (ho : IsVersion other.version.toList)
  (ne : other.version ≠ tag.version)

include hv ho ne

/-- A heading is no heading of another release. -/
theorem isHeading_eq_false_of_other {line : List Char} (h : IsHeading other.name.toList line) :
    isHeading tag.name.toList line = false := by
  have name_eq (t : Tag) : t.name.toList = 'v' :: t.version.toList := by simp [Tag.name]
  rw [name_eq] at h ⊢
  refine Bool.eq_false_iff.2 fun h' => ne (String.toList_injective ?_)
  exact eq_of_isHeading ho hv (isHeading_iff.2 h) h'

theorem hasReleaseHeading_of_editsLine {line s t : List Char}
    (h : IsHeading other.name.toList line) (edit : Text.EditsLine line s t) :
    hasReleaseHeading tag.name.toList t = hasReleaseHeading tag.name.toList s := by
  have hline := isHeading_eq_false_of_other hv ho ne h
  rcases edit with edit | edit
  · exact edit.any_lines hline
  · exact (edit.any_lines hline).symm

/-- **The link of a tag does not stand in the entry of another.** -/
theorem Tag.not_infix_indexEntry : ¬tag.indexLink.toList <:+: other.indexEntry.toList := by
  obtain ⟨rest, -, link_eq⟩ := exists_toList_indexLink_eq hv
  obtain ⟨rest', hrest', link_eq'⟩ := exists_toList_indexLink_eq ho
  have hb : '[' ∉ 'v' :: (other.version.toList ++ ']' :: rest') := by
    simp [ho.not_mem (c := '[') (by decide), hrest']
  intro h
  rw [indexEntry, String.toList_append, link_eq, link_eq'] at h
  -- the brackets stand at one place, so both versions begin and end at one
  obtain ⟨-, s, e⟩ := List.cons_prefix_cons.1 (prefix_of_infix_cons (by decide) hb h)
  refine ne (String.toList_injective ?_)
  have ends (r : List Char) : tagEnds (']' :: r) = true := rfl
  rw [← takeWhile_append_of_tagEnds ho (ends rest'), ← e, List.append_assoc, List.cons_append,
    takeWhile_append_of_tagEnds hv (ends _)]

theorem occursIn_indexLink_of_editsLine {s t : List Char}
    (edit : Text.EditsLine other.indexEntry.toList s t) :
    Text.occursIn tag.indexLink.toList t = Text.occursIn tag.indexLink.toList s := by
  have hline := Tag.not_infix_indexEntry hv ho ne
  have hlf : '\n' ∉ tag.indexLink.toList :=
    Tag.not_mem_indexLink (by decide) (hv.not_mem (by decide))
  have hcr : '\r' ∉ tag.indexLink.toList :=
    Tag.not_mem_indexLink (by decide) (hv.not_mem (by decide))
  have hne : tag.indexLink.toList ≠ [] := by
    obtain ⟨rest, -, link_eq⟩ := Tag.exists_toList_indexLink_eq hv
    exact link_eq ▸ List.cons_ne_nil _ _
  rw [Bool.eq_iff_iff, Text.occursIn_iff, Text.occursIn_iff]
  rcases edit with edit | edit
  · exact edit.infix_iff hne hlf hcr hline
  · exact (edit.infix_iff hne hlf hcr hline).symm

end

/-! ### Edits for other releases -/

open Files (Tree)

/-- One edit for another release: its heading comes into the changelog or goes, or its entry comes
into the index or goes. -/
inductive OtherEdit (tag : Tag) (cwd : Files.Place) (a : Artifacts) (t t' : Tree) : Prop
  | heading (other : Tag) (line : List Char) (ho : IsVersion other.version.toList)
      (ne : other.version ≠ tag.version) (h : IsHeading other.name.toList line)
      (edit : Tree.EditsFile (Text.EditsLine line) t t' cwd (a.resolve a.changelog))
  | entry (other : Tag) (ho : IsVersion other.version.toList) (ne : other.version ≠ tag.version)
      (edit : Tree.EditsFile (Text.EditsLine other.indexEntry.toList) t t' cwd
        (a.resolve a.releaseIndex))

variable {cwd : Files.Place} {a : Artifacts} {t t' : Tree}

/-- The documents are different files after the edit if they were before. -/
theorem OtherEdit.sameFile_iff (h : OtherEdit tag cwd a t t') {p p' : String} :
    t'.SameFile cwd p p' ↔ t.SameFile cwd p p' := by
  cases h with
  | heading _ _ _ _ _ edit => exact edit.sameFile_iff
  | entry _ _ _ edit => exact edit.sameFile_iff

/-- **One edit for another release does not change the linkage.** -/
theorem OtherEdit.checkLinkage_eq (hv : IsVersion tag.version.toList)
    (apart : ¬t.SameFile cwd (a.resolve a.changelog) (a.resolve a.releaseIndex))
    (h : OtherEdit tag cwd a t t') :
    checkLinkage (t'.view cwd) tag a = checkLinkage (t.view cwd) tag a := by
  cases h with
  | heading other line ho ne h edit =>
    refine checkLinkage_congr ?_ ?_ (edit.isFile _)
    · exact edit.ask_eq fun s s' => hasReleaseHeading_of_editsLine hv ho ne h
    · exact Files.View.ask_of_read_eq (edit.read_other apart)
  | entry other ho ne edit =>
    have apart' : ¬t.SameFile cwd (a.resolve a.releaseIndex) (a.resolve a.changelog) :=
      fun ⟨place, content, content', h, h'⟩ => apart ⟨place, content', content, h', h⟩
    refine checkLinkage_congr ?_ ?_ (edit.isFile _)
    · exact Files.View.ask_of_read_eq (edit.read_other apart')
    · exact edit.ask_eq fun s s' => occursIn_indexLink_of_editsLine hv ho ne

/-- No run of edits for other releases changes it. -/
theorem checkLinkage_of_otherEdits (hv : IsVersion tag.version.toList)
    (apart : ¬t.SameFile cwd (a.resolve a.changelog) (a.resolve a.releaseIndex))
    (run : Relation.ReflTransGen (OtherEdit tag cwd a) t t') :
    checkLinkage (t'.view cwd) tag a = checkLinkage (t.view cwd) tag a := by
  have kept : ¬t'.SameFile cwd (a.resolve a.changelog) (a.resolve a.releaseIndex) ∧
      checkLinkage (t'.view cwd) tag a = checkLinkage (t.view cwd) tag a := by
    induction run with
    | refl => exact ⟨apart, rfl⟩
    | tail _ edit ih =>
      obtain ⟨apart', e⟩ := ih
      exact ⟨edit.sameFile_iff.not.2 apart', (edit.checkLinkage_eq hv apart').trans e⟩
  exact kept.2

/-- **Releases do not interfere.** Headings and entries of other releases, of shorter and of longer
versions too, may come into the documents and go out of them: the changelog has a heading for the
tag as before, the index has its link as before, and where the two are different files no sequence
of such edits changes the result of the linkage. -/
theorem linkage_otherReleases (hv : IsVersion tag.version.toList) :
    (∀ other : Tag, IsVersion other.version.toList → other.version ≠ tag.version →
      (∀ line, IsHeading other.name.toList line → ∀ s t, Text.EditsLine line s t →
        hasReleaseHeading tag.name.toList t = hasReleaseHeading tag.name.toList s) ∧
      ∀ s t, Text.EditsLine other.indexEntry.toList s t →
        Text.occursIn tag.indexLink.toList t = Text.occursIn tag.indexLink.toList s) ∧
    ∀ (cwd : Files.Place) (a : Artifacts) (t t' : Tree),
      ¬t.SameFile cwd (a.resolve a.changelog) (a.resolve a.releaseIndex) →
      Relation.ReflTransGen (OtherEdit tag cwd a) t t' →
      checkLinkage (t'.view cwd) tag a = checkLinkage (t.view cwd) tag a := by
  refine ⟨fun other ho ne => ⟨fun line h s t edit => ?_, fun s t edit => ?_⟩,
    fun cwd a t t' apart run => ?_⟩
  · exact hasReleaseHeading_of_editsLine hv ho ne h edit
  · exact occursIn_indexLink_of_editsLine hv ho ne edit
  · exact checkLinkage_of_otherEdits hv apart run

/-! ### A run of edits -/

/-- A changelog and an index at the root. -/
def rootDocuments : Artifacts := ⟨".", "CHANGELOG.md", "NOTES.md", "RELEASE_NOTES_v1.0.0.md"⟩

/-- A tree of these two files. -/
def rootTree (changelog index : String) : Tree :=
  ⟨[(["CHANGELOG.md".toList], .file (Text.Utf8.encode changelog)),
    (["NOTES.md".toList], .file (Text.Utf8.encode index))]⟩

section

variable (changelog index : String) {text line : String}

theorem locate_changelog :
    (rootTree changelog index).locate [] (rootDocuments.resolve rootDocuments.changelog) =
      .ok (["CHANGELOG.md".toList], .file (Text.Utf8.encode changelog)) := by
  have path : rootDocuments.resolve rootDocuments.changelog = "./CHANGELOG.md" := by decide +kernel
  rw [path]
  rfl

theorem locate_index :
    (rootTree changelog index).locate [] (rootDocuments.resolve rootDocuments.releaseIndex) =
      .ok (["NOTES.md".toList], .file (Text.Utf8.encode index)) := by
  have path : rootDocuments.resolve rootDocuments.releaseIndex = "./NOTES.md" := by decide +kernel
  rw [path]
  rfl

theorem not_sameFile_rootTree :
    ¬(rootTree changelog index).SameFile [] (rootDocuments.resolve rootDocuments.changelog)
      (rootDocuments.resolve rootDocuments.releaseIndex) := by
  rintro ⟨place, content, content', h, h'⟩
  cases (locate_changelog changelog index).symm.trans h
  cases (locate_index changelog index).symm.trans h'

variable {changelog index}

theorem editsFile_changelog (h : Text.InsertsLine line.toList changelog.toList text.toList) :
    Tree.EditsFile (Text.EditsLine line.toList) (rootTree changelog index) (rootTree text index) []
      (rootDocuments.resolve rootDocuments.changelog) :=
  ⟨_, _, _, _, _, locate_changelog changelog index, Text.Utf8.decode?_encode _,
    Text.Utf8.decode?_encode _, .inl h, rfl⟩

theorem editsFile_index (h : Text.InsertsLine line.toList index.toList text.toList) :
    Tree.EditsFile (Text.EditsLine line.toList) (rootTree changelog index) (rootTree changelog text)
      [] (rootDocuments.resolve rootDocuments.releaseIndex) :=
  ⟨_, _, _, _, _, locate_index changelog index, Text.Utf8.decode?_encode _,
    Text.Utf8.decode?_encode _, .inl h, rfl⟩

end

/-- A prerelease, a longer version and a shorter one come into the documents: the tag has no heading
as before. -/
theorem linkage_otherReleases_similarVersions :
    let tag : Tag := ⟨"1.0.0"⟩
    let t := rootTree "# Changelog\n" "# Notes\n"
    let t' := rootTree "# Changelog\n ## v1.0.0-rc1\n### v1.0.01 (yanked)\n"
      "# Notes\n- [v1.0](RELEASE_NOTES_v1.0.md)\n"
    Relation.ReflTransGen (OtherEdit tag [] rootDocuments) t t' ∧
      checkLinkage (t'.view []) tag rootDocuments = checkLinkage (t.view []) tag rootDocuments ∧
      checkLinkage (t.view []) tag rootDocuments =
        .error (.linkage (.missingChangelogHeading "CHANGELOG.md" "v1.0.0")) := by
  intro tag t t'
  have prerelease : OtherEdit tag [] rootDocuments t
      (rootTree "# Changelog\n ## v1.0.0-rc1\n" "# Notes\n") :=
    .heading ⟨"1.0.0-rc1"⟩ " ## v1.0.0-rc1".toList (by decide) (by decide) (by decide)
      (editsFile_changelog (@Text.insertsLine_unlines ["# Changelog".toList] (by decide)
        " ## v1.0.0-rc1".toList (by decide) []))
  have longer : OtherEdit tag [] rootDocuments
      (rootTree "# Changelog\n ## v1.0.0-rc1\n" "# Notes\n")
      (rootTree "# Changelog\n ## v1.0.0-rc1\n### v1.0.01 (yanked)\n" "# Notes\n") :=
    .heading ⟨"1.0.01"⟩ "### v1.0.01 (yanked)".toList (by decide) (by decide) (by decide)
      (editsFile_changelog (@Text.insertsLine_unlines
        ["# Changelog".toList, " ## v1.0.0-rc1".toList] (by decide)
        "### v1.0.01 (yanked)".toList (by decide) []))
  have shorter : OtherEdit tag [] rootDocuments
      (rootTree "# Changelog\n ## v1.0.0-rc1\n### v1.0.01 (yanked)\n" "# Notes\n") t' :=
    .entry ⟨"1.0"⟩ (by decide) (by decide)
      (editsFile_index (@Text.insertsLine_unlines ["# Notes".toList] (by decide)
        "- [v1.0](RELEASE_NOTES_v1.0.md)".toList (by decide) []))
  have run : Relation.ReflTransGen (OtherEdit tag [] rootDocuments) t t' :=
    .tail (.tail (.single prerelease) longer) shorter
  refine ⟨run, ?_, by decide +kernel⟩
  exact (linkage_otherReleases (by decide)).2 _ _ _ _ (not_sameFile_rootTree _ _) run

end Release

end ReleaseGate
