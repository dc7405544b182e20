import ReleaseGate.Proofs.MissedChange
import ReleaseGate.Proofs.OrderedSnapshots

/-!
# The restriction to paths

A diff that is restricted to some names is about the files at these names and below them, and about
nothing else. This is a statement on two runs: where the ends of two ranges agree on these files,
the diffs are the same text, so the gate gives the same verdict (`Restricts`). Neither backend looks
at files that it did not select, not even in search of moved ones, since files are selected before
changes are listed; and every file that a patch names is one of them. So names restrict a diff if
nothing else is selected under them (`restricts_of_under`).

The program reads plain names as they are, and is restricted to them. The library reads them as
patterns, and a list of which it passes over every name selects everything: it is restricted to some
names exactly if the files that it selects lie under them (`restricts_system_and_library_iff`).
-/

namespace ReleaseGate

/-! ### Verdicts on the same diff -/

/-- The outcome, said of another range. -/
def SchemaOutcome.inRange (range : Change.Range) : SchemaOutcome → SchemaOutcome
  | skipped => skipped
  | unchanged _ => unchanged range
  | documented _ notes => documented range notes

/-- The report, said of another range. -/
def Report.inRange (range : Change.Range) (r : Report) : Report :=
  { r with schema := r.schema.inRange range }

/-- The same diff leads to the same verdict. -/
theorem runGate_eq_of_diff_eq {files : Files.View} {root : String} {config : Config}
    {env env' : Change.Environment} {repo repo' : Change.Repository} {range range' : Change.Range}
    {text : String} (hr : Change.resolve? env repo = some range)
    (hr' : Change.resolve? env' repo' = some range')
    (hd : repo.diff range config.schema.diffPaths = .ok text)
    (hd' : repo'.diff range' config.schema.diffPaths = .ok text) :
    runGate files root config env' repo' =
      (runGate files root config env repo).map (Report.inRange range') := by
  by_cases ready : config.schema.PatternsValid ∧ ∃ version, IsRelease files root config.paths version
  · obtain ⟨valid, version, release⟩ := ready
    rw [runGate_eq_map valid release, runGate_eq_map valid release, checkSchema_of_diff _ _ _ hr hd,
      checkSchema_of_diff _ _ _ hr' hd']
    cases Change.Detector.isAffected _ text.toList with
    | false => rfl
    | true => cases Release.requireSchemaNotes files _ _ <;> rfl
  · rw [← runGate_congr_of_not_release ready env' repo']
    cases h : runGate files root config env repo with
    | error => rfl
    | ok r =>
      obtain ⟨valid, release, -⟩ := runGate_eq_ok_iff.1 h
      exact absurd ⟨valid, r.version, release⟩ ready

/-! ### Lines that name files -/

namespace Text

theorem segments_unlines {ls : List (List Char)} (h : ∀ l ∈ ls, '\n' ∉ l) :
    segments (unlines ls) = ls ++ [[]] := by
  induction ls with
  | nil => rfl
  | cons l ls ih =>
    have e : unlines (l :: ls) = l ++ '\n' :: unlines ls := by simp [unlines]
    rw [e, segments_append_lf (h l List.mem_cons_self),
      ih fun m hm => h m (List.mem_cons_of_mem _ hm), List.cons_append]

end Text

/-- Of the lines of a well-formed patch of a file, only the first starts like it. -/
theorem Change.FilePatch.WellFormed.eq_opening {p : Change.FilePatch (List Char)}
    (h : p.WellFormed) {l : List Char} (hl : l ∈ p.lines) (hdiff : "diff ".toList <+: l) :
    l = p.opening := by
  have differs {q : List Char} (hq : q.length ≤ 5) (hn : ¬q <+: "diff ".toList) : ¬q <+: l :=
    fun hql => hn (List.prefix_of_prefix_length_le hql hdiff hq)
  rcases List.mem_append.1 hl with hl | hl
  · rcases List.mem_cons.1 hl with hl | hl
    · exact hl
    · rcases h.headers l hl with ⟨-, -, -, hn⟩ | hp | hp
      · exact absurd hdiff hn
      · exact absurd hp (differs (by decide) (by decide))
      · exact absurd hp (differs (by decide) (by decide))
  · obtain ⟨k, hk, hl⟩ := List.mem_flatMap.1 hl
    rcases List.mem_cons.1 hl with rfl | hl
    · exact absurd (h.headings k hk) (differs (by decide) (by decide))
    · obtain ⟨sign, hs, hp⟩ := h.bodies k hk l hl
      simp only [List.mem_cons, List.not_mem_nil, or_false] at hs
      rcases hs with rfl | rfl | rfl | rfl <;> exact absurd hp (differs (by decide) (by decide))

namespace History

open Text (Bytes)
open Change (Range Environment)

/-- The path of a changed file before the change. -/
def FileChange.oldPath : FileChange → String
  | added path _ | deleted path _ | modified path _ _ => path
  | moved _ source _ _ _ _ => source

/-- The path of a changed file after the change. -/
def FileChange.newPath : FileChange → String
  | added path _ | deleted path _ | modified path _ _ => path
  | moved _ _ target _ _ _ => target

theorem filePatch_opening (style : Style) (c : FileChange) :
    (style.filePatch c).opening = style.opening c.oldPath c.newPath := by
  cases c <;> rfl

/-- The line that opens the patch of a file, as text. -/
theorem opening_text_eq (style : Style) (old new : String) :
    (style.opening old new).text =
      ("diff --git " ++ style.oldName old ++ " " ++ style.newName new).toList :=
  Text.Utf8.decodeLossy_of_decode? (Text.Utf8.decode?_encode _)

/-- **The lines of a patch that name files** are those that open the patches of the changed ones. -/
theorem exists_change_of_mem_segments {style : Style} (hk : style.KeepsLine) {cs : List FileChange}
    {l : List Char} (hl : l ∈ Text.segments (patchText style cs)) (hdiff : "diff ".toList <+: l) :
    ∃ c ∈ cs,
      l = ("diff --git " ++ style.oldName c.oldPath ++ " " ++ style.newName c.newPath).toList := by
  have wellFormed {p : Change.FilePatch (List Char)}
      (hp : p ∈ (cs.map style.filePatch).map (Change.FilePatch.map RawLine.text)) :
      ∃ c ∈ cs, p = (style.filePatch c).map RawLine.text ∧ p.WellFormed := by
    rw [List.map_map] at hp
    obtain ⟨c, hc, rfl⟩ := List.mem_map.1 hp
    exact ⟨c, hc, rfl, wellFormed_filePatch hk c⟩
  rw [patchText, Change.renderPatch, Text.segments_unlines] at hl
  · rcases List.mem_append.1 hl with hl | hl
    · obtain ⟨p, hp, hl⟩ := List.mem_flatMap.1 hl
      obtain ⟨c, hc, e, hw⟩ := wellFormed hp
      refine ⟨c, hc, ?_⟩
      rw [hw.eq_opening hl hdiff, e, ← opening_text_eq, ← filePatch_opening]
      rfl
    · rw [List.mem_singleton.1 hl] at hdiff
      exact absurd hdiff (by decide)
  · intro l hl
    obtain ⟨p, hp, hl⟩ := List.mem_flatMap.1 hl
    obtain ⟨-, -, -, hw⟩ := wellFormed hp
    exact hw.noLf l hl

/-! ### Files that changes are about -/

/-- A change of selected snapshots is about selected files. -/
theorem selected_of_mem_changes {selected : String → Bool} {base head : Snapshot} {c : FileChange}
    (h : c ∈ changes (base.restrict selected) (head.restrict selected)) :
    selected c.oldPath = true ∧ selected c.newPath = true := by
  obtain ⟨path, h⟩ := (mem_changes_iff _ _ c).1 h
  rw [changeAt?_restrict] at h
  split at h
  · next hs =>
    unfold changeAt? at h
    split at h
    · cases h
    · cases h
      exact ⟨hs, hs⟩
    · cases h
      exact ⟨hs, hs⟩
    · split at h
      · cases h
      · cases h
        exact ⟨hs, hs⟩
  · cases h

section

variable {P : String → Prop}

theorem path_of_mem_sourcesOf {detection : Detection} {cs : List FileChange}
    (h : ∀ c ∈ cs, P c.oldPath ∧ P c.newPath) {s : Source} (hs : s ∈ sourcesOf detection cs) :
    P s.path := by
  obtain ⟨c, hc, e⟩ := List.mem_filterMap.1 hs
  have hold := (h c hc).1
  cases c with
  | deleted =>
    cases e
    exact hold
  | modified =>
    simp only at e
    split at e
    · cases e
      exact hold
    · cases e
  | _ => cases e

theorem path_of_mem_withMatches {sources : List Source} (hs : ∀ s ∈ sources, P s.path)
    (ms : List Match) {cs : List FileChange} (h : ∀ c ∈ cs, P c.oldPath ∧ P c.newPath) (seen : Nat) :
    ∀ c ∈ withMatches sources ms seen cs, P c.oldPath ∧ P c.newPath := by
  induction cs generalizing seen with
  | nil => exact List.forall_mem_nil _
  | cons c cs ih =>
    obtain ⟨hc, hcs⟩ := List.forall_mem_cons.1 h
    have ih := ih hcs
    cases c with
    | added path content =>
      rw [withMatches]
      refine List.forall_mem_cons.2 ⟨?_, ih _⟩
      split
      · exact hc
      · split
        · exact hc
        · next s hsource => exact ⟨hs s (List.mem_of_getElem? hsource), hc.2⟩
    | deleted path content =>
      rw [withMatches]
      split
      · exact ih _
      · exact List.forall_mem_cons.2 ⟨hc, ih _⟩
    | modified path old new => exact List.forall_mem_cons.2 ⟨hc, ih _⟩
    | moved how source target old new score => exact List.forall_mem_cons.2 ⟨hc, ih _⟩

variable (P) in
/-- The search for moved files brings in no other paths. -/
theorem path_of_mem_detectMoves (detection : Detection) {cs : List FileChange}
    (h : ∀ c ∈ cs, P c.oldPath ∧ P c.newPath) :
    ∀ c ∈ detectMoves detection cs, P c.oldPath ∧ P c.newPath := by
  unfold detectMoves
  split
  · exact h
  · exact path_of_mem_withMatches (fun s => path_of_mem_sourcesOf h) _ h 0

end

/-! ### The diff of a backend -/

/-- How a backend writes patches. -/
def Style.of (settings : Settings) : Backend → Style
  | .system => .program settings
  | .library => .library settings

theorem keepsLine_of (settings : Settings) (backend : Backend) :
    (Style.of settings backend).KeepsLine := by
  cases backend with
  | system => exact keepsLine_program settings
  | library => exact keepsLine_library settings

/-- The files that names select for a backend at the top of a repository. The program reads these
names as they are. -/
def plainSelection (paths : List String) : Backend → String → Bool
  | .system => fun file => selectedBy (paths.map Pathspec.ofName) (Text.Utf8.encode file)
  | .library => filterSelection paths

/-- The changes that a backend shows of two snapshots. -/
def shownChanges (settings : Settings) (base head : Snapshot) : Backend → List FileChange
  | .system => detectMoves settings.detection (changes base head)
  | .library => changes base head

theorem selected_of_mem_shownChanges {settings : Settings} {base head : Snapshot}
    {selected : String → Bool} {backend : Backend} {c : FileChange}
    (h : c ∈ shownChanges settings (base.restrict selected) (head.restrict selected) backend) :
    selected c.oldPath = true ∧ selected c.newPath = true := by
  cases backend with
  | system =>
    exact path_of_mem_detectMoves (fun path => selected path = true) settings.detection
      (fun _ => selected_of_mem_changes) c h
  | library => exact selected_of_mem_changes h

/-- The patch that a backend writes of changed files. -/
def writtenPatch (settings : Settings) (cs : List FileChange) : Backend → String
  | .system => textOfWhole (Change.patchLines (cs.map (Style.program settings).filePatch))
  | .library => textOfPieces (Change.patchLines (cs.map (Style.library settings).filePatch))

theorem writtenPatch_toList (settings : Settings) (cs : List FileChange) (backend : Backend) :
    (writtenPatch settings cs backend).toList = patchText (Style.of settings backend) cs := by
  cases backend with
  | system =>
    rw [writtenPatch, textOfWhole_eq fun l => signed_of_mem_patchLines (keepsLine_program settings),
      ← Change.patchLines_map]
    rfl
  | library =>
    rw [writtenPatch, textOfPieces_eq, ← Change.patchLines_map]
    rfl

/-- A root is the top of a repository. -/
structure Workspace.AtTop (w : Workspace) (root : String) (c : Checkout) : Prop where
  directory : w.directory? root = some c.top
  found : w.discover? root = some c

/-- A range in the history of a repository that has its top at the root, with the snapshots at the
two ends. -/
structure RangeAtTop (w : Workspace) (root : String) (c : Checkout) (range : Range)
    (base head : Snapshot) : Prop where
  top : w.AtTop root c
  plainIds : c.branch.PlainIds
  ordered : c.branch.Ordered
  base : c.branch.snapshot? range.base = some base
  head : c.branch.snapshot? range.head = some head

section

variable {backend : Backend} {w : Workspace} {root : String} {c : Checkout} {range : Range}
  {base head : Snapshot} {paths : List String}

/-- **The diff of names** at the top of a repository: the patch of the changes between the selected
files. No backend refuses it. -/
theorem diff_of_rangeAtTop (h : RangeAtTop w root c range base head)
    (hp : backend = .system → ∀ q ∈ paths, IsPlainSpec q) :
    (openRepository backend w root).diff range paths =
      .ok (writtenPatch c.settings (shownChanges c.settings
        (base.restrict (plainSelection paths backend))
        (head.restrict (plainSelection paths backend)) backend) backend) := by
  cases backend with
  | system =>
    have hdiff := programDiff_eq h.top.directory h.top.found h.plainIds h.base h.head paths
    rw [List.drop_length, selection_of_isPlainSpec c.top (hp rfl)] at hdiff
    rw [openRepository, programRepository]
    simp only [hdiff]
    rfl
  | library =>
    rw [openRepository_library h.top.found]
    simp only [libraryRepository, libraryDiff, librarySnapshot, h.base, h.head]
    rfl

/-- Only the library is cut off by names, and only by the character NUL in one of them. -/
theorem aborts_of_rangeAtTop (h : RangeAtTop w root c range base head) :
    (openRepository backend w root).aborts range paths =
      (decide (backend = .library) && paths.any Files.hasNul) := by
  cases backend with
  | system => rfl
  | library =>
    rw [openRepository_library h.top.found]
    simp only [libraryRepository, libraryAborts, librarySnapshot, h.base, h.head]
    rfl

end

/-! ### Two runs -/

/-- Two snapshots have the same content at every file that lies at one of some names or below it. -/
def Snapshot.AgreeUnder (paths : List String) (s t : Snapshot) : Prop :=
  ∀ file, (∃ name ∈ paths, LiesUnder name file) → s.content? file = t.content? file

/-- The diffs of a backend are restricted to some names. Take two ranges in histories with the same
settings whose ends agree on the files at these names and below them: no diff is cut off, both are
the same text, which names no other file, and the gate gives the same verdict on them. -/
def Restricts (backend : Backend) (paths : List String) : Prop :=
  ∀ (w w' : Workspace) (root root' : String) (c c' : Checkout) (range range' : Range)
    (base head base' head' : Snapshot),
    RangeAtTop w root c range base head → RangeAtTop w' root' c' range' base' head' →
    c.settings = c'.settings → base.AgreeUnder paths base' → head.AgreeUnder paths head' →
    ((openRepository backend w root).aborts range paths = false ∧
      (openRepository backend w' root').aborts range' paths = false) ∧
    (∃ text, (openRepository backend w root).diff range paths = .ok text ∧
      (openRepository backend w' root').diff range' paths = .ok text ∧
      ∀ l ∈ Text.segments text.toList, "diff ".toList <+: l →
        ∃ old new,
          l = ("diff --git " ++ (Style.of c.settings backend).oldName old ++ " " ++
            (Style.of c.settings backend).newName new).toList ∧
          (∃ name ∈ paths, LiesUnder name old) ∧ ∃ name ∈ paths, LiesUnder name new) ∧
    ∀ files gateRoot config env env', config.schema.diffPaths = paths →
      Change.resolve? env (openRepository backend w root) = some range →
      Change.resolve? env' (openRepository backend w' root') = some range' →
      runGate files gateRoot config env' (openRepository backend w' root') =
        (runGate files gateRoot config env (openRepository backend w root)).map
          (Report.inRange range')

/-- **A diff is restricted to names under which all selected files lie.** -/
theorem restricts_of_under {backend : Backend} {paths : List String}
    (hnul : ∀ q ∈ paths, Files.hasNul q = false)
    (hp : backend = .system → ∀ q ∈ paths, IsPlainSpec q)
    (hunder : ∀ file, plainSelection paths backend file = true → ∃ name ∈ paths, LiesUnder name file) :
    Restricts backend paths := by
  intro w w' root root' c c' range range' base head base' head' h h' hsettings hbase hhead
  have whole := any_hasNul_eq_false_iff.2 hnul
  have restricted {s t : Snapshot} (hs : s.Ordered) (ht : t.Ordered) (hst : s.AgreeUnder paths t) :
      s.restrict (plainSelection paths backend) = t.restrict (plainSelection paths backend) :=
    hs.restrict_eq_restrict ht fun path hpath => hst path (hunder path hpath)
  have hdiff := diff_of_rangeAtTop h hp
  have hdiff' := diff_of_rangeAtTop h' hp
  rw [← hsettings, ← restricted (h.ordered.of_snapshot? h.base) (h'.ordered.of_snapshot? h'.base) hbase,
    ← restricted (h.ordered.of_snapshot? h.head) (h'.ordered.of_snapshot? h'.head) hhead] at hdiff'
  refine ⟨⟨?_, ?_⟩, ⟨_, hdiff, hdiff', fun l hl hdl => ?_⟩, ?_⟩
  · rw [aborts_of_rangeAtTop h, whole, Bool.and_false]
  · rw [aborts_of_rangeAtTop h', whole, Bool.and_false]
  · rw [writtenPatch_toList] at hl
    obtain ⟨change, hc, e⟩ := exists_change_of_mem_segments (keepsLine_of c.settings backend) hl hdl
    have shown := selected_of_mem_shownChanges hc
    exact ⟨_, _, e, hunder _ shown.1, hunder _ shown.2⟩
  · rintro files gateRoot config env env' rfl hr hr'
    exact runGate_eq_of_diff_eq hr hr' hdiff hdiff'

/-! ### What the library selects -/

/-- The range before a file is added, and the one in which it is. -/
theorem rangeAtTop_addedFile (file : String) :
    RangeAtTop (addedFile file) "." (addedHistory file) ⟨"HEAD~1", "HEAD~1"⟩ ⟨[]⟩ ⟨[]⟩ ∧
      RangeAtTop (addedFile file) "." (addedHistory file) lastCommit ⟨[]⟩ ⟨[(file, schemaFile)]⟩ := by
  have top : (addedFile file).AtTop "." (addedHistory file) := ⟨rfl, rfl⟩
  have ids : (addedHistory file).branch.PlainIds := by
    refine ⟨fun k hk => ?_, List.forall_mem_nil _⟩
    simp only [addedHistory, List.mem_cons, List.not_mem_nil, or_false] at hk
    rcases hk with rfl | rfl
    · exact (by decide : "1" ≠ "" ∧ isOption "1" = false)
    · exact (by decide : "2" ≠ "" ∧ isOption "2" = false)
  have ordered : (addedHistory file).branch.Ordered := by
    intro k hk
    simp only [addedHistory, List.mem_cons, List.not_mem_nil, or_false] at hk
    rcases hk with rfl | rfl
    · exact List.Pairwise.nil
    · exact List.pairwise_singleton _ _
  exact ⟨⟨top, ids, ordered, rfl, rfl⟩, ⟨top, ids, ordered, rfl, rfl⟩⟩

/-- Where a selected file lies under no name, adding it alters the diff. -/
theorem under_of_restricts_library {paths : List String} (h : Restricts .library paths)
    {file : String} (hs : filterSelection paths file = true) :
    ∃ name ∈ paths, LiesUnder name file := by
  by_contra hn
  obtain ⟨before, after⟩ := rangeAtTop_addedFile file
  have agree : Snapshot.AgreeUnder paths ⟨[]⟩ ⟨[(file, schemaFile)]⟩ := by
    intro other hother
    have hne : (other == file) = false := by
      rw [beq_eq_false_iff_ne]
      rintro rfl
      exact hn hother
    simp [Snapshot.content?, List.lookup_cons, hne]
  obtain ⟨-, ⟨text, hdiff, hdiff', -⟩, -⟩ :=
    h _ _ _ _ _ _ _ _ _ _ _ _ before after rfl (fun _ _ => rfl) agree
  rw [openRepository_library before.top.found] at hdiff hdiff'
  obtain ⟨quiet, hquiet, hnone⟩ := exists_diff_library before.base before.head paths ⟨[]⟩
  obtain ⟨loud, hloud, hsome⟩ := exists_diff_library after.base after.head paths ⟨[]⟩
  cases hdiff.symm.trans hquiet
  cases hdiff'.symm.trans hloud
  have missing : Snapshot.content? ⟨[]⟩ file = none := rfl
  have content : Snapshot.content? ⟨[(file, schemaFile)]⟩ file = some schemaFile := by
    simp [Snapshot.content?]
  obtain ⟨change, hc, -⟩ := hnone.1 (hsome.2 (exists_showsMarker hs List.not_mem_nil
    (by rw [content]; decide) (by rw [missing, content]; decide +kernel)))
  obtain ⟨path, hpath⟩ := (mem_changes_iff _ _ change).1 hc
  cases hpath

/-! ### The two backends -/

/-- The files of a history in which a file in `src` changes, and one in `srcfoo` as well. -/
def siblingSnapshots : Snapshot × Snapshot × Snapshot :=
  (⟨[("src/lib.rs", "a\n".toList.map byte)]⟩,
    ⟨[("src/lib.rs", "b\n".toList.map byte)]⟩,
    ⟨[("src/lib.rs", "b\n".toList.map byte), ("srcfoo/lib.rs", schemaFile)]⟩)

/-- That history. -/
def siblingHistory : Checkout where
  top := []
  branch := ⟨[⟨"1", siblingSnapshots.1⟩, ⟨"2", siblingSnapshots.2.1⟩, ⟨"3", siblingSnapshots.2.2⟩], []⟩
  settings := .default

/-- A directory with that history. -/
def siblingWorkspace : Workspace := ⟨⟨[([historyDir], .directory)]⟩, [], some siblingHistory⟩

/-- What is written in `srcfoo` is nothing to `src`. -/
theorem agreeUnder_siblingSnapshots :
    siblingSnapshots.2.1.AgreeUnder ["src"] siblingSnapshots.2.2 := by
  rintro file ⟨name, hname, h⟩
  rw [List.mem_singleton.1 hname] at h
  have hne : (file == "srcfoo/lib.rs") = false := by
    rw [beq_eq_false_iff_ne]
    rintro rfl
    exact absurd h (by decide)
  simp [Snapshot.content?, siblingSnapshots, List.lookup_cons, hne]

/-- **The restriction to paths.** The program is restricted to plain names. The library is restricted
to some names exactly if none of them holds the character NUL and the files that it selects lie at
one of them or below it; so it is where it reads them as they are. A sibling whose name continues the
one of a directory does not lie below it. -/
theorem restricts_system_and_library_iff (paths : List String) (hne : paths ≠ []) :
    ((∀ q ∈ paths, IsPlainSpec q) → Restricts .system paths) ∧
    (Restricts .library paths ↔
      (∀ q ∈ paths, Files.hasNul q = false) ∧
        ∀ file, filterSelection paths file = true → ∃ name ∈ paths, LiesUnder name file) ∧
    ((∀ q ∈ paths, IsPlainPath q) → Restricts .library paths) ∧
    ∀ name : String, name.toList.getLast? ≠ some '/' → ∀ first ≠ '/', ∀ rest : List Char,
      ¬LiesUnder name (name ++ String.ofList (first :: rest)) := by
  refine ⟨fun plain => ?_, ⟨fun h => ⟨?_, fun file => under_of_restricts_library h⟩, fun h => ?_⟩,
    fun plain => ?_, fun name hname first hfirst rest => not_liesUnder_sibling hname hfirst rest⟩
  · exact restricts_of_under (fun q hq => (plain q hq).hasNul) (fun _ => plain)
      fun file => liesUnder_of_selectedBy hne plain
  · obtain ⟨before, -⟩ := rangeAtTop_addedFile ""
    obtain ⟨⟨aborts, -⟩, -⟩ :=
      h _ _ _ _ _ _ _ _ _ _ _ _ before before rfl (fun _ _ => rfl) fun _ _ => rfl
    rw [aborts_of_rangeAtTop before] at aborts
    exact any_hasNul_eq_false_iff.1 aborts
  · exact restricts_of_under h.1 nofun h.2
  · exact restricts_of_under (fun q hq => (plain q hq).hasNul) nofun
      fun file => liesUnder_of_filterSelection hne plain

/-- Through either backend, the diff with the change in `srcfoo` is the one without it. -/
theorem diff_eq_of_agreeUnder_sibling :
    (openRepository .system siblingWorkspace ".").diff ⟨"1", "3"⟩ ["src"] =
        (openRepository .system siblingWorkspace ".").diff ⟨"1", "2"⟩ ["src"] ∧
      (openRepository .library siblingWorkspace ".").diff ⟨"1", "3"⟩ ["src"] =
        (openRepository .library siblingWorkspace ".").diff ⟨"1", "2"⟩ ["src"] := by
  have part : RangeAtTop siblingWorkspace "." siblingHistory ⟨"1", "2"⟩ siblingSnapshots.1
      siblingSnapshots.2.1 := ⟨⟨rfl, rfl⟩, by decide, by decide, rfl, rfl⟩
  have whole : RangeAtTop siblingWorkspace "." siblingHistory ⟨"1", "3"⟩ siblingSnapshots.1
      siblingSnapshots.2.2 := ⟨⟨rfl, rfl⟩, by decide, by decide, rfl, rfl⟩
  have same {backend : Backend} (h : Restricts backend ["src"]) :
      (openRepository backend siblingWorkspace ".").diff ⟨"1", "3"⟩ ["src"] =
        (openRepository backend siblingWorkspace ".").diff ⟨"1", "2"⟩ ["src"] := by
    obtain ⟨-, ⟨text, hpart, hwhole, -⟩, -⟩ :=
      h _ _ _ _ _ _ _ _ _ _ _ _ part whole rfl (fun _ _ => rfl) agreeUnder_siblingSnapshots
    exact hwhole.trans hpart.symm
  obtain ⟨system, -, library, -⟩ := restricts_system_and_library_iff ["src"] (by decide)
  exact ⟨same (system (by decide)), same (library (by decide))⟩

/-- A name with a `#` in front is passed over, and a list without other names selects everything: the
library's patch is about a sibling. -/
theorem diff_hashedName :
    IsPlainSpec "#src" ∧ ¬LiesUnder "#src" "#srcfoo/lib.rs" ∧
      (openRepository .library (addedFile "#srcfoo/lib.rs") ".").diff lastCommit ["#src"] =
        .ok ("diff --git a/#srcfoo/lib.rs b/#srcfoo/lib.rs\nnew file mode 100644\n" ++
          "--- /dev/null\n+++ b/#srcfoo/lib.rs\n@@ -0,0 +1 @@\n+const SCHEMA_VERSION\n") ∧
      ¬Restricts .library ["#src"] := by
  have sibling : ¬LiesUnder "#src" "#srcfoo/lib.rs" := by decide
  refine ⟨by decide, sibling, by decide +kernel, fun h => ?_⟩
  obtain ⟨name, hname, hunder⟩ := under_of_restricts_library h
    (show filterSelection ["#src"] "#srcfoo/lib.rs" = true by decide +kernel)
  rw [List.mem_singleton.1 hname] at hunder
  exact sibling hunder

end History

end ReleaseGate
