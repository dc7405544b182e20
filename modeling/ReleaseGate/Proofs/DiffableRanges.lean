import ReleaseGate.Proofs.Backends
import ReleaseGate.Proofs.RangeCases

/-!
# Resolved ranges can be compared

A resolution asks a repository whether revisions exist; the diff of the range is another request. In
a scripted repository and in the library's, what exists can be compared (`DiffsKnown`), so the diff
of a range that was resolved is there and the gate never reports that it is not. The program's diff
gets the range as an argument: no revision that it was found to know can be taken for an option.
-/

namespace ReleaseGate

open Change (Range Environment)

/-- What exists can be compared: no diff between revisions that exist fails. -/
def Change.Repository.DiffsKnown (repo : Repository) : Prop :=
  ∀ (range : Range) (paths : List String), repo.Knows range →
    ∃ text, repo.diff range paths = .ok text

theorem Change.Repository.knows_of_resolve? {env : Environment} {repo : Repository} {range : Range}
    (h : resolve? env repo = some range) : repo.Knows range :=
  ⟨(hasRevision_of_resolve? h).1, (hasRevision_of_resolve? h).2⟩

/-- Where what exists can be compared, no report says that a diff could not be had. -/
theorem Change.Repository.DiffsKnown.diffUnavailable_not_mem {repo : Repository}
    (diffs : repo.DiffsKnown) {files : Files.View} {root : String} {config : Config}
    {env : Environment} {r : Report} (h : runGate files root config env repo = .ok r)
    (range reason : String) : Notice.diffUnavailable range reason ∉ r.notices := by
  obtain ⟨-, -, check⟩ := runGate_eq_ok_iff.1 h
  generalize r.schema = schema, r.notices = notices at check
  cases check with
  | noRange => simp
  | noDiff hrange hdiff =>
    obtain ⟨text, ht⟩ := diffs _ config.schema.diffPaths (knows_of_resolve? hrange)
    cases hdiff.symm.trans ht
  | unchanged => exact List.not_mem_nil
  | inChangelog => exact List.not_mem_nil
  | inReleaseNotes => exact List.not_mem_nil

/-! ### The repositories -/

/-- The written diff is the answer for every range whose ends exist. -/
theorem Change.Script.diff_of_knows {s : Script} (h : s.failure = none) {range : Range}
    (known : s.repository.Knows range) (paths : List String) :
    s.repository.diff range paths = .ok (s.diff.getD "") := by
  have hb : s.revisions.contains range.base = true := known.base
  have hh : s.revisions.contains range.head = true := known.head
  have unknown : s.firstUnknown? range = none := by
    simp only [firstUnknown?, List.find?_cons, hb, hh, Bool.not_true, List.find?_nil]
  simp only [repository, h, unknown]

namespace History

/-- The library compares the snapshots of all revisions that it finds. -/
theorem diffsKnown_library (c : Checkout) : (libraryRepository c).DiffsKnown := by
  intro range paths known
  obtain ⟨base, hb⟩ := exists_snapshot_of_library known.base
  obtain ⟨head, hh⟩ := exists_snapshot_of_library known.head
  obtain ⟨text, ht, -⟩ := exists_diff_library hb hh paths ⟨[]⟩
  exact ⟨text, ht⟩

theorem librarySnapshot_eq_ok_iff {c : Checkout} {rev : String} {s : Snapshot} :
    librarySnapshot c rev = .ok s ↔ c.branch.snapshot? rev = some s := by
  unfold librarySnapshot
  split <;> simp_all

/-- A text that is not empty and no option where a program takes its arguments. -/
def IsPlainArgument (arg : String) : Prop := arg ≠ "" ∧ arg.toList.head? ≠ some '-'

/-- What the program finds is no option. -/
theorem isPlainArgument_of_program {w : Workspace} {root rev : String}
    (h : (programRepository w root).hasRevision rev = true) : IsPlainArgument rev := by
  have h : programFinds w root rev = true := h
  simp only [programFinds, isOption, Bool.and_eq_true, bne_iff_ne, Bool.not_eq_true',
    beq_eq_false_iff_ne] at h
  exact h.1

/-- A range with a base that is no option is none as it is written. -/
theorem IsPlainArgument.text {range : Range} (h : IsPlainArgument range.base) :
    IsPlainArgument range.text := by
  obtain ⟨hne, hhead⟩ := h
  cases hl : range.base.toList with
  | nil => exact absurd (String.toList_injective hl) hne
  | cons c rest =>
    have e : range.text.toList = c :: (rest ++ "..".toList ++ range.head.toList) := by
      simp [Range.text, hl]
    rw [hl] at hhead
    refine ⟨fun h => ?_, by rwa [e]⟩
    rw [h] at e
    cases e

end History

/-- **A resolved range can be compared.** A scripted repository without a failure gives its diff for
every range that resolves, and no report on it says that a diff could not be had. The library
resolves both ends of such a range again, and compares them for all paths. And what the program is
asked to compare is no option: neither an end of the range nor the range as it is written. -/
theorem diff_of_resolve? :
    (∀ s : Change.Script, s.failure = none →
      (∀ (env : Environment) (range : Range) (paths : List String),
        Change.resolve? env s.repository = some range →
        s.repository.diff range paths = .ok (s.diff.getD "")) ∧
      ∀ (files : Files.View) (root : String) (config : Config) (env : Environment) (r : Report),
        runGate files root config env s.repository = .ok r →
        ∀ range reason, Notice.diffUnavailable range reason ∉ r.notices) ∧
    (∀ (c : History.Checkout) (env : Environment) (range : Range),
      Change.resolve? env (History.libraryRepository c) = some range →
      (∃ base head, History.librarySnapshot c range.base = .ok base ∧
        History.librarySnapshot c range.head = .ok head) ∧
      ∀ paths, ∃ text, (History.libraryRepository c).diff range paths = .ok text) ∧
    ∀ (w : History.Workspace) (root : String) (env : Environment) (range : Range),
      Change.resolve? env (History.programRepository w root) = some range →
      History.IsPlainArgument range.base ∧ History.IsPlainArgument range.head ∧
        History.IsPlainArgument range.text := by
  refine ⟨fun s hs => ⟨?_, ?_⟩, ?_, ?_⟩
  · intro env range paths h
    exact Change.Script.diff_of_knows hs (Change.Repository.knows_of_resolve? h) paths
  · intro files root config env r h
    have diffs : s.repository.DiffsKnown := fun range paths known =>
      ⟨_, Change.Script.diff_of_knows hs known paths⟩
    exact diffs.diffUnavailable_not_mem h
  · intro c env range h
    obtain ⟨base, head, hb, hh⟩ := History.exists_snapshots_of_library h
    refine ⟨⟨base, head, History.librarySnapshot_eq_ok_iff.2 hb,
      History.librarySnapshot_eq_ok_iff.2 hh⟩, fun paths => ?_⟩
    exact History.diffsKnown_library c range paths (Change.Repository.knows_of_resolve? h)
  · intro w root env range h
    obtain ⟨hb, hh⟩ := Change.hasRevision_of_resolve? h
    have base := History.isPlainArgument_of_program hb
    exact ⟨base, History.isPlainArgument_of_program hh, base.text⟩

open History (lastCommit noPipeline renamedFile renamedHistory) in
/-- The last commit of a release with a history, in each of the three repositories. -/
theorem diff_of_resolve?_lastCommit :
    let script : Change.Script := ⟨["HEAD~1", "HEAD"], some "@@ -1 +1 @@\n+x\n", none⟩
    let report : Report := ⟨"1.0.0", .unchanged lastCommit, []⟩
    (Change.resolve? noPipeline script.repository = some lastCommit ∧
      script.repository.diff lastCommit ["src"] = .ok "@@ -1 +1 @@\n+x\n" ∧
      runGate (renamedFile.tree.view []) "." .default noPipeline script.repository = .ok report ∧
      ∀ range reason, Notice.diffUnavailable range reason ∉ report.notices) ∧
    (Change.resolve? noPipeline (History.libraryRepository renamedHistory) = some lastCommit ∧
      ∃ text, (History.libraryRepository renamedHistory).diff lastCommit [] = .ok text) ∧
    Change.resolve? noPipeline (History.programRepository renamedFile ".") = some lastCommit ∧
      History.IsPlainArgument lastCommit.text := by
  intro script report
  obtain ⟨scripted, library, program⟩ := diff_of_resolve?
  obtain ⟨diff, notices⟩ := scripted script rfl
  have resolved : Change.resolve? noPipeline script.repository = some lastCommit := by decide
  have passed : runGate (renamedFile.tree.view []) "." .default noPipeline script.repository =
      .ok report := by decide +kernel
  have found := History.resolve?_program History.directory?_renamedFile
    History.discover?_renamedFile History.plainIds_renamedHistory noPipeline
  rw [History.resolve?_renamedHistory] at found
  refine ⟨⟨resolved, diff _ _ _ resolved, passed, notices _ _ _ _ _ passed⟩, ?_, ?_⟩
  · exact ⟨History.resolve?_renamedHistory,
      (library _ _ _ History.resolve?_renamedHistory).2 []⟩
  · exact ⟨found, (program _ _ _ _ found).2.2⟩

end ReleaseGate
