import ReleaseGate.Change.Range

/-!
# Resolved ranges

A range is only as good as its two revisions: every strategy asks the repository for both
(`verified?_eq_some_iff`), so both ends of a range that was found exist, and repositories that know
the same revisions give the same range.
-/

namespace ReleaseGate.Change

theorem verified?_eq_some_iff {repo : Repository} {base head : String} {range : Range} :
    verified? repo base head = some range ↔
      repo.hasRevision base = true ∧ repo.hasRevision head = true ∧ range = ⟨base, head⟩ := by
  unfold verified?
  split
  · next h =>
    rw [Bool.and_eq_true] at h
    simp [h, eq_comm]
  · next h =>
    rw [Bool.and_eq_true, not_and] at h
    constructor
    · intro e
      cases e
    · rintro ⟨hb, hh, -⟩
      exact absurd hh (h hb)

/-- A range that a strategy finds was verified. -/
theorem exists_verified?_of_strategy {env : Environment} {repo : Repository} {s : Strategy}
    (hs : s ∈ strategies) {range : Range} (h : s env repo = some range) :
    ∃ base head, verified? repo base head = some range := by
  simp only [strategies, List.mem_cons, List.not_mem_nil, or_false] at hs
  rcases hs with rfl | rfl | rfl
  · unfold pullRequest at h
    split at h
    · split at h
      · exact ⟨_, _, h⟩
      · cases h
    · cases h
  · unfold push at h
    split at h
    · split at h
      · split at h
        · cases h
        · exact ⟨_, _, h⟩
      · cases h
    · cases h
  · exact ⟨_, _, h⟩

/-- **Both ends of a resolved range exist.** -/
theorem hasRevision_of_resolve? {env : Environment} {repo : Repository} {range : Range}
    (h : resolve? env repo = some range) :
    repo.hasRevision range.base = true ∧ repo.hasRevision range.head = true := by
  obtain ⟨s, hs, hr⟩ := List.exists_of_findSome?_eq_some h
  obtain ⟨base, head, hv⟩ := exists_verified?_of_strategy hs hr
  obtain ⟨hb, hh, rfl⟩ := verified?_eq_some_iff.1 hv
  exact ⟨hb, hh⟩

/-- Only what revisions exist matters to a resolution. -/
theorem resolve?_congr (env : Environment) {repo repo' : Repository}
    (h : repo.hasRevision = repo'.hasRevision) : resolve? env repo = resolve? env repo' := by
  have hv : verified? repo = verified? repo' := by
    funext base head
    rw [verified?, verified?, h]
  simp only [resolve?, strategies, List.findSome?_cons, List.findSome?_nil, pullRequest, push,
    parentOfHead, hv]

end ReleaseGate.Change
