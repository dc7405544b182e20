import Mathlib.Data.List.Basic
import ReleaseGate.History.Revision

/-!
# Changes between snapshots

The changes between two snapshots are tied to both of them at every path: a path is changed exactly
if the contents there differ (`mem_changes_iff`), and a selection of paths leaves what it selects as
it is (`changeAt?_restrict`). A revision that is found has a snapshot.
-/

namespace ReleaseGate.History

open Text (Bytes)

/-! ### Paths of snapshots -/

theorem mem_map_insertSorted_iff {α : Type} (key : String) (value : α) (entries : List (String × α))
    (k : String) :
    k ∈ (insertSorted key value entries).map (·.1) ↔ k = key ∨ k ∈ entries.map (·.1) := by
  induction entries with
  | nil => simp [insertSorted]
  | cons e entries ih =>
    rw [insertSorted]
    split_ifs with hlt heq
    · simp
    · simp [heq]
    · simp only [List.map_cons, List.mem_cons, ih]
      exact or_left_comm

namespace Snapshot

theorem isSome_content?_iff (s : Snapshot) (path : String) :
    (s.content? path).isSome ↔ path ∈ s.files.map (·.1) := by
  simp only [content?, List.lookup_isSome_iff, List.mem_map, beq_iff_eq]
  exact ⟨fun ⟨f, hf, e⟩ => ⟨f, hf, e.symm⟩, fun ⟨f, hf, e⟩ => ⟨f, hf, e.symm⟩⟩

/-- The paths of two snapshots together are those of either. -/
theorem mem_pathsOf_iff (a b : Snapshot) (path : String) :
    path ∈ a.pathsOf b ↔ path ∈ a.files.map (·.1) ∨ path ∈ b.files.map (·.1) := by
  -- the paths of the second snapshot are put one by one among those of the first
  have run (new : List (String × Unit)) (acc : List (String × Unit)) :
      path ∈ (new.foldl (fun acc f => insertSorted f.1 () acc) acc).map (·.1) ↔
        path ∈ acc.map (·.1) ∨ path ∈ new.map (·.1) := by
    induction new generalizing acc with
    | nil => simp
    | cons f new ih =>
      rw [List.foldl_cons, ih, mem_map_insertSorted_iff, List.map_cons, List.mem_cons]
      tauto
  rw [pathsOf, run]
  simp

theorem content?_restrict (s : Snapshot) (selected : String → Bool) (path : String) :
    (s.restrict selected).content? path = if selected path then s.content? path else none := by
  unfold content? restrict
  induction s.files with
  | nil => simp
  | cons f files ih =>
    obtain ⟨k, content⟩ := f
    by_cases hk : path = k
    · subst hk
      by_cases hs : selected path
      · simp [hs]
      · simpa [hs] using ih
    · have hb : (path == k) = false := by simpa using hk
      by_cases hs : selected k <;> simp [List.lookup_cons, hs, hb, ih]

end Snapshot

/-! ### Changes -/

theorem changeAt?_restrict (base head : Snapshot) (selected : String → Bool) (path : String) :
    changeAt? (base.restrict selected) (head.restrict selected) path =
      if selected path then changeAt? base head path else none := by
  by_cases hs : selected path <;> simp [changeAt?, Snapshot.content?_restrict, hs]

/-- Where nothing stands on either side, nothing changed. -/
theorem changeAt?_of_not_mem {base head : Snapshot} {path : String}
    (h : path ∉ base.pathsOf head) : changeAt? base head path = none := by
  simp only [Snapshot.mem_pathsOf_iff, ← Snapshot.isSome_content?_iff, not_or,
    Option.not_isSome_iff_eq_none] at h
  simp [changeAt?, h]

/-- Every change of a path is among the changes. -/
theorem mem_changes_iff (base head : Snapshot) (c : FileChange) :
    c ∈ changes base head ↔ ∃ path, changeAt? base head path = some c := by
  rw [changes, List.mem_filterMap]
  constructor
  · rintro ⟨path, -, h⟩
    exact ⟨path, h⟩
  · rintro ⟨path, h⟩
    refine ⟨path, ?_, h⟩
    by_contra hn
    rw [changeAt?_of_not_mem hn] at h
    cases h

/-- A path whose contents differ is changed, from the one to the other. -/
theorem exists_changeAt? {base head : Snapshot} {path : String}
    (h : base.content? path ≠ head.content? path) : ∃ c, changeAt? base head path = some c := by
  unfold changeAt?
  split <;> simp_all

/-! ### Revisions -/

theorem Branch.isSome_snapshot? (b : Branch) (rev : String) :
    (b.snapshot? rev).isSome = (b.resolve? rev).isSome := by
  -- a place that is found is one of the branch, and steps to parents only lead down
  have bound {name : List Char} {i : Nat} (h : b.indexOf? name = some i) :
      i < b.commits.length := by
    unfold indexOf? at h
    split_ifs at h with hn he
    · cases h
      have := List.length_pos_iff.2 he
      omega
    · exact (List.findIdx?_eq_some_iff_getElem.1 h).1
  unfold snapshot?
  cases hr : b.resolve? rev with
  | none => rfl
  | some i =>
    suffices hi : i < b.commits.length by simp [hi]
    rcases Option.or_eq_some_iff.1 hr with hr | ⟨-, hr⟩
    · unfold stepsFrom? at hr
      simp only at hr
      split at hr
      · next j n hj _ =>
        split_ifs at hr
        cases hr
        have := bound hj
        omega
      · cases hr
    · simpa using (Option.filter_eq_some_iff.1 hr).2

end ReleaseGate.History
