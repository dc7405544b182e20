import ReleaseGate.Proofs.PatchText
import ReleaseGate.Proofs.Ranges
import ReleaseGate.Proofs.SnapshotChanges

/-!
# Access to history

What the two ways to reach history answer about a range whose ends exist: one lemma for each, which
later proofs cite instead of opening the repositories. A detector sees in either answer exactly
whether a changed file shows a marker.
-/

namespace ReleaseGate.History

open Change (Range Environment)

variable {w : Workspace} {root : String} {c : Checkout} {range : Range} {base head : Snapshot}

/-! ### The library -/

theorem openRepository_library (h : w.discover? root = some c) :
    openRepository .library w root = libraryRepository c := by
  simp [openRepository, h]

/-- A revision that the library finds has a snapshot. -/
theorem exists_snapshot_of_library {rev : String} (h : (libraryRepository c).hasRevision rev = true) :
    ∃ s, c.branch.snapshot? rev = some s := by
  rw [← Option.isSome_iff_exists, Branch.isSome_snapshot?]
  exact h

/-- The ends of a range that was resolved through the library have snapshots. -/
theorem exists_snapshots_of_library {env : Environment}
    (h : Change.resolve? env (libraryRepository c) = some range) :
    ∃ base head, c.branch.snapshot? range.base = some base ∧
      c.branch.snapshot? range.head = some head := by
  obtain ⟨hb, hh⟩ := Change.hasRevision_of_resolve? h
  obtain ⟨base, hb⟩ := exists_snapshot_of_library hb
  obtain ⟨head, hh⟩ := exists_snapshot_of_library hh
  exact ⟨base, head, hb, hh⟩

/-- The changes that the library shows between two snapshots. -/
def libraryChanges (paths : List String) (base head : Snapshot) : List FileChange :=
  changes (base.restrict (filterSelection paths)) (head.restrict (filterSelection paths))

/-- **What a detector sees in the library's diff**, which never fails for snapshots that exist:
whether a changed file shows a marker. -/
theorem exists_diff_library (hb : c.branch.snapshot? range.base = some base)
    (hh : c.branch.snapshot? range.head = some head) (paths : List String) (d : Change.Detector) :
    ∃ text, (libraryRepository c).diff range paths = .ok text ∧
      (d.isAffected text.toList = true ↔
        ∃ change ∈ libraryChanges paths base head,
          ShowsMarker d (Style.library c.settings) change) := by
  refine ⟨_, ?_, isAffected_textOfPieces_iff d (keepsLine_library c.settings) _⟩
  simp only [libraryRepository, libraryDiff, librarySnapshot, hb, hh]
  rfl

/-! ### The program -/

/-- Identifiers and other revisions that cannot be taken for an option. -/
structure Branch.PlainIds (b : Branch) : Prop where
  commits : ∀ k ∈ b.commits, k.id ≠ "" ∧ isOption k.id = false
  others : ∀ other ∈ b.others, other.1 ≠ "" ∧ isOption other.1 = false

theorem Branch.plainIds_iff (b : Branch) :
    b.PlainIds ↔ (∀ k ∈ b.commits, k.id ≠ "" ∧ isOption k.id = false) ∧
      ∀ other ∈ b.others, other.1 ≠ "" ∧ isOption other.1 = false :=
  ⟨fun ⟨commits, others⟩ => ⟨commits, others⟩, fun ⟨commits, others⟩ => ⟨commits, others⟩⟩

instance (b : Branch) : Decidable b.PlainIds := decidable_of_iff _ b.plainIds_iff.symm

/-- A revision that names a commit is no option. -/
theorem Branch.PlainIds.of_resolve? {b : Branch} (hids : b.PlainIds) {rev : String}
    (h : (b.resolve? rev).isSome) : rev ≠ "" ∧ isOption rev = false := by
  have named {name : List Char} (hn : (b.indexOf? name).isSome) :
      ∃ first rest, name = first :: rest ∧ first ≠ '-' := by
    unfold indexOf? at hn
    split at hn
    · next e => exact ⟨'H', "EAD".toList, e, by decide⟩
    · rw [List.findIdx?_isSome, List.any_eq_true] at hn
      obtain ⟨k, hk, e⟩ := hn
      obtain ⟨hne, ho⟩ := hids.commits k hk
      have e : k.id.toList = name := of_decide_eq_true e
      cases hl : k.id.toList with
      | nil => exact absurd (String.toList_injective hl) hne
      | cons first rest =>
        refine ⟨first, rest, by rw [← e, hl], ?_⟩
        rintro rfl
        simp [isOption, hl] at ho
  rw [resolve?, Option.isSome_or, Bool.or_eq_true] at h
  rcases h with h | h
  rotate_left
  · obtain ⟨i, hi⟩ := Option.isSome_iff_exists.1 h
    obtain ⟨before, after, e, -⟩ :=
      List.lookup_eq_some_iff.1 (Option.filter_eq_some_iff.1 hi).1
    exact hids.others (rev, i) (by simp [e])
  -- the name of a revision stands at its front
  have hname : (b.indexOf? (rev.toList.takeWhile fun c => c != '~' && c != '^')).isSome := by
    unfold stepsFrom? at h
    simp only at h
    split at h
    · next hi _ => rw [hi]; rfl
    · cases h
  obtain ⟨first, rest, e, hf⟩ := named hname
  have hrev : rev.toList.head? = some first := by
    obtain ⟨t, ht⟩ := List.takeWhile_prefix (l := rev.toList) fun c => c != '~' && c != '^'
    rw [← ht, e, List.cons_append, List.head?_cons]
  constructor
  · rintro rfl
    cases hrev
  · simp [isOption, hrev, hf]

/-- The checkout of a root in which both ways find it. -/
theorem checkoutAt?_of_discover? {place : Files.Place} (hdir : w.directory? root = some place)
    (hfound : w.discover? root = some c) : w.checkoutAt? place = some c := by
  unfold Workspace.directory? at hdir
  unfold Workspace.discover? at hfound
  split at hdir
  · next e =>
    subst e
    simp [Files.Tree.locate] at hfound
  · split at hdir
    · next hl =>
      cases hdir
      rwa [hl] at hfound
    · cases hdir

theorem programFinds_eq {place : Files.Place} (hdir : w.directory? root = some place)
    (hfound : w.discover? root = some c) (hids : c.branch.PlainIds) (rev : String) :
    programFinds w root rev = (c.branch.resolve? rev).isSome := by
  have hc : (w.directory? root).bind w.checkoutAt? = some c := by
    rw [hdir, Option.bind_some, checkoutAt?_of_discover? hdir hfound]
  rw [programFinds, hc]
  show (rev != "" && !isOption rev && (c.branch.resolve? rev).isSome) = _
  cases hr : (c.branch.resolve? rev).isSome with
  | false => exact Bool.and_false _
  | true =>
    obtain ⟨hne, ho⟩ := hids.of_resolve? hr
    simp [hne, ho]

/-- The program and the library resolve the same range. -/
theorem resolve?_program {place : Files.Place} (hdir : w.directory? root = some place)
    (hfound : w.discover? root = some c) (hids : c.branch.PlainIds) (env : Environment) :
    Change.resolve? env (programRepository w root) = Change.resolve? env (libraryRepository c) := by
  apply Change.resolve?_congr
  funext rev
  exact programFinds_eq hdir hfound hids rev

/-- The program's diff of snapshots that exist fails only for paths that it refuses. -/
theorem programDiff_eq {place : Files.Place} (hdir : w.directory? root = some place)
    (hfound : w.discover? root = some c) (hids : c.branch.PlainIds)
    (hb : c.branch.snapshot? range.base = some base)
    (hh : c.branch.snapshot? range.head = some head) (paths : List String) :
    programDiff w root range paths =
      (selection ⟨c.top, place.drop c.top.length⟩ paths).map fun selected =>
        textOfWhole (Change.patchLines
          ((programChanges c selected base head).map (Style.program c.settings).filePatch)) := by
  have found {rev : String} {s : Snapshot} (h : c.branch.snapshot? rev = some s) :
      rev ≠ "" ∧ isOption rev = false := by
    apply hids.of_resolve?
    rw [← Branch.isSome_snapshot?, h]
    rfl
  obtain ⟨hbn, hbo⟩ := found hb
  obtain ⟨hhn, -⟩ := found hh
  have hends : rangeEnds? c.branch range = some (base, head) := by
    simp [rangeEnds?, hbn, hhn, hb, hh]
  rw [programDiff, hdir]
  simp only [checkoutAt?_of_discover? hdir hfound, hbo, hends]
  cases selection ⟨c.top, place.drop c.top.length⟩ paths <;> rfl

/-- Paths that the program refuses make its diff a failure of version control. -/
theorem diff_program_of_error {place : Files.Place} (hdir : w.directory? root = some place)
    (hfound : w.discover? root = some c) (hids : c.branch.PlainIds)
    (hb : c.branch.snapshot? range.base = some base)
    (hh : c.branch.snapshot? range.head = some head) {paths : List String} {text : String}
    (hs : selection ⟨c.top, place.drop c.top.length⟩ paths = .error text) :
    (programRepository w root).diff range paths = .error (.gitCommand text) := by
  have h := programDiff_eq hdir hfound hids hb hh paths
  simp only [programRepository, h, hs, Except.map]

/-- **What a detector sees in the program's diff**: whether a changed file shows a marker. -/
theorem exists_diff_program {place : Files.Place} (hdir : w.directory? root = some place)
    (hfound : w.discover? root = some c) (hids : c.branch.PlainIds)
    (hb : c.branch.snapshot? range.base = some base)
    (hh : c.branch.snapshot? range.head = some head) {paths : List String}
    {selected : String → Bool}
    (hs : selection ⟨c.top, place.drop c.top.length⟩ paths = .ok selected) (d : Change.Detector) :
    ∃ text, (programRepository w root).diff range paths = .ok text ∧
      (d.isAffected text.toList = true ↔
        ∃ change ∈ programChanges c selected base head,
          ShowsMarker d (Style.program c.settings) change) := by
  have h := programDiff_eq hdir hfound hids hb hh paths
  refine ⟨_, ?_, isAffected_textOfWhole_iff d (keepsLine_program _) _⟩
  simp only [programRepository, h, hs, Except.map]

end ReleaseGate.History
