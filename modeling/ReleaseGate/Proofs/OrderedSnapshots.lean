import Mathlib.Data.List.Sort
import Mathlib.Data.String.Basic
import ReleaseGate.Proofs.SnapshotChanges

/-!
# Snapshots in order

The files of a snapshot stand in the order of their paths, each path once. Every step that builds a
snapshot keeps that order, and in a branch that commits such snapshots every revision has one. With
the order, a snapshot is nothing but its contents: two of them with the same content at every path
are equal (`Ordered.ext`), also when only some paths are selected (`Ordered.restrict_eq_restrict`).
-/

namespace ReleaseGate.History

open Text (Bytes)

/-- The keys of entries rise. -/
def Rising {α : Type} (entries : List (String × α)) : Prop :=
  entries.Pairwise fun e f => e.1 < f.1

section

variable {α : Type} {entries : List (String × α)}

theorem Rising.filter (h : Rising entries) (p : String × α → Bool) : Rising (entries.filter p) :=
  List.Pairwise.sublist List.filter_sublist h

/-- An entry is put where the order wants it. -/
theorem Rising.insertSorted (h : Rising entries) (key : String) (value : α) :
    Rising (insertSorted key value entries) := by
  induction entries with
  | nil => exact List.pairwise_singleton _ _
  | cons e entries ih =>
    obtain ⟨hfirst, htail⟩ := List.pairwise_cons.1 h
    rw [History.insertSorted]
    split_ifs with hlt heq
    · refine List.pairwise_cons.2 ⟨fun f hf => ?_, h⟩
      rcases List.mem_cons.1 hf with rfl | hf
      · exact hlt
      · exact lt_trans hlt (hfirst f hf)
    · exact List.pairwise_cons.2 ⟨fun f hf => heq ▸ hfirst f hf, htail⟩
    · refine List.pairwise_cons.2 ⟨fun f hf => ?_, ih htail⟩
      rcases (mem_map_insertSorted_iff key value entries f.1).1 (List.mem_map_of_mem hf) with e' | hf
      · exact e' ▸ lt_of_le_of_ne (not_lt.1 hlt) (Ne.symm heq)
      · obtain ⟨g, hg, e'⟩ := List.mem_map.1 hf
        exact e' ▸ hfirst g hg

/-- In order, the entry of a key is what a look-up finds. -/
theorem Rising.lookup_eq_some_iff (h : Rising entries) {k : String} {v : α} :
    entries.lookup k = some v ↔ (k, v) ∈ entries := by
  induction entries with
  | nil => simp
  | cons e entries ih =>
    obtain ⟨hfirst, htail⟩ := List.pairwise_cons.1 h
    obtain ⟨key, value⟩ := e
    by_cases hk : k = key
    · subst hk
      have fresh : (k, v) ∉ entries := fun hm => lt_irrefl k (hfirst _ hm)
      simp [fresh, eq_comm]
    · have hb : (k == key) = false := by simpa using hk
      simp [List.lookup_cons, hb, ih htail, hk]

end

namespace Snapshot

/-- The paths of a snapshot rise. -/
def Ordered (s : Snapshot) : Prop := Rising s.files

instance (s : Snapshot) : Decidable s.Ordered := inferInstanceAs (Decidable (List.Pairwise _ _))

theorem ordered_empty : empty.Ordered := List.Pairwise.nil

variable {s t : Snapshot}

theorem Ordered.put (h : s.Ordered) (path : String) (content : Bytes) :
    (s.put path content).Ordered :=
  h.insertSorted path content

theorem Ordered.erase (h : s.Ordered) (path : String) : (s.erase path).Ordered := h.filter _

theorem Ordered.write (h : s.Ordered) (path : String) (content : Bytes) :
    (s.write path content).Ordered :=
  Ordered.put (s := ⟨_⟩) (h.filter _) path content

theorem Ordered.restrict (h : s.Ordered) (selected : String → Bool) :
    (s.restrict selected).Ordered :=
  h.filter _

/-- **A snapshot in order is its contents.** -/
theorem Ordered.ext (hs : s.Ordered) (ht : t.Ordered)
    (h : ∀ path, s.content? path = t.content? path) : s = t := by
  have nodup {u : Snapshot} (hu : u.Ordered) : u.files.Nodup :=
    hu.imp fun hlt e => (ne_of_lt hlt) (congrArg Prod.fst e)
  have same : s.files.Perm t.files := by
    refine (List.perm_ext_iff_of_nodup (nodup hs) (nodup ht)).2 fun ⟨path, content⟩ => ?_
    rw [← hs.lookup_eq_some_iff, ← ht.lookup_eq_some_iff]
    exact iff_of_eq (congrArg (· = some content) (h path))
  have files : s.files = t.files :=
    same.eq_of_pairwise (fun e f _ _ hef hfe => absurd hfe (lt_asymm hef)) hs ht
  cases s
  cases t
  cases files
  rfl

/-- Snapshots with the same content at every selected path are the same where they are selected. -/
theorem Ordered.restrict_eq_restrict (hs : s.Ordered) (ht : t.Ordered) {selected : String → Bool}
    (h : ∀ path, selected path = true → s.content? path = t.content? path) :
    s.restrict selected = t.restrict selected := by
  refine (hs.restrict selected).ext (ht.restrict selected) fun path => ?_
  rw [content?_restrict, content?_restrict]
  split
  · next hp => exact h path hp
  · rfl

end Snapshot

namespace Branch

/-- Every commit has a snapshot in order. -/
def Ordered (b : Branch) : Prop := ∀ k ∈ b.commits, k.snapshot.Ordered

instance (b : Branch) : Decidable b.Ordered :=
  List.decidableBAll (fun k : Commit => k.snapshot.Ordered) b.commits

theorem ordered_empty : Branch.empty.Ordered := List.forall_mem_nil _

variable {b : Branch}

theorem Ordered.commit (h : b.Ordered) {k : Commit} (hk : k.snapshot.Ordered) :
    (b.commit k).Ordered :=
  List.forall_mem_append.2 ⟨h, List.forall_mem_singleton.2 hk⟩

/-- The snapshot that the next commit starts from is in order. -/
theorem Ordered.lastSnapshot (h : b.Ordered) : b.lastSnapshot.Ordered := by
  unfold Branch.lastSnapshot
  split
  · next k hk => exact h k (List.mem_of_getLast? hk)
  · exact Snapshot.ordered_empty

theorem Ordered.of_snapshot? (h : b.Ordered) {rev : String} {s : Snapshot}
    (hs : b.snapshot? rev = some s) : s.Ordered := by
  unfold snapshot? at hs
  split at hs
  · obtain ⟨k, hk, rfl⟩ := Option.map_eq_some_iff.1 hs
    exact h k (List.mem_of_getElem? hk)
  · cases hs

end Branch

end ReleaseGate.History
