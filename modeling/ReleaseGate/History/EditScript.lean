/-!
# Edit scripts

An edit script turns one list of lines into another by keeping, deleting and inserting lines.
`ofMarks` reads a script off two lists whose changed lines are marked. Whatever the marks are, the
result is a script between the two lists (`source_ofMarks`, `target_ofMarks`): marks only decide
which of the scripts it is.
-/

namespace ReleaseGate.History

/-- One step of an edit script. -/
inductive Edit (α : Type)
  | keep (a : α)
  | delete (a : α)
  | insert (a : α)
  deriving DecidableEq, Repr

variable {α : Type}

/-- The list that a script starts from. -/
def source : List (Edit α) → List α
  | [] => []
  | .keep a :: es => a :: source es
  | .delete a :: es => a :: source es
  | .insert _ :: es => source es

/-- The list that a script arrives at. -/
def target : List (Edit α) → List α
  | [] => []
  | .keep a :: es => a :: target es
  | .delete _ :: es => target es
  | .insert a :: es => a :: target es

/-- The script between two lists whose changed lines are marked. Lines without a mark are kept in
pairs; two that are paired but differ are changed all the same. -/
def ofMarks [DecidableEq α] : List (α × Bool) → List (α × Bool) → List (Edit α)
  | [], new => new.map fun b => .insert b.1
  | old, [] => old.map fun a => .delete a.1
  | (a, true) :: old, new => .delete a :: ofMarks old new
  | (a, false) :: old, (b, true) :: new => .insert b :: ofMarks ((a, false) :: old) new
  | (a, false) :: old, (b, false) :: new =>
    if a = b then .keep a :: ofMarks old new else .delete a :: .insert b :: ofMarks old new
termination_by old new => old.length + new.length

theorem source_map_insert (bs : List (α × Bool)) :
    source (bs.map fun b => .insert b.1) = [] := by
  induction bs with
  | nil => rfl
  | cons b bs ih => simpa [source] using ih

theorem source_map_delete (bs : List (α × Bool)) :
    source (bs.map fun a => .delete a.1) = bs.map (·.1) := by
  induction bs with
  | nil => rfl
  | cons b bs ih => simpa [source] using ih

theorem target_map_insert (bs : List (α × Bool)) :
    target (bs.map fun b => .insert b.1) = bs.map (·.1) := by
  induction bs with
  | nil => rfl
  | cons b bs ih => simpa [target] using ih

theorem target_map_delete (bs : List (α × Bool)) :
    target (bs.map fun a => .delete a.1) = [] := by
  induction bs with
  | nil => rfl
  | cons b bs ih => simpa [target] using ih

/-- A script read off marks starts from the old list. -/
theorem source_ofMarks [DecidableEq α] (old new : List (α × Bool)) :
    source (ofMarks old new) = old.map (·.1) := by
  fun_induction ofMarks old new <;> simp_all [source, source_map_insert, source_map_delete]

/-- A script read off marks arrives at the new list. -/
theorem target_ofMarks [DecidableEq α] (old new : List (α × Bool)) :
    target (ofMarks old new) = new.map (·.1) := by
  fun_induction ofMarks old new <;> simp_all [target, target_map_insert, target_map_delete]

/-- A stretch of changes: the count of lines before it in the old and in the new list, and the
lines it takes away and puts in. -/
structure Stretch (α : Type) where
  oldBefore : Nat
  newBefore : Nat
  removed : List α
  inserted : List α
  deriving DecidableEq, Repr

/-- A stretch that was read with its last lines first, unless it is empty. -/
def Stretch.finished (s : Stretch α) : List (Stretch α) :=
  if s.removed.isEmpty && s.inserted.isEmpty then []
  else [{ s with removed := s.removed.reverse, inserted := s.inserted.reverse }]

/-- The stretches of a script between its kept lines. The stretch being read holds its lines with
the last one first. -/
def stretchesFrom (s : Stretch α) : List (Edit α) → List (Stretch α)
  | [] => s.finished
  | .delete a :: es => stretchesFrom { s with removed := a :: s.removed } es
  | .insert a :: es => stretchesFrom { s with inserted := a :: s.inserted } es
  | .keep _ :: es =>
    s.finished ++
      stretchesFrom
        ⟨s.oldBefore + s.removed.length + 1, s.newBefore + s.inserted.length + 1, [], []⟩ es

/-- The stretches of changes of a script. -/
def stretches (es : List (Edit α)) : List (Stretch α) := stretchesFrom ⟨0, 0, [], []⟩ es

end ReleaseGate.History
