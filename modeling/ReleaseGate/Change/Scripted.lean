import ReleaseGate.Change.Range

/-!
# Scripted repositories

A repository whose answers are written down beforehand: the revisions that it knows, the diff that
it gives for any range between them, and a failure that every diff meets instead.
-/

namespace ReleaseGate.Change

/-- The answers of a repository. -/
structure Script where
  revisions : List String
  /-- The diff of every range; the empty one where none is given. -/
  diff : Option String
  /-- What every diff fails with, if it is to fail. -/
  failure : Option String
  deriving DecidableEq, Repr

namespace Script

/-- A repository that knows nothing. -/
def empty : Script := ⟨[], none, none⟩

/-- The first end of a range that is not known. -/
def firstUnknown? (s : Script) (range : Range) : Option String :=
  [range.base, range.head].find? fun rev => !s.revisions.contains rev

/-- The repository that answers as written. -/
def repository (s : Script) : Repository where
  hasRevision rev := s.revisions.contains rev
  diff range _ :=
    match s.failure with
    | some text => .error (.gitCommand text)
    | none =>
      match s.firstUnknown? range with
      | some rev => .error (.gitCommand ("bad revision '" ++ rev ++ "'"))
      | none => .ok (s.diff.getD "")

end Script

end ReleaseGate.Change
