import ReleaseGate.Text.Search
import ReleaseGate.Text.Utf8

/-!
# Snapshots

The content of a commit: regular files under their paths, in the order of the paths.
-/

namespace ReleaseGate.History

/-- The files of a commit. Paths are relative to the top of the repository, in rising order. -/
structure Snapshot where
  files : List (String × Text.Bytes)
  deriving DecidableEq, Repr

/-- Put an entry into a list in the order of its keys, instead of the one with the same key. -/
def insertSorted {α : Type} (key : String) (value : α) : List (String × α) → List (String × α)
  | [] => [(key, value)]
  | (k, v) :: rest =>
    if key < k then (key, value) :: (k, v) :: rest
    else if key = k then (key, value) :: rest
    else (k, v) :: insertSorted key value rest

namespace Snapshot

/-- No files. -/
def empty : Snapshot := ⟨[]⟩

/-- The content of the file at a path. -/
def content? (s : Snapshot) (path : String) : Option Text.Bytes := s.files.lookup path

/-- The snapshot with a file put at a path. -/
def put (s : Snapshot) (path : String) (content : Text.Bytes) : Snapshot :=
  ⟨insertSorted path content s.files⟩

/-- Whether a path lies below another one. -/
def isBelow (above path : String) : Bool := Text.startsWith (above ++ "/").toList path.toList

/-- The snapshot without the file at a path, or all files of the directory there. -/
def erase (s : Snapshot) (path : String) : Snapshot :=
  ⟨s.files.filter fun f => f.1 ≠ path && !isBelow path f.1⟩

/-- The snapshot with a file written at a path: files that stand in its way, because one path would
have to be a directory, are gone. -/
def write (s : Snapshot) (path : String) (content : Text.Bytes) : Snapshot :=
  Snapshot.put ⟨s.files.filter fun f => !isBelow path f.1 && !isBelow f.1 path⟩ path content

/-- The files whose paths are selected. -/
def restrict (s : Snapshot) (selected : String → Bool) : Snapshot :=
  ⟨s.files.filter fun f => selected f.1⟩

/-- The paths of two snapshots together, in order. -/
def pathsOf (a b : Snapshot) : List String :=
  ((b.files.map fun f => (f.1, ())).foldl (fun acc f => insertSorted f.1 () acc)
    (a.files.map fun f => (f.1, ()))).map (·.1)

end Snapshot

/-- How a file came to its path from another one. -/
inductive Move
  /-- The other path is gone. -/
  | rename
  /-- The other path is still there. -/
  | copy
  deriving DecidableEq, Repr

/-- The word for a move. -/
def Move.word : Move → String
  | rename => "rename"
  | copy => "copy"

/-- How a file differs between two snapshots. -/
inductive FileChange
  | added (path : String) (content : Text.Bytes)
  | deleted (path : String) (content : Text.Bytes)
  | modified (path : String) (old new : Text.Bytes)
  /-- A file that moved, with how much of it stayed the same in units of `1 / 60000`. -/
  | moved (how : Move) (source target : String) (old new : Text.Bytes) (score : Nat)
  deriving DecidableEq, Repr

/-- How the file at a path differs between two snapshots, if it does. -/
def changeAt? (base head : Snapshot) (path : String) : Option FileChange :=
  match base.content? path, head.content? path with
  | none, none => none
  | none, some new => some (.added path new)
  | some old, none => some (.deleted path old)
  | some old, some new => if old = new then none else some (.modified path old new)

/-- How two snapshots differ, in the order of the paths. -/
def changes (base head : Snapshot) : List FileChange :=
  (base.pathsOf head).filterMap (changeAt? base head)

end ReleaseGate.History
