import ReleaseGate.Files.View
import ReleaseGate.Text.Utf8

/-!
# File trees

A file system without links, as a value: what stands at each place, where a place is told by the
names from the root down. Paths are followed name by name, from the root or from a working
directory; on the way everything has to be a directory.
-/

namespace ReleaseGate.Files

/-- The name of a file or a directory. -/
abbrev Name := List Char

/-- A place in a file system: the names from the root down. -/
abbrev Place := List Name

/-- What stands at a place. -/
inductive Node
  | file (content : Text.Bytes)
  | directory
  deriving DecidableEq, Repr

/-- A file system: what was put where. -/
structure Tree where
  entries : List (Place × Node)

namespace Tree

/-- A file system with nothing but its root. -/
def empty : Tree := ⟨[]⟩

/-- What stands at a place. The root is always a directory. -/
def node? (t : Tree) (p : Place) : Option Node :=
  if p = [] then some .directory else t.entries.lookup p

/-- The longest name that a directory can hold, in bytes. -/
def maxName : Nat := 255

/-- The shortest path that is too long, in bytes. -/
def maxPath : Nat := 4096

/-- The length of a text in bytes. -/
def byteLength (s : List Char) : Nat := s.foldl (fun n c => n + c.utf8Size) 0

/-- Follow names from a place. -/
def walk (t : Tree) : Place → List Name → Except ReadFailure Place
  | place, [] => .ok place
  | place, name :: rest =>
    match t.node? place with
    | none => .error .missing
    | some (.file _) => .error .notDirectory
    | some .directory =>
      if name = ['.'] then t.walk place rest
      else if name = ['.', '.'] then t.walk place.dropLast rest
      else if maxName < byteLength name then .error .nameTooLong
      else
        match t.node? (place ++ [name]) with
        | none => .error .missing
        | some _ => t.walk (place ++ [name]) rest

/-- What stands at a path, seen from a working directory. -/
def locate (t : Tree) (cwd : Place) (path : String) : Except ReadFailure (Place × Node) :=
  let cs := path.toList
  if cs.contains '\x00' then .error .nulInPath
  else if cs = [] then .error .missing
  else if maxPath ≤ byteLength cs then .error .nameTooLong
  else
    match t.walk (if isAbsolute path then [] else cwd) (components cs) with
    | .error e => .error e
    | .ok place =>
      match t.node? place with
      | none => .error .missing
      | some (.file content) =>
        if endsInSlash cs then .error .notDirectory else .ok (place, .file content)
      | some .directory => .ok (place, .directory)

/-- The text of the file at a path. -/
def readText (t : Tree) (cwd : Place) (path : String) : Except ReadFailure String :=
  match t.locate cwd path with
  | .error e => .error e
  | .ok (_, .directory) => .error .isDirectory
  | .ok (_, .file content) =>
    match Text.Utf8.decode? content with
    | some text => .ok (String.ofList text)
    | none => .error .notText

/-- The view of a file system from a working directory. -/
def view (t : Tree) (cwd : Place) : View where
  read := t.readText cwd
  isFile path :=
    match t.locate cwd path with
    | .ok (_, .file _) => true
    | _ => false
  occupied path := (t.locate cwd path).isOk

/-- The tree with a node put at a place, whatever stood there. -/
def put (t : Tree) (p : Place) (n : Node) : Tree :=
  ⟨(p, n) :: t.entries.filter fun e => e.1 ≠ p⟩

/-- The tree with a directory at a place, unless something stands there. -/
def ensureDirectory (t : Tree) (p : Place) : Tree :=
  match t.node? p with
  | some _ => t
  | none => t.put p .directory

/-- The tree with directories on the whole way to a place, below the place `above`. -/
def ensureDirectories (t : Tree) (above : Place) : List Name → Tree
  | [] => t
  | name :: rest => (t.ensureDirectory (above ++ [name])).ensureDirectories (above ++ [name]) rest

/-- The tree with a file or a directory at a place, and directories on the way to it. -/
def write (t : Tree) (p : Place) (n : Node) : Tree :=
  (t.ensureDirectories [] p.dropLast).put p n

/-- The tree without what stands at a place or below it. -/
def remove (t : Tree) (p : Place) : Tree :=
  ⟨t.entries.filter fun e => !(p.isPrefixOf e.1)⟩

end Tree

end ReleaseGate.Files
