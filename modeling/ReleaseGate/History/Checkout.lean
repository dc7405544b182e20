import ReleaseGate.Change.Range
import ReleaseGate.Config.Basic
import ReleaseGate.Files.Tree
import ReleaseGate.History.PathFilter
import ReleaseGate.History.Pathspec
import ReleaseGate.History.Revision
import ReleaseGate.History.Settings

/-!
# Checkouts

A history that lies in a file system, and the two ways to reach it. The program runs in the root's
directory and takes paths from there; it finds moved files. The library looks for the history from
the root upwards, takes paths from the top, and shows a moved file as a deletion and an addition.
Where the library finds no history, the program is asked, and it finds none either.
-/

namespace ReleaseGate.History

open Change (Range Repository)

/-- A branch of history, with the place of its top and its settings. -/
structure Checkout where
  top : Files.Place
  branch : Branch
  settings : Settings

/-- A file system with a working directory, and a history in it. -/
structure Workspace where
  tree : Files.Tree
  cwd : Files.Place
  checkout : Option Checkout

/-- The name of the directory that holds a history. -/
def historyDir : Files.Name := ".git".toList

/-- The checkout that a place lies in. -/
def Workspace.checkoutAt? (w : Workspace) (place : Files.Place) : Option Checkout :=
  w.checkout.filter fun c =>
    c.top.isPrefixOf place && w.tree.node? (c.top ++ [historyDir]) == some .directory

/-! ### The text of a patch -/

/-- The bytes of a patch, every line ended by a line feed. -/
def patchBytes (ls : List RawLine) : Text.Bytes := ls.flatMap fun l => l.bytes ++ [lineFeed]

/-- A patch that is decoded as a whole. -/
def textOfWhole (ls : List RawLine) : String :=
  String.ofList (Text.Utf8.decodeLossy (patchBytes ls))

/-- A patch whose lines are decoded one by one, each behind its sign. -/
def textOfPieces (ls : List RawLine) : String :=
  String.ofList (ls.flatMap fun l =>
    l.sign.toList ++ Text.Utf8.decodeLossy (l.content ++ [lineFeed]))

/-! ### The program -/

/-- The directory that the program runs in; it stays where it is if the root has no name. -/
def Workspace.directory? (w : Workspace) (root : String) : Option Files.Place :=
  if root = "" then some w.cwd
  else
    match w.tree.locate w.cwd root with
    | .ok (place, .directory) => some place
    | _ => none

/-- Whether a name can be taken for an option. -/
def isOption (rev : String) : Bool := rev.toList.head? == some '-'

/-- Whether the program finds a revision. -/
def programFinds (w : Workspace) (root rev : String) : Bool :=
  rev != "" && !isOption rev &&
    match (w.directory? root).bind w.checkoutAt? with
    | some c => (c.branch.resolve? rev).isSome
    | none => false

/-- The changes of the program's patch. -/
def programChanges (c : Checkout) (selected : String → Bool) (base head : Snapshot) :
    List FileChange :=
  detectMoves c.settings.detection (changes (base.restrict selected) (head.restrict selected))

/-- The two ends of a range; one that has no name is the last commit. -/
def rangeEnds? (b : Branch) (range : Range) : Option (Snapshot × Snapshot) :=
  if range.base = "" && range.head = "" then none
  else
    let named (rev : String) := if rev = "" then "HEAD" else rev
    match b.snapshot? (named range.base), b.snapshot? (named range.head) with
    | some base, some head => some (base, head)
    | _, _ => none

/-- What the program says outside of any checkout: there it compares two files, and takes the range
for one of them. -/
def outsideText (range : Range) (paths : List String) : String :=
  if paths.length = 1 then "error: Could not access '" ++ range.text ++ "'"
  else
    "warning: Not a git repository. Use --no-index to compare two paths outside a working tree\n" ++
      "usage: git diff --no-index [<options>] <path> <path>"

/-- What the program says of a root that is no directory. -/
def noDirectoryText (w : Workspace) (root : String) : String :=
  let cause : Files.ReadFailure :=
    match w.tree.locate w.cwd root with
    | .ok _ => .notDirectory
    | .error cause => cause
  "fatal: cannot change to '" ++ root ++ "': " ++ cause.reason

/-- What the program says of its arguments, if they can be given to it. -/
def refusal (root : String) (range : Range) (paths : List String) (text : String) : String :=
  if (root :: range.text :: paths).any Files.hasNul then nulText else text

/-- The program's diff, or what it says instead. -/
def programDiff (w : Workspace) (root : String) (range : Range) (paths : List String) :
    Except String String :=
  let refused (text : String) := Except.error (refusal root range paths text)
  match w.directory? root with
  | none => refused (noDirectoryText w root)
  | some place =>
    match w.checkoutAt? place with
    | none => refused (outsideText range paths)
    | some c =>
      if isOption range.base then refused ("error: invalid option: " ++ range.text)
      else
        match rangeEnds? c.branch range with
        | none => refused ("fatal: bad revision '" ++ range.text ++ "'")
        | some (base, head) => do
          let selected ← selection ⟨c.top, place.drop c.top.length⟩ paths
          let patch := (programChanges c selected base head).map
            (Style.program c.settings).filePatch
          return textOfWhole (Change.patchLines patch)

/-- History as the program shows it. -/
def programRepository (w : Workspace) (root : String) : Repository where
  hasRevision := programFinds w root
  diff range paths :=
    match programDiff w root range paths with
    | .ok text => .ok text
    | .error text => .error (.gitCommand text)

/-! ### The library -/

/-- The snapshot of a revision, or what the library says instead. -/
def librarySnapshot (c : Checkout) (rev : String) : Except Failure Snapshot :=
  match c.branch.snapshot? rev with
  | some s => .ok s
  | none => .error (.gitCommand ("cannot resolve '" ++ rev ++ "': revspec not found"))

/-- The library's diff. -/
def libraryDiff (c : Checkout) (range : Range) (paths : List String) : Except Failure String := do
  let base ← librarySnapshot c range.base
  let head ← librarySnapshot c range.head
  let selected := filterSelection paths
  let patch := (changes (base.restrict selected) (head.restrict selected)).map
    (Style.library c.settings).filePatch
  return textOfPieces (Change.patchLines patch)

/-- Whether the library is cut off: it takes no path with the character NUL in it, and does not say
so. The revisions are looked up before the paths. -/
def libraryAborts (c : Checkout) (range : Range) (paths : List String) : Bool :=
  (librarySnapshot c range.base).isOk && (librarySnapshot c range.head).isOk &&
    paths.any Files.hasNul

/-- History as the library shows it. -/
def libraryRepository (c : Checkout) : Repository where
  hasRevision rev := (c.branch.resolve? rev).isSome
  diff := libraryDiff c
  aborts := libraryAborts c

/-- The checkout that the library finds from the root upwards. -/
def Workspace.discover? (w : Workspace) (root : String) : Option Checkout :=
  match w.tree.locate w.cwd root with
  | .ok (place, _) => w.checkoutAt? place
  | .error _ => none

/-- The repository of a root through a backend. -/
def openRepository (backend : Backend) (w : Workspace) (root : String) : Repository :=
  match backend with
  | .system => programRepository w root
  | .library =>
    match w.discover? root with
    | some c => libraryRepository c
    | none => programRepository w root

end ReleaseGate.History
