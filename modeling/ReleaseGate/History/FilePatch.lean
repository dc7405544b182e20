import ReleaseGate.Change.Patch
import ReleaseGate.History.Content
import ReleaseGate.History.EditScript
import ReleaseGate.History.Slide
import ReleaseGate.History.Snapshot

/-!
# The patch of a file

How the change of a file is written as a patch without context. What the two readers of history
write differently is in a `Style`: whether changes are placed by indentation, how paths are quoted,
what stands for a file without lines, and what is noted beside paths and contents.
-/

namespace ReleaseGate.History

open Text (Bytes)

/-- A line of a patch before it is decoded: the sign of a line of content, and the bytes. -/
structure RawLine where
  sign : Option Char
  content : Bytes
  deriving DecidableEq, Repr

/-- All bytes of a line. -/
def RawLine.bytes (l : RawLine) : Bytes :=
  match l.sign with
  | some c => byte c :: l.content
  | none => l.content

/-- A line of a patch that is no content. -/
def plainLine (text : String) : RawLine := ⟨none, Text.Utf8.encode text⟩

/-- What patches note beside paths and contents: the identifiers of contents, and where in a file a
hunk stands. How these are found and shortened is up to the reader of history. -/
structure Annotations where
  /-- What the line on the identifiers of two contents says, if there is one. A file that is not there
  has no content. -/
  index? : Option Bytes → Option Bytes → Option String
  index_oneLine : ∀ old new text, index? old new = some text → '\n' ∉ text.toList
  /-- What stands behind the heading of a hunk, given the lines of the old file before it. -/
  context : List Bytes → Bytes
  context_oneLine : ∀ lines, lineFeed ∉ context lines

/-- Nothing is noted. -/
def Annotations.none : Annotations where
  index? _ _ := Option.none
  index_oneLine _ _ _ h := nomatch h
  context _ := []
  context_oneLine _ := List.not_mem_nil

/-- How a reader of history writes patches. -/
structure Style where
  /-- Whether changes are placed by the indentation around them. -/
  byIndent : Bool
  /-- Whether a common end of two contents is left out before they are compared. -/
  dropsCommonEnd : Bool
  /-- What stands before the path of an old file. -/
  oldMark : String
  /-- What stands before the path of a new file. -/
  newMark : String
  /-- A path as it is written. -/
  quote : String → String
  /-- Whether a tab follows a file name with a blank in it. -/
  tabAfterBlank : Bool
  /-- Whether a file without lines is named like any other. -/
  namesEmpty : Bool
  annotations : Annotations

/-! ### Hunks -/

/-- The line that follows a last line without a line feed. -/
def noNewlineLine : RawLine := plainLine "\\ No newline at end of file"

/-- A line of content with its sign. -/
def contentLine (sign : Char) (line : Bytes) : List RawLine :=
  if line.getLast? = some lineFeed then [⟨some sign, line.dropLast⟩]
  else [⟨some sign, line⟩, noNewlineLine]

/-- One side of a hunk's heading: where it starts, and its length unless that is one. An empty side
starts after the line before it. -/
def spanText (before length : Nat) : String :=
  if length = 1 then toString (before + 1)
  else toString (if length = 0 then before else before + 1) ++ "," ++ toString length

/-- The heading of a hunk. -/
def hunkHeading (s : Stretch Bytes) : String :=
  "@@ -" ++ spanText s.oldBefore s.removed.length ++ " +" ++
    spanText s.newBefore s.inserted.length ++ " @@"

/-- What follows the heading of a hunk on its line. -/
def Annotations.suffix (a : Annotations) (before : List Bytes) : Bytes :=
  match a.context before with
  | [] => []
  | text => byte ' ' :: text

/-- The hunk of a stretch of changes to some lines. -/
def Style.hunkOf (style : Style) (old : List Bytes) (s : Stretch Bytes) : Change.Hunk RawLine where
  heading :=
    ⟨none, Text.Utf8.encode (hunkHeading s) ++ style.annotations.suffix (old.take s.oldBefore)⟩
  body := s.removed.flatMap (contentLine '-') ++ s.inserted.flatMap (contentLine '+')

/-- The marks on the lines of two contents, after changes were slid into place. -/
def settledMarks (byIndent : Bool) (old new : List Bytes) : Marks :=
  let ms := changedLines old new
  let indents (ls : List Bytes) :=
    if byIndent then some (ls.map indentOf).toArray else none
  let first := slideGroups old.toArray ms.first ms.second (indents old)
  let second := slideGroups new.toArray ms.second first (indents new)
  ⟨first, second⟩

/-- Lines with their marks. -/
def withMarks (ls : List Bytes) (marks : Array Bool) : List (Bytes × Bool) :=
  ls.zipIdx.map fun (l, i) => (l, marked marks i)

/-- The edit script from one content to another. -/
def scriptOf (byIndent : Bool) (old new : List Bytes) : List (Edit Bytes) :=
  let ms := settledMarks byIndent old new
  ofMarks (withMarks old ms.first) (withMarks new ms.second)

/-- The hunks between two contents. -/
def Style.hunks (style : Style) (old new : Bytes) : List (Change.Hunk RawLine) :=
  let (old, new) := if style.dropsCommonEnd then dropCommonEnd old new else (old, new)
  let lines := contentLines old
  (stretches (scriptOf style.byIndent lines (contentLines new))).map (style.hunkOf lines)

/-! ### Headers -/

/-- What stands for a file that is not there. -/
def noFile : String := "/dev/null"

/-- The name of an old file. -/
def Style.oldName (style : Style) (path : String) : String := style.quote (style.oldMark ++ path)

/-- The name of a new file. -/
def Style.newName (style : Style) (path : String) : String := style.quote (style.newMark ++ path)

/-- The line that opens the patch of a file. -/
def Style.opening (style : Style) (old new : String) : RawLine :=
  plainLine ("diff --git " ++ style.oldName old ++ " " ++ style.newName new)

/-- A name in a header, with a tab where its end could be missed. -/
def Style.headerName (style : Style) (name : String) : String :=
  if style.tabAfterBlank && name.toList.contains ' ' then name ++ "\t" else name

/-- The line on the identifiers of two contents. -/
def Style.indexLines (style : Style) (old new : Option Bytes) : List RawLine :=
  (style.annotations.index? old new).toList.map fun text => plainLine ("index " ++ text)

/-- What a patch says of two contents under two names, after the headers on their paths: that they
are no text, or the names and the hunks. -/
def Style.comparison (style : Style) (oldName newName : String) (old new : Bytes) :
    List RawLine × List (Change.Hunk RawLine) :=
  if isBinary old || isBinary new then
    ([plainLine ("Binary files " ++ oldName ++ " and " ++ newName ++ " differ")], [])
  else
    let hunks := style.hunks old new
    if hunks.isEmpty && !style.namesEmpty then ([], [])
    else
      ([plainLine ("--- " ++ style.headerName oldName),
        plainLine ("+++ " ++ style.headerName newName)], hunks)

/-- The highest score of a file that moved. -/
def fullScore : Nat := 60000

/-- The patch of a changed file. -/
def Style.filePatch (style : Style) : FileChange → Change.FilePatch RawLine
  | .added path content =>
    let (headers, hunks) := style.comparison noFile (style.newName path) [] content
    ⟨style.opening path path,
      plainLine "new file mode 100644" :: style.indexLines none content ++ headers, hunks⟩
  | .deleted path content =>
    let (headers, hunks) := style.comparison (style.oldName path) noFile content []
    ⟨style.opening path path,
      plainLine "deleted file mode 100644" :: style.indexLines content none ++ headers, hunks⟩
  | .modified path old new =>
    let (headers, hunks) := style.comparison (style.oldName path) (style.newName path) old new
    ⟨style.opening path path, style.indexLines old new ++ headers, hunks⟩
  | .moved how source target old new score =>
    let (headers, hunks) :=
      if old = new then ([], [])
      else
        let (headers, hunks) :=
          style.comparison (style.oldName source) (style.newName target) old new
        (style.indexLines old new ++ headers, hunks)
    ⟨style.opening source target,
      [plainLine ("similarity index " ++ toString (score * 100 / fullScore) ++ "%"),
       plainLine (how.word ++ " from " ++ style.quote source),
       plainLine (how.word ++ " to " ++ style.quote target)] ++ headers, hunks⟩

end ReleaseGate.History
