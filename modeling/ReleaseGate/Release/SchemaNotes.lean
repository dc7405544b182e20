import ReleaseGate.Text.Space
import ReleaseGate.Unicode.Folding
import ReleaseGate.Unicode.Word

/-!
# Schema Notes headings

A document has Schema Notes if some line starts, after at most three blanks, with two or three
`#`, white space, and the words `Schema Notes` in any case, which end there. The white space may
run over line ends: what stands at the next line counts as heading text then.
-/

namespace ReleaseGate.Release

/-- The words of the heading. -/
def notesWords : List Char := "schema notes".toList

/-- What follows `words`, each of whose characters has to be alike but for case. -/
def stripFolded? : (words s : List Char) → Option (List Char)
  | [], s => some s
  | _ :: _, [] => none
  | w :: ws, c :: s => if Unicode.sameFold w c then stripFolded? ws s else none

/-- Whether a word that stood here ends here. -/
def wordEnds (s : List Char) : Bool :=
  match s with
  | [] => true
  | c :: _ => !Unicode.isWord c

/-- Whether a text starts with the words of the heading. -/
def startsWithWords (s : List Char) : Bool :=
  match stripFolded? notesWords s with
  | some rest => wordEnds rest
  | none => false

/-- Whether a Schema Notes heading stands at the very front of a text. -/
def notesAtFront (s : List Char) : Bool :=
  let indent := s.takeWhile Text.isIndent
  let marks := (s.dropWhile Text.isIndent).takeWhile (· == '#')
  let rest := (s.dropWhile Text.isIndent).dropWhile (· == '#')
  indent.length ≤ 3 && (marks.length == 2 || marks.length == 3) &&
    match rest with
    | c :: more => Text.isSpace c && startsWithWords (Text.dropSpace more)
    | [] => false

/-- Whether a Schema Notes heading stands in what follows a position; `atStart` tells whether that
position is the start of a line. -/
def notesFrom : (atStart : Bool) → List Char → Bool
  | _, [] => false
  | atStart, c :: s => (atStart && notesAtFront (c :: s)) || notesFrom (c == '\n') s

/-- Whether a document has Schema Notes. -/
def hasSchemaNotes (text : List Char) : Bool := notesFrom true text

end ReleaseGate.Release
