import ReleaseGate.Text.Lines
import ReleaseGate.Text.Search
import ReleaseGate.Text.Space

/-!
# Release headings in a changelog

A release has a heading if some line is, after at most three blanks, `##` or `###`, one space and
the tag, and the tag is not the start of a longer version. `IsHeading` states the form and
`isHeading` decides it.
-/

namespace ReleaseGate.Release

/-- A character that would make a version longer. -/
def isVersionChar (c : Char) : Bool :=
  ('a' ≤ c && c ≤ 'z') || ('A' ≤ c && c ≤ 'Z') || ('0' ≤ c && c ≤ '9') ||
    c == '.' || c == '-' || c == '+'

/-- Whether a tag that stood here ends here. -/
def tagEnds (s : List Char) : Bool :=
  match s with
  | [] => true
  | c :: _ => !isVersionChar c

/-- The line without one `#`, where at least three stand at its front. -/
def dropThirdHash (s : List Char) : List Char :=
  if Text.startsWith "###".toList s then s.drop 1 else s

/-- Whether a line is a heading for the tag. -/
def isHeading (tag line : List Char) : Bool :=
  let indent := line.takeWhile Text.isIndent
  indent.length ≤ 3 &&
    match Text.stripStart? ("## ".toList ++ tag) (dropThirdHash (line.dropWhile Text.isIndent)) with
    | some rest => tagEnds rest
    | none => false

/-- Whether a changelog has a heading for the tag. -/
def hasReleaseHeading (tag changelog : List Char) : Bool :=
  (Text.lines changelog).any (isHeading tag)

/-- The form of a heading for a tag. -/
def IsHeading (tag line : List Char) : Prop :=
  ∃ indent hashes rest : List Char,
    line = indent ++ (hashes ++ ' ' :: (tag ++ rest)) ∧
    indent.length ≤ 3 ∧ indent.all Text.isIndent = true ∧
    (hashes = ['#', '#'] ∨ hashes = ['#', '#', '#']) ∧ tagEnds rest = true

end ReleaseGate.Release
