import ReleaseGate.Unicode.Folding
import ReleaseGate.Unicode.Word

/-!
# Character classes

The sets of characters that a pattern can name, and their members.
-/

namespace ReleaseGate.Pattern

/-- A set of characters. -/
inductive CharClass
  /-- No character at all. -/
  | none
  /-- One character. -/
  | one (c : Char)
  /-- The characters from `lo` to `hi`, both included. -/
  | range (lo hi : Char)
  /-- The characters with a property. -/
  | having (p : Char → Bool)
  | union (a b : CharClass)
  | inter (a b : CharClass)
  | diff (a b : CharClass)
  /-- What lies in exactly one of the two. -/
  | symmDiff (a b : CharClass)
  /-- What does not lie in `a`. -/
  | compl (a : CharClass)
  /-- What is in `a` up to case. -/
  | folded (a : CharClass)
  /-- What is in `a` up to the case of ASCII letters. -/
  | asciiFolded (a : CharClass)

/-- An ASCII letter in the other case; any other character itself. -/
def swapAsciiCase (c : Char) : Char :=
  if 'a' ≤ c && c ≤ 'z' then c.toUpper else if 'A' ≤ c && c ≤ 'Z' then c.toLower else c

namespace CharClass

/-- Whether a character lies in a class. -/
def mem : CharClass → Char → Bool
  | none, _ => false
  | one d, c => c == d
  | range lo hi, c => lo ≤ c && c ≤ hi
  | having p, c => p c
  | union a b, c => a.mem c || b.mem c
  | inter a b, c => a.mem c && b.mem c
  | diff a b, c => a.mem c && !b.mem c
  | symmDiff a b, c => a.mem c != b.mem c
  | compl a, c => !a.mem c
  | folded a, c => (Unicode.foldOrbit c).any fun d => a.mem d
  | asciiFolded a, c => a.mem c || a.mem (swapAsciiCase c)

/-- Every character. -/
def any : CharClass := compl none

end CharClass

end ReleaseGate.Pattern
