/-!
# Sets of code points

A property of characters is given as a list of ranges of code points, written as text: ranges in
hexadecimal, with blanks or line ends between any two.
-/

namespace ReleaseGate.Unicode

/-- Ranges of code points, both ends included. -/
abbrev Ranges := List (Nat × Nat)

namespace Ranges

/-- Whether a character lies in one of the ranges. -/
def mem (r : Ranges) (c : Char) : Bool := r.any fun p => p.1 ≤ c.toNat && c.toNat ≤ p.2

/-- The value of a hexadecimal digit; anything else counts as zero. -/
def hexValue (c : Char) : Nat :=
  if c.isDigit then c.toNat - '0'.toNat
  else if 'A' ≤ c && c ≤ 'F' then c.toNat - 'A'.toNat + 10
  else if 'a' ≤ c && c ≤ 'f' then c.toNat - 'a'.toNat + 10
  else 0

/-- Read ranges from the front of a text. `lo` is the first end of a range whose second end is
being read, and `n` the number read so far, if a digit of it was read. -/
def read : (lo : Option Nat) → (n : Option Nat) → List Char → Ranges
  | lo, some n, [] => [(lo.getD n, n)]
  | _, none, [] => []
  | lo, n, c :: s =>
    if c = ' ' ∨ c = '\n' then
      match n with
      | some n => (lo.getD n, n) :: read none none s
      | none => read lo none s
    else if c = '-' then read n none s
    else read lo (some (16 * n.getD 0 + hexValue c)) s

/-- The ranges written in a text such as `41-5A 5F`. -/
def ofHex (s : String) : Ranges := read none none s.toList

end Ranges

end ReleaseGate.Unicode
