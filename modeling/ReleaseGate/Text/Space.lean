/-!
# White space

The characters with the Unicode property `White_Space`, and what is built on them: runs of
white space, blank texts and trimming.
-/

namespace ReleaseGate.Text

/-- The Unicode property `White_Space`. -/
def isSpace (c : Char) : Bool :=
  let n := c.toNat
  (9 ≤ n && n ≤ 13) || n == 0x20 || n == 0x85 || n == 0xA0 || n == 0x1680 ||
    (0x2000 ≤ n && n ≤ 0x200A) || n == 0x2028 || n == 0x2029 || n == 0x202F || n == 0x205F ||
    n == 0x3000

/-- A blank of an indentation: a space or a tab. -/
def isIndent (c : Char) : Bool := c == ' ' || c == '\t'

/-- The text without the white space at its start. -/
def dropSpace (s : List Char) : List Char := s.dropWhile isSpace

/-- Nothing but white space, the empty text included. -/
def isBlank (s : List Char) : Bool := s.all isSpace

/-- The text without the white space at its two ends. -/
def trim (s : List Char) : List Char := ((dropSpace s).reverse.dropWhile isSpace).reverse

theorem isSpace_lf : isSpace '\n' = true := by decide

theorem isSpace_cr : isSpace '\r' = true := by decide

@[simp] theorem isBlank_nil : isBlank [] = true := rfl

@[simp] theorem isBlank_cons (c : Char) (s : List Char) :
    isBlank (c :: s) = (isSpace c && isBlank s) := rfl

theorem isBlank_append (s t : List Char) : isBlank (s ++ t) = (isBlank s && isBlank t) := by
  simp [isBlank]

end ReleaseGate.Text
