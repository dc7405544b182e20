import ReleaseGate.Text.Utf8

/-!
# File contents

The content of a file as lines of bytes. A line keeps its line feed, so that a last line without
one differs from the same line with one. A content with a NUL byte near its start is no text.
-/

namespace ReleaseGate.History

open Text (Bytes)

/-- The byte of an ASCII character. -/
def byte (c : Char) : UInt8 := c.toNat.toUInt8

/-- The line feed as a byte. -/
def lineFeed : UInt8 := 10

/-- The lines of a content, each with its line feed. -/
def contentLines : Bytes → List Bytes
  | [] => []
  | b :: bs =>
    if b = lineFeed then [b] :: contentLines bs
    else
      match contentLines bs with
      | [] => [[b]]
      | l :: ls => (b :: l) :: ls

/-- How much of a content is looked at to tell whether it is text. -/
def inspected : Nat := 8000

/-- Whether a content is no text. -/
def isBinary (content : Bytes) : Bool := (content.take inspected).contains 0

/-- The bytes that count as white space of an indentation. -/
def isIndentSpace (b : UInt8) : Bool := b == 32 || b == 9 || b == 10 || b == 13

/-- The widest indentation that is told apart. -/
def maxIndent : Nat := 200

/-- The width of the white space at the front of a line, `width` of it being passed; nothing for a
line of white space. A tab leads to the next multiple of eight. -/
def indentFrom (width : Nat) : Bytes → Option Nat
  | [] => none
  | b :: bs =>
    if !isIndentSpace b then some width
    else
      let width' :=
        if b = 32 then width + 1 else if b = 9 then width + (8 - width % 8) else width
      if maxIndent ≤ width' then some maxIndent else indentFrom width' bs

/-- The indentation of a line. -/
def indentOf (line : Bytes) : Option Nat := indentFrom 0 line

/-- The size of the blocks in which a common end of two contents is looked for. -/
def blockSize : Nat := 1024

/-- How many whole blocks at the ends of two contents, given with their last bytes first, are
equal. -/
def equalBlocks : (fuel : Nat) → Bytes → Bytes → Nat
  | 0, _, _ => 0
  | fuel + 1, a, b =>
    let x := a.take blockSize
    if x.length = blockSize ∧ x = b.take blockSize then
      equalBlocks fuel (a.drop blockSize) (b.drop blockSize) + 1
    else 0

/-- A content without its last `n` bytes, but with the rest of the line that they start in. -/
def dropEnd (content : Bytes) (n : Nat) : Bytes :=
  let kept := content.length - n
  let tail := content.drop kept
  let line := tail.takeWhile (· != lineFeed)
  content.take kept ++ tail.take (line.length + 1)

/-- Two contents without the whole blocks at their ends that are equal. -/
def dropCommonEnd (a b : Bytes) : Bytes × Bytes :=
  let n := blockSize * equalBlocks (a.length / blockSize + 1) a.reverse b.reverse
  if n = 0 then (a, b) else (dropEnd a n, dropEnd b n)

end ReleaseGate.History
