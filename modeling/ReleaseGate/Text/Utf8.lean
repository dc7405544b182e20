/-!
# UTF-8

Reading bytes as text, strictly (`decode?` refuses an invalid byte anywhere) and with loss
(`decodeLossy` puts U+FFFD for each maximal invalid part). Both step through `next`, which reads
one character or one invalid part from the front.
-/

namespace ReleaseGate.Text

/-- The bytes of a file. -/
abbrev Bytes := List UInt8

namespace Utf8

/-- The range of a second byte after the lead byte `b`: this is what keeps overlong forms,
surrogates and code points beyond the last one out. -/
def secondRange (b : UInt8) : UInt8 × UInt8 :=
  if b == 0xE0 then (0xA0, 0xBF)
  else if b == 0xED then (0x80, 0x9F)
  else if b == 0xF0 then (0x90, 0xBF)
  else if b == 0xF4 then (0x80, 0x8F)
  else (0x80, 0xBF)

/-- How many bytes follow the lead byte `b`, if it is one. -/
def followers (b : UInt8) : Option Nat :=
  if b < 0x80 then some 0
  else if 0xC2 ≤ b && b ≤ 0xDF then some 1
  else if 0xE0 ≤ b && b ≤ 0xEF then some 2
  else if 0xF0 ≤ b && b ≤ 0xF4 then some 3
  else none

/-- The bits of the code point that the lead byte carries. -/
def leadBits (b : UInt8) : Nat :=
  if b < 0x80 then b.toNat
  else if b < 0xE0 then b.toNat - 0xC0
  else if b < 0xF0 then b.toNat - 0xE0
  else b.toNat - 0xF0

/-- What stands at the front of a byte sequence: a character or an invalid part, with its
length. -/
inductive Piece
  | char (c : Char) (length : Nat)
  | invalid (length : Nat)

/-- Take up to `n` more bytes of a sequence, the first of them in the given range and the others
in `0x80..0xBF`. The result is the code point, or the count of bytes that fitted. -/
def follow (acc : Nat) (lo hi : UInt8) : Nat → Bytes → Sum Nat Nat
  | 0, _ => .inl acc
  | _ + 1, [] => .inr 0
  | n + 1, b :: bs =>
    if lo ≤ b && b ≤ hi then
      match follow (acc * 64 + (b.toNat - 0x80)) 0x80 0xBF n bs with
      | .inl code => .inl code
      | .inr taken => .inr (taken + 1)
    else .inr 0

/-- The piece at the front of `b :: bs`. -/
def next (b : UInt8) (bs : Bytes) : Piece :=
  match followers b with
  | none => .invalid 1
  | some n =>
    let range := secondRange b
    match follow (leadBits b) range.1 range.2 n bs with
    | .inl code => .char (Char.ofNat code) (n + 1)
    | .inr taken => .invalid (taken + 1)

/-- The text of a byte sequence, or `none` if it is not UTF-8. `fuel` bounds the number of
characters. -/
def decodeWith : (fuel : Nat) → Bytes → Option (List Char)
  | _, [] => some []
  | 0, _ :: _ => none
  | fuel + 1, b :: bs =>
    match next b bs with
    | .char c n => (decodeWith fuel (bs.drop (n - 1))).map (c :: ·)
    | .invalid _ => none

/-- The text of a byte sequence with each maximal invalid part replaced by U+FFFD. -/
def decodeLossyWith : (fuel : Nat) → Bytes → List Char
  | _, [] => []
  | 0, _ :: _ => []
  | fuel + 1, b :: bs =>
    match next b bs with
    | .char c n => c :: decodeLossyWith fuel (bs.drop (n - 1))
    | .invalid n => '\ufffd' :: decodeLossyWith fuel (bs.drop (n - 1))

/-- The text of a byte sequence, or `none` if it is not UTF-8. -/
def decode? (bs : Bytes) : Option (List Char) := decodeWith bs.length bs

/-- The text of a byte sequence with each maximal invalid part replaced by U+FFFD. -/
def decodeLossy (bs : Bytes) : List Char := decodeLossyWith bs.length bs

/-- The bytes of a text. -/
def encode (s : String) : Bytes := s.toUTF8.toList

end Utf8

end ReleaseGate.Text
