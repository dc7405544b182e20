import ReleaseGate.History.Content

/-!
# Quoted paths

A path with special bytes is written in double quotes, with short escapes for some control
characters and octal ones for the other special bytes. Which bytes are special is a parameter.
-/

namespace ReleaseGate.History

open Text (Bytes)

/-- The letter of the short escape for a byte. -/
def escapeLetter? (b : UInt8) : Option Char :=
  if b = 7 then some 'a'
  else if b = 8 then some 'b'
  else if b = 9 then some 't'
  else if b = 10 then some 'n'
  else if b = 11 then some 'v'
  else if b = 12 then some 'f'
  else if b = 13 then some 'r'
  else if b = byte '\x22' then some '\x22'
  else if b = byte '\x5c' then some '\x5c'
  else none

/-- Three octal digits. -/
def octal (b : UInt8) : List Char :=
  [b.toNat / 64, b.toNat / 8 % 8, b.toNat % 8].map fun d => Char.ofNat ('0'.toNat + d)

/-- A special byte as it is written. -/
def escapeByte (b : UInt8) : List Char :=
  '\x5c' :: match escapeLetter? b with
    | some c => [c]
    | none => octal b

/-- A path in quotes if one of its bytes is special, and as it is otherwise. -/
def quotePath (special : UInt8 → Bool) (path : String) : String :=
  let cs := path.toList
  if cs.any fun c => (Text.Utf8.encode (String.singleton c)).any special then
    let written := cs.flatMap fun c =>
      let bytes := Text.Utf8.encode (String.singleton c)
      if bytes.any special then bytes.flatMap escapeByte else [c]
    String.ofList ('\x22' :: written ++ ['\x22'])
  else path

/-- Control characters, the quote and the backslash are special. -/
def isSpecial (b : UInt8) : Bool := b < 32 || b == 127 || b == byte '\x22' || b == byte '\x5c'

/-- Beside these, every byte that is not ASCII is special. -/
def isSpecialOrForeign (b : UInt8) : Bool := isSpecial b || 127 < b

end ReleaseGate.History
