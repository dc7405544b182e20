/-!
# Scanning

The small readers that the others are built of. A reader takes something off the front of a text
and gives it with the rest, or gives nothing.
-/

namespace ReleaseGate.Toml

/-- A reader: what it takes off the front of a text, and the rest. -/
abbrev Scan (α : Type) := List Char → Option (α × List Char)

/-- A blank inside a line. -/
def isBlank (c : Char) : Bool := c == ' ' || c == '\t'

/-- The text without the blanks at its front. -/
def dropBlanks (s : List Char) : List Char := s.dropWhile isBlank

/-- A decimal digit. -/
def isDigit (c : Char) : Bool := '0' ≤ c && c ≤ '9'

/-- A hexadecimal digit. -/
def isHexDigit (c : Char) : Bool := isDigit c || ('a' ≤ c && c ≤ 'f') || ('A' ≤ c && c ≤ 'F')

/-- The value of a digit. -/
def digitValue (c : Char) : Nat :=
  if isDigit c then c.toNat - '0'.toNat
  else if 'a' ≤ c then c.toNat - 'a'.toNat + 10
  else c.toNat - 'A'.toNat + 10

/-- The number that digits write in a base. -/
def ofDigits (base : Nat) (ds : List Char) : Nat := ds.foldl (fun n d => base * n + digitValue d) 0

/-- A character that may stand in a comment or a quoted text: no control character but the tab. -/
def isPlain (c : Char) : Bool := c == '\t' || (0x20 ≤ c.toNat && c.toNat ≠ 0x7F)

/-- Take one given character. -/
def takeChar (c : Char) : Scan Unit
  | d :: s => if d = c then some ((), s) else none
  | [] => none

/-- Take a line end: a line feed, with or without a carriage return before it. -/
def takeNewline : Scan Unit
  | '\n' :: s => some ((), s)
  | '\r' :: '\n' :: s => some ((), s)
  | _ => none

/-- Take a line end or stop at the end of the text. -/
def takeLineEnd : Scan Unit
  | [] => some ((), [])
  | s => takeNewline s

/-- The text after the comment at its front, if there is one. -/
def dropComment : List Char → List Char
  | '#' :: s => s.dropWhile isPlain
  | s => s

/-- Take what may follow at the end of a line: blanks, a comment and the line end. -/
def takeLineRest : Scan Unit := fun s => takeLineEnd (dropComment (dropBlanks s))

/-- The text without the blanks, comments and line ends at its front. `fuel` bounds the number of
lines. -/
def dropLinesWith : (fuel : Nat) → List Char → List Char
  | 0, s => s
  | fuel + 1, s =>
    let t := dropComment (dropBlanks s)
    match takeNewline t with
    | some (_, rest) => dropLinesWith fuel rest
    | none => t

/-- The text without the blanks, comments and line ends at its front. -/
def dropLines (s : List Char) : List Char := dropLinesWith (s.length + 1) s

/-- Take an exact number of decimal digits. -/
def takeDigits (n : Nat) : Scan Nat := fun s =>
  let ds := s.take n
  if ds.length = n ∧ ds.all isDigit then some (ofDigits 10 ds, s.drop n) else none

/-- The digits at the front, an underscore between two of them passed over. -/
def digitRun (digit : Char → Bool) : List Char → List Char × List Char
  | [] => ([], [])
  | c :: s =>
    if digit c then
      let (ds, rest) := digitRun digit s
      (c :: ds, rest)
    else
      match c, s with
      | '_', d :: _ =>
        if digit d then digitRun digit s else ([], c :: s)
      | _, _ => ([], c :: s)

/-- Take digits, the first of which is no underscore. -/
def takeRun (digit : Char → Bool) : Scan (List Char)
  | c :: s => if digit c then some (digitRun digit (c :: s)) else none
  | [] => none

end ReleaseGate.Toml
