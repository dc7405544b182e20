import ReleaseGate.Text.Search
import ReleaseGate.Toml.Scan

/-!
# Quoted texts

The four forms of a text: in double quotes, with escapes, or in single quotes, without, and each of
them on one line or, between three quotes, on several. Just after three opening quotes a line end
is left out; before three closing quotes one or two more belong to the text.
-/

namespace ReleaseGate.Toml

/-- The double quote. -/
def doubleQuote : Char := '\x22'

/-- The single quote. -/
def singleQuote : Char := '\x27'

/-- The backslash. -/
def backslash : Char := '\x5c'

/-- The character with a code point, if there is one. -/
def charOf? (n : Nat) : Option Char :=
  if h : n.isValidChar then some (Char.ofNatAux n h) else none

/-- Take the character whose code point is written in `n` hexadecimal digits. -/
def takeCode (n : Nat) : Scan Char := fun s =>
  let ds := s.take n
  if ds.length = n ∧ ds.all isHexDigit then
    (charOf? (ofDigits 16 ds)).map fun c => (c, s.drop n)
  else none

/-- Take the character that an escape stands for, after its backslash. -/
def takeEscape : Scan Char
  | 'b' :: s => some ('\x08', s)
  | 't' :: s => some ('\t', s)
  | 'n' :: s => some ('\n', s)
  | 'f' :: s => some ('\x0c', s)
  | 'r' :: s => some ('\r', s)
  | 'u' :: s => takeCode 4 s
  | 'U' :: s => takeCode 8 s
  | c :: s => if c = doubleQuote ∨ c = backslash then some (c, s) else none
  | [] => none

/-- Take the rest of a text in double quotes on one line. `fuel` bounds its length. -/
def takeBasic : (fuel : Nat) → Scan (List Char)
  | 0, _ => none
  | _ + 1, [] => none
  | fuel + 1, c :: s =>
    if c = doubleQuote then some ([], s)
    else if c = backslash then do
      let (d, s) ← takeEscape s
      let (ds, s) ← takeBasic fuel s
      return (d :: ds, s)
    else if isPlain c then do
      let (ds, s) ← takeBasic fuel s
      return (c :: ds, s)
    else none

/-- Take the rest of a text in single quotes on one line. -/
def takeLiteral : Scan (List Char)
  | [] => none
  | c :: s =>
    if c = singleQuote then some ([], s)
    else if isPlain c then do
      let (ds, s) ← takeLiteral s
      return (c :: ds, s)
    else none

/-- The text without the blanks and line ends at its front. `fuel` bounds their number. -/
def dropSpaceWith : (fuel : Nat) → List Char → List Char
  | 0, s => s
  | fuel + 1, s =>
    match takeNewline (dropBlanks s) with
    | some (_, rest) => dropSpaceWith fuel rest
    | none => dropBlanks s

/-- The text after a line end that a backslash hides: blanks and line ends after it go too. -/
def hiddenLineEnd? (s : List Char) : Option (List Char) :=
  match takeNewline (dropBlanks s) with
  | some (_, rest) => some (dropSpaceWith (rest.length + 1) rest)
  | none => none

/-- The quotes at the front of a text. -/
def quotesAtFront (quote : Char) (s : List Char) : Nat := (s.takeWhile (· == quote)).length

/-- Take the rest of a text between three quotes; `escapes` tells whether a backslash has a
meaning. `fuel` bounds its length. -/
def takeLong (quote : Char) (escapes : Bool) : (fuel : Nat) → Scan (List Char)
  | 0, _ => none
  | _ + 1, [] => none
  | fuel + 1, c :: s =>
    if c = quote then
      let n := quotesAtFront quote (c :: s)
      if 3 ≤ n then
        let kept := min (n - 3) 2
        some (List.replicate kept quote, (c :: s).drop (kept + 3))
      else do
        let (ds, s) ← takeLong quote escapes fuel ((c :: s).drop n)
        return (List.replicate n quote ++ ds, s)
    else if escapes && c = backslash then
      match hiddenLineEnd? s with
      | some s => takeLong quote escapes fuel s
      | none => do
        let (d, s) ← takeEscape s
        let (ds, s) ← takeLong quote escapes fuel s
        return (d :: ds, s)
    else if isPlain c then do
      let (ds, s) ← takeLong quote escapes fuel s
      return (c :: ds, s)
    else
      match takeNewline (c :: s) with
      | some (_, s) => do
        let (ds, s) ← takeLong quote escapes fuel s
        return ('\n' :: ds, s)
      | none => none

/-- The text without a line end at its very front. -/
def dropFirstNewline (s : List Char) : List Char :=
  match takeNewline s with
  | some (_, rest) => rest
  | none => s

/-- Take a quoted text of a single line. -/
def takeShortQuoted : Scan (List Char)
  | [] => none
  | c :: s =>
    if c = doubleQuote then takeBasic (s.length + 1) s
    else if c = singleQuote then takeLiteral s
    else none

/-- Take a quoted text of any form. -/
def takeQuoted : Scan (List Char) := fun s =>
  match Text.stripStart? (List.replicate 3 doubleQuote) s with
  | some r => takeLong doubleQuote true (r.length + 1) (dropFirstNewline r)
  | none =>
    match Text.stripStart? (List.replicate 3 singleQuote) s with
    | some r => takeLong singleQuote false (r.length + 1) (dropFirstNewline r)
    | none => takeShortQuoted s

end ReleaseGate.Toml
