import ReleaseGate.Text.Search
import ReleaseGate.Text.Space

/-!
# The version declaration of a manifest

A manifest declares its version by `version = "…"` at the start of a line. White space, line ends
among it, may stand around the equals sign; the value runs to the next double quote and is not
empty; after the closing quote only white space may follow up to some line end or the end of the
text. The first declaration counts. `DeclaredAt` states this form, and `declaredVersion?` reads it.
-/

namespace ReleaseGate.Release

/-- The double quote. -/
def quote : Char := '\x22'

/-- The key of a declaration. -/
def versionKey : List Char := "version".toList

/-- Whether white space leads from here to a line end or to the end of the text. -/
def endsLine (s : List Char) : Bool :=
  Text.isBlank s || (s.takeWhile Text.isSpace).contains '\n'

/-- The value at the front of a text that follows an opening quote: up to the closing one, which
has to end the line. -/
def closedValue? (s : List Char) : Option (List Char) :=
  let value := s.takeWhile (· != quote)
  match s.dropWhile (· != quote) with
  | _ :: rest => if value ≠ [] ∧ endsLine rest then some value else none
  | [] => none

/-- The version declared at the very front of a text. -/
def declarationAtFront? (s : List Char) : Option (List Char) :=
  match Text.stripStart? versionKey s with
  | none => none
  | some afterKey =>
    match Text.dropSpace afterKey with
    | '=' :: afterEquals =>
      match Text.dropSpace afterEquals with
      | q :: afterQuote => if q = quote then closedValue? afterQuote else none
      | [] => none
    | _ => none

/-- The version declared first in what follows a position; `atStart` tells whether that position
is the start of a line. -/
def declarationFrom? : (atStart : Bool) → List Char → Option (List Char)
  | _, [] => none
  | atStart, c :: s =>
    match if atStart then declarationAtFront? (c :: s) else none with
    | some v => some v
    | none => declarationFrom? (c == '\n') s

/-- The version that a manifest declares. -/
def declaredVersion? (manifest : List Char) : Option (List Char) := declarationFrom? true manifest

/-- The text after `before` starts with a declaration of `version`, at the start of a line. -/
def DeclaredAt (text before version : List Char) : Prop :=
  (before = [] ∨ ∃ b, before = b ++ ['\n']) ∧
  ∃ w₁ w₂ w₃ rest : List Char,
    text = before ++ (versionKey ++ (w₁ ++ '=' :: (w₂ ++ quote :: (version ++ quote :: (w₃ ++ rest))))) ∧
    Text.isBlank w₁ = true ∧ Text.isBlank w₂ = true ∧ Text.isBlank w₃ = true ∧
    version ≠ [] ∧ quote ∉ version ∧ (rest = [] ∨ ∃ r, rest = '\n' :: r)

end ReleaseGate.Release
