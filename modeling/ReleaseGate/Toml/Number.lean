import ReleaseGate.Toml.Scan

/-!
# Numbers

Integers in four bases, which have to fit in 64 bits with a sign, and floats, which have to be
finite where they are positive and written in digits. An underscore may stand between two digits.
-/

namespace ReleaseGate.Toml

/-- Take a sign, if there is one; it tells whether the number is negative. -/
def takeSign : List Char → Bool × List Char
  | '-' :: s => (true, s)
  | '+' :: s => (false, s)
  | s => (false, s)

/-- Take the digits of a decimal integer: a zero stands alone. -/
def takeWhole : Scan (List Char)
  | '0' :: s => some (['0'], s)
  | s => takeRun isDigit s

/-- An integer that fits in 64 bits with a sign. -/
def fits (n : Int) : Bool := Int64.minValue.toInt ≤ n && n ≤ Int64.maxValue.toInt

/-- Take a decimal integer. -/
def takeDecimal : Scan Int := fun s => do
  let (negative, s) := takeSign s
  let (ds, s) ← takeWhole s
  let n : Int := if negative then -(ofDigits 10 ds) else ofDigits 10 ds
  if fits n then return (n, s) else none

/-- Take an integer of a base given by its digits. -/
def takeInBase (base : Nat) (digit : Char → Bool) : Scan Int := fun s => do
  let (ds, s) ← takeRun digit s
  let n : Int := ofDigits base ds
  if fits n then return (n, s) else none

/-- Take an integer. -/
def takeInteger : Scan Int
  | '0' :: 'x' :: s => takeInBase 16 isHexDigit s
  | '0' :: 'o' :: s => takeInBase 8 (fun c => '0' ≤ c && c ≤ '7') s
  | '0' :: 'b' :: s => takeInBase 2 (fun c => c == '0' || c == '1') s
  | s => takeDecimal s

/-- Take the digits after a point, if there is one. -/
def takeFraction : List Char → Option (List Char) × List Char
  | '.' :: s =>
    match takeRun isDigit s with
    | some (ds, rest) => (some ds, rest)
    | none => (none, '.' :: s)
  | s => (none, s)

/-- Take an exponent, if there is one. -/
def takeExponent : List Char → Option Int × List Char
  | [] => (none, [])
  | c :: s =>
    if c = 'e' ∨ c = 'E' then
      let (negative, t) := takeSign s
      match takeRun isDigit t with
      | some (ds, rest) => (some (if negative then -(ofDigits 10 ds) else ofDigits 10 ds), rest)
      | none => (none, c :: s)
    else (none, c :: s)

/-- The least number that is infinite as a double: half a step beyond the largest finite one. -/
def doubleLimit : Nat := Nat.pow 2 1024 - Nat.pow 2 970

/-- Whether the digits times a power of ten are infinite as a double. The size of the number in
decimal places is looked at first, so that no power is larger than it has to be. -/
def isInfinite (digits : List Char) (exponent : Int) : Bool :=
  let significant := digits.dropWhile (· == '0')
  let places := exponent + significant.length
  if significant = [] ∨ places < 300 then false
  else if 310 < places then true
  else if 0 ≤ exponent then doubleLimit ≤ ofDigits 10 significant * Nat.pow 10 exponent.toNat
  else doubleLimit * Nat.pow 10 (-exponent).toNat ≤ ofDigits 10 significant

/-- Take a float that is written in digits. -/
def takeDigitFloat : Scan Unit := fun s => do
  let (negative, s) := takeSign s
  let (whole, s) ← takeWhole s
  let (fraction, s) := takeFraction s
  let (exponent, s) := takeExponent s
  match fraction, exponent with
  | none, none => none
  | _, _ =>
    let places := fraction.getD []
    if !negative && isInfinite (whole ++ places) (exponent.getD 0 - places.length) then none
    else return ((), s)

/-- Take the name of a float that is no number or no finite one. -/
def takeNamedFloat : Scan Unit := fun s =>
  match (takeSign s).2 with
  | 'i' :: 'n' :: 'f' :: rest => some ((), rest)
  | 'n' :: 'a' :: 'n' :: rest => some ((), rest)
  | _ => none

/-- Take a float. -/
def takeFloat : Scan Unit := fun s =>
  match takeDigitFloat s with
  | some r => some r
  | none => takeNamedFloat s

end ReleaseGate.Toml
