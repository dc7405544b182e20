/-!
# Semantic versions

The reading of a version as a semantic version: three numbers, then optional pre-release and build
identifiers. Numbers have no leading zero and fit in 64 bits. Identifiers are separated by dots
and not empty; one of a pre-release that is a number has no leading zero either.
-/

namespace ReleaseGate.Release

/-- A semantic version. The identifiers are kept as text, without the signs before them. -/
structure Semver where
  major : Nat
  minor : Nat
  patch : Nat
  pre : String
  build : String
  deriving DecidableEq, Repr

namespace Semver

/-- A digit of a version number. -/
def isDigit (c : Char) : Bool := '0' ≤ c && c ≤ '9'

/-- A character of an identifier: an ASCII letter or digit, or a hyphen. -/
def isIdentifierChar (c : Char) : Bool :=
  isDigit c || ('a' ≤ c && c ≤ 'z') || ('A' ≤ c && c ≤ 'Z') || c == '-'

/-- The number that digits write. -/
def ofDigits (ds : List Char) : Nat := ds.foldl (fun n d => 10 * n + (d.toNat - '0'.toNat)) 0

/-- A number written without a leading zero, if it fits in 64 bits. -/
def number? (ds : List Char) : Option Nat :=
  match ds with
  | [] => none
  | ['0'] => some 0
  | '0' :: _ => none
  | _ => if ofDigits ds < UInt64.size then some (ofDigits ds) else none

/-- The number at the front and what follows it. -/
def takeNumber? (s : List Char) : Option (Nat × List Char) :=
  (number? (s.takeWhile isDigit)).map fun n => (n, s.dropWhile isDigit)

/-- The text after one given character. -/
def expect? (c : Char) : List Char → Option (List Char)
  | d :: s => if d = c then some s else none
  | [] => none

/-- The pieces of a text between dots. -/
def dotted : List Char → List (List Char)
  | [] => [[]]
  | c :: s =>
    if c = '.' then [] :: dotted s
    else
      match dotted s with
      | [] => [[c]]
      | l :: ls => (c :: l) :: ls

/-- Whether a piece may be an identifier; `strict` forbids numbers with a leading zero. -/
def isIdentifier (strict : Bool) (s : List Char) : Bool :=
  s ≠ [] && s.all isIdentifierChar &&
    !(strict && s.all isDigit && s.length > 1 && s.head? == some '0')

/-- Identifiers at the front and what follows them. -/
def takeIdentifiers? (strict : Bool) (s : List Char) : Option (List Char × List Char) :=
  let run := s.takeWhile fun c => isIdentifierChar c || c == '.'
  if (dotted run).all (isIdentifier strict) then
    some (run, s.dropWhile fun c => isIdentifierChar c || c == '.')
  else none

/-- The build identifiers at the end of a version. -/
def build? (s : List Char) : Option (List Char) :=
  match s with
  | [] => some []
  | '+' :: t =>
    match takeIdentifiers? false t with
    | some (ids, []) => some ids
    | _ => none
  | _ => none

/-- Read a semantic version. -/
def parse? (s : List Char) : Option Semver := do
  let (major, s) ← takeNumber? s
  let (minor, s) ← takeNumber? (← expect? '.' s)
  let (patch, s) ← takeNumber? (← expect? '.' s)
  let (pre, s) ← match s with
    | '-' :: t => takeIdentifiers? true t
    | t => some ([], t)
  let build ← build? s
  return ⟨major, minor, patch, String.ofList pre, String.ofList build⟩

end Semver

end ReleaseGate.Release
