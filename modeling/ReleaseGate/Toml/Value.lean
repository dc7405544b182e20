import ReleaseGate.Toml.Assembly
import ReleaseGate.Toml.Moment
import ReleaseGate.Toml.Number
import ReleaseGate.Toml.Quoted

/-!
# Keys and values

The reading of keys, which may be dotted, and of values. Arrays and tables in braces nest; the
readers for them are built from the reader for the values inside, and the depth of nesting is what
the recursion runs on.
-/

namespace ReleaseGate.Toml

/-- A character of a key without quotes. -/
def isKeyChar (c : Char) : Bool :=
  isDigit c || ('a' ≤ c && c ≤ 'z') || ('A' ≤ c && c ≤ 'Z') || c == '-' || c == '_'

/-- Take a simple key: quoted on one line, or bare. -/
def takeKey : Scan Key
  | [] => none
  | c :: s =>
    if c = doubleQuote ∨ c = singleQuote then takeShortQuoted (c :: s)
    else if isKeyChar c then some ((c :: s).takeWhile isKeyChar, (c :: s).dropWhile isKeyChar)
    else none

/-- Take a dotted key; blanks may stand around each part. `fuel` bounds the number of parts. -/
def takeKeysWith : (fuel : Nat) → Scan (List Key)
  | 0, _ => none
  | fuel + 1, s => do
    let (key, s) ← takeKey (dropBlanks s)
    match dropBlanks s with
    | '.' :: s =>
      let (keys, s) ← takeKeysWith fuel s
      return (key :: keys, s)
    | s => return ([key], s)

/-- A dotted key has fewer parts than this. -/
def maxParts : Nat := 80

/-- Take a dotted key. -/
def takeKeys : Scan (List Key) := takeKeysWith (maxParts - 1)

/-- Take a truth value. -/
def takeBoolean : Scan Bool
  | 't' :: 'r' :: 'u' :: 'e' :: s => some (true, s)
  | 'f' :: 'a' :: 'l' :: 's' :: 'e' :: s => some (false, s)
  | _ => none

/-- What a scan took, as text. -/
def taken (s rest : List Char) : List Char := s.take (s.length - rest.length)

/-- Take a value that holds no others. -/
def takeSimple : Scan Item := fun s =>
  match takeQuoted s with
  | some (text, rest) => some (.string text, rest)
  | none =>
    match takeMoment s with
    | some (_, rest) => some (.moment (taken s rest), rest)
    | none =>
      match takeFloat s with
      | some (_, rest) => some (.float (taken s rest), rest)
      | none =>
        match takeInteger s with
        | some (n, rest) => some (.integer n, rest)
        | none => (takeBoolean s).map fun (b, rest) => (.boolean b, rest)

/-- Take the elements of an array and its closing bracket. A comma may stand after the last one.
`fuel` bounds their number. -/
def takeElements (value : Scan Item) : (fuel : Nat) → Scan (List Item)
  | 0, _ => none
  | fuel + 1, s =>
    match dropLines s with
    | ']' :: rest => some ([], rest)
    | t => do
      let (item, s) ← value t
      match dropLines s with
      | ']' :: rest => return ([item], rest)
      | ',' :: s =>
        let (items, rest) ← takeElements value fuel s
        return (item :: items, rest)
      | _ => none

/-- Take a key, an equals sign and a value. -/
def takePair (value : Scan Item) : Scan Pair := fun s => do
  let (keys, s) ← takeKeys s
  let (_, s) ← takeChar '=' s
  let (item, s) ← value (dropBlanks s)
  match keys.getLast? with
  | some key => return (⟨keys.dropLast, key, item⟩, s)
  | none => none

/-- Take the pairs of a table in braces and its closing brace. `fuel` bounds their number. -/
def takeMembers (value : Scan Item) : (fuel : Nat) → Scan (List Pair)
  | 0, _ => none
  | fuel + 1, s => do
    let (pair, s) ← takePair value s
    match dropBlanks s with
    | '\x7d' :: rest => return ([pair], rest)
    | ',' :: s =>
      let (pairs, rest) ← takeMembers value fuel s
      return (pair :: pairs, rest)
    | _ => none

/-- Take a table after its opening brace. -/
def takeTable (value : Scan Item) : Scan Item := fun s => do
  let (pairs, rest) ← match dropBlanks s with
    | '\x7d' :: rest => some ([], rest)
    | _ => takeMembers value (s.length + 1) s
  let item ← closedTable? pairs
  return (item, rest)

/-- Take a value in which brackets and braces nest to some depth. -/
def takeValue : (depth : Nat) → Scan Item
  | 0, s => takeSimple s
  | depth + 1, s =>
    match s with
    | '[' :: t => (takeElements (takeValue depth) (t.length + 1) t).map fun (items, rest) =>
        (.array items, rest)
    | '\x7b' :: t => takeTable (takeValue depth) t
    | _ => takeSimple s

/-- The deepest nesting of brackets and braces. -/
def maxDepth : Nat := 79

end ReleaseGate.Toml
