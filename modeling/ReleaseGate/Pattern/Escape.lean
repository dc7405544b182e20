import ReleaseGate.Pattern.Options
import ReleaseGate.Unicode.ClassName

/-!
# Escapes

What a backslash stands for, outside and inside brackets: literal characters in several spellings,
classes, and conditions on positions.
-/

namespace ReleaseGate.Pattern

/-- What an escape, or a plain character, stands for. -/
inductive Atom
  /-- A character. `asByte` tells the two-digit form, which names a byte where classes are those
  of ASCII. -/
  | literal (c : Char) (asByte : Bool)
  /-- A class, with the room in bytes that an automaton for it takes. -/
  | cls (k : CharClass) (weight : Nat)
  | look (l : Look)

/-- Characters that mean something in a pattern: an escape makes them literal. -/
def isMeta (c : Char) : Bool := "\\.+*?()|[]\x7b\x7d^$#&-~".toList.contains c

/-- Characters that an escape leaves as they are. -/
def isEscapable (c : Char) : Bool :=
  isMeta c || (Unicode.isAscii c && !Unicode.isAsciiLetter c && !Unicode.isAsciiDigit c &&
    c != '<' && c != '>')

/-- The value of a hexadecimal digit. -/
def hexDigit? (c : Char) : Option Nat :=
  if Unicode.isAsciiDigit c then some (c.toNat - '0'.toNat)
  else if 'a' ≤ c && c ≤ 'f' then some (c.toNat - 'a'.toNat + 10)
  else if 'A' ≤ c && c ≤ 'F' then some (c.toNat - 'A'.toNat + 10)
  else none

/-- The character of a code point; surrogates and numbers beyond the last one have none. -/
def charOfCode? (n : Nat) : Option Char :=
  if h : n.isValidChar then some (Char.ofNatAux n h) else none

/-- Exactly `n` hexadecimal digits; in verbose patterns, with white space between them. -/
def hexDigits (o : Options) : (n acc : Nat) → List Char → Option (Nat × List Char)
  | 0, acc, s => some (acc, s)
  | _ + 1, _, [] => none
  | n + 1, acc, c :: s =>
    match hexDigit? c with
    | none => none
    | some d => hexDigits o n (16 * acc + d) (o.skip s)

/-- Hexadecimal digits up to a closing brace. `fuel` bounds their number. -/
def bracedHex (o : Options) : (fuel : Nat) → (digits : List Nat) → List Char →
    Option (List Nat × List Char)
  | 0, _, _ => none
  | _ + 1, _, [] => none
  | fuel + 1, digits, c :: s =>
    if c = '\x7d' then some (digits.reverse, o.skip s)
    else
      match hexDigit? c with
      | none => none
      | some d => bracedHex o fuel (d :: digits) (o.skip s)

/-- The number that hexadecimal digits write. -/
def ofHexDigits (ds : List Nat) : Nat := ds.foldl (fun n d => 16 * n + d) 0

/-- A character by its code point, after `\x`, `\u` or `\U`. -/
def hexEscape (o : Options) (letter : Char) (s : List Char) : Option (Atom × List Char) :=
  match o.skip s with
  | '\x7b' :: t =>
    match bracedHex o (t.length + 1) [] (o.skip t) with
    | none => none
    | some (ds, rest) =>
      if ds.isEmpty then none
      else (charOfCode? (ofHexDigits ds)).map fun c => (.literal c false, rest)
  | t =>
    let count := if letter = 'x' then 2 else if letter = 'u' then 4 else 8
    match hexDigits o count 0 t with
    | none => none
    | some (n, rest) => (charOfCode? n).map fun c => (.literal c (letter == 'x'), rest)

/-- The text up to a closing brace and what follows it. `fuel` bounds its length. -/
def bracedName (o : Options) : (fuel : Nat) → (name : List Char) → List Char →
    Option (List Char × List Char)
  | 0, _, _ => none
  | _ + 1, _, [] => none
  | fuel + 1, name, c :: s =>
    if c = '\x7d' then some (name.reverse, s) else bracedName o fuel (c :: name) (o.skip s)

/-- The text before and after the first place where `sep` stands. -/
def cutAt? (sep : List Char) : List Char → Option (List Char × List Char)
  | [] => none
  | c :: s =>
    if (c :: s).take sep.length = sep then some ([], (c :: s).drop sep.length)
    else (cutAt? sep s).map fun p => (c :: p.1, p.2)

/-- The class that the text in the braces of `\p` names, and whether `!=` stands in it. -/
def bracedClass? (name : List Char) : Option ((Char → Bool) × Bool) :=
  match cutAt? ['!', '='] name with
  | some (n, v) => (Unicode.valuedClass? n v).map (·, true)
  | none =>
    match cutAt? [':'] name with
    | some (n, v) => (Unicode.valuedClass? n v).map (·, false)
    | none =>
      match cutAt? ['='] name with
      | some (n, v) => (Unicode.valuedClass? n v).map (·, false)
      | none => (Unicode.namedClass? name).map (·, false)

/-- How much room the automaton of a named class takes, in bytes: a rough figure, taken from the
classes of letters. -/
def namedClassWeight : Nat := 40000

/-- How much room the automaton of `\d`, `\s` or `\w` takes, in bytes: rough figures. -/
def letterClassWeight (o : Options) (letter : Char) : Nat :=
  if !o.unicode then 64
  else if letter.toLower = 'd' then 7000
  else if letter.toLower = 's' then 700
  else 50000

/-- A class of Unicode, after `\p` or `\P`. -/
def propertyEscape (o : Options) (negated : Bool) (s : List Char) : Option (Atom × List Char) :=
  if !o.unicode then none
  else
    let result (p : Char → Bool) (flip : Bool) : Atom :=
      let k := o.foldClass (.having p)
      .cls (if negated != flip then .compl k else k) namedClassWeight
    match o.skip s with
    | [] => none
    | '\x7b' :: t =>
      match bracedName o (t.length + 1) [] (o.skip t) with
      | none => none
      | some (name, rest) => (bracedClass? name).map fun p => (result p.1 p.2, rest)
    | c :: t =>
      if c = '\\' then none
      else (Unicode.namedClass? [c]).map fun p => (result p false, o.skip t)

/-- What may stand in the braces of `\b`. -/
def isBoundaryName (c : Char) : Bool := Unicode.isAsciiLetter c || c == '-'

/-- The letters of a boundary's name and what follows. `fuel` bounds their number. -/
def boundaryName (o : Options) : (fuel : Nat) → (name : List Char) → List Char →
    List Char × List Char
  | 0, name, s => (name.reverse, s)
  | _ + 1, name, [] => (name.reverse, [])
  | fuel + 1, name, c :: s =>
    if isBoundaryName c then boundaryName o fuel (c :: name) (o.skip s) else (name.reverse, c :: s)

/-- The boundary that stands in braces after `\b`. With no letter after the brace there is none:
the brace opens a repetition then. -/
def boundaryEscape (o : Options) (s : List Char) : Option (Atom × List Char) :=
  match s with
  | '\x7b' :: t =>
    match o.skip t with
    | [] => none
    | c :: u =>
      if !isBoundaryName c then some (.look (.boundary o.word), s)
      else
        match boundaryName o (u.length + 2) [] (c :: u) with
        | (name, '\x7d' :: rest) =>
          match String.ofList name with
          | "start" => some (.look (.wordStart o.word), rest)
          | "end" => some (.look (.wordEnd o.word), rest)
          | "start-half" => some (.look (.wordStartHalf o.word), rest)
          | "end-half" => some (.look (.wordEndHalf o.word), rest)
          | _ => none
        | _ => none
  | _ => some (.look (.boundary o.word), s)

/-- The control character that a letter names. -/
def controlEscape? : Char → Option Char
  | 'a' => some '\x07'
  | 'f' => some '\x0c'
  | 't' => some '\t'
  | 'n' => some '\n'
  | 'r' => some '\r'
  | 'v' => some '\x0b'
  | _ => none

/-- Read an escape from what follows its backslash. Digits would be references back and are
refused. -/
def escape (o : Options) : List Char → Option (Atom × List Char)
  | [] => none
  | c :: s =>
    if c = 'x' || c = 'u' || c = 'U' then hexEscape o c s
    else if c = 'p' || c = 'P' then propertyEscape o (c == 'P') s
    else
      match o.letterClass? c with
      | some p => some (.cls (.having p) (letterClassWeight o c), s)
      | none =>
        match if Unicode.isAsciiLetter c then o.letterClass? c.toLower else none with
        | some p =>
          if o.unicode then some (.cls (.compl (.having p)) (letterClassWeight o c), s) else none
        | none =>
          if isEscapable c then some (.literal c false, s)
          else
            match controlEscape? c with
            | some d => some (.literal d false, s)
            | none =>
              match c with
              | 'A' => some (.look .textStart, s)
              | 'z' => some (.look .textEnd, s)
              | 'b' => boundaryEscape o s
              | 'B' => some (.look (.notBoundary o.word), s)
              | '<' => some (.look (.wordStart o.word), s)
              | '>' => some (.look (.wordEnd o.word), s)
              | _ => none

end ReleaseGate.Pattern
