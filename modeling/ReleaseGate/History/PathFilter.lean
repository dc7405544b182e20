import ReleaseGate.History.Glob

/-!
# Path filters

How the version-control library reads the paths that limit a diff. They are patterns for paths from
the top of the repository, tried in order; the first one that matches decides, and one behind an
exclamation mark decides against the file. Before that, only files are looked at whose paths start
with what all patterns have in common before their first glob. Nothing is refused: a pattern that
says nothing is passed over.
-/

namespace ReleaseGate.History

open Text (Bytes)

/-- A pattern of a filter. -/
structure FilterPattern where
  /-- Whether every file matches. -/
  matchesAll : Bool
  negative : Bool
  /-- Whether a glob stands in the pattern. -/
  hasGlob : Bool
  pattern : Bytes

/-- White space that may stand in a pattern. -/
def isInnerSpace (b : UInt8) : Bool := b == 32 || b == 9 || b == 13

/-- White space that ends a pattern. -/
def endsPattern (b : UInt8) : Bool := b == 10 || b == 11 || b == 12

/-- A byte that makes a glob. -/
def isGlobByte (b : UInt8) : Bool := b == byte '*' || b == byte '?' || b == byte '['

/-- The backslash as a byte. -/
def backslashByte : UInt8 := 92

/-- The part of a pattern up to white space that ends it, and whether a glob stands in it. A byte
behind a backslash has no meaning. -/
def scanPattern : (escaped : Bool) → Bytes → Bytes × Bool
  | _, [] => ([], false)
  | escaped, b :: s =>
    if b = backslashByte && !escaped then
      let (rest, glob) := scanPattern true s
      (b :: rest, glob)
    else if endsPattern b && !escaped then ([], false)
    else
      let (rest, glob) := scanPattern false s
      (b :: rest, glob || (isGlobByte b && !escaped))

/-- Blanks and tabs taken off the front of a pattern that is given with its last byte first. One
behind an odd number of backslashes stays. -/
def dropEndBlanks : Bytes → Bytes
  | [] => []
  | b :: s =>
    if (b == 32 || b == 9) && (s.takeWhile (· == backslashByte)).length % 2 == 0 then
      dropEndBlanks s
    else b :: s

/-- A pattern without the backslashes before white space. -/
def unescapeSpaces : Bytes → Bytes
  | [] => []
  | [b] => if b = backslashByte then [] else [b]
  | b :: c :: s =>
    if b = backslashByte then
      if isInnerSpace c || endsPattern c then c :: unescapeSpaces s else b :: c :: unescapeSpaces s
    else b :: unescapeSpaces (c :: s)

/-- The pattern without a byte at its end. -/
def dropLastByte (b : UInt8) (s : Bytes) : Bytes := if s.getLast? = some b then s.dropLast else s

/-- Read a pattern, unless it says nothing. -/
def FilterPattern.read? (s : Bytes) : Option FilterPattern :=
  if s = [byte '*'] ∨ s = [byte '.'] then some ⟨true, false, false, s⟩
  else
    match s with
    | [] => none
    | b :: rest =>
      if b = byte '#' ∨ b = 10 ∨ (b = 13 ∧ rest.head? = some 10) then none
      else
        let (negative, s) := if b = byte '!' then (true, rest) else (false, b :: rest)
        let (text, glob) := scanPattern false s
        let text := if text.head? = some slash then text.drop 1 else text
        let text := (dropEndBlanks (dropLastByte 13 text).reverse).reverse
        if text = [] then none
        else some ⟨false, negative, glob, unescapeSpaces (dropLastByte slash text)⟩

/-- Whether a file is the one that a pattern without globs names, or below it. -/
def isNamed (pattern file : Bytes) : Bool :=
  file.take pattern.length == pattern &&
    match file[pattern.length]? with
    | none => true
    | some b => b == slash

/-- What a pattern decides about a file, if it matches. -/
def FilterPattern.decides (p : FilterPattern) (file : Bytes) : Option Bool :=
  if p.matchesAll || p.pattern == file || globMatches ⟨false, false⟩ p.pattern file ||
      (!p.hasGlob && p.pattern.length < file.length && isNamed p.pattern file) then
    some !p.negative
  else if p.negative && file.head? == some (byte '!') && isNamed p.pattern (file.drop 1) then
    some true
  else none

/-- What two byte sequences have in common at their fronts. -/
def commonFront : Bytes → Bytes → Bytes
  | a :: s, b :: t => if a = b then a :: commonFront s t else []
  | _, _ => []

/-- What a list of byte sequences has in common at the fronts. -/
def sharedFront : List Bytes → Bytes
  | [] => []
  | [s] => s
  | s :: ss => commonFront s (sharedFront ss)

/-- The part before the first glob; a glob behind a backslash is none. -/
def beforeGlob : (before : Option UInt8) → Bytes → Bytes
  | _, [] => []
  | before, b :: s =>
    if isGlobByte b && before != some backslashByte then [] else b :: beforeGlob (some b) s

/-- Bytes without the backslashes before others. -/
def unescape : Bytes → Bytes
  | [] => []
  | [b] => [b]
  | b :: c :: s => if b = backslashByte then c :: unescape s else b :: unescape (c :: s)

/-- What every path has to start with. -/
def requiredFront (patterns : List Bytes) : Bytes := unescape (beforeGlob none (sharedFront patterns))

/-- Whether patterns select a file. Where none of them says anything, every file is selected. -/
def filterSelects (patterns : List Bytes) (file : Bytes) : Bool :=
  let front := requiredFront patterns
  let read := patterns.filterMap FilterPattern.read?
  file.take front.length == front &&
    (read.isEmpty || (read.findSome? fun p => p.decides file).getD false)

/-- The selection of files that paths ask for. -/
def filterSelection (paths : List String) (file : String) : Bool :=
  filterSelects (paths.map Text.Utf8.encode) (Text.Utf8.encode file)

end ReleaseGate.History
