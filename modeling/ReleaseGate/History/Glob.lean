import ReleaseGate.History.Content

/-!
# Globs

Patterns for paths, over bytes. A star stands for any bytes and a question mark for one; where the
pattern goes by path components, neither takes a slash, and two stars between slashes stand for
directories. A pattern is first read into tokens; one that cannot be read further ends in a token
that nothing matches.
-/

namespace ReleaseGate.History

open Text (Bytes)

/-- How a pattern is matched. -/
structure GlobMode where
  /-- Whether stars and question marks stay within a path component. -/
  byComponent : Bool
  /-- Whether ASCII letters match in either case. -/
  foldsCase : Bool
  deriving DecidableEq, Repr

/-- A token of a pattern. -/
inductive GlobToken
  /-- A byte in a class. -/
  | one (mem : UInt8 → Bool)
  /-- Any bytes, with or without slashes. -/
  | star (crossing : Bool)
  /-- Nothing, or any bytes and a slash after them. -/
  | directories
  /-- What nothing matches. -/
  | never

/-- The slash as a byte. -/
def slash : UInt8 := 47

/-- An ASCII letter in lower case. -/
def lowerByte (b : UInt8) : UInt8 := if 65 ≤ b && b ≤ 90 then b + 32 else b

/-- An ASCII letter in upper case. -/
def upperByte (b : UInt8) : UInt8 := if 97 ≤ b && b ≤ 122 then b - 32 else b

/-- A byte of the text as it is compared. -/
def GlobMode.fold (mode : GlobMode) (b : UInt8) : UInt8 :=
  if mode.foldsCase then lowerByte b else b

/-- The bytes of a named class of ASCII characters. -/
def asciiClass? (mode : GlobMode) (name : Bytes) : Option (UInt8 → Bool) :=
  let upper (b : UInt8) : Bool := 65 ≤ b && b ≤ 90
  let lower (b : UInt8) : Bool := 97 ≤ b && b ≤ 122
  let digit (b : UInt8) : Bool := 48 ≤ b && b ≤ 57
  let graph (b : UInt8) : Bool := 33 ≤ b && b ≤ 126
  let is (s : String) : Bool := name == Text.Utf8.encode s
  if is "alnum" then some fun b => upper b || lower b || digit b
  else if is "alpha" then some fun b => upper b || lower b
  else if is "blank" then some fun b => b == 32 || b == 9
  else if is "cntrl" then some fun b => b < 32 || b == 127
  else if is "digit" then some digit
  else if is "graph" then some graph
  else if is "lower" then some lower
  else if is "print" then some fun b => graph b || b == 32
  else if is "punct" then some fun b => graph b && !(upper b || lower b || digit b)
  else if is "space" then some fun b => b == 32 || b == 9 || b == 10 || b == 13
  else if is "upper" then some fun b => upper b || (mode.foldsCase && lower b)
  else if is "xdigit" then some fun b => digit b || (65 ≤ b && b ≤ 70) || (97 ≤ b && b ≤ 102)
  else none

/-- Whether a byte lies in a range, in one of its cases where case does not count. -/
def inRange (mode : GlobMode) (lo hi b : UInt8) : Bool :=
  (lo ≤ b && b ≤ hi) ||
    (mode.foldsCase && b != upperByte b && lo ≤ upperByte b && upperByte b ≤ hi)

/-- A class with one more byte. -/
def withByte (mem : UInt8 → Bool) (c : UInt8) : UInt8 → Bool := fun b => mem b || b == c

/-- The last byte of a range, after its hyphen, and the rest; nothing if no range ends here. -/
def rangeEnd? : Bytes → Option (Option (UInt8 × Bytes))
  | [] => none
  | c :: s =>
    if c = byte ']' then none
    else if c = byte '\x5c' then
      match s with
      | [] => some none
      | d :: s => some (some (d, s))
    else some (some (c, s))

/-- The name of a class in brackets and colons, after its first bracket, and the rest; nothing if
no such name stands here. -/
def className? : Bytes → Option (Option (Bytes × Bytes))
  | [] => none
  | c :: s =>
    if c ≠ byte ':' then none
    else
      let name := s.takeWhile (· != byte ']')
      if name.length = s.length then some none
      else if name.getLast? = some (byte ':') then
        some (some (name.dropLast, s.drop (name.length + 1)))
      else none

/-- Read the members of a bracket up to its end. `before` is the member before, if a range can
start at it, and `atFront` tells whether a closing bracket would still be a member. `fuel` bounds
their number. -/
def readBracket (mode : GlobMode) : (fuel : Nat) → (atFront : Bool) → (before : Option UInt8) →
    (mem : UInt8 → Bool) → Bytes → Option ((UInt8 → Bool) × Bytes)
  | 0, _, _, _, _ => none
  | _ + 1, _, _, _, [] => none
  | fuel + 1, atFront, before, mem, c :: s =>
    if c = byte ']' && !atFront then some (mem, s)
    else if c = byte '\x5c' then
      match s with
      | [] => none
      | d :: s => readBracket mode fuel false (some d) (withByte mem d) s
    else
      match if c = byte '-' then before else none, rangeEnd? s with
      | some lo, some range =>
        match range with
        | some (hi, s) =>
          readBracket mode fuel false none (fun b => mem b || inRange mode lo hi b) s
        | none => none
      | _, _ =>
        match if c = byte '[' then className? s else none with
        | some (some (name, s)) =>
          match asciiClass? mode name with
          | some k => readBracket mode fuel false none (fun b => mem b || k b) s
          | none => none
        | some none => none
        | none => readBracket mode fuel false (some c) (withByte mem c) s

/-- The tokens of a pattern. `before` is the byte before, or none at the front; `fuel` bounds the
length of the pattern. -/
def globTokens (mode : GlobMode) : (fuel : Nat) → (before : Option UInt8) → Bytes → List GlobToken
  | 0, _, _ => []
  | _ + 1, _, [] => []
  | fuel + 1, before, c :: s =>
    if c = byte '\x5c' then
      match s with
      | [] => [.never]
      | d :: s => .one (· == d) :: globTokens mode fuel (some d) s
    else if c = byte '?' then
      .one (fun b => !mode.byComponent || b != slash) :: globTokens mode fuel (some c) s
    else if c = byte '*' then
      let more := s.takeWhile (· == byte '*')
      let s := s.drop more.length
      if !mode.byComponent then .star true :: globTokens mode fuel (some c) s
      else if more ≠ [] && (before.isNone || before == some slash) then
        match s with
        | [] => [.star true]
        | d :: t =>
          if d = slash then .directories :: globTokens mode fuel (some d) t
          else if d = byte '\x5c' && t.head? == some slash then
            .star true :: globTokens mode fuel (some c) s
          else .star false :: globTokens mode fuel (some c) s
      else .star false :: globTokens mode fuel (some c) s
    else if c = byte '[' then
      let (negated, t) := match s with
        | d :: t => if d = byte '!' || d = byte '^' then (true, t) else (false, s)
        | [] => (false, s)
      match readBracket mode (t.length + 1) true none (fun _ => false) t with
      | some (mem, rest) =>
        .one (fun b => mem b != negated && !(mode.byComponent && b == slash)) ::
          globTokens mode fuel (some (byte ']')) rest
      | none => [.never]
    else .one (· == mode.fold c) :: globTokens mode fuel (some c) s

/-- Whether a predicate holds of what is left after some bytes, slashes among them only if they may
be crossed. -/
def holdsAfter (crossing : Bool) (p : Bytes → Bool) : Bytes → Bool
  | [] => p []
  | b :: s => p (b :: s) || ((crossing || b != slash) && holdsAfter crossing p s)

/-- Whether a predicate holds of what follows some slash. -/
def holdsAfterSlash (p : Bytes → Bool) : Bytes → Bool
  | [] => false
  | b :: s => (b == slash && p s) || holdsAfterSlash p s

/-- Whether tokens match a text. -/
def matchTokens (mode : GlobMode) : List GlobToken → Bytes → Bool
  | [], s => s.isEmpty
  | .never :: _, _ => false
  | .one mem :: ts, s =>
    match s with
    | [] => false
    | b :: s => mem (mode.fold b) && matchTokens mode ts s
  | .star crossing :: ts, s => holdsAfter crossing (matchTokens mode ts) s
  | .directories :: ts, s => matchTokens mode ts s || holdsAfterSlash (matchTokens mode ts) s

/-- Whether a pattern matches a text. -/
def globMatches (mode : GlobMode) (pattern text : Bytes) : Bool :=
  matchTokens mode (globTokens mode (pattern.length + 1) none pattern) text

/-- A byte with a meaning of its own in a pattern. -/
def isGlobSpecial (b : UInt8) : Bool :=
  b == byte '*' || b == byte '?' || b == byte '[' || b == byte '\x5c'

end ReleaseGate.History
