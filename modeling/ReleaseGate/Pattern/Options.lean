import ReleaseGate.Text.Space
import ReleaseGate.Pattern.Expr

/-!
# Options of a pattern

What the flags of a pattern say about the part of it that follows them, and the leaves of a
pattern that depend on them: literal characters, the dot, line anchors and word boundaries.
-/

namespace ReleaseGate.Pattern

/-- The options under which a part of a pattern is read. -/
structure Options where
  /-- Letters match in either case. -/
  ignoreCase : Bool
  /-- The anchors match at every line. -/
  multiLine : Bool
  /-- The dot matches line feeds too. -/
  dotAll : Bool
  /-- Greedy and lazy repetitions change places. -/
  swapGreed : Bool
  /-- Classes are those of Unicode, not of ASCII. -/
  unicode : Bool
  /-- A carriage return with a line feed is one line end. -/
  crlf : Bool
  /-- White space and comments are no part of the pattern. -/
  verbose : Bool

/-- The options at the start of a pattern. -/
def Options.initial : Options :=
  { ignoreCase := false, multiLine := false, dotAll := false, swapGreed := false,
    unicode := true, crlf := false, verbose := false }

/-- Set the option that a flag letter names. -/
def Options.set? (o : Options) (flag : Char) (on : Bool) : Option Options :=
  match flag with
  | 'i' => some { o with ignoreCase := on }
  | 'm' => some { o with multiLine := on }
  | 's' => some { o with dotAll := on }
  | 'U' => some { o with swapGreed := on }
  | 'u' => some { o with unicode := on }
  | 'R' => some { o with crlf := on }
  | 'x' => some { o with verbose := on }
  | _ => none

/-- An ASCII word character. -/
def isAsciiWord (c : Char) : Bool :=
  Unicode.isAsciiLetter c || Unicode.isAsciiDigit c || c == '_'

/-- White space of ASCII. -/
def isAsciiSpace (c : Char) : Bool := c == ' ' || (9 ≤ c.toNat && c.toNat ≤ 13)

namespace Options

/-- The word characters under the options. -/
def word (o : Options) : Char → Bool := if o.unicode then Unicode.isWord else isAsciiWord

/-- A class up to case, where the options ask for it. -/
def foldClass (o : Options) (k : CharClass) : CharClass :=
  if o.ignoreCase then if o.unicode then .folded k else .asciiFolded k else k

/-- The dot. It is refused where it could match a part of a character. -/
def dot? (o : Options) : Option CharClass :=
  if !o.unicode then none
  else if o.dotAll then some .any
  else if o.crlf then some (.having fun c => c != '\r' && c != '\n')
  else some (.having (· != '\n'))

/-- The anchor `^`. -/
def startAnchor (o : Options) : Look :=
  if o.multiLine then if o.crlf then .crlfLineStart else .lineStart else .textStart

/-- The anchor `$`. -/
def endAnchor (o : Options) : Look :=
  if o.multiLine then if o.crlf then .crlfLineEnd else .lineEnd else .textEnd

/-- The class `\d`, `\s` or `\w` by its lower-case letter. -/
def letterClass? (o : Options) (letter : Char) : Option (Char → Bool) :=
  match letter with
  | 'd' => some (if o.unicode then Unicode.isDigit else Unicode.isAsciiDigit)
  | 's' => some (if o.unicode then Text.isSpace else isAsciiSpace)
  | 'w' => some o.word
  | _ => none

end Options

/-- Skip white space and comments; a comment runs from `#` through the end of its line. -/
def skipVerbose : (inComment : Bool) → List Char → List Char
  | _, [] => []
  | true, c :: s => skipVerbose (c != '\n') s
  | false, c :: s =>
    if Text.isSpace c then skipVerbose false s
    else if c = '#' then skipVerbose true s
    else c :: s

/-- Skip what is no part of the pattern under the options. -/
def Options.skip (o : Options) (s : List Char) : List Char :=
  if o.verbose then skipVerbose false s else s

/-- A POSIX class of ASCII characters by its name. -/
def posixClass? (name : String) : Option (Char → Bool) :=
  match name with
  | "alnum" => some fun c => Unicode.isAsciiLetter c || Unicode.isAsciiDigit c
  | "alpha" => some Unicode.isAsciiLetter
  | "ascii" => some Unicode.isAscii
  | "blank" => some Text.isIndent
  | "cntrl" => some fun c => c.toNat < 0x20 || c.toNat == 0x7F
  | "digit" => some Unicode.isAsciiDigit
  | "graph" => some fun c => '!' ≤ c && c ≤ '~'
  | "lower" => some fun c => 'a' ≤ c && c ≤ 'z'
  | "print" => some fun c => ' ' ≤ c && c ≤ '~'
  | "punct" => some fun c =>
    '!' ≤ c && c ≤ '~' && !Unicode.isAsciiLetter c && !Unicode.isAsciiDigit c
  | "space" => some isAsciiSpace
  | "upper" => some fun c => 'A' ≤ c && c ≤ 'Z'
  | "word" => some isAsciiWord
  | "xdigit" => some fun c =>
    Unicode.isAsciiDigit c || ('a' ≤ c && c ≤ 'f') || ('A' ≤ c && c ≤ 'F')
  | _ => none

end ReleaseGate.Pattern
