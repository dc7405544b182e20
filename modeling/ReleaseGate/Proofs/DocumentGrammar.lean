import Mathlib.Algebra.Group.Nat.Defs
import Mathlib.Algebra.Ring.Int.Defs
import ReleaseGate.Proofs.DocumentLayout
import ReleaseGate.Toml.Reading

/-!
# The grammar of documents

How a document may be written. Every form of the format has a predicate that relates what is meant
to the characters that are written: texts with their escapes, numbers, moments, keys, arrays and
tables in braces, headers and lines. A document is written by its lines (`BodyText`) and laid out by
what they give (`Layout.LaysOut`); both together are `Writes`.

The format knows no limits on the depth of brackets, on the parts of a dotted key and on the size of
a float. A reader has some, so the grammar is given with them (`Limits`), and a document of the
format is one within some limits (`IsDocument`).
-/

namespace ReleaseGate.Toml

/-- How far a document may go. -/
structure Limits where
  /-- The deepest nesting of brackets and braces. -/
  depth : Nat
  /-- The most parts of a dotted key. -/
  parts : Nat
  /-- Whether floats that are written in digits, without a minus sign, are finite as doubles. -/
  finite : Bool
  deriving DecidableEq, Repr

/-! ### Blanks, comments and line ends -/

/-- Blanks, or nothing. -/
def Blanks (w : List Char) : Prop := ∀ c ∈ w, isBlank c = true

/-- A line end. -/
inductive LineBreak : List Char → Prop
  | lf : LineBreak ['\n']
  | crLf : LineBreak ['\r', '\n']

/-- A comment, or nothing. -/
inductive Remark : List Char → Prop
  | none : Remark []
  | some {w} (hw : ∀ c ∈ w, isPlain c = true) : Remark ('#' :: w)

/-- Blanks, comments and line ends between the elements of an array. -/
inductive Gap : List Char → Prop
  | blanks {b} (hb : Blanks b) : Gap b
  | line {b r n g} (hb : Blanks b) (hr : Remark r) (hn : LineBreak n) (h : Gap g) :
    Gap (b ++ r ++ n ++ g)

/-- What may stand at the end of a line before the text `t`: blanks, a comment and, unless the text
ends there, a line end. -/
inductive LineEnd (t : List Char) : List Char → Prop
  | broken {b r n} (hb : Blanks b) (hr : Remark r) (hn : LineBreak n) : LineEnd t (b ++ r ++ n)
  | last {b r} (hb : Blanks b) (hr : Remark r) (ht : t = []) : LineEnd t (b ++ r)

/-! ### Texts -/

/-- An escape after its backslash: a sign, or the code point in four or eight digits. -/
inductive Escape : Char → List Char → Prop
  | sign {c e} (h : (c, e) ∈ [('\x08', 'b'), ('\t', 't'), ('\n', 'n'), ('\x0c', 'f'), ('\r', 'r'),
      (doubleQuote, doubleQuote), (backslash, backslash)]) : Escape c [e]
  | short {c w} (hlength : w.length = 4) (hdigits : w.all isHexDigit = true)
    (hcode : ofDigits 16 w = c.toNat) : Escape c ('u' :: w)
  | long {c w} (hlength : w.length = 8) (hdigits : w.all isHexDigit = true)
    (hcode : ofDigits 16 w = c.toNat) : Escape c ('U' :: w)

/-- The inside of a text in double quotes on one line. -/
inductive BasicText : List Char → List Char → Prop
  | nil : BasicText [] []
  | plain {c cs w} (hc : isPlain c = true) (hquote : c ≠ doubleQuote) (hback : c ≠ backslash)
    (h : BasicText cs w) : BasicText (c :: cs) (c :: w)
  | escape {c cs e w} (he : Escape c e) (h : BasicText cs w) :
    BasicText (c :: cs) (backslash :: e ++ w)

/-- A text on one line, in double quotes or, without escapes, in single ones. -/
inductive ShortText : List Char → List Char → Prop
  | basic {cs w} (h : BasicText cs w) : ShortText cs (doubleQuote :: w ++ [doubleQuote])
  | literal {w} (hw : ∀ c ∈ w, isPlain c = true ∧ c ≠ singleQuote) :
    ShortText w (singleQuote :: w ++ [singleQuote])

/-- Blanks and line ends. -/
inductive Spaces : List Char → Prop
  | blanks {b} (hb : Blanks b) : Spaces b
  | line {b n s} (hb : Blanks b) (hn : LineBreak n) (h : Spaces s) : Spaces (b ++ n ++ s)

/-- A text that starts with something other than a blank or a line end. -/
def StartsSolid (w : List Char) : Prop := ∀ c ∈ w.head?, isBlank c = false ∧ c ≠ '\n' ∧ c ≠ '\r'

/-- The inside of a text between three quotes, with the closing ones. A line end after a backslash
is hidden, with all blanks and line ends that follow. -/
inductive LongText (quote : Char) (escapes : Bool) : List Char → List Char → Prop
  | close {n} (hn : n ≤ 2) :
    LongText quote escapes (List.replicate n quote) (List.replicate (n + 3) quote)
  | quotes {n cs w} (hpos : 0 < n) (hn : n ≤ 2) (h : LongText quote escapes cs w)
    (hw : w.head? ≠ some quote) :
    LongText quote escapes (List.replicate n quote ++ cs) (List.replicate n quote ++ w)
  | plain {c cs w} (hc : isPlain c = true) (hquote : c ≠ quote)
    (hback : escapes = true → c ≠ backslash) (h : LongText quote escapes cs w) :
    LongText quote escapes (c :: cs) (c :: w)
  | newline {n cs w} (hn : LineBreak n) (h : LongText quote escapes cs w) :
    LongText quote escapes ('\n' :: cs) (n ++ w)
  | escape {c cs e w} (hescapes : escapes = true) (he : Escape c e)
    (h : LongText quote escapes cs w) : LongText quote escapes (c :: cs) (backslash :: e ++ w)
  | hidden {b n s cs w} (hescapes : escapes = true) (hb : Blanks b) (hn : LineBreak n)
    (hs : Spaces s) (h : LongText quote escapes cs w) (hw : StartsSolid w) :
    LongText quote escapes cs (backslash :: b ++ n ++ s ++ w)

/-- A text of any form. A line end just after three opening quotes is no part of it. -/
inductive QuotedText : List Char → List Char → Prop
  | short {cs w} (h : ShortText cs w) : QuotedText cs w
  | long {quote escapes n cs w}
    (hquote : (quote, escapes) ∈ [(doubleQuote, true), (singleQuote, false)])
    (hn : LineBreak n ∨ n = [] ∧ w.head? ≠ some '\n' ∧ w.head? ≠ some '\r')
    (h : LongText quote escapes cs w) : QuotedText cs (List.replicate 3 quote ++ n ++ w)

/-! ### Keys -/

/-- A simple key: bare, or quoted on one line. -/
inductive KeyText : Key → List Char → Prop
  | bare {w} (hne : w ≠ []) (hw : ∀ c ∈ w, isKeyChar c = true) : KeyText w w
  | quoted {k w} (h : ShortText k w) : KeyText k w

/-- A dotted key, with blanks around its parts. -/
inductive KeysText : List Key → List Char → Prop
  | one {b k w b'} (hb : Blanks b) (hk : KeyText k w) (hb' : Blanks b') :
    KeysText [k] (b ++ w ++ b')
  | cons {b k w b' ks t} (hb : Blanks b) (hk : KeyText k w) (hb' : Blanks b')
    (h : KeysText ks t) : KeysText (k :: ks) (b ++ w ++ b' ++ '.' :: t)

/-! ### Numbers -/

/-- A sign, or nothing; it tells whether the number is negative. -/
inductive SignText : Bool → List Char → Prop
  | none : SignText false []
  | plus : SignText false ['+']
  | minus : SignText true ['-']

/-- Digits, with an underscore between two of them or not. -/
inductive RunText (digit : Char → Bool) : List Char → List Char → Prop
  | one {d} (hd : digit d = true) : RunText digit [d] [d]
  | cons {d ds w} (hd : digit d = true) (h : RunText digit ds w) : RunText digit (d :: ds) (d :: w)
  | skip {d ds w} (hd : digit d = true) (h : RunText digit ds w) :
    RunText digit (d :: ds) (d :: '_' :: w)

/-- The digits of a decimal integer: a zero stands alone. -/
inductive WholeText : List Char → List Char → Prop
  | zero : WholeText ['0'] ['0']
  | run {d ds w} (hd : d ≠ '0') (h : RunText isDigit (d :: ds) w) : WholeText (d :: ds) w

/-- The number that decimal digits write behind a sign. -/
def signed (negative : Bool) (ds : List Char) : Int :=
  if negative then -(ofDigits 10 ds) else ofDigits 10 ds

/-- The bases beside ten: the letter behind a zero, the base and its digits. -/
def bases : List (Char × Nat × (Char → Bool)) :=
  [('x', 16, isHexDigit), ('o', 8, fun c => '0' ≤ c && c ≤ '7'),
    ('b', 2, fun c => c == '0' || c == '1')]

/-- An integer. -/
inductive IntegerText : Int → List Char → Prop
  | decimal {negative s ds w} (hs : SignText negative s) (hw : WholeText ds w) :
    IntegerText (signed negative ds) (s ++ w)
  | based {letter base digit ds w} (hbase : (letter, base, digit) ∈ bases)
    (hw : RunText digit ds w) : IntegerText (ofDigits base ds) ('0' :: letter :: w)

/-- The digits after a point, if there is one. -/
inductive FractionText : Option (List Char) → List Char → Prop
  | none : FractionText .none []
  | some {ds w} (h : RunText isDigit ds w) : FractionText (.some ds) ('.' :: w)

/-- An exponent, if there is one. -/
inductive ExponentText : Option Int → List Char → Prop
  | none : ExponentText .none []
  | some {c negative s ds w} (hc : c = 'e' ∨ c = 'E') (hs : SignText negative s)
    (h : RunText isDigit ds w) : ExponentText (.some (signed negative ds)) (c :: s ++ w)

/-- Digits times a power of ten lie below the least number that is infinite as a double. -/
def IsFinite (digits : List Char) (exponent : Int) : Prop :=
  ofDigits 10 digits * 10 ^ exponent.toNat < doubleLimit * 10 ^ (-exponent).toNat

/-- A float: with a fraction or an exponent, or one of those that no digits write. -/
inductive FloatText (limits : Limits) : List Char → Prop
  | digits {negative s ds w fraction p exponent x} (hs : SignText negative s) (hw : WholeText ds w)
    (hp : FractionText fraction p) (hx : ExponentText exponent x)
    (hne : fraction ≠ none ∨ exponent ≠ none)
    (hfinite : limits.finite = true → negative = false →
      IsFinite (ds ++ fraction.getD []) (exponent.getD 0 - (fraction.getD []).length)) :
    FloatText limits (s ++ w ++ p ++ x)
  | named {negative s w} (hs : SignText negative s)
    (hw : w ∈ [['i', 'n', 'f'], ['n', 'a', 'n']]) : FloatText limits (s ++ w)

/-! ### Moments -/

/-- A number in a fixed count of digits. -/
structure DigitsText (count value : Nat) (w : List Char) : Prop where
  length : w.length = count
  digits : w.all isDigit = true
  value : ofDigits 10 w = value

/-- A date that exists. -/
inductive DateText : List Char → Prop
  | mk {year month day y m d} (hy : DigitsText 4 year y) (hm : DigitsText 2 month m)
    (hd : DigitsText 2 day d) (hmonth : 1 ≤ month ∧ month ≤ 12)
    (hday : 1 ≤ day ∧ day ≤ daysIn year month) : DateText (y ++ '-' :: m ++ '-' :: d)

/-- Hours and minutes. -/
inductive ClockText : List Char → Prop
  | mk {hour minute h m} (hh : DigitsText 2 hour h) (hm : DigitsText 2 minute m)
    (hhour : hour ≤ 23) (hminute : minute ≤ 59) : ClockText (h ++ ':' :: m)

/-- A fraction of a second, or nothing. -/
inductive SecondFraction : List Char → Prop
  | none : SecondFraction []
  | some {d w} (hd : isDigit d = true) (hw : ∀ c ∈ w, isDigit c = true) :
    SecondFraction ('.' :: d :: w)

/-- A time of day. -/
inductive TimeText : List Char → Prop
  | mk {second c s f} (hc : ClockText c) (hs : DigitsText 2 second s) (hsecond : second ≤ 60)
    (hf : SecondFraction f) : TimeText (c ++ ':' :: s ++ f)

/-- An offset, or nothing. -/
inductive OffsetText : List Char → Prop
  | none : OffsetText []
  | zero {c} (hc : c = 'Z' ∨ c = 'z') : OffsetText [c]
  | clock {c w} (hc : c = '+' ∨ c = '-') (hw : ClockText w) : OffsetText (c :: w)

/-- A moment: a date, a time of day, or both and perhaps an offset. -/
inductive MomentText : List Char → Prop
  | date {d} (hd : DateText d) : MomentText d
  | time {t} (ht : TimeText t) : MomentText t
  | dateTime {d c t o} (hd : DateText d) (hc : c = 'T' ∨ c = 't' ∨ c = ' ') (ht : TimeText t)
    (ho : OffsetText o) : MomentText (d ++ c :: t ++ o)

/-! ### Values -/

/-- A value that holds no others. Integers fit in 64 bits with a sign. -/
inductive SimpleText (limits : Limits) : Mark → List Char → Prop
  | text {cs w} (h : QuotedText cs w) : SimpleText limits (.text cs) w
  | integer {n w} (h : IntegerText n w) (hmin : -2 ^ 63 ≤ n) (hmax : n < 2 ^ 63) :
    SimpleText limits .other w
  | float {w} (h : FloatText limits w) : SimpleText limits .other w
  | boolean {w} (h : w ∈ [['t', 'r', 'u', 'e'], ['f', 'a', 'l', 's', 'e']]) :
    SimpleText limits .other w
  | moment {w} (h : MomentText w) : SimpleText limits .other w

/-- The elements of an array, with its closing bracket. A comma may stand after the last one. -/
inductive ElementsText (value : Layout → List Char → Prop) : List Layout → List Char → Prop
  | none {g} (hg : Gap g) : ElementsText value [] (g ++ [']'])
  | last {g M w g'} (hg : Gap g) (hw : value M w) (hg' : Gap g') :
    ElementsText value [M] (g ++ w ++ g' ++ [']'])
  | cons {g M w g' Ms t} (hg : Gap g) (hw : value M w) (hg' : Gap g')
    (h : ElementsText value Ms t) : ElementsText value (M :: Ms) (g ++ w ++ g' ++ ',' :: t)

/-- A key that is given a value. -/
inductive PairText (limits : Limits) (value : Layout → List Char → Prop) : Given → List Char → Prop
  | mk {path key M k b w} (hk : KeysText (path ++ [key]) k)
    (hparts : path.length + 1 ≤ limits.parts) (hb : Blanks b) (hw : value M w) :
    PairText limits value ⟨path, key, M⟩ (k ++ '=' :: b ++ w)

/-- What is given in a table in braces, with its closing brace. -/
inductive MembersText (pair : Given → List Char → Prop) : List Given → List Char → Prop
  | last {g w b} (hw : pair g w) (hb : Blanks b) : MembersText pair [g] (w ++ b ++ ['\x7d'])
  | cons {g w b gs t} (hw : pair g w) (hb : Blanks b) (h : MembersText pair gs t) :
    MembersText pair (g :: gs) (w ++ b ++ ',' :: t)

/-- What follows the brace that opens a table. -/
inductive TableText (pair : Given → List Char → Prop) : List Given → List Char → Prop
  | empty {b} (hb : Blanks b) : TableText pair [] (b ++ ['\x7d'])
  | members {gs w} (h : MembersText pair gs w) : TableText pair gs w

/-- A value in which brackets and braces nest to some depth. -/
def ValueText (limits : Limits) : (depth : Nat) → Layout → List Char → Prop
  | 0, L, w => ∃ m, SimpleText limits m w ∧ L = .only m
  | depth + 1, L, w =>
    (∃ m, SimpleText limits m w ∧ L = .only m) ∨
    (∃ Ms t, ElementsText (ValueText limits depth) Ms t ∧ w = '[' :: t ∧ L = .array Ms) ∨
    (∃ gs t, TableText (PairText limits (ValueText limits depth)) gs t ∧ w = '\x7b' :: t ∧
      Layout.AddsAll gs (.only (.table .closed)) L)

/-! ### Lines -/

/-- A header. -/
inductive HeaderText (limits : Limits) : Header → List Char → Prop
  | table {path key k} (hk : KeysText (path ++ [key]) k) (hparts : path.length + 1 ≤ limits.parts) :
    HeaderText limits (.table path key) ('[' :: k ++ [']'])
  | element {path key k} (hk : KeysText (path ++ [key]) k)
    (hparts : path.length + 1 ≤ limits.parts) :
    HeaderText limits (.element path key) ('[' :: '[' :: k ++ [']', ']'])

/-- The lines of a document: what they give before the first header, and the parts. -/
inductive BodyText (limits : Limits) : List Given → List Part → List Char → Prop
  | done : BodyText limits [] [] []
  | empty {gs ps e t} (he : LineEnd t e) (h : BodyText limits gs ps t) :
    BodyText limits gs ps (e ++ t)
  | pair {g gs ps b w e t} (hb : Blanks b)
    (hw : PairText limits (ValueText limits limits.depth) g w)
    (he : LineEnd t e) (h : BodyText limits gs ps t) :
    BodyText limits (g :: gs) ps (b ++ w ++ e ++ t)
  | header {h gs ps b w e t} (hb : Blanks b) (hw : HeaderText limits h w) (he : LineEnd t e)
    (hbody : BodyText limits gs ps t) : BodyText limits [] (⟨h, gs⟩ :: ps) (b ++ w ++ e ++ t)

/-- A text writes a document with a layout, within some limits. -/
def Writes (limits : Limits) (text : List Char) (L : Layout) : Prop :=
  ∃ gs ps, BodyText limits gs ps text ∧ Layout.LaysOut gs ps L

/-- A text writes a document with a layout. -/
def IsDocument (text : List Char) (L : Layout) : Prop := ∃ limits, Writes limits text L

/-- The limits of the reader. -/
def Limits.reader : Limits := ⟨maxDepth, maxParts - 1, true⟩

end ReleaseGate.Toml
