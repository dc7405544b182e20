import ReleaseGate.Pattern.CharClass

/-!
# Patterns

Patterns as data, and what it means that a pattern matches a stretch of a text. A position of a
text is the count of characters before it. `Matches text p i j` says that `p` matches the stretch
from `i` to `j`; `Found text p` says that it matches somewhere.
-/

namespace ReleaseGate.Pattern

/-- A condition on a position, told from the characters around it. -/
inductive Look
  | textStart
  | textEnd
  | lineStart
  | lineEnd
  /-- A line start where a carriage return with a line feed is one line end. -/
  | crlfLineStart
  | crlfLineEnd
  /-- A boundary between word characters, as `word` tells them, and others. -/
  | boundary (word : Char → Bool)
  | notBoundary (word : Char → Bool)
  | wordStart (word : Char → Bool)
  | wordEnd (word : Char → Bool)
  /-- No word character before. -/
  | wordStartHalf (word : Char → Bool)
  /-- No word character after. -/
  | wordEndHalf (word : Char → Bool)

/-- Whether there is a character here and it is a word character. -/
def wordAt (word : Char → Bool) (c : Option Char) : Bool := c.any word

/-- Whether a condition holds between the character before and the character after. -/
def Look.holds (before after : Option Char) : Look → Bool
  | .textStart => before.isNone
  | .textEnd => after.isNone
  | .lineStart => before.isNone || before == some '\n'
  | .lineEnd => after.isNone || after == some '\n'
  | .crlfLineStart =>
    before.isNone || before == some '\n' || (before == some '\r' && after != some '\n')
  | .crlfLineEnd =>
    after.isNone || after == some '\r' || (after == some '\n' && before != some '\r')
  | .boundary word => wordAt word before != wordAt word after
  | .notBoundary word => wordAt word before == wordAt word after
  | .wordStart word => !wordAt word before && wordAt word after
  | .wordEnd word => wordAt word before && !wordAt word after
  | .wordStartHalf word => !wordAt word before
  | .wordEndHalf word => !wordAt word after

/-- A pattern. Whether a repetition is greedy is left out: it decides which match is found first,
never whether there is one. -/
inductive Expr
  | empty
  | chars (k : CharClass)
  | look (l : Look)
  | seq (p q : Expr)
  | alt (p q : Expr)
  /-- At least `min` times `p`, and at most `max` times where there is a limit. -/
  | rep (p : Expr) (min : Nat) (max : Option Nat)

/-- The character before a position. -/
def charBefore (text : List Char) (i : Nat) : Option Char :=
  match i with
  | 0 => none
  | j + 1 => text[j]?

/-- `n` steps of a relation in a row. -/
inductive Chain (r : Nat → Nat → Prop) : Nat → Nat → Nat → Prop
  | zero (i : Nat) : Chain r 0 i i
  | succ {n i j k : Nat} : r i j → Chain r n j k → Chain r (n + 1) i k

/-- The pattern matches the stretch of the text from one position to another. -/
def Matches (text : List Char) : Expr → Nat → Nat → Prop
  | .empty, i, j => i = j
  | .chars k, i, j => j = i + 1 ∧ ∃ c, text[i]? = some c ∧ k.mem c = true
  | .look l, i, j => i = j ∧ l.holds (charBefore text i) text[i]? = true
  | .seq p q, i, j => ∃ k, Matches text p i k ∧ Matches text q k j
  | .alt p q, i, j => Matches text p i j ∨ Matches text q i j
  | .rep p min max, i, j => ∃ n, min ≤ n ∧ (∀ m, max = some m → n ≤ m) ∧ Chain (Matches text p) n i j

/-- The pattern matches somewhere in the text. -/
def Found (text : List Char) (p : Expr) : Prop :=
  ∃ i j, i ≤ text.length ∧ Matches text p i j

end ReleaseGate.Pattern
