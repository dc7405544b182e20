import ReleaseGate.Pattern.Expr

/-!
# Search

Whether a pattern matches somewhere is decided without backtracking: a set of positions is held
as the bits of a number, and `advance` takes the set of positions where a match may start to the
set of those where it may end.
-/

namespace ReleaseGate.Pattern

/-- The positions of a text at which the next character lies in a class. -/
def classBits (k : CharClass) : List Char → Nat
  | [] => 0
  | c :: s => (if k.mem c then 1 else 0) + 2 * classBits k s

/-- The positions of a text at which a condition holds, the end among them. -/
def lookBits (l : Look) : (before : Option Char) → List Char → Nat
  | before, [] => if l.holds before none then 1 else 0
  | before, c :: s => (if l.holds before (some c) then 1 else 0) + 2 * lookBits l (some c) s

/-- `f` applied `n` times; an empty set stays empty and a fixed one fixed. -/
def times (f : Nat → Nat) : Nat → Nat → Nat
  | 0, s => s
  | n + 1, s =>
    let t := f s
    if t = s then s else times f n t

/-- The union of `s`, `f s`, and so on up to `n` applications of `f`. -/
def upTo (f : Nat → Nat) : Nat → Nat → Nat
  | 0, s => s
  | n + 1, s =>
    let t := s ||| f s
    if t = s then s else upTo f n t

/-- The positions where a match of the pattern that starts in `s` can end. -/
def advance (text : List Char) : Expr → Nat → Nat
  | .empty, s => s
  | .chars k, s => (s &&& classBits k text) <<< 1
  | .look l, s => s &&& lookBits l none text
  | .seq p q, s => advance text q (advance text p s)
  | .alt p q, s => advance text p s ||| advance text q s
  | .rep p min max, s =>
    let start := times (advance text p) min s
    match max with
    | none => upTo (advance text p) (text.length + 1) start
    | some m => upTo (advance text p) (m - min) start

/-- All positions of a text. -/
def allPositions (text : List Char) : Nat := Nat.pow 2 (text.length + 1) - 1

/-- Whether the pattern matches somewhere in the text. -/
def found (p : Expr) (text : List Char) : Bool := advance text p (allPositions text) != 0

end ReleaseGate.Pattern
