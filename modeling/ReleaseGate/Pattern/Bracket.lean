import ReleaseGate.Pattern.Escape

/-!
# Bracketed classes

Classes written in brackets: characters, ranges, escapes, POSIX names, brackets inside brackets,
and the operations `&&`, `--` and `~~`, which group from the left.
-/

namespace ReleaseGate.Pattern

/-- A class that was read, with its nesting depth and the room its automaton takes. -/
structure BracketPart where
  cls : CharClass
  depth : Nat
  weight : Nat

/-- The operations between the parts of a bracketed class. -/
inductive ClassOp
  | inter
  | diff
  | symmDiff

/-- An operation applied to two classes; where case is ignored, to what they are up to case. -/
def ClassOp.apply (o : Options) (op : ClassOp) (a b : CharClass) : CharClass :=
  let a := o.foldClass a
  let b := o.foldClass b
  match op with
  | .inter => .inter a b
  | .diff => .diff a b
  | .symmDiff => .symmDiff a b

/-- What was read of a bracketed class: the parts joined so far on the left of an operation, if
there is one, and the items after it, the last one first. -/
structure BracketState where
  left : Option (BracketPart × ClassOp)
  items : List BracketPart

/-- The union of some items: none is the empty class, and one is itself. -/
def unionOf (items : List BracketPart) : BracketPart :=
  match items with
  | [] => ⟨.none, 0, 32⟩
  | [p] => p
  | p :: ps =>
    ps.foldl (fun a b => ⟨.union a.cls b.cls, max a.depth (b.depth + 1), a.weight + b.weight⟩)
      ⟨p.cls, p.depth + 1, p.weight⟩

/-- The class read so far. -/
def BracketState.part (o : Options) (st : BracketState) : BracketPart :=
  let items := unionOf st.items.reverse
  match st.left with
  | none => items
  | some (l, op) => ⟨op.apply o l.cls items.cls, max l.depth items.depth + 1, l.weight + items.weight⟩

/-- Add an item. -/
def BracketState.push (st : BracketState) (p : BracketPart) : BracketState :=
  { st with items := p :: st.items }

/-- Begin the right side of an operation. -/
def BracketState.operate (o : Options) (st : BracketState) (op : ClassOp) : BracketState :=
  { left := some (st.part o, op), items := [] }

/-- A literal character as an item. Where classes are those of ASCII it has to be ASCII. -/
def literalItem? (o : Options) (c : Char) : Option BracketPart :=
  if o.unicode || Unicode.isAscii c then some ⟨.one c, 0, if Unicode.isAscii c then 48 else 100⟩
  else none

/-- An atom as an item; a condition on a position is none. -/
def atomItem? (o : Options) : Atom → Option BracketPart
  | .literal c _ => literalItem? o c
  | .cls k w => some ⟨k, 0, w⟩
  | .look _ => none

/-- The literal hyphens and the literal closing bracket that may stand first in a class. -/
def leadingLiterals (o : Options) : (fuel : Nat) → BracketState → List Char →
    Option (BracketState × List Char)
  | 0, _, _ => none
  | _ + 1, _, [] => none
  | fuel + 1, st, c :: s =>
    if c = '-' then leadingLiterals o fuel (st.push ⟨.one '-', 0, 48⟩) (o.skip s)
    else if c = ']' && st.items.isEmpty then
      match o.skip s with
      | [] => none
      | t => some (st.push ⟨.one ']', 0, 48⟩, t)
    else some (st, c :: s)

/-- What follows an opening bracket: whether the class is negated, and its literal start. -/
def openBracket (o : Options) (s : List Char) : Option (Bool × BracketState × List Char) :=
  match o.skip s with
  | [] => none
  | '^' :: t =>
    (leadingLiterals o (t.length + 1) ⟨none, []⟩ (o.skip t)).map fun p => (true, p.1, p.2)
  | t => (leadingLiterals o (t.length + 1) ⟨none, []⟩ t).map fun p => (false, p.1, p.2)

/-- A POSIX class such as `[:alpha:]`, from after its opening bracket: case first, then negation. -/
def posixItem? (o : Options) (s : List Char) : Option (BracketPart × List Char) :=
  match s with
  | ':' :: t =>
    let (negated, u) := match t with
      | '^' :: u => (true, u)
      | _ => (false, t)
    let name := u.takeWhile (· != ':')
    match u.dropWhile (· != ':') with
    | ':' :: ']' :: rest =>
      match posixClass? (String.ofList name) with
      | some p =>
        let k := o.foldClass (.having p)
        if negated && !o.unicode then none
        else some (⟨if negated then .compl k else k, 0, 100⟩, rest)
      | none => none
    | _ => none
  | _ => none

/-- The next character after the first one of `s` that is part of the pattern. -/
def peekPast (o : Options) (s : List Char) : Option Char :=
  if o.verbose then
    match (s.drop 1).dropWhile Text.isSpace with
    | '#' :: t => (t.dropWhile Text.isSpace).head?
    | t => t.head?
  else (s.drop 1).head?

/-- One item or range of a class. -/
def rangeItem (o : Options) (s : List Char) : Option (BracketPart × List Char) := do
  let atom (s : List Char) : Option (Atom × List Char) :=
    match s with
    | [] => none
    | '\\' :: t => escape o t
    | c :: t => some (.literal c false, t)
  let (first, t) ← atom s
  match o.skip t with
  | [] => none
  | '-' :: u =>
    let after := peekPast o ('-' :: u)
    if after == some ']' || after == some '-' then
      return (← atomItem? o first, '-' :: u)
    let (second, rest) ← atom (o.skip u)
    match first, second with
    | .literal a _, .literal b _ =>
      let _ ← literalItem? o a
      let _ ← literalItem? o b
      if a ≤ b then
        return (⟨.range a b, 0, if Unicode.isAscii b then 48 else 300⟩, rest)
      else none
    | _, _ => none
  | u => return (← atomItem? o first, u)

/-- A class from its parts: case first, then negation. Where classes are those of ASCII, nothing
may be negated: the class would hold parts of characters. -/
def closeBracket? (o : Options) (negated : Bool) (st : BracketState) : Option BracketPart :=
  let p := st.part o
  if negated && !o.unicode then none
  else
    let k := o.foldClass p.cls
    some ⟨if negated then .compl k else k, p.depth + 1, p.weight⟩

/-- Read a class from after its opening bracket through its closing one. Brackets inside are read
by the same function; `fuel` bounds the steps. -/
def bracketItems (o : Options) : (fuel : Nat) → (negated : Bool) → BracketState → List Char →
    Option (BracketPart × List Char)
  | 0, _, _, _ => none
  | fuel + 1, negated, st, s =>
    match o.skip s with
    | [] => none
    | '[' :: t =>
      match posixItem? o t with
      | some (p, rest) => bracketItems o fuel negated (st.push p) rest
      | none =>
        match openBracket o t with
        | none => none
        | some (inner, innerState, u) =>
          match bracketItems o fuel inner innerState u with
          | none => none
          | some (p, rest) => bracketItems o fuel negated (st.push p) rest
    | ']' :: t => (closeBracket? o negated st).map fun p => (p, t)
    | '&' :: '&' :: t => bracketItems o fuel negated (st.operate o .inter) t
    | '-' :: '-' :: t => bracketItems o fuel negated (st.operate o .diff) t
    | '~' :: '~' :: t => bracketItems o fuel negated (st.operate o .symmDiff) t
    | t =>
      match rangeItem o t with
      | none => none
      | some (p, rest) => bracketItems o fuel negated (st.push p) rest

/-- Read a bracketed class from after its opening bracket. -/
def bracket (o : Options) (s : List Char) : Option (BracketPart × List Char) :=
  match openBracket o s with
  | none => none
  | some (negated, st, t) => bracketItems o (s.length + 1) negated st t

end ReleaseGate.Pattern
