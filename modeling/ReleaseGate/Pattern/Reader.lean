import ReleaseGate.Pattern.Bracket
import ReleaseGate.Pattern.Search

/-!
# Reading patterns

`read?` reads a pattern from its text. Every fault in a pattern has the same answer, `none`: an
unclosed group or bracket, a repetition of nothing, a reference back, look-around, a nesting
deeper than `maxDepth`, or a pattern whose repetitions, written out, need more than `maxWeight`.
-/

namespace ReleaseGate.Pattern

/-- How deep groups, repetitions, alternatives and classes may be nested. -/
def maxDepth : Nat := 250

/-- How much room the automaton of a pattern may take, in bytes. -/
def maxWeight : Nat := 10 * 1024 * 1024

/-- A part of a pattern that was read, with its nesting depth and the room its automaton takes. -/
structure Part where
  expr : Expr
  depth : Nat
  weight : Nat

/-- An item of a sequence: a part, or flags, which cannot be repeated. -/
inductive Item
  | part (p : Part)
  | flags

/-- The items of a sequence, the last one first, as one part. -/
def sequence (items : List Item) : Part :=
  match items with
  | [] => ⟨.empty, 0, 32⟩
  | [.part p] => p
  | _ =>
    items.foldl (fun acc item =>
      match item with
      | .flags => acc
      | .part p => ⟨.seq p.expr acc.expr, max acc.depth (p.depth + 1), acc.weight + p.weight⟩)
      ⟨.empty, 1, 0⟩

/-- Alternatives, the last one first, as one part. -/
def alternatives (last : Part) (earlier : List Part) : Part :=
  match earlier with
  | [] => last
  | _ =>
    earlier.foldl (fun acc p => ⟨.alt p.expr acc.expr, max acc.depth (p.depth + 1),
      acc.weight + p.weight + 8⟩) ⟨last.expr, last.depth + 1, last.weight + 32⟩

/-- A decimal number with the white space around it. -/
def decimal (o : Options) (s : List Char) : Option (Nat × List Char) :=
  let rec digits : (fuel : Nat) → (n : Nat) → (any : Bool) → List Char → Option (Nat × List Char)
    | 0, _, _, _ => none
    | fuel + 1, n, any, s =>
      match s with
      | c :: t =>
        if Unicode.isAsciiDigit c then
          digits fuel (10 * n + (c.toNat - '0'.toNat)) true (o.skip t)
        else if any && n < UInt32.size then some (n, o.skip (s.dropWhile Text.isSpace)) else none
      | [] => if any && n < UInt32.size then some (n, []) else none
  digits (s.length + 1) 0 false (s.dropWhile Text.isSpace)

/-- The limits of a counted repetition, from after its opening brace. -/
def counts (o : Options) (s : List Char) : Option (Nat × Option Nat × List Char) := do
  let (least, t) ← decimal o (o.skip s)
  match t with
  | '\x7d' :: rest => return (least, some least, rest)
  | ',' :: u =>
    match o.skip u with
    | '\x7d' :: rest => return (least, none, rest)
    | u =>
      let (most, v) ← decimal o u
      match v with
      | '\x7d' :: rest => if least ≤ most then return (least, some most, rest) else none
      | _ => none
  | _ => none

/-- The last item of a sequence repeated. -/
def repeatLast? (min : Nat) (max : Option Nat) : List Item → Option (List Item)
  | .part p :: items =>
    some (.part ⟨.rep p.expr min max, p.depth + 1, (max.getD (min + 1)) * p.weight + 32⟩ :: items)
  | _ => none

/-- What follows a repetition sign without the question mark that makes it lazy. -/
def dropLazy (s : List Char) : List Char :=
  match s with
  | '?' :: t => t
  | _ => s

/-- An atom as a part. -/
def atomPart? (o : Options) : Atom → Option Part
  | .literal c asByte =>
    if !o.unicode && asByte && !Unicode.isAscii c then none
    else
      let k : CharClass := if o.unicode || Unicode.isAscii c then o.foldClass (.one c) else .one c
      some ⟨.chars k, 0, 32 * c.utf8Size⟩
  | .cls k w => some ⟨.chars k, 0, w⟩
  | .look l => some ⟨.look l, 0, 32⟩

/-- Flags from after `(?` through the sign that ends them, which is kept. `seen` holds the flags
set so far and `off` tells whether a hyphen was passed. -/
def flagLetters : Options → (seen : List Char) → (off fresh : Bool) → List Char →
    Option (Options × Bool × List Char)
  | _, _, _, _, [] => none
  | o, seen, off, fresh, c :: s =>
    if c = ':' || c = ')' then
      if fresh then none else some (o, !seen.isEmpty || off, c :: s)
    else if c = '-' then
      if off then none else flagLetters o seen true true s
    else if seen.contains c then none
    else
      match o.set? c (!off) with
      | none => none
      | some o' => flagLetters o' (c :: seen) off false s

/-- A character that a group's name may hold. -/
def isNameChar (first : Bool) (c : Char) : Bool :=
  if first then c == '_' || Unicode.isAlphabetic c
  else
    c == '_' || c == '.' || c == '[' || c == ']' || Unicode.isAlphabetic c || Unicode.isNumeric c

/-- A group's name, from after its opening angle through the closing one. -/
def groupName? (s : List Char) : Option (List Char × List Char) :=
  let name := s.takeWhile (· != '>')
  match s.dropWhile (· != '>') with
  | '>' :: rest =>
    match name with
    | [] => none
    | c :: cs => if isNameChar true c && cs.all (isNameChar false) then some (name, rest) else none
  | _ => none

/-- What an opening parenthesis begins. -/
inductive Opening
  /-- A group, read under options of its own, and its name if it has one. -/
  | group (o : Options) (name : Option (List Char)) (weight : Nat)
  /-- Options for the rest of the group around. -/
  | options (o : Options)

/-- Read what follows an opening parenthesis up to the content of its group. -/
def opening? (o : Options) (s : List Char) : Option (Opening × List Char) :=
  match o.skip s with
  | '?' :: 'P' :: '<' :: t => (groupName? t).map fun p => (.group o (some p.1) 64, p.2)
  | '?' :: '<' :: '=' :: _ => none
  | '?' :: '<' :: '!' :: _ => none
  | '?' :: '<' :: t => (groupName? t).map fun p => (.group o (some p.1) 64, p.2)
  | '?' :: t =>
    match flagLetters o [] false false t with
    | some (o', any, ')' :: rest) => if any then some (.options o', rest) else none
    | some (o', _, ':' :: rest) => some (.group o' none 0, rest)
    | _ => none
  | t => some (.group o none 64, t)

/-- The state of reading a group: the alternatives that were finished and the items of the one
being read, the last ones first, and the names of all groups so far. -/
structure GroupState where
  done : List Part
  items : List Item
  names : List (List Char)

/-- The content of the group read so far. -/
def GroupState.part (st : GroupState) : Part := alternatives (sequence st.items) st.done

/-- Add an item. -/
def GroupState.push (st : GroupState) (p : Part) : GroupState :=
  { st with items := .part p :: st.items }

/-- Read the content of a group up to its closing parenthesis or the end of the pattern, neither
of which is taken. `fuel` bounds the steps. -/
def content : (fuel : Nat) → Options → GroupState → List Char → Option (GroupState × List Char)
  | 0, _, _, _ => none
  | fuel + 1, o, st, s =>
    match o.skip s with
    | [] => some (st, [])
    | ')' :: t => some (st, ')' :: t)
    | '(' :: t =>
      match opening? o t with
      | none => none
      | some (.options o', rest) =>
        content fuel o' { st with items := .flags :: st.items } rest
      | some (.group o' name weight, rest) =>
        let taken := match name with
          | some n => st.names.contains n
          | none => false
        if taken then none
        else
          match content fuel o' ⟨[], [], name.toList ++ st.names⟩ rest with
          | some (inner, ')' :: u) =>
            let p := inner.part
            content fuel o
              { st with
                items := .part ⟨p.expr, p.depth + 1, p.weight + weight⟩ :: st.items
                names := inner.names } u
          | _ => none
    | '|' :: t =>
      content fuel o { st with done := sequence st.items :: st.done, items := [] } t
    | '[' :: t =>
      match bracket o t with
      | none => none
      | some (p, rest) => content fuel o (st.push ⟨.chars p.cls, p.depth, p.weight⟩) rest
    | '?' :: t => repeated fuel o st 0 (some 1) (dropLazy t)
    | '*' :: t => repeated fuel o st 0 none (dropLazy t)
    | '+' :: t => repeated fuel o st 1 none (dropLazy t)
    | '\x7b' :: t =>
      match counts o t with
      | none => none
      | some (least, most, rest) => repeated fuel o st least most (dropLazy (o.skip rest))
    | '\\' :: t => atomic fuel o st (escape o t)
    | '.' :: t => atomic fuel o st (o.dot?.map fun k => (.cls k 400, t))
    | '^' :: t => atomic fuel o st (some (.look o.startAnchor, t))
    | '$' :: t => atomic fuel o st (some (.look o.endAnchor, t))
    | c :: t => atomic fuel o st (some (.literal c false, t))
where
  /-- Go on after a repetition sign. -/
  repeated (fuel : Nat) (o : Options) (st : GroupState) (min : Nat) (max : Option Nat)
      (rest : List Char) : Option (GroupState × List Char) :=
    match repeatLast? min max st.items with
    | none => none
    | some items => content fuel o { st with items := items } rest
  /-- Go on after an atom. -/
  atomic (fuel : Nat) (o : Options) (st : GroupState) (atom : Option (Atom × List Char)) :
      Option (GroupState × List Char) :=
    match atom with
    | none => none
    | some (a, rest) =>
      match atomPart? o a with
      | none => none
      | some p => content fuel o (st.push p) rest

/-- Read a pattern. -/
def read? (s : List Char) : Option Expr :=
  match content (s.length + 1) Options.initial ⟨[], [], []⟩ s with
  | some (st, []) =>
    let p := st.part
    if p.depth ≤ maxDepth && p.weight ≤ maxWeight then some p.expr else none
  | _ => none

/-- Whether a pattern is valid. -/
def isValid (s : List Char) : Bool := (read? s).isSome

end ReleaseGate.Pattern
