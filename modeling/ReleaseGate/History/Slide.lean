import ReleaseGate.History.LineDiff

/-!
# Sliding changes

A group of changed lines can often be moved: when the line after it equals its first one, it may
as well start a line later. Each group is slid up and down as far as it goes, taking in the groups
that it meets. It then comes to rest beside a group of the other list, if it can; else as far down
as it goes, or, where indentation is looked at, where the lines around its two ends are set apart
best.
-/

namespace ReleaseGate.History

/-- A group of changed lines, possibly empty: from `start`, up to but not including `stop`. -/
structure Group where
  start : Nat
  stop : Nat
  deriving DecidableEq, Repr

/-- Whether a line is marked. -/
def marked (ms : Array Bool) (i : Nat) : Bool := ms.getD i false

/-- The place of the first line without a mark from `i` on. -/
def endOfMarks (ms : Array Bool) : (fuel : Nat) → (i : Nat) → Nat
  | 0, i => i
  | fuel + 1, i => if marked ms i then endOfMarks ms fuel (i + 1) else i

/-- The place after the last line without a mark before `i`. -/
def startOfMarks (ms : Array Bool) : (i : Nat) → Nat
  | 0 => 0
  | i + 1 => if marked ms i then startOfMarks ms i else i + 1

/-- The first group. -/
def firstGroup (ms : Array Bool) : Group := ⟨0, endOfMarks ms (ms.size + 1) 0⟩

/-- The group after the next line without a mark. -/
def nextGroup? (ms : Array Bool) (g : Group) : Option Group :=
  if g.stop ≥ ms.size then none
  else some ⟨g.stop + 1, endOfMarks ms (ms.size + 1) (g.stop + 1)⟩

/-- The group before the line without a mark that precedes this one. -/
def previousGroup? (ms : Array Bool) (g : Group) : Option Group :=
  if g.start = 0 then none else some ⟨startOfMarks ms (g.start - 1), g.start - 1⟩

variable {α : Type} [BEq α]

/-- Slide a group up by one line, if the line before it equals its last one. -/
def slideUp? (a : Array α) (ms : Array Bool) (g : Group) : Option (Array Bool × Group) :=
  if g.start > 0 && g.stop > 0 && equalAt a a (g.start - 1) (g.stop - 1) then
    let ms := (ms.set! (g.start - 1) true).set! (g.stop - 1) false
    some (ms, ⟨startOfMarks ms (g.start - 1), g.stop - 1⟩)
  else none

/-- Slide a group down by one line, if the line after it equals its first one. -/
def slideDown? (a : Array α) (ms : Array Bool) (g : Group) : Option (Array Bool × Group) :=
  if g.stop < a.size && equalAt a a g.start g.stop then
    let ms := (ms.set! g.start false).set! g.stop true
    some (ms, ⟨g.start + 1, endOfMarks ms (ms.size + 1) (g.stop + 1)⟩)
  else none

/-- A group being slid, with the group of the other list that stands beside it. -/
structure Sliding where
  marks : Array Bool
  group : Group
  beside : Group

/-- Whether the group beside has any lines. -/
def Sliding.meets (s : Sliding) : Bool := s.beside.stop > s.beside.start

/-- One step up. -/
def Sliding.up? (a : Array α) (other : Array Bool) (s : Sliding) : Option Sliding :=
  match slideUp? a s.marks s.group with
  | none => none
  | some (ms, g) => some ⟨ms, g, (previousGroup? other s.beside).getD s.beside⟩

/-- One step down. -/
def Sliding.down? (a : Array α) (other : Array Bool) (s : Sliding) : Option Sliding :=
  match slideDown? a s.marks s.group with
  | none => none
  | some (ms, g) => some ⟨ms, g, (nextGroup? other s.beside).getD s.beside⟩

/-- As far up as it goes. -/
def Sliding.top (a : Array α) (other : Array Bool) : (fuel : Nat) → Sliding → Sliding
  | 0, s => s
  | fuel + 1, s =>
    match s.up? a other with
    | some t => Sliding.top a other fuel t
    | none => s

/-- As far down as it goes, and whether the group met one of the other list on the way: at the last
such place, where it stopped. -/
def Sliding.bottom (a : Array α) (other : Array Bool) : (fuel : Nat) → (met : Option Nat) →
    Sliding → Sliding × Option Nat
  | 0, met, s => (s, met)
  | fuel + 1, met, s =>
    match s.down? a other with
    | some t => Sliding.bottom a other fuel (if t.meets then some t.group.stop else met) t
    | none => (s, met)

/-- A group after it was slid up and down as often as it grew. -/
structure Settled where
  sliding : Sliding
  /-- Where the group ended when it was farthest up. -/
  earliest : Nat
  /-- Where it ended at the last place where it met a group of the other list. -/
  met : Option Nat
  /-- The count of its lines before it was slid down the last time. -/
  size : Nat

/-- Slide a group up and down until it meets no other group of its list. -/
def settle (a : Array α) (other : Array Bool) : (fuel : Nat) → Sliding → Settled
  | 0, s => ⟨s, s.group.stop, none, s.group.stop - s.group.start⟩
  | fuel + 1, s =>
    let size := s.group.stop - s.group.start
    let up := s.top a other (a.size + 1)
    let (down, met) :=
      up.bottom a other (a.size + 1) (if up.meets then some up.group.stop else none)
    if down.group.stop - down.group.start = size then ⟨down, up.group.stop, met, size⟩
    else settle a other fuel down

/-- Slide up until the group meets one of the other list. -/
def untilMeets (a : Array α) (other : Array Bool) : (fuel : Nat) → Sliding → Sliding
  | 0, s => s
  | fuel + 1, s =>
    if s.meets then s
    else
      match s.up? a other with
      | some t => untilMeets a other fuel t
      | none => s

/-- Slide up until the group ends at a place. -/
def untilStop (a : Array α) (other : Array Bool) (stop : Nat) : (fuel : Nat) → Sliding → Sliding
  | 0, s => s
  | fuel + 1, s =>
    if s.group.stop ≤ stop then s
    else
      match s.up? a other with
      | some t => untilStop a other stop fuel t
      | none => s

/-! ### Indentation -/

/-- The lines around a place between two lines: how the lines before and after are indented, where
`none` is a blank line or no line, and how many blank lines stand on both sides. -/
structure Surroundings where
  atEnd : Bool
  indent : Option Nat
  before : Option Nat
  blankBefore : Nat
  after : Option Nat
  blankAfter : Nat

/-- The indentation of the first line that is not blank, and the count of blank ones before it.
After twenty blank lines no more are looked at, and the indentation counts as zero. -/
def firstIndent : (seen : Nat) → List (Option Nat) → Option Nat × Nat
  | seen, [] => (none, seen)
  | seen, some n :: _ => (some n, seen)
  | seen, none :: rest => if seen + 1 = 20 then (some 0, 20) else firstIndent (seen + 1) rest

/-- The surroundings of the place before the line `i`, given the indentation of all lines. -/
def surroundings (indents : Array (Option Nat)) (i : Nat) : Surroundings :=
  let (before, blankBefore) := firstIndent 0 (indents.toList.take i).reverse
  let (after, blankAfter) := firstIndent 0 (indents.toList.drop (i + 1))
  { atEnd := i ≥ indents.size
    indent := indents.getD i none
    before := before
    blankBefore := blankBefore
    after := after
    blankAfter := blankAfter }

/-- How bad a place is to set lines apart: first by the indentation after it, then by a penalty. -/
structure Badness where
  indent : Int
  penalty : Int

/-- The badness of a place. -/
def Surroundings.badness (m : Surroundings) : Badness :=
  let startPenalty : Int := if m.before.isNone && m.blankBefore == 0 then 1 else 0
  let endPenalty : Int := if m.atEnd then 21 else 0
  let blankHere : Int := if m.indent.isNone then 1 + m.blankAfter else 0
  let blanks : Int := m.blankBefore + blankHere
  let indent : Option Nat := if m.indent.isSome then m.indent else m.after
  let relative : Int :=
    match indent, m.before with
    | some n, some b =>
      if n > b then if blanks != 0 then 10 else -4
      else if n = b then 0
      else
        match m.after with
        | some k =>
          if k > n then if blanks != 0 then 17 else 24 else if blanks != 0 then 17 else 23
        | none => if blanks != 0 then 17 else 23
    | _, _ => 0
  { indent := match indent with
      | some n => n
      | none => -1
    penalty := startPenalty + endPenalty - 30 * blanks + 6 * blankHere + relative }

/-- Two badnesses together. -/
def Badness.add (s t : Badness) : Badness := ⟨s.indent + t.indent, s.penalty + t.penalty⟩

/-- Whether the first is no worse than the second. -/
def Badness.noWorse (s t : Badness) : Bool :=
  let order : Int := if s.indent > t.indent then 1 else if s.indent < t.indent then -1 else 0
  60 * order + (s.penalty - t.penalty) ≤ 0

/-- The farthest that indentation moves a group. -/
def maxSlide : Nat := 100

/-- Where a settled group ends best by indentation: the last of the best places. -/
def bestStop (indents : Array (Option Nat)) (s : Settled) : Nat :=
  let stop := s.sliding.group.stop
  let first := max (max s.earliest (stop - s.size - 1)) (stop - maxSlide)
  let score (i : Nat) : Badness :=
    (surroundings indents i).badness.add (surroundings indents (i - s.size)).badness
  let best := (List.range (stop + 1 - first)).foldl (fun (best : Option (Nat × Badness)) k =>
    let here := score (first + k)
    match best with
    | none => some (first + k, here)
    | some (i, b) => if here.noWorse b then some (first + k, here) else some (i, b)) none
  match best with
  | some (i, _) => i
  | none => stop

/-- Where a settled group comes to rest. -/
def rest (a : Array α) (other : Array Bool) (indents : Option (Array (Option Nat)))
    (s : Settled) : Sliding :=
  if s.sliding.group.stop = s.earliest then s.sliding
  else
    match s.met, indents with
    | some _, _ => untilMeets a other (a.size + 1) s.sliding
    | none, some widths => untilStop a other (bestStop widths s) (a.size + 1) s.sliding
    | none, none => s.sliding

/-- Slide all groups, one after the other. -/
def slideFrom (a : Array α) (other : Array Bool) (indents : Option (Array (Option Nat))) :
    (fuel : Nat) → Sliding → Array Bool
  | 0, s => s.marks
  | fuel + 1, s =>
    let s' :=
      if s.group.start = s.group.stop then s
      else rest a other indents (settle a other (a.size + 1) s)
    match nextGroup? s'.marks s'.group, nextGroup? other s'.beside with
    | some g, some b => slideFrom a other indents fuel ⟨s'.marks, g, b⟩
    | _, _ => s'.marks

/-- The marks of a list after all its groups were slid, given those of the other list. -/
def slideGroups (a : Array α) (marks other : Array Bool)
    (indents : Option (Array (Option Nat))) : Array Bool :=
  slideFrom a other indents (a.size + 2) ⟨marks, firstGroup marks, firstGroup other⟩

end ReleaseGate.History
