/-!
# Changed lines

Which lines of two lists count as changed. Equal lines at the two ends are left out first; then
lines without an equal on the other side, and lines with too many of them amid such lines, are
marked at once; what is left is compared by the divide-and-conquer form of the shortest-edit
search: walk from both ends of a box at once, split the box where the walks meet, and go on in the
two parts. The marks say which of the many scripts between the lists is meant; that the result is
a script does not rest on them.
-/

namespace ReleaseGate.History

variable {α : Type} [BEq α]

/-- A stretch of the first list and one of the second: from `lo`, up to but not including `hi`. -/
structure Box where
  lo₁ : Nat
  hi₁ : Nat
  lo₂ : Nat
  hi₂ : Nat

/-- Whether the lines at two places are equal. -/
def equalAt (a b : Array α) (i j : Nat) : Bool := a[i]? == b[j]?

/-- How many lines are equal from two places on, up to a limit. -/
def runForward (a b : Array α) : (limit : Nat) → (i j : Nat) → Nat
  | 0, _, _ => 0
  | n + 1, i, j => if equalAt a b i j then runForward a b n (i + 1) (j + 1) + 1 else 0

/-- How many lines are equal before two places, up to a limit. -/
def runBackward (a b : Array α) : (limit : Nat) → (i j : Nat) → Nat
  | n + 1, i + 1, j + 1 => if equalAt a b i j then runBackward a b n i j + 1 else 0
  | _, _, _ => 0

/-- The box without the equal lines at its two ends. -/
def Box.shrink (a b : Array α) (x : Box) : Box :=
  let front := runForward a b (min (x.hi₁ - x.lo₁) (x.hi₂ - x.lo₂)) x.lo₁ x.lo₂
  let y := { x with lo₁ := x.lo₁ + front, lo₂ := x.lo₂ + front }
  let back := runBackward a b (min (y.hi₁ - y.lo₁) (y.hi₂ - y.lo₂)) y.hi₁ y.hi₂
  { y with hi₁ := y.hi₁ - back, hi₂ := y.hi₂ - back }

/-- Where the shortest walks from the two ends of a box meet. A walk is told, for each diagonal, by
how far it got in the first list. -/
def Box.middle (a b : Array α) (x : Box) : Nat × Nat := Id.run do
  let lo₁ : Int := x.lo₁
  let hi₁ : Int := x.hi₁
  let lo₂ : Int := x.lo₂
  let hi₂ : Int := x.hi₂
  let far : Int := a.size + b.size + 2
  let place (d : Int) : Nat := (d + b.size + 1).toNat
  let dmin := lo₁ - hi₂
  let dmax := hi₁ - lo₂
  let fmid := lo₁ - lo₂
  let bmid := hi₁ - hi₂
  let odd := (fmid - bmid) % 2 != 0
  let mut forward : Array Int := (Array.replicate (a.size + b.size + 3) (-1)).set! (place fmid) lo₁
  let mut backward : Array Int := (Array.replicate (a.size + b.size + 3) far).set! (place bmid) hi₁
  let mut fmin := fmid
  let mut fmax := fmid
  let mut bmin := bmid
  let mut bmax := bmid
  for _ in [0 : a.size + b.size + 2] do
    if fmin > dmin then
      fmin := fmin - 1
      forward := forward.set! (place (fmin - 1)) (-1)
    else fmin := fmin + 1
    if fmax < dmax then
      fmax := fmax + 1
      forward := forward.set! (place (fmax + 1)) (-1)
    else fmax := fmax - 1
    for step in [0 : ((fmax - fmin) / 2 + 1).toNat] do
      let d := fmax - 2 * step
      let below := forward[place (d - 1)]!
      let above := forward[place (d + 1)]!
      let start := if below ≥ above then below + 1 else above
      let limit := min (hi₁ - start) (hi₂ - (start - d))
      let i := start + runForward a b limit.toNat start.toNat (start - d).toNat
      forward := forward.set! (place d) i
      if odd && bmin ≤ d && d ≤ bmax && backward[place d]! ≤ i then
        return (i.toNat, (i - d).toNat)
    if bmin > dmin then
      bmin := bmin - 1
      backward := backward.set! (place (bmin - 1)) far
    else bmin := bmin + 1
    if bmax < dmax then
      bmax := bmax + 1
      backward := backward.set! (place (bmax + 1)) far
    else bmax := bmax - 1
    for step in [0 : ((bmax - bmin) / 2 + 1).toNat] do
      let d := bmax - 2 * step
      let below := backward[place (d - 1)]!
      let above := backward[place (d + 1)]!
      let start := if below < above then below else above - 1
      let limit := min (start - lo₁) (start - d - lo₂)
      let i := start - runBackward a b limit.toNat start.toNat (start - d).toNat
      backward := backward.set! (place d) i
      if !odd && fmin ≤ d && d ≤ fmax && i ≤ forward[place d]! then
        return (i.toNat, (i - d).toNat)
  return (x.lo₁, x.hi₂)

/-- Marks on the lines of two lists. -/
structure Marks where
  first : Array Bool
  second : Array Bool

/-- No line marked. -/
def Marks.none (n m : Nat) : Marks := ⟨Array.replicate n false, Array.replicate m false⟩

/-- Mark the places from `lo` up to but not including `hi`. -/
def markRange (marks : Array Bool) (lo hi : Nat) : Array Bool :=
  (List.range (hi - lo)).foldl (fun ms k => ms.set! (lo + k) true) marks

/-- Mark what is changed inside a box. `fuel` bounds the depth of the splits. -/
def compareBox (a b : Array α) : (fuel : Nat) → Box → Marks → Marks
  | 0, _, ms => ms
  | fuel + 1, x, ms =>
    let y := x.shrink a b
    if y.lo₁ = y.hi₁ then { ms with second := markRange ms.second y.lo₂ y.hi₂ }
    else if y.lo₂ = y.hi₂ then { ms with first := markRange ms.first y.lo₁ y.hi₁ }
    else
      let (i, j) := y.middle a b
      let ms := compareBox a b fuel { y with hi₁ := i, hi₂ := j } ms
      compareBox a b fuel { y with lo₁ := i, lo₂ := j } ms

/-- A power of two near the square root of a number. -/
def roughRoot (n : Nat) : Nat :=
  let rec go : (fuel : Nat) → (n root : Nat) → Nat
    | 0, _, root => root
    | fuel + 1, n, root => if n = 0 then root else go fuel (n / 4) (2 * root)
  go (n + 1) n 1

/-- How often a line stands on the other side. -/
inductive Frequency
  | never
  | sometimes
  | often
  deriving DecidableEq

/-- How often the lines from `lo` up to but not including `hi` stand on the other side. From a
number near the root of the side's length on, it is often. -/
def frequencies (side other : List α) (lo hi : Nat) : Array Frequency :=
  let limit := min (roughRoot side.length) 1024
  let ofLine (l : α) : Frequency :=
    let n := other.countP (· == l)
    if n = 0 then .never else if limit ≤ n then .often else .sometimes
  (((side.drop lo).take (hi - lo)).map ofLine).toArray

/-- How many lines of each kind there are before the first that stands on the other side sometimes:
the count of those that never do, and of those that often do. -/
def runOfRare : List Frequency → Nat × Nat
  | .never :: fs => let (n, o) := runOfRare fs; (n + 1, o)
  | .often :: fs => let (n, o) := runOfRare fs; (n, o + 1)
  | _ => (0, 0)

/-- How far around a line others are looked at. -/
def rareWindow : Nat := 100

/-- Whether the line at a place, which stands on the other side often, is better taken for changed:
lines that never do so stand on both sides of it, and prevail. -/
def dropsOften (fs : Array Frequency) (i : Nat) : Bool :=
  let before := ((fs.toList.take i).reverse).take rareWindow
  let after := (fs.toList.drop (i + 1)).take rareWindow
  let (n₁, o₁) := runOfRare before
  let (n₂, o₂) := runOfRare after
  n₁ != 0 && n₂ != 0 && (o₁ + o₂ + 2) * 4 < (o₁ + o₂ + 2) + (n₁ + n₂)

/-- The places of the lines that are compared; the others are taken for changed. -/
def comparedPlaces (fs : Array Frequency) (lo : Nat) : List Nat :=
  ((List.range fs.size).filter fun (i : Nat) =>
    match fs[i]? with
    | some .sometimes => true
    | some .often => !dropsOften fs i
    | _ => false).map (lo + ·)

/-- The marks on a whole list, from those on the compared lines of a stretch: within it, a line
that was not compared is changed. -/
def spreadMarks (n lo hi : Nat) (places : List Nat) (ms : Array Bool) : Array Bool :=
  let all := markRange (Array.replicate n false) lo hi
  (places.zip ms.toList).foldl (fun acc p => acc.set! p.1 p.2) all

/-- Which lines of two lists are changed. -/
def changedLines (old new : List α) : Marks :=
  let a := old.toArray
  let b := new.toArray
  let x := Box.shrink a b ⟨0, a.size, 0, b.size⟩
  let places₁ := comparedPlaces (frequencies old new x.lo₁ x.hi₁) x.lo₁
  let places₂ := comparedPlaces (frequencies new old x.lo₂ x.hi₂) x.lo₂
  let a' := (places₁.filterMap (a[·]?)).toArray
  let b' := (places₂.filterMap (b[·]?)).toArray
  let ms := compareBox a' b' (a'.size + b'.size + 1) ⟨0, a'.size, 0, b'.size⟩
    (Marks.none a'.size b'.size)
  ⟨spreadMarks a.size x.lo₁ x.hi₁ places₁ ms.first, spreadMarks b.size x.lo₂ x.hi₂ places₂ ms.second⟩

end ReleaseGate.History
