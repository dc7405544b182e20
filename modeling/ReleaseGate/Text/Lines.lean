/-!
# Lines

A text is cut at its line feeds. `segments` keeps every piece, so that joining them with line
feeds gives the text back (`joinLf_segments`); `lines` is the reader's view of the same text: a
carriage return that stands before a line feed belongs to the line end, and what follows the last
line feed is a line only if it is not empty. What `unlines` writes is read back line by line
(`lines_unlines`).
-/

namespace ReleaseGate.Text

/-- The pieces between line feeds: one more than there are line feeds. -/
def segments : List Char → List (List Char)
  | [] => [[]]
  | c :: s =>
    if c = '\n' then [] :: segments s
    else
      match segments s with
      | [] => [[c]]
      | l :: ls => (c :: l) :: ls

/-- The line without a carriage return at its end. -/
def dropCr : List Char → List Char
  | [] => []
  | [c] => if c = '\r' then [] else [c]
  | c :: d :: s => c :: dropCr (d :: s)

/-- The lines given the pieces: all but the last were ended by a line feed. -/
def linesOfSegments : List (List Char) → List (List Char)
  | [] => []
  | [last] => if last = [] then [] else [last]
  | l :: m :: ls => dropCr l :: linesOfSegments (m :: ls)

/-- The lines of a text. -/
def lines (s : List Char) : List (List Char) := linesOfSegments (segments s)

/-- The pieces with a line feed between any two. -/
def joinLf : List (List Char) → List Char
  | [] => []
  | [l] => l
  | l :: m :: ls => l ++ '\n' :: joinLf (m :: ls)

/-- Every line followed by a line feed. -/
def unlines (ls : List (List Char)) : List Char := ls.flatMap (· ++ ['\n'])

theorem segments_ne_nil (s : List Char) : segments s ≠ [] := by
  cases s with
  | nil => simp [segments]
  | cons c s =>
    unfold segments
    split
    · simp
    · split <;> simp

@[simp] theorem segments_nil : segments [] = [[]] := rfl

@[simp] theorem segments_lf (s : List Char) : segments ('\n' :: s) = [] :: segments s := by
  simp [segments]

/-- Cutting loses nothing. -/
theorem joinLf_segments (s : List Char) : joinLf (segments s) = s := by
  induction s with
  | nil => rfl
  | cons c s ih =>
    unfold segments
    split
    · next h =>
      cases hs : segments s with
      | nil => exact absurd hs (segments_ne_nil s)
      | cons l ls => rw [hs] at ih; simp [joinLf, ih, h]
    · cases hs : segments s with
      | nil => exact absurd hs (segments_ne_nil s)
      | cons l ls =>
        rw [hs] at ih
        cases ls with
        | nil => simpa [joinLf] using ih
        | cons m ms => simpa [joinLf] using ih

/-- A piece without a line feed is cut off whole. -/
theorem segments_append_lf {l : List Char} (h : '\n' ∉ l) (s : List Char) :
    segments (l ++ '\n' :: s) = l :: segments s := by
  induction l with
  | nil => simp
  | cons c l ih =>
    have hc : ¬c = '\n' := fun e => h (e ▸ List.mem_cons_self)
    have hl : '\n' ∉ l := fun m => h (List.mem_cons_of_mem _ m)
    simp [segments, hc, ih hl]

theorem linesOfSegments_cons {l : List Char} {ls : List (List Char)} (h : ls ≠ []) :
    linesOfSegments (l :: ls) = dropCr l :: linesOfSegments ls := by
  cases ls with
  | nil => exact absurd rfl h
  | cons m ls => rfl

/-- The first line, where a line feed ends it. -/
theorem lines_append_lf {l : List Char} (h : '\n' ∉ l) (s : List Char) :
    lines (l ++ '\n' :: s) = dropCr l :: lines s := by
  rw [lines, segments_append_lf h, linesOfSegments_cons (segments_ne_nil s), lines]

/-- Lines that are written out are read back, a carriage return at their ends apart. -/
theorem lines_unlines {ls : List (List Char)} (h : ∀ l ∈ ls, '\n' ∉ l) :
    lines (unlines ls) = ls.map dropCr := by
  induction ls with
  | nil => rfl
  | cons l ls ih =>
    have hl : '\n' ∉ l := h l List.mem_cons_self
    have hls : ∀ m ∈ ls, '\n' ∉ m := fun m hm => h m (List.mem_cons_of_mem _ hm)
    have e : unlines (l :: ls) = l ++ '\n' :: unlines ls := by simp [unlines]
    rw [e, lines_append_lf hl, ih hls, List.map_cons]

end ReleaseGate.Text
