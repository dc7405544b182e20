import Mathlib.Data.List.Infix
import ReleaseGate.Text.Lines

/-!
# Inserted lines

One more line between the lines of a text (`InsertsLine`). What is asked of every line alike is
answered as before, if the new line does not answer it (`InsertsLine.any_lines`), and what is
searched for within lines is found as before, if it is not found in the new line
(`InsertsLine.infix_iff`).
-/

namespace ReleaseGate.Text

/-- The lines of `t` are those of `s` and one more line, before, between or after them. -/
def InsertsLine (line s t : List Char) : Prop :=
  ∃ before after, lines s = before ++ after ∧ lines t = before ++ line :: after

/-- A line that is written before a line, or at the end of a text that ends with one. -/
theorem insertsLine_unlines {ls : List (List Char)} (h : ∀ l ∈ ls, '\n' ∉ l) {line : List Char}
    (lf : '\n' ∉ line) (s : List Char) :
    InsertsLine (dropCr line) (unlines ls ++ s) (unlines ls ++ (line ++ '\n' :: s)) := by
  have lines_append (t : List Char) : lines (unlines ls ++ t) = ls.map dropCr ++ lines t := by
    induction ls with
    | nil => rfl
    | cons l ls ih =>
      obtain ⟨hl, hls⟩ := List.forall_mem_cons.1 h
      have e : unlines (l :: ls) ++ t = l ++ '\n' :: (unlines ls ++ t) := by simp [unlines]
      rw [e, lines_append_lf hl, ih hls, List.map_cons, List.cons_append]
  exact ⟨_, _, lines_append s, by rw [lines_append, lines_append_lf lf]⟩

/-! ### Searching within lines -/

/-- What does not hold a separator is found on one side of it. -/
theorem infix_append_cons_iff {p : List Char} {c : Char} (hc : c ∉ p) (l s : List Char) :
    p <:+: l ++ c :: s ↔ p <:+: l ∨ p <:+: s := by
  -- nothing of it can stand at the separator
  have front {q : List Char} (hq : c ∉ q) (h : q <+: c :: s) : q = [] := by
    rcases List.prefix_cons_iff.1 h with h | ⟨r, rfl, -⟩
    · exact h
    · exact absurd List.mem_cons_self hq
  rw [List.infix_append_iff]
  constructor
  · rintro (h | h | ⟨p₁, p₂, rfl, h₁, h₂⟩)
    · exact .inl h
    · rcases List.infix_cons_iff.1 h with h | h
      · rw [front hc h]
        exact .inl List.nil_infix
      · exact .inr h
    · rw [front (fun hm => hc (List.mem_append_right _ hm)) h₂, List.append_nil]
      exact .inl h₁.isInfix
  · rintro (h | h)
    · exact .inl h
    · exact .inr (.inl (h.trans (List.suffix_cons _ _).isInfix))

theorem dropCr_eq_or (l : List Char) : dropCr l = l ∨ l = dropCr l ++ ['\r'] := by
  induction l with
  | nil => exact .inl rfl
  | cons c l ih =>
    cases l with
    | nil =>
      by_cases hc : c = '\r'
      · subst hc
        exact .inr rfl
      · exact .inl (if_neg hc)
    | cons d l =>
      rw [dropCr]
      exact ih.imp (congrArg (c :: ·)) (congrArg (c :: ·))

section

variable {p : List Char} (hne : p ≠ [])
include hne

theorem infix_dropCr_iff (hp : '\r' ∉ p) (l : List Char) : p <:+: dropCr l ↔ p <:+: l := by
  rcases dropCr_eq_or l with e | e
  · rw [e]
  · conv_rhs => rw [e, infix_append_cons_iff hp]
    simp [hne]

theorem infix_joinLf_iff (hp : '\n' ∉ p) (ls : List (List Char)) :
    p <:+: joinLf ls ↔ ∃ l ∈ ls, p <:+: l := by
  induction ls with
  | nil => simp [joinLf, hne]
  | cons l ls ih =>
    cases ls with
    | nil => simp [joinLf]
    | cons m ls =>
      rw [joinLf, infix_append_cons_iff hp, ih]
      exact (List.exists_mem_cons_iff _ l (m :: ls)).symm

/-- Line ends hold nothing of what is searched for. -/
theorem exists_infix_linesOfSegments_iff (hp : '\r' ∉ p) (ls : List (List Char)) :
    (∃ l ∈ linesOfSegments ls, p <:+: l) ↔ ∃ l ∈ ls, p <:+: l := by
  induction ls with
  | nil => rfl
  | cons l ls ih =>
    cases ls with
    | nil =>
      by_cases hl : l = []
      · simp [linesOfSegments, hl, hne]
      · simp [linesOfSegments, hl]
    | cons m ls =>
      rw [linesOfSegments, List.exists_mem_cons_iff, infix_dropCr_iff hne hp, ih,
        List.exists_mem_cons_iff _ l (m :: ls)]

/-- **What holds no line end is found in a text if it is found in one of its lines.** -/
theorem infix_iff_exists_lines (hlf : '\n' ∉ p) (hcr : '\r' ∉ p) (s : List Char) :
    p <:+: s ↔ ∃ l ∈ lines s, p <:+: l := by
  rw [lines, exists_infix_linesOfSegments_iff hne hcr, ← infix_joinLf_iff hne hlf, joinLf_segments]

end

/-! ### One more line -/

namespace InsertsLine

variable {line s t : List Char}

theorem any_lines (h : InsertsLine line s t) {p : List Char → Bool} (hline : p line = false) :
    (lines t).any p = (lines s).any p := by
  obtain ⟨before, after, hs, ht⟩ := h
  rw [hs, ht, List.any_append, List.any_append, List.any_cons, hline, Bool.false_or]

theorem infix_iff (h : InsertsLine line s t) {p : List Char} (hne : p ≠ []) (hlf : '\n' ∉ p)
    (hcr : '\r' ∉ p) (hline : ¬p <:+: line) : p <:+: t ↔ p <:+: s := by
  obtain ⟨before, after, hs, ht⟩ := h
  rw [infix_iff_exists_lines hne hlf hcr, infix_iff_exists_lines hne hlf hcr, hs, ht]
  simp only [List.mem_append, List.mem_cons]
  constructor
  · rintro ⟨l, hl | rfl | hl, h⟩
    · exact ⟨l, .inl hl, h⟩
    · exact absurd h hline
    · exact ⟨l, .inr hl, h⟩
  · rintro ⟨l, hl | hl, h⟩
    · exact ⟨l, .inl hl, h⟩
    · exact ⟨l, .inr (.inr hl), h⟩

end InsertsLine

end ReleaseGate.Text
