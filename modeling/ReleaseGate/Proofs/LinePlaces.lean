import ReleaseGate.Proofs.DeclarationLines
import ReleaseGate.Proofs.NotesLines

/-!
# Lines by their places

A line of a text is told by where it stands (`IsLine`): behind the start of the text or a line feed,
and before a line end or the end of the text. These are exactly the lines that are read
(`mem_lines_iff`). Where one text ends with a line, the lines of another one follow those of the first
(`lines_append`).
-/

namespace ReleaseGate.Text

/-- What follows a line: a line end, of which the carriage return is no part of the line, or the end
of the text, where an empty line is none. -/
def EndsBefore (line rest : List Char) : Prop :=
  (∃ r, rest = '\r' :: '\n' :: r) ∨ ((∃ r, rest = '\n' :: r) ∧ line.getLast? ≠ some '\r') ∨
    (rest = [] ∧ line ≠ [])

/-- A line stands in a text: it starts the text or follows a line feed, holds none, and ends. -/
def IsLine (text line : List Char) : Prop :=
  ∃ before rest, text = before ++ (line ++ rest) ∧ (before = [] ∨ ∃ b, before = b ++ ['\n']) ∧
    '\n' ∉ line ∧ EndsBefore line rest

/-! ### Carriage returns -/

theorem dropCr_eq_self_iff (l : List Char) : dropCr l = l ↔ l.getLast? ≠ some '\r' := by
  constructor
  · intro h hlast
    obtain ⟨k, rfl⟩ := List.getLast?_eq_some_iff.1 hlast
    rw [dropCr_append_cr] at h
    simp at h
  · intro hlast
    rcases dropCr_eq_or l with h | h
    · exact h
    · rw [h, List.getLast?_concat] at hlast
      exact absurd rfl hlast

theorem dropCr_eq_iff (l line : List Char) :
    dropCr l = line ↔ l = line ++ ['\r'] ∨ l = line ∧ line.getLast? ≠ some '\r' := by
  constructor
  · rintro rfl
    rcases dropCr_eq_or l with h | h
    · rw [h]
      exact .inr ⟨rfl, (dropCr_eq_self_iff l).1 h⟩
    · exact .inl h
  · rintro (rfl | ⟨rfl, hlast⟩)
    · exact dropCr_append_cr line
    · exact (dropCr_eq_self_iff l).2 hlast

/-! ### Texts without a line feed, and texts cut at their first one -/

theorem isLine_of_lf_not_mem {text : List Char} (h : '\n' ∉ text) (line : List Char) :
    IsLine text line ↔ line = text ∧ text ≠ [] := by
  constructor
  · rintro ⟨before, rest, rfl, hbefore, -, hrest⟩
    have hb : before = [] := by
      rcases hbefore with hb | ⟨b, rfl⟩
      · exact hb
      · simp at h
    rcases hrest with ⟨r, rfl⟩ | ⟨⟨r, rfl⟩, -⟩ | ⟨rfl, hne⟩
    · simp at h
    · simp at h
    · subst hb
      simpa using hne
  · rintro ⟨rfl, hne⟩
    exact ⟨[], [], by simp, .inl rfl, h, .inr (.inr ⟨rfl, hne⟩)⟩

/-- The line at the front of a text is what stands before the first line feed. -/
theorem endsBefore_front_iff {l : List Char} (hl : '\n' ∉ l) (s line : List Char) :
    (∃ rest, l ++ '\n' :: s = line ++ rest ∧ '\n' ∉ line ∧ EndsBefore line rest) ↔
      line = dropCr l := by
  rw [eq_comm (a := line), dropCr_eq_iff]
  constructor
  · rintro ⟨rest, h, hline, ⟨r, rfl⟩ | ⟨⟨r, rfl⟩, hlast⟩ | ⟨rfl, -⟩⟩
    · have hcr : '\n' ∉ line ++ ['\r'] := by simpa using hline
      have h : l ++ '\n' :: s = (line ++ ['\r']) ++ '\n' :: r := by simpa using h
      exact .inl ((append_cons_inj_of_not_mem hl hcr).1 h).1
    · exact .inr ⟨((append_cons_inj_of_not_mem hl hline).1 h).1, hlast⟩
    · -- the line would hold the line feed
      rw [List.append_nil] at h
      rw [← h] at hline
      simp at hline
  · rintro (rfl | ⟨rfl, hlast⟩)
    · exact ⟨'\r' :: '\n' :: s, by simp, by simpa using hl, .inl ⟨s, rfl⟩⟩
    · exact ⟨'\n' :: s, rfl, hl, .inr (.inl ⟨⟨s, rfl⟩, hlast⟩)⟩

/-- A line starts at the front of a text or behind its first line feed. -/
theorem exists_behind_first_lf {l before after s : List Char} (hl : '\n' ∉ l)
    (hbefore : ∃ b, before = b ++ ['\n']) (h : l ++ '\n' :: s = before ++ after) :
    ∃ between, s = between ++ after ∧ (between = [] ∨ ∃ b, between = b ++ ['\n']) := by
  obtain ⟨b, rfl⟩ := hbefore
  rw [List.append_assoc, List.singleton_append] at h
  by_cases hb : '\n' ∈ b
  · obtain ⟨k, r, rfl, hk⟩ := List.eq_append_cons_of_mem hb
    rw [List.append_assoc, List.cons_append] at h
    obtain ⟨rfl, rfl⟩ := (append_cons_inj_of_not_mem hl hk).1 h
    exact ⟨r ++ ['\n'], by simp, .inr ⟨r, rfl⟩⟩
  · obtain ⟨rfl, rfl⟩ := (append_cons_inj_of_not_mem hl hb).1 h
    exact ⟨[], rfl, .inl rfl⟩

theorem isLine_append_lf {l : List Char} (hl : '\n' ∉ l) (s line : List Char) :
    IsLine (l ++ '\n' :: s) line ↔ line = dropCr l ∨ IsLine s line := by
  rw [← endsBefore_front_iff hl s]
  constructor
  · rintro ⟨before, rest, h, rfl | hbefore, hline, hrest⟩
    · exact .inl ⟨rest, h, hline, hrest⟩
    · obtain ⟨between, hs, hbetween⟩ := exists_behind_first_lf hl hbefore h
      exact .inr ⟨between, rest, hs, hbetween, hline, hrest⟩
  · rintro (⟨rest, h, hline, hrest⟩ | ⟨before, rest, rfl, hbefore, hline, hrest⟩)
    · exact ⟨[], rest, h, .inl rfl, hline, hrest⟩
    · refine ⟨l ++ '\n' :: before, rest, by simp, .inr ?_, hline, hrest⟩
      rcases hbefore with rfl | ⟨b, rfl⟩
      · exact ⟨l, rfl⟩
      · exact ⟨l ++ '\n' :: b, by simp⟩

/-- **The lines that are read are those that stand in the text.** -/
theorem mem_lines_iff (text line : List Char) : line ∈ lines text ↔ IsLine text line := by
  induction text using cut_induction '\n' with
  | last l hl =>
    rw [lines_of_lf_not_mem hl, isLine_of_lf_not_mem hl]
    by_cases hempty : l = []
    · simp [hempty]
    · simp [hempty]
  | cut l s hl ih => rw [lines_append_lf hl, List.mem_cons, isLine_append_lf hl, ih]

/-! ### Texts one after the other -/

/-- Behind a text that ends with a line, another text starts with one. -/
theorem lines_append {t : List Char} (h : startsLine true t = true) (s : List Char) :
    lines (t ++ s) = lines t ++ lines s := by
  rcases (startsLine_true_iff t).1 h with rfl | ⟨b, rfl⟩
  · rfl
  · rw [List.append_assoc, List.singleton_append, lines_append_cons_lf, lines_append_end]

end ReleaseGate.Text
