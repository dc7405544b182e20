import ReleaseGate.Proofs.InsertedLines
import ReleaseGate.Proofs.LineEnds
import ReleaseGate.Proofs.MarkedLines

/-!
# Lines of Schema Notes headings

The white space between the marks of a heading and its words takes line ends. So a document has Schema
Notes if one of its lines has, and besides these exactly if a heading without text is followed, blank
lines apart, by a line that starts with the words (`hasSchemaNotes_iff_lines`).
-/

namespace ReleaseGate

open Text (lines)

theorem Text.dropSpace_append (l s : List Char) :
    dropSpace (l ++ s) = if isBlank l then dropSpace s else dropSpace l ++ s := by
  have blank : (l.dropWhile isSpace).isEmpty = isBlank l := by
    rw [Bool.eq_iff_iff, List.isEmpty_iff, List.dropWhile_eq_nil_iff, isBlank, List.all_eq_true]
  rw [dropSpace, List.dropWhile_append, blank]
  rfl

theorem Text.isIndent_iff (c : Char) : isIndent c = true ↔ c = ' ' ∨ c = '\t' := by
  rw [isIndent, Bool.or_eq_true, beq_iff_eq, beq_iff_eq]

theorem Text.dropSpace_of_isBlank {l : List Char} (h : isBlank l = true) : dropSpace l = [] :=
  List.dropWhile_eq_nil_iff.2 (List.all_eq_true.1 h)

theorem Text.lines_of_lf_not_mem {l : List Char} (h : '\n' ∉ l) :
    lines l = if l = [] then [] else [l] := by
  rw [lines, segments_of_lf_not_mem h]
  rfl

namespace Release

/-! ### Headings without text -/

/-- What a heading starts with: at most three blanks, and two or three marks. -/
def HeadingMarks (start : List Char) : Prop :=
  ∃ indent marks, start = indent ++ marks ∧ indent.length ≤ 3 ∧
    (∀ c ∈ indent, Text.isIndent c = true) ∧ (marks = ['#', '#'] ∨ marks = ['#', '#', '#'])

/-- A line with the marks of a heading and no text. -/
def IsEmptyHeading (line : List Char) : Prop :=
  ∃ start gap, line = start ++ gap ∧ HeadingMarks start ∧ Text.isBlank gap = true

/-- The first line that is not blank starts with the words of the heading. -/
def StartWithWords (ls : List (List Char)) : Prop :=
  ∃ blanks first below, ls = blanks ++ first :: below ∧ (∀ b ∈ blanks, Text.isBlank b = true) ∧
    startsWithWords (Text.dropSpace first) = true

/-- A heading without text stands above the words. -/
def HasSplitHeading (ls : List (List Char)) : Prop :=
  ∃ above heading below, ls = above ++ heading :: below ∧ IsEmptyHeading heading ∧
    StartWithWords below

theorem not_startWithWords_nil : ¬StartWithWords [] := by
  rintro ⟨blanks, first, below, h, -⟩
  simp at h

theorem not_hasSplitHeading_nil : ¬HasSplitHeading [] := by
  rintro ⟨above, heading, below, h, -⟩
  simp at h

theorem hasSplitHeading_cons_iff (l : List Char) (ls : List (List Char)) :
    HasSplitHeading (l :: ls) ↔ IsEmptyHeading l ∧ StartWithWords ls ∨ HasSplitHeading ls := by
  constructor
  · rintro ⟨above, heading, below, h, hempty, hwords⟩
    cases above with
    | nil =>
      obtain ⟨rfl, rfl⟩ := List.cons.inj h
      exact .inl ⟨hempty, hwords⟩
    | cons k above =>
      obtain ⟨-, rfl⟩ := List.cons.inj h
      exact .inr ⟨above, heading, below, rfl, hempty, hwords⟩
  · rintro (⟨hempty, hwords⟩ | ⟨above, heading, below, rfl, hempty, hwords⟩)
    · exact ⟨[], l, ls, rfl, hempty, hwords⟩
    · exact ⟨l :: above, heading, below, rfl, hempty, hwords⟩

theorem startWithWords_cons_iff (l : List Char) (ls : List (List Char)) :
    StartWithWords (l :: ls) ↔
      startsWithWords (Text.dropSpace l) = true ∨ Text.isBlank l = true ∧ StartWithWords ls := by
  constructor
  · rintro ⟨blanks, first, below, h, hblank, hwords⟩
    cases blanks with
    | nil =>
      obtain ⟨rfl, -⟩ := List.cons.inj h
      exact .inl hwords
    | cons b blanks =>
      obtain ⟨rfl, rfl⟩ := List.cons.inj h
      obtain ⟨hl, hblanks⟩ := List.forall_mem_cons.1 hblank
      exact .inr ⟨hl, blanks, first, below, rfl, hblanks, hwords⟩
  · rintro (hwords | ⟨hl, blanks, first, below, rfl, hblanks, hwords⟩)
    · exact ⟨[], l, ls, rfl, by simp, hwords⟩
    · exact ⟨l :: blanks, first, below, rfl, List.forall_mem_cons.2 ⟨hl, hblanks⟩, hwords⟩

/-! ### Headings by their parts -/

/-- Behind the marks and white space, the words decide. -/
theorem notesAtFront_append_cons {start : List Char} (h : HeadingMarks start) {c : Char}
    (hc : Text.isSpace c = true) (more : List Char) :
    notesAtFront (start ++ c :: more) = startsWithWords (Text.dropSpace more) := by
  obtain ⟨indent, marks, rfl, hn, hindent, hmarks⟩ := h
  have hspace : ¬(c == '#') = true := by
    rw [beq_iff_eq]
    rintro rfl
    cases hc
  have hmark : ∀ d ∈ marks, (d == '#') = true := by rcases hmarks with rfl | rfl <;> simp
  have hlength : (marks.length == 2 || marks.length == 3) = true := by
    rcases hmarks with rfl | rfl <;> rfl
  have stop : (marks ++ c :: more).takeWhile Text.isIndent = [] ∧
      (marks ++ c :: more).dropWhile Text.isIndent = marks ++ c :: more := by
    rcases hmarks with rfl | rfl <;> exact ⟨rfl, rfl⟩
  have takeIndent : (indent ++ marks ++ c :: more).takeWhile Text.isIndent = indent := by
    rw [List.append_assoc, List.takeWhile_append_of_pos hindent, stop.1, List.append_nil]
  have dropIndent : (indent ++ marks ++ c :: more).dropWhile Text.isIndent = marks ++ c :: more := by
    rw [List.append_assoc, List.dropWhile_append_of_pos hindent, stop.2]
  have takeMarks : (marks ++ c :: more).takeWhile (· == '#') = marks := by
    rw [List.takeWhile_append_of_pos hmark, List.takeWhile_cons_of_neg (p := (· == '#')) hspace,
      List.append_nil]
  have dropMarks : (marks ++ c :: more).dropWhile (· == '#') = c :: more := by
    rw [List.dropWhile_append_of_pos hmark, List.dropWhile_cons_of_neg (p := (· == '#')) hspace]
  simp only [notesAtFront, takeIndent, dropIndent, takeMarks, dropMarks, hlength, hc, hn,
    decide_true, Bool.true_and]

/-- The marks are followed by white space, and this by the words. -/
theorem notesAtFront_iff (s : List Char) :
    notesAtFront s = true ↔
      ∃ start c more, s = start ++ c :: more ∧ HeadingMarks start ∧ Text.isSpace c = true ∧
        startsWithWords (Text.dropSpace more) = true := by
  constructor
  · intro h
    simp only [notesAtFront, Bool.and_eq_true, Bool.or_eq_true, beq_iff_eq, decide_eq_true_eq] at h
    obtain ⟨⟨hindent, hmarks⟩, hrest⟩ := h
    split at hrest
    · next c more hs =>
      rw [Bool.and_eq_true] at hrest
      have all : (s.dropWhile Text.isIndent).takeWhile (· == '#') =
          List.replicate ((s.dropWhile Text.isIndent).takeWhile (· == '#')).length '#' :=
        List.eq_replicate_of_mem fun d hd => by simpa using List.mem_takeWhile_imp hd
      refine ⟨s.takeWhile Text.isIndent ++ (s.dropWhile Text.isIndent).takeWhile (· == '#'), c, more,
        ?_, ⟨_, _, rfl, hindent, fun d hd => List.mem_takeWhile_imp hd, ?_⟩, hrest⟩
      · rw [List.append_assoc, ← hs, List.takeWhile_append_dropWhile, List.takeWhile_append_dropWhile]
      · rcases hmarks with hn | hn <;> rw [hn] at all
        · exact .inl all
        · exact .inr all
    · cases hrest
  · rintro ⟨start, c, more, rfl, hstart, hc, hwords⟩
    rwa [notesAtFront_append_cons hstart hc]

/-! ### Line ends -/

section

variable {e : Char} (he : e = '\r' ∨ e = '\n')
include he

theorem stripFolded?_append_lineEnd {words : List Char}
    (h : ∀ w ∈ words, Unicode.sameFold w '\r' = false ∧ Unicode.sameFold w '\n' = false)
    (t s : List Char) :
    stripFolded? words (t ++ e :: s) = (stripFolded? words t).map (· ++ e :: s) := by
  induction words generalizing t with
  | nil => rfl
  | cons w words ih =>
    obtain ⟨hw, hwords⟩ := List.forall_mem_cons.1 h
    cases t with
    | nil =>
      have hne : Unicode.sameFold w e = false := by
        rcases he with rfl | rfl
        · exact hw.1
        · exact hw.2
      simp [stripFolded?, hne]
    | cons c t =>
      rw [List.cons_append, stripFolded?, stripFolded?, ih hwords]
      split <;> rfl

/-- The words of the heading do not run over a line end. -/
theorem startsWithWords_append_lineEnd (t s : List Char) :
    startsWithWords (t ++ e :: s) = startsWithWords t := by
  rw [startsWithWords, startsWithWords, stripFolded?_append_lineEnd he not_sameFold_lineEnd]
  cases stripFolded? notesWords t with
  | none => rfl
  | some rest =>
    cases rest with
    | nil =>
      have hw : Unicode.isWord e = false := by rcases he with rfl | rfl <;> decide
      simp [wordEnds, hw]
    | cons c rest => rfl

theorem startsWithWords_dropSpace_append_lineEnd (l s : List Char) :
    startsWithWords (Text.dropSpace (l ++ e :: s)) = true ↔
      startsWithWords (Text.dropSpace l) = true ∨
        Text.isBlank l = true ∧ startsWithWords (Text.dropSpace s) = true := by
  have space : Text.isSpace e = true := by rcases he with rfl | rfl <;> rfl
  rw [Text.dropSpace_append]
  cases hl : Text.isBlank l with
  | true =>
    have none : startsWithWords [] = false := rfl
    rw [if_pos rfl, Text.dropSpace_of_isBlank hl, none, Text.dropSpace,
      List.dropWhile_cons_of_pos space, ← Text.dropSpace]
    simp
  | false =>
    rw [if_neg Bool.false_ne_true, startsWithWords_append_lineEnd he]
    simp

theorem not_mem_of_headingMarks {start : List Char} (h : HeadingMarks start) : e ∉ start := by
  obtain ⟨indent, marks, rfl, -, hindent, hmarks⟩ := h
  rw [List.mem_append, not_or]
  constructor
  · intro hm
    have := hindent e hm
    rcases he with rfl | rfl <;> cases this
  · rcases he with rfl | rfl <;> rcases hmarks with rfl | rfl <;> decide

/-- **What a line end does to a heading**: its text follows on the line, or the line has none and the
words come next behind it. -/
theorem notesAtFront_append_lineEnd (l s : List Char) :
    notesAtFront (l ++ e :: s) = true ↔
      notesAtFront l = true ∨
        IsEmptyHeading l ∧ startsWithWords (Text.dropSpace s) = true := by
  have space : Text.isSpace e = true := by rcases he with rfl | rfl <;> rfl
  simp only [notesAtFront_iff]
  constructor
  · rintro ⟨start, c, more, h, hstart, hc, hwords⟩
    have hne := not_mem_of_headingMarks he hstart
    rcases List.append_eq_append_iff.1 h with ⟨r, rfl, hr⟩ | ⟨r, rfl, hr⟩
    · cases r with
      | nil =>
        obtain ⟨rfl, rfl⟩ := List.cons.inj hr
        rw [List.append_nil] at hstart
        exact .inr ⟨⟨l, [], (List.append_nil l).symm, hstart, rfl⟩, hwords⟩
      | cons d r =>
        obtain ⟨rfl, -⟩ := List.cons.inj hr
        exact absurd (List.mem_append_right l List.mem_cons_self) hne
    · cases r with
      | nil =>
        obtain ⟨rfl, rfl⟩ := List.cons.inj hr
        exact .inr ⟨⟨start, [], rfl, hstart, rfl⟩, hwords⟩
      | cons d r =>
        obtain ⟨rfl, rfl⟩ := List.cons.inj hr
        rcases (startsWithWords_dropSpace_append_lineEnd he r s).1 hwords with h | ⟨hr, h⟩
        · exact .inl ⟨start, c, r, rfl, hstart, hc, h⟩
        · exact .inr ⟨⟨start, c :: r, rfl, hstart, by simp [hc, hr]⟩, h⟩
  · rintro (⟨start, c, more, rfl, hstart, hc, hwords⟩ | ⟨⟨start, gap, rfl, hstart, hgap⟩, hwords⟩)
    · refine ⟨start, c, more ++ e :: s, by simp, hstart, hc, ?_⟩
      exact (startsWithWords_dropSpace_append_lineEnd he more s).2 (.inl hwords)
    · cases gap with
      | nil => exact ⟨start, e, s, by simp, hstart, space, hwords⟩
      | cons c gap =>
        rw [Text.isBlank_cons, Bool.and_eq_true] at hgap
        refine ⟨start, c, gap ++ e :: s, by simp, hstart, hgap.1, ?_⟩
        exact (startsWithWords_dropSpace_append_lineEnd he gap s).2 (.inr ⟨hgap.2, hwords⟩)

end

/-! ### Carriage returns at the ends of lines -/

section

variable (l : List Char)

theorem startsWithWords_nil : startsWithWords [] = false := rfl

theorem isBlank_dropCr : Text.isBlank (Text.dropCr l) = Text.isBlank l := by
  rcases Text.dropCr_eq_or l with h | h
  · rw [h]
  · conv_rhs => rw [h, Text.isBlank_append]
    simp [Text.isSpace_cr]

theorem startsWithWords_dropSpace_dropCr :
    startsWithWords (Text.dropSpace (Text.dropCr l)) = startsWithWords (Text.dropSpace l) := by
  rcases Text.dropCr_eq_or l with h | h
  · rw [h]
  · rw [Bool.eq_iff_iff]
    conv_rhs => rw [h, startsWithWords_dropSpace_append_lineEnd (.inl rfl)]
    simp [Text.dropSpace, startsWithWords_nil]

theorem notesAtFront_dropCr : notesAtFront (Text.dropCr l) = notesAtFront l := by
  rcases Text.dropCr_eq_or l with h | h
  · rw [h]
  · rw [Bool.eq_iff_iff]
    conv_rhs => rw [h, notesAtFront_append_lineEnd (.inl rfl)]
    simp [Text.dropSpace, startsWithWords_nil]

theorem isEmptyHeading_dropCr : IsEmptyHeading (Text.dropCr l) ↔ IsEmptyHeading l := by
  rcases Text.dropCr_eq_or l with h | h
  · rw [h]
  · constructor
    · rintro ⟨start, gap, hl, hstart, hgap⟩
      refine ⟨start, gap ++ ['\r'], ?_, hstart, ?_⟩
      · rw [h, hl, List.append_assoc]
      · rw [Text.isBlank_append, hgap]
        rfl
    · rintro ⟨start, gap, hl, hstart, hgap⟩
      rcases List.eq_nil_or_concat gap with rfl | ⟨g, c, rfl⟩
      · -- the marks do not end with a carriage return
        rw [List.append_nil] at hl
        have hcr := not_mem_of_headingMarks (.inl rfl) hstart
        rw [← hl, h] at hcr
        simp at hcr
      · rw [List.concat_eq_append] at hl hgap
        rw [Text.isBlank_append, Bool.and_eq_true] at hgap
        rw [h, ← List.append_assoc] at hl
        exact ⟨start, g, (List.append_inj' hl rfl).1, hstart, hgap.1⟩

end

/-! ### Lines -/

theorem notesFrom_false_append_lf {l : List Char} (hl : '\n' ∉ l) (s : List Char) :
    notesFrom false (l ++ '\n' :: s) = notesFrom true s := by
  induction l with
  | nil => rfl
  | cons c l ih =>
    rw [List.mem_cons, not_or] at hl
    have hc : (c == '\n') = false := by simpa using Ne.symm hl.1
    rw [List.cons_append, notesFrom, hc, ih hl.2]
    rfl

theorem notesFrom_false_of_lf_not_mem {l : List Char} (hl : '\n' ∉ l) : notesFrom false l = false := by
  induction l with
  | nil => rfl
  | cons c l ih =>
    rw [List.mem_cons, not_or] at hl
    have hc : (c == '\n') = false := by simpa using Ne.symm hl.1
    rw [notesFrom, hc, ih hl.2]
    rfl

/-- A heading of a single line stands at its front. -/
theorem hasSchemaNotes_of_lf_not_mem {l : List Char} (hl : '\n' ∉ l) :
    hasSchemaNotes l = notesAtFront l := by
  cases l with
  | nil => rfl
  | cons c l =>
    rw [List.mem_cons, not_or] at hl
    have hc : (c == '\n') = false := by simpa using Ne.symm hl.1
    rw [hasSchemaNotes, notesFrom, hc, notesFrom_false_of_lf_not_mem hl.2]
    simp

theorem hasSchemaNotes_append_lf {l : List Char} (hl : '\n' ∉ l) (s : List Char) :
    hasSchemaNotes (l ++ '\n' :: s) = (notesAtFront (l ++ '\n' :: s) || hasSchemaNotes s) := by
  cases l with
  | nil => rfl
  | cons c l =>
    rw [List.mem_cons, not_or] at hl
    have hc : (c == '\n') = false := by simpa using Ne.symm hl.1
    rw [hasSchemaNotes, List.cons_append, notesFrom, hc, notesFrom_false_append_lf hl.2]
    simp [hasSchemaNotes]

/-- The words come next in a text exactly if they do in its lines. -/
theorem startWithWords_lines_iff (s : List Char) :
    StartWithWords (lines s) ↔ startsWithWords (Text.dropSpace s) = true := by
  induction s using Text.cut_induction '\n' with
  | last l hl =>
    rw [Text.lines_of_lf_not_mem hl]
    split
    · next h =>
      rw [h]
      simp [not_startWithWords_nil, Text.dropSpace, startsWithWords_nil]
    · simp [startWithWords_cons_iff, not_startWithWords_nil]
  | cut l s hl ih =>
    rw [Text.lines_append_lf hl, startWithWords_cons_iff, ih, startsWithWords_dropSpace_dropCr,
      isBlank_dropCr, startsWithWords_dropSpace_append_lineEnd (.inr rfl)]

/-- **Schema Notes by lines.** A document has them exactly if some line has, or some line has the marks
of a heading and no text and the next line that is not blank starts with the words. -/
theorem hasSchemaNotes_iff_lines (text : List Char) :
    hasSchemaNotes text = true ↔
      (∃ l ∈ lines text, hasSchemaNotes l = true) ∨ HasSplitHeading (lines text) := by
  induction text using Text.cut_induction '\n' with
  | last l hl =>
    rw [Text.lines_of_lf_not_mem hl]
    split
    · next h =>
      rw [h]
      simp [not_hasSplitHeading_nil, hasSchemaNotes, notesFrom]
    · simp [hasSplitHeading_cons_iff, not_hasSplitHeading_nil, not_startWithWords_nil]
  | cut l s hl ih =>
    have hcr : '\n' ∉ Text.dropCr l := fun hm => hl (Text.dropCr_subset l hm)
    rw [hasSchemaNotes_append_lf hl, Bool.or_eq_true, ih, notesAtFront_append_lineEnd (.inr rfl),
      Text.lines_append_lf hl, List.exists_mem_cons_iff, hasSplitHeading_cons_iff,
      hasSchemaNotes_of_lf_not_mem hcr, notesAtFront_dropCr, isEmptyHeading_dropCr,
      startWithWords_lines_iff, or_or_or_comm]

/-- **A heading may stand above its words**: this document has Schema Notes, and neither of its lines
has. -/
theorem hasSchemaNotes_splitHeading :
    hasSchemaNotes "##\nSchema Notes\n".toList = true ∧
      ∀ l ∈ lines "##\nSchema Notes\n".toList, hasSchemaNotes l = false := by
  decide +kernel

end Release

end ReleaseGate
