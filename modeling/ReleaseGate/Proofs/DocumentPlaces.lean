import Mathlib.Data.List.Induction
import ReleaseGate.Proofs.DocumentReading
import ReleaseGate.Proofs.FirstDeclaration

/-!
# Places in a document

What the next character of a document belongs to is told by the characters before it: a comment, a
text of one of the four forms, or none of them (`modeAfter`). Blanks, comments and texts are followed
through these modes. A text of any form leaves nothing open behind it (`QuotedText.closes`), and only
the lines of a text between three quotes start inside of it.
-/

namespace ReleaseGate.Toml

/-! ### Modes -/

/-- What the next character belongs to. -/
inductive Mode
  /-- No comment and no text. -/
  | outside
  | comment
  /-- A text, behind the first of its quotes. -/
  | opened (quote : Char)
  /-- What stands behind two quotes: an empty text, or the third of three opening quotes. -/
  | paired (quote : Char)
  /-- A text on one line. -/
  | short (quote : Char) (escaped : Bool)
  /-- A text between three quotes, behind `count` of them in a row. Three end it, and up to two more
  belong to it. -/
  | long (quote : Char) (escaped : Bool) (count : Nat)
  deriving DecidableEq, Repr

namespace Mode

/-- The mode behind a character outside of comments and texts. -/
def enter (c : Char) : Mode :=
  if c = '#' then comment else if isQuote c then opened c else outside

/-- The mode behind a character of a text on one line. -/
def inShort (quote c : Char) : Mode :=
  if c = quote then outside else short quote (quote == doubleQuote && c == backslash)

/-- The mode behind one more character. -/
def step : Mode → Char → Mode
  | outside, c => enter c
  | comment, c => if c = '\n' then outside else comment
  | opened quote, c => if c = quote then paired quote else inShort quote c
  | paired quote, c => if c = quote then long quote false 0 else enter c
  | short quote true, _ => short quote false
  | short quote false, c => inShort quote c
  | long quote true _, _ => long quote false 0
  | long quote false count, c =>
    if c = quote then long quote false (count + 1)
    else if 3 ≤ count then enter c
    else long quote (quote == doubleQuote && c == backslash) 0

/-- Inside a text between three quotes. -/
def isLong : Mode → Bool
  | long _ _ count => count < 3
  | _ => false

/-- Nothing is open, unless the same quote follows. -/
def IsClosed : Mode → Prop
  | outside => True
  | paired quote => isQuote quote = true
  | long quote escaped count => isQuote quote = true ∧ escaped = false ∧ 3 ≤ count
  | _ => False

theorem IsClosed.step_eq {m : Mode} (hm : m.IsClosed) {c : Char} (hc : isQuote c = false) :
    m.step c = enter c := by
  have other {quote : Char} (hq : isQuote quote = true) : c ≠ quote := by
    rintro rfl
    exact Bool.false_ne_true (hc.symm.trans hq)
  cases m with
  | outside => rfl
  | paired quote => rw [step, if_neg (other hm)]
  | long quote escaped count =>
    obtain ⟨hq, rfl, hcount⟩ := hm
    rw [step, if_neg (other hq), if_pos hcount]
  | _ => exact hm.elim

end Mode

/-- What the next character of a document belongs to, behind some text. -/
def modeAfter (before : List Char) : Mode := before.foldl Mode.step .outside

namespace Mode

/-- The quotes that a mode tells of stand before it: one or two at the end, or three somewhere. -/
def StandsBehind (before : List Char) : Mode → Prop
  | opened quote => isQuote quote = true ∧ [quote] <:+ before
  | paired quote => isQuote quote = true ∧ [quote, quote] <:+ before
  | long quote _ _ => isQuote quote = true ∧ [quote, quote, quote] <:+: before
  | _ => True

theorem standsBehind_enter (before : List Char) (c : Char) :
    (enter c).StandsBehind (before ++ [c]) := by
  rw [enter]
  split
  · trivial
  · split
    · next hc => exact ⟨hc, List.suffix_append ..⟩
    · trivial

theorem standsBehind_inShort (before : List Char) (quote c : Char) :
    (inShort quote c).StandsBehind before := by
  rw [inShort]
  split <;> trivial

theorem StandsBehind.step {before : List Char} {m : Mode} (h : m.StandsBehind before) (c : Char) :
    (m.step c).StandsBehind (before ++ [c]) := by
  have kept {p : List Char} (h : p <:+: before) : p <:+: before ++ [c] :=
    h.trans (List.prefix_append before [c]).isInfix
  cases m with
  | outside => exact standsBehind_enter before c
  | comment =>
    rw [Mode.step]
    split <;> trivial
  | opened quote =>
    rw [Mode.step]
    split
    · next hc =>
      obtain ⟨hquote, u, rfl⟩ := h
      exact ⟨hquote, u, by simp [hc]⟩
    · exact standsBehind_inShort ..
  | paired quote =>
    rw [Mode.step]
    split
    · next hc =>
      obtain ⟨hquote, u, rfl⟩ := h
      exact ⟨hquote, u, [], by simp [hc]⟩
    · exact standsBehind_enter before c
  | short quote escaped =>
    cases escaped with
    | true => trivial
    | false => exact standsBehind_inShort ..
  | long quote escaped count =>
    cases escaped with
    | true => exact h.imp id kept
    | false =>
      rw [Mode.step]
      split
      · exact h.imp id kept
      · split
        · exact standsBehind_enter before c
        · exact h.imp id kept

end Mode

theorem standsBehind_modeAfter (before : List Char) : (modeAfter before).StandsBehind before := by
  induction before using List.reverseRecOn with
  | nil => trivial
  | append_singleton before c ih =>
    rw [modeAfter, List.foldl_append]
    exact ih.step c

/-- **Inside a text between three quotes, the three that open it stand before.** -/
theorem exists_quotes_of_isLong {before : List Char} (h : (modeAfter before).isLong = true) :
    ∃ quote, isQuote quote = true ∧ [quote, quote, quote] <:+: before := by
  have behind := standsBehind_modeAfter before
  cases hm : modeAfter before with
  | long quote =>
    rw [hm] at behind
    exact ⟨quote, behind⟩
  | _ =>
    rw [hm] at h
    cases h

/-! ### Places -/

/-- A place: what the next character belongs to, and whether a line starts with it. -/
structure Place where
  mode : Mode
  atStart : Bool
  deriving DecidableEq, Repr

namespace Place

/-- Outside of comments and texts, where no line starts. -/
abbrev inLine : Place := ⟨.outside, false⟩

/-- Outside of comments and texts, where a line starts. -/
abbrev lineStart : Place := ⟨.outside, true⟩

/-- The place behind one more character. -/
def next (p : Place) (c : Char) : Place := ⟨p.mode.step c, c == '\n'⟩

/-- The place behind some text. -/
def after (p : Place) (s : List Char) : Place := s.foldl next p

/-- Whether some line in a text starts with a `v`, and not inside a text between three quotes. -/
def exposes : Place → List Char → Bool
  | _, [] => false
  | p, c :: s => (p.atStart && !p.mode.isLong && c == 'v') || exposes (p.next c) s

theorem after_eq (p : Place) (s : List Char) :
    p.after s = ⟨s.foldl Mode.step p.mode, Text.startsLine p.atStart s⟩ := by
  induction s generalizing p with
  | nil => rfl
  | cons c s ih => exact ih (p.next c)

theorem after_append (p : Place) (s t : List Char) : p.after (s ++ t) = (p.after s).after t :=
  List.foldl_append ..

theorem exposes_append (p : Place) (s t : List Char) :
    p.exposes (s ++ t) = (p.exposes s || (p.after s).exposes t) := by
  induction s generalizing p with
  | nil => rfl
  | cons c s ih => rw [List.cons_append, exposes, exposes, ih, Bool.or_assoc, after, after,
      List.foldl_cons]

/-- A text leads from one place to another, and hides every `v` at the start of a line in texts
between three quotes. -/
structure Passes (p : Place) (w : List Char) (p' : Place) : Prop where
  after_eq : p.after w = p'
  hides : p.exposes w = false

namespace Passes

variable {p p' p'' : Place} {m : Mode} {a : Bool} {c : Char} {w t : List Char}

theorem nil (p : Place) : Passes p [] p := ⟨rfl, rfl⟩

theorem append (h : Passes p w p') (ht : Passes p' t p'') : Passes p (w ++ t) p'' where
  after_eq := by rw [after_append, h.after_eq, ht.after_eq]
  hides := by rw [exposes_append, h.after_eq, h.hides, ht.hides]; rfl

theorem cons (hc : (p.atStart && !p.mode.isLong && c == 'v') = false)
    (h : Passes (p.next c) w p') : Passes p (c :: w) p' where
  after_eq := h.after_eq
  hides := by rw [exposes, hc, h.hides]; rfl

/-- Within a line, no character is exposed. -/
theorem cons_within_iff :
    Passes ⟨m, false⟩ (c :: w) p' ↔ Passes (next ⟨m, false⟩ c) w p' := by
  have hides : exposes ⟨m, false⟩ (c :: w) = exposes (next ⟨m, false⟩ c) w := Bool.false_or _
  exact ⟨fun h => ⟨h.after_eq, hides ▸ h.hides⟩, .cons rfl⟩

/-- Inside a text between three quotes, no character is exposed. -/
theorem cons_long (hm : m.isLong = true) (h : Passes (next ⟨m, a⟩ c) w p') :
    Passes ⟨m, a⟩ (c :: w) p' :=
  h.cons (by simp [hm])

/-- Only a `v` at its front makes a difference to a text at the start of a line. -/
theorem of_within (h : Passes ⟨m, false⟩ w p') (hne : w ≠ []) (hv : Clear (· == 'v') w)
    (a : Bool) : Passes ⟨m, a⟩ w p' := by
  cases w with
  | nil => exact absurd rfl hne
  | cons c w =>
    have hc : c ≠ 'v' := by simpa using hv
    exact .cons (by simp [hc]) (cons_within_iff.1 h)

/-- What does not start with a quote goes on alike behind what is closed. -/
theorem of_isClosed (hm : m.IsClosed) (h : Passes inLine w p') (hne : w ≠ [])
    (hquote : Clear isQuote w) : Passes ⟨m, false⟩ w p' := by
  cases w with
  | nil => exact absurd rfl hne
  | cons c w =>
    have same : next ⟨m, false⟩ c = next inLine c := by
      rw [next, next, hm.step_eq (clear_cons.1 hquote)]
      rfl
    exact cons_within_iff.2 (same ▸ cons_within_iff.1 h)

end Passes

/-- A text within a line that leaves nothing open. -/
def Closes (w : List Char) : Prop :=
  ∃ m : Mode, m.IsClosed ∧ Passes inLine w ⟨m, false⟩

/-! ### Characters outside of comments and texts -/

/-- A character that opens and ends nothing. -/
def isCalm (c : Char) : Bool := !(isQuote c || c == '#' || c == '\n')

theorem next_of_isCalm {c : Char} (hc : isCalm c = true) (a : Bool) :
    next ⟨.outside, a⟩ c = inLine := by
  simp only [isCalm, Bool.not_eq_true', Bool.or_eq_false_iff] at hc
  simp [next, Mode.step, Mode.enter, hc, beq_eq_false_iff_ne.1 hc.1.2]

theorem passes_calm {w : List Char} (hw : ∀ c ∈ w, isCalm c = true) : Passes inLine w inLine := by
  induction w with
  | nil => exact .nil _
  | cons c w ih =>
    obtain ⟨hc, hw⟩ := List.forall_mem_cons.1 hw
    exact Passes.cons_within_iff.2 (next_of_isCalm hc false ▸ ih hw)

namespace Closes

variable {c : Char} {w t : List Char}

theorem calm (hw : ∀ c ∈ w, isCalm c = true) : Closes w := ⟨.outside, trivial, passes_calm hw⟩

theorem append (h : Closes w) (ht : Closes t) (hquote : Clear isQuote t) : Closes (w ++ t) := by
  obtain ⟨m, hm, hw⟩ := h
  obtain ⟨m', hm', ht⟩ := ht
  cases t with
  | nil => exact ⟨m, hm, by rwa [List.append_nil]⟩
  | cons c t => exact ⟨m', hm', hw.append (ht.of_isClosed hm (by simp) hquote)⟩

/-- Behind a character that opens nothing, any text may stand. -/
theorem cons (hc : isCalm c = true) (h : Closes t) : Closes (c :: t) := by
  obtain ⟨m, hm, ht⟩ := h
  exact ⟨m, hm, Passes.cons_within_iff.2 (next_of_isCalm hc false ▸ ht)⟩

theorem calm_append (hw : ∀ c ∈ w, isCalm c = true) (h : Closes t) : Closes (w ++ t) := by
  obtain ⟨m, hm, ht⟩ := h
  exact ⟨m, hm, (passes_calm hw).append ht⟩

end Closes

end Place

open Place

/-! ### Blanks, comments and line ends -/

section Blanks

variable {b r n g e t w : List Char}

theorem Blanks.calm (hb : Blanks b) : ∀ c ∈ b, isCalm c = true := fun c hc => by
  rcases isBlank_iff.1 (hb c hc) with rfl | rfl <;> rfl

theorem passes_comment (hw : ∀ c ∈ w, isPlain c = true) :
    Passes ⟨.comment, false⟩ w ⟨.comment, false⟩ := by
  induction w with
  | nil => exact .nil _
  | cons c w ih =>
    obtain ⟨hc, hw⟩ := List.forall_mem_cons.1 hw
    have hlf : c ≠ '\n' := by
      rintro rfl
      cases hc
    have stays : next ⟨.comment, false⟩ c = ⟨.comment, false⟩ := by simp [next, Mode.step, hlf]
    rw [Passes.cons_within_iff, stays]
    exact ih hw

/-- A line end leads from a comment, or from outside of it, to the start of a line. -/
theorem LineBreak.passes (hn : LineBreak n) {m : Mode} (hm : m = .outside ∨ m = .comment) :
    Passes ⟨m, false⟩ n lineStart := by
  rcases hm with rfl | rfl <;> cases hn <;> exact ⟨by decide, by decide⟩

/-- The end of a line, on a line or at the start of one. -/
theorem passes_lineEnd (hb : Blanks b) (hr : Remark r) (hn : LineBreak n) (a : Bool) :
    Passes ⟨.outside, a⟩ (b ++ r ++ n) lineStart := by
  have within : Passes inLine (r ++ n) lineStart := by
    cases hr with
    | none => exact hn.passes (.inl rfl)
    | some hw => exact Passes.cons_within_iff.2 ((passes_comment hw).append (hn.passes (.inr rfl)))
  have hne : b ++ (r ++ n) ≠ [] := by cases hn <;> simp
  have hv : Clear (· == 'v') (b ++ (r ++ n)) := by
    have hn : Clear (· == 'v') n := by cases hn <;> exact clear_cons.2 rfl
    exact hb.clear ⟨rfl, rfl⟩ (hr.clear rfl hn)
  rw [List.append_assoc]
  exact ((passes_calm hb.calm).append within).of_within hne hv a

theorem passes_gap (hg : Gap g) (a : Bool) : ∃ a', Passes ⟨.outside, a⟩ g ⟨.outside, a'⟩ := by
  induction hg generalizing a with
  | @blanks b hb =>
    cases b with
    | nil => exact ⟨a, .nil _⟩
    | cons c b =>
      have hv : Clear (· == 'v') (c :: b ++ []) := hb.clear ⟨rfl, rfl⟩ (clear_nil _)
      rw [List.append_nil] at hv
      exact ⟨false, (passes_calm hb.calm).of_within (by simp) hv a⟩
  | line hb hr hn _ ih =>
    obtain ⟨a', h⟩ := ih true
    exact ⟨a', (passes_lineEnd hb hr hn a).append h⟩

/-- Behind a gap, a line may start. -/
theorem Place.Closes.gap_append (hg : Gap g) (h : Closes t) (hne : t ≠ [])
    (hv : Clear (· == 'v') t) : Closes (g ++ t) := by
  obtain ⟨m, hm, ht⟩ := h
  obtain ⟨a, hg⟩ := passes_gap hg false
  exact ⟨m, hm, hg.append (ht.of_within hne hv a)⟩

end Blanks

/-! ### Texts -/

section Texts

variable {quote c : Char} {escapes : Bool} {cs e u w : List Char}

theorem ne_lf_of_isPlain {c : Char} (hc : isPlain c = true) : c ≠ '\n' := by
  rintro rfl
  cases hc

/-- A character that ends no text in some quotes, and escapes nothing there. -/
def IsInner (quote c : Char) : Prop := c ≠ quote ∧ (quote = doubleQuote → c ≠ backslash)

theorem IsInner.inShort (h : IsInner quote c) : Mode.inShort quote c = .short quote false := by
  have hback : (quote == doubleQuote && c == backslash) = false := by simpa using h.2
  rw [Mode.inShort, if_neg h.1, hback]

theorem IsInner.inLong (h : IsInner quote c) {count : Nat} (hcount : count < 3) :
    (Mode.long quote false count).step c = .long quote false 0 := by
  have hback : (quote == doubleQuote && c == backslash) = false := by simpa using h.2
  rw [Mode.step, if_neg h.1, if_neg (Nat.not_le_of_lt hcount), hback]

/-- What follows the backslash in an escape: a sign, or a letter and digits. -/
theorem Escape.exists_cons (he : Escape c e) :
    ∃ x u, e = x :: u ∧ x ≠ '\n' ∧ ∀ d ∈ u, IsInner doubleQuote d ∧ d ≠ '\n' := by
  have digit {u : List Char} (h : u.all isHexDigit = true) :
      ∀ d ∈ u, IsInner doubleQuote d ∧ d ≠ '\n' := fun d hd => by
    have hhex := List.all_eq_true.1 h d hd
    refine ⟨⟨?_, fun _ => ?_⟩, ?_⟩ <;> rintro rfl <;> cases hhex
  cases he with
  | @sign x h =>
    refine ⟨x, [], rfl, ?_, by simp⟩
    rintro rfl
    revert h
    simp [doubleQuote, backslash]
  | short _ hdigits => exact ⟨_, _, rfl, by decide, digit hdigits⟩
  | long _ hdigits => exact ⟨_, _, rfl, by decide, digit hdigits⟩

/-- Inner characters stay inside a text on one line. -/
theorem passes_short (hw : ∀ c ∈ w, IsInner quote c ∧ c ≠ '\n') :
    Passes ⟨.short quote false, false⟩ w ⟨.short quote false, false⟩ := by
  induction w with
  | nil => exact .nil _
  | cons c w ih =>
    obtain ⟨⟨hc, hlf⟩, hw⟩ := List.forall_mem_cons.1 hw
    have stays : next ⟨.short quote false, false⟩ c = ⟨.short quote false, false⟩ := by
      rw [next, Mode.step, hc.inShort, beq_eq_false_iff_ne.2 hlf]
    rw [Passes.cons_within_iff, stays]
    exact ih hw

theorem BasicText.passes (h : BasicText cs w) :
    Passes ⟨.short doubleQuote false, false⟩ w ⟨.short doubleQuote false, false⟩ := by
  induction h with
  | nil => exact .nil _
  | @plain c cs w hc hquote hback _ ih =>
    have inner : ∀ d ∈ [c], IsInner doubleQuote d ∧ d ≠ '\n' := by
      simpa [IsInner] using ⟨⟨hquote, hback⟩, ne_lf_of_isPlain hc⟩
    exact (passes_short inner).append ih
  | @escape c cs e w he _ ih =>
    obtain ⟨x, u, rfl, hx, hu⟩ := he.exists_cons
    have entered : next ⟨.short doubleQuote false, false⟩ backslash =
        ⟨.short doubleQuote true, false⟩ := by decide
    have left : next ⟨.short doubleQuote true, false⟩ x = ⟨.short doubleQuote false, false⟩ := by
      rw [next, Mode.step, beq_eq_false_iff_ne.2 hx]
    rw [List.cons_append, List.cons_append, Passes.cons_within_iff, entered,
      Passes.cons_within_iff, left]
    exact (passes_short hu).append ih

/-- **A text on one line leaves nothing open.** -/
theorem ShortText.closes (h : ShortText cs w) : Closes w := by
  have quoted {quote : Char} (hq : isQuote quote = true) {u : List Char}
      (hu : Passes ⟨.short quote false, false⟩ u ⟨.short quote false, false⟩)
      (hhead : u.head? ≠ some quote) : Closes (quote :: u ++ [quote]) := by
    have hne : quote ≠ '#' ∧ quote ≠ '\n' := by
      constructor <;> rintro rfl <;> cases hq
    have opened : next inLine quote = ⟨.opened quote, false⟩ := by
      simp [next, Mode.step, Mode.enter, hne, hq]
    cases u with
    | nil =>
      refine ⟨.paired quote, hq, ?_⟩
      rw [List.cons_append, Passes.cons_within_iff, opened, List.nil_append, Passes.cons_within_iff]
      have paired : next ⟨.opened quote, false⟩ quote = ⟨.paired quote, false⟩ := by
        simp [next, Mode.step, hne]
      rw [paired]
      exact .nil _
    | cons c u =>
      have hc : c ≠ quote := by simpa using hhead
      have same : next ⟨.opened quote, false⟩ c = next ⟨.short quote false, false⟩ c := by
        simp [next, Mode.step, hc]
      have shut : next ⟨.short quote false, false⟩ quote = inLine := by
        simp [next, Mode.step, Mode.inShort, hne]
      refine ⟨.outside, trivial, ?_⟩
      rw [List.cons_append, Passes.cons_within_iff, opened, List.cons_append,
        Passes.cons_within_iff, same]
      refine (Passes.cons_within_iff.1 hu).append ?_
      rw [Passes.cons_within_iff, shut]
      exact .nil _
  cases h with
  | basic h => exact quoted rfl h.passes h.head?_ne
  | literal hw =>
    have inner : ∀ c ∈ cs, IsInner singleQuote c ∧ c ≠ '\n' := fun c hc =>
      ⟨⟨(hw c hc).2, fun h => absurd h (by decide)⟩, ne_lf_of_isPlain (hw c hc).1⟩
    exact quoted rfl (passes_short inner) fun h => (hw _ (List.mem_of_mem_head? h)).2 rfl

section Long

variable (hquote : (quote, escapes) ∈ [(doubleQuote, true), (singleQuote, false)])
include hquote

theorem isQuote_of_mem : isQuote quote = true := by
  simp only [List.mem_cons, List.not_mem_nil, or_false, Prod.mk.injEq] at hquote
  rcases hquote with ⟨rfl, -⟩ | ⟨rfl, -⟩ <;> rfl

theorem ne_of_isQuote {c : Char} (hc : isQuote c = false) : c ≠ quote := by
  rintro rfl
  exact Bool.false_ne_true (hc.symm.trans (isQuote_of_mem hquote))

theorem escapes_iff : escapes = true ↔ quote = doubleQuote := by
  simp only [List.mem_cons, List.not_mem_nil, or_false, Prod.mk.injEq] at hquote
  rcases hquote with ⟨rfl, rfl⟩ | ⟨rfl, rfl⟩ <;> decide

/-- White space is inner. -/
theorem isInner_of_mem (hc : c ∈ [' ', '\t', '\n', '\r']) : IsInner quote c := by
  have hback : c ≠ backslash := by
    rintro rfl
    revert hc
    decide
  refine ⟨ne_of_isQuote hquote ?_, fun _ => hback⟩
  simp only [List.mem_cons, List.not_mem_nil, or_false] at hc
  rcases hc with rfl | rfl | rfl | rfl <;> rfl

end Long

/-- Inner characters stay inside a text between three quotes. -/
theorem passes_long (hw : ∀ c ∈ w, IsInner quote c) (a : Bool) :
    ∃ a', Passes ⟨.long quote false 0, a⟩ w ⟨.long quote false 0, a'⟩ := by
  induction w generalizing a with
  | nil => exact ⟨a, .nil _⟩
  | cons c w ih =>
    obtain ⟨hc, hw⟩ := List.forall_mem_cons.1 hw
    obtain ⟨a', h⟩ := ih hw (c == '\n')
    refine ⟨a', .cons_long rfl ?_⟩
    rwa [next, hc.inLong (by decide)]

/-- The white space of a hidden line end. -/
theorem mem_space_of_hidden {b n s : List Char} (hb : Blanks b) (hn : LineBreak n) (hs : Spaces s) :
    ∀ c ∈ b ++ n ++ s, c ∈ [' ', '\t', '\n', '\r'] := by
  have blank {b : List Char} (hb : Blanks b) : ∀ c ∈ b, c ∈ [' ', '\t', '\n', '\r'] := fun c hc => by
    rcases isBlank_iff.1 (hb c hc) with rfl | rfl <;> decide
  have broken {n : List Char} (hn : LineBreak n) : ∀ c ∈ n, c ∈ [' ', '\t', '\n', '\r'] := by
    cases hn <;> simp
  have spaces : ∀ c ∈ s, c ∈ [' ', '\t', '\n', '\r'] := by
    induction hs with
    | blanks hb => exact blank hb
    | line hb hn _ ih =>
      exact List.forall_mem_append.2 ⟨List.forall_mem_append.2 ⟨blank hb, broken hn⟩, ih⟩
  exact List.forall_mem_append.2 ⟨List.forall_mem_append.2 ⟨blank hb, broken hn⟩, spaces⟩

/-- Quotes in a row are counted. -/
theorem passes_replicate (hlf : quote ≠ '\n') (hv : quote ≠ 'v') (n count : Nat) (a : Bool) :
    Passes ⟨.long quote false count, a⟩ (List.replicate n quote)
      ⟨.long quote false (count + n), a && n == 0⟩ := by
  induction n generalizing count a with
  | zero =>
    rw [Nat.add_zero, beq_self_eq_true, Bool.and_true]
    exact .nil _
  | succ n ih =>
    have counted : next ⟨.long quote false count, a⟩ quote = ⟨.long quote false (count + 1), false⟩ := by
      rw [next, Mode.step, if_pos rfl, beq_eq_false_iff_ne.2 hlf]
    have h := ih (count + 1) false
    rw [Bool.false_and, Nat.add_assoc, Nat.add_comm 1 n] at h
    rw [List.replicate_succ, show (n + 1 == 0) = false from rfl, Bool.and_false]
    refine .cons (by simp [hv]) ?_
    rw [counted]
    exact h

/-- Up to two quotes make no difference to what does not start with one. -/
theorem Place.Passes.of_quotes {p : Place} {a : Bool}
    (h : Passes ⟨.long quote false 0, a⟩ w p) (hne : w ≠ []) (hw : w.head? ≠ some quote) {n : Nat}
    (hn : n ≤ 2) : Passes ⟨.long quote false n, a⟩ w p := by
  cases w with
  | nil => exact absurd rfl hne
  | cons c w =>
    have hc : c ≠ quote := by simpa using hw
    have hlong : (Mode.long quote false n).isLong = true := by simp [Mode.isLong]; omega
    have same : next ⟨.long quote false n, a⟩ c = next ⟨.long quote false 0, a⟩ c := by
      simp [next, Mode.step, hc, Nat.not_le_of_lt (show n < 3 by omega)]
    refine .cons_long hlong ?_
    rw [same]
    refine ⟨h.after_eq, ?_⟩
    have hides := h.hides
    rw [exposes, Bool.or_eq_false_iff] at hides
    exact hides.2

/-- **A text between three quotes ends with them**, and nothing in it is exposed. -/
theorem LongText.passes (hquote : (quote, escapes) ∈ [(doubleQuote, true), (singleQuote, false)])
    (h : LongText quote escapes cs w) (a : Bool) :
    ∃ count, 3 ≤ count ∧ Passes ⟨.long quote false 0, a⟩ w ⟨.long quote false count, false⟩ := by
  have hlf : quote ≠ '\n' := (ne_of_isQuote hquote rfl).symm
  have hv : quote ≠ 'v' := (ne_of_isQuote hquote rfl).symm
  -- what comes before a part of the text stays inside it
  have inside {u w : List Char} (hu : ∀ c ∈ u, IsInner quote c)
      (ih : ∀ a, ∃ count, 3 ≤ count ∧
        Passes ⟨.long quote false 0, a⟩ w ⟨.long quote false count, false⟩) (a : Bool) :
      ∃ count, 3 ≤ count ∧
        Passes ⟨.long quote false 0, a⟩ (u ++ w) ⟨.long quote false count, false⟩ := by
    obtain ⟨a', hu⟩ := passes_long hu a
    obtain ⟨count, hcount, hw⟩ := ih a'
    exact ⟨count, hcount, hu.append hw⟩
  -- a backslash takes the next character with it
  have escaped {x : Char} {w : List Char} (hescapes : escapes = true)
      (ih : ∀ a, ∃ count, 3 ≤ count ∧
        Passes ⟨.long quote false 0, a⟩ w ⟨.long quote false count, false⟩) (a : Bool) :
      ∃ count, 3 ≤ count ∧
        Passes ⟨.long quote false 0, a⟩ (backslash :: x :: w) ⟨.long quote false count, false⟩ := by
    obtain rfl := (escapes_iff hquote).1 hescapes
    obtain ⟨count, hcount, hw⟩ := ih (x == '\n')
    exact ⟨count, hcount, .cons_long rfl (.cons_long rfl hw)⟩
  induction h generalizing a with
  | @close n hn =>
    have h := passes_replicate hlf hv (n + 3) 0 a
    rw [show (n + 3 == 0) = false from rfl, Bool.and_false, Nat.zero_add] at h
    exact ⟨n + 3, by omega, h⟩
  | @quotes n cs w hpos hn hw hhead ih =>
    have hzero : (n == 0) = false := by simpa using Nat.ne_of_gt hpos
    have h := passes_replicate hlf hv n 0 a
    rw [hzero, Bool.and_false, Nat.zero_add] at h
    obtain ⟨count, hcount, hw'⟩ := ih false
    exact ⟨count, hcount, h.append (hw'.of_quotes hw.ne_nil hhead hn)⟩
  | @plain c cs w hc hne hback _ ih =>
    have inner : ∀ d ∈ [c], IsInner quote d := by
      simpa [IsInner] using ⟨hne, fun h => hback ((escapes_iff hquote).2 h)⟩
    exact inside inner ih a
  | newline hn _ ih =>
    refine inside (fun c hc => isInner_of_mem hquote ?_) ih a
    exact mem_space_of_hidden blanks_nil hn (.blanks blanks_nil) c (by simpa using hc)
  | @escape c cs e w hescapes he _ ih =>
    obtain ⟨x, u, rfl, -, hu⟩ := he.exists_cons
    obtain rfl := (escapes_iff hquote).1 hescapes
    exact escaped hescapes (inside (fun d hd => (hu d hd).1) ih) a
  | @hidden b n s cs w hescapes hb hn hs _ _ ih =>
    have space := mem_space_of_hidden hb hn hs
    obtain ⟨x, u, hxu⟩ : ∃ x u, b ++ n ++ s = x :: u :=
      List.exists_cons_of_ne_nil (by cases hn <;> simp)
    rw [hxu] at space
    have hu : ∀ c ∈ u, IsInner quote c := fun c hc =>
      isInner_of_mem hquote (space c (List.mem_cons_of_mem _ hc))
    have e : backslash :: b ++ n ++ s ++ w = backslash :: x :: (u ++ w) := by
      rw [← List.cons_append, ← hxu]
      simp
    rw [e]
    exact escaped hescapes (inside hu ih) a

/-- **A text of any form leaves nothing open.** -/
theorem QuotedText.closes (h : QuotedText cs w) : Closes w := by
  cases h with
  | short h => exact h.closes
  | @long quote escapes n cs w hquote hn h =>
    have hq := isQuote_of_mem hquote
    have opening : Passes inLine (List.replicate 3 quote) ⟨.long quote false 0, false⟩ := by
      simp only [List.mem_cons, List.not_mem_nil, or_false, Prod.mk.injEq] at hquote
      rcases hquote with ⟨rfl, -⟩ | ⟨rfl, -⟩ <;> exact ⟨by decide, by decide⟩
    have space : ∀ c ∈ n, IsInner quote c := fun c hc => by
      rcases hn with hn | ⟨rfl, -⟩
      · refine isInner_of_mem hquote ?_
        exact mem_space_of_hidden blanks_nil hn (.blanks blanks_nil) c (by simpa using hc)
      · cases hc
    obtain ⟨a, hn⟩ := passes_long space false
    obtain ⟨count, hcount, hw⟩ := h.passes hquote a
    exact ⟨.long quote false count, ⟨hq, rfl, hcount⟩, (opening.append hn).append hw⟩

end Texts

end ReleaseGate.Toml
