import Mathlib.Data.List.TakeWhile
import ReleaseGate.Proofs.Declarations
import ReleaseGate.Proofs.PatchReading
import ReleaseGate.Proofs.StrictDecoding
import ReleaseGate.Release.SchemaNotes

/-!
# Line ends

Lines may end in a line feed, or in a carriage return and a line feed. `crLf` turns the first kind
into the second. Every reader of texts is shown not to see the difference: the reader of lines
(`lines_crLf`), the search for a text without line ends (`occursIn_crLf`), and the two readers that
take white space over line ends, of version declarations (`declaredVersion?_crLf`) and of Schema
Notes (`hasSchemaNotes_crLf`). Bytes are decoded alike (`decode?_crLf`).
-/

namespace ReleaseGate

namespace Text

section

variable {α : Type} [DecidableEq α] (cr lf : α)

/-- A sequence with `cr` put before every `lf`. -/
def putBefore (s : List α) : List α := s.flatMap fun x => if x = lf then [cr, lf] else [x]

@[simp] theorem putBefore_nil : putBefore cr lf [] = [] := rfl

theorem putBefore_append (s t : List α) :
    putBefore cr lf (s ++ t) = putBefore cr lf s ++ putBefore cr lf t := by
  simp [putBefore]

theorem putBefore_cons_self (s : List α) : putBefore cr lf (lf :: s) = cr :: lf :: putBefore cr lf s := by
  simp [putBefore]

theorem putBefore_cons_of_ne {x : α} (h : x ≠ lf) (s : List α) :
    putBefore cr lf (x :: s) = x :: putBefore cr lf s := by
  simp [putBefore, h]

theorem putBefore_eq_self {s : List α} (h : lf ∉ s) : putBefore cr lf s = s := by
  induction s with
  | nil => rfl
  | cons x s ih =>
    rw [List.mem_cons, not_or] at h
    rw [putBefore_cons_of_ne cr lf (Ne.symm h.1), ih h.2]

/-- A sequence is one without line ends, or is cut at its first one. -/
@[elab_as_elim]
theorem cut_induction {P : List α → Prop} (last : ∀ l, lf ∉ l → P l)
    (cut : ∀ l s, lf ∉ l → P s → P (l ++ lf :: s)) (s : List α) : P s := by
  induction h : s.length using Nat.strongRecOn generalizing s with
  | ind n ih =>
    by_cases hm : lf ∈ s
    · obtain ⟨l, r, rfl, hl⟩ := List.eq_append_cons_of_mem hm
      refine cut l r hl (ih _ ?_ r rfl)
      rw [← h, List.length_append, List.length_cons]
      omega
    · exact last s hm

variable {cr lf}

/-- What treats both characters alike is taken from the front alike. -/
theorem takeWhile_putBefore {p : α → Bool} (hp : p cr = p lf) (s : List α) :
    (putBefore cr lf s).takeWhile p = putBefore cr lf (s.takeWhile p) := by
  induction s with
  | nil => rfl
  | cons x s ih =>
    by_cases hx : x = lf
    · subst hx
      cases hpx : p x <;> simp [putBefore_cons_self, hp, hpx, ih]
    · cases hpx : p x <;> simp [putBefore_cons_of_ne cr lf hx, hpx, ih]

theorem dropWhile_putBefore {p : α → Bool} (hp : p cr = p lf) (s : List α) :
    (putBefore cr lf s).dropWhile p = putBefore cr lf (s.dropWhile p) := by
  induction s with
  | nil => rfl
  | cons x s ih =>
    by_cases hx : x = lf
    · subst hx
      cases hpx : p x <;> simp [putBefore_cons_self, hp, hpx, ih]
    · cases hpx : p x <;> simp [putBefore_cons_of_ne cr lf hx, hpx, ih]

theorem all_putBefore {p : α → Bool} (hp : p cr = p lf) (s : List α) :
    (putBefore cr lf s).all p = s.all p := by
  induction s with
  | nil => rfl
  | cons x s ih =>
    by_cases hx : x = lf
    · subst hx
      simp [putBefore_cons_self, hp, ih]
    · simp [putBefore_cons_of_ne cr lf hx, ih]

/-- What is true of neither character is taken from the front as it is. -/
theorem takeWhile_putBefore_of_not {p : α → Bool} (hcr : p cr = false) (hlf : p lf = false)
    (s : List α) : (putBefore cr lf s).takeWhile p = s.takeWhile p := by
  have h : lf ∉ s.takeWhile p := by
    intro hm
    have := List.mem_takeWhile_imp hm
    rw [hlf] at this
    cases this
  rw [takeWhile_putBefore (hcr.trans hlf.symm), putBefore_eq_self cr lf h]

theorem putBefore_eq_nil_iff {s : List α} : putBefore cr lf s = [] ↔ s = [] := by
  cases s with
  | nil => simp
  | cons x s => by_cases hx : x = lf <;> simp [putBefore, hx]

theorem mem_putBefore_self {s : List α} : lf ∈ putBefore cr lf s ↔ lf ∈ s := by
  induction s with
  | nil => rfl
  | cons x s ih =>
    by_cases hx : x = lf
    · simp [hx, putBefore_cons_self]
    · simp [putBefore_cons_of_ne cr lf hx, ih]

end

/-- A text with every line feed written as a carriage return and a line feed. -/
abbrev crLf : List Char → List Char := putBefore '\r' '\n'

/-! ### Lines -/

theorem dropCr_eq_self {l : List Char} (h : '\r' ∉ l) : dropCr l = l := by
  induction l with
  | nil => rfl
  | cons c l ih =>
    rw [List.mem_cons, not_or] at h
    rw [dropCr_cons (Ne.symm h.1), ih h.2]

theorem dropCr_append_cr (l : List Char) : dropCr (l ++ ['\r']) = l := by
  induction l with
  | nil => rfl
  | cons c l ih =>
    cases l with
    | nil => rfl
    | cons d l => rw [List.cons_append, List.cons_append, dropCr, ← List.cons_append, ih]

/-- The lines of a text do not tell how they end. -/
theorem lines_crLf {s : List Char} (h : '\r' ∉ s) : lines (crLf s) = lines s := by
  induction s using cut_induction '\n' with
  | last l hl => rw [crLf, putBefore_eq_self _ _ hl]
  | cut l s hl ih =>
    simp only [List.mem_append, List.mem_cons, not_or] at h
    obtain ⟨hcl, -, hcs⟩ := h
    have hl' : '\n' ∉ l ++ ['\r'] := by simpa using hl
    have e : crLf (l ++ '\n' :: s) = (l ++ ['\r']) ++ '\n' :: crLf s := by
      rw [crLf, putBefore_append, putBefore_cons_self, putBefore_eq_self _ _ hl]
      simp
    rw [e, lines_append_lf hl', lines_append_lf hl, dropCr_append_cr, dropCr_eq_self hcl, ih hcs]

/-! ### Search -/

/-- A text without line ends is stripped off alike. -/
theorem stripStart?_crLf {p : List Char} (hl : '\n' ∉ p) (hc : '\r' ∉ p) (s : List Char) :
    stripStart? p (crLf s) = (stripStart? p s).map crLf := by
  induction p generalizing s with
  | nil => rfl
  | cons a p ih =>
    rw [List.mem_cons, not_or] at hl hc
    cases s with
    | nil => rfl
    | cons c s =>
      by_cases hx : c = '\n'
      · subst hx
        simp [crLf, putBefore_cons_self, stripStart?, Ne.symm hl.1, Ne.symm hc.1]
      · rw [crLf, putBefore_cons_of_ne _ _ hx, stripStart?, stripStart?]
        split
        · exact ih hl.2 hc.2 s
        · rfl

theorem startsWith_crLf {p : List Char} (hl : '\n' ∉ p) (hc : '\r' ∉ p) (s : List Char) :
    startsWith p (crLf s) = startsWith p s := by
  rw [startsWith, stripStart?_crLf hl hc, Option.isSome_map, startsWith]

/-- A text without line ends is found alike. -/
theorem occursIn_crLf {p : List Char} (hl : '\n' ∉ p) (hc : '\r' ∉ p) (s : List Char) :
    occursIn p (crLf s) = occursIn p s := by
  induction s with
  | nil => rfl
  | cons c s ih =>
    by_cases hx : c = '\n'
    · -- the text starts with neither of the two characters, unless it is empty
      subst hx
      rw [crLf, putBefore_cons_self, occursIn, occursIn, occursIn, ih]
      cases p with
      | nil => rfl
      | cons a p =>
        rw [List.mem_cons, not_or] at hl hc
        simp [startsWith, stripStart?, Ne.symm hl.1, Ne.symm hc.1]
    · have e : crLf (c :: s) = c :: crLf s := putBefore_cons_of_ne _ _ hx s
      have front := startsWith_crLf hl hc (c :: s)
      rw [e] at front ⊢
      rw [occursIn, occursIn, front, ih]

end Text

namespace Release

open Text (crLf)

/-! ### Version declarations -/

theorem endsLine_crLf (s : List Char) : endsLine (crLf s) = endsLine s := by
  have hp : Text.isSpace '\r' = Text.isSpace '\n' := rfl
  rw [endsLine, endsLine, Text.isBlank, Text.isBlank, Text.all_putBefore hp,
    Text.takeWhile_putBefore hp, Bool.eq_iff_iff]
  simp only [Bool.or_eq_true, List.contains_iff_mem, Text.mem_putBefore_self]

theorem closedValue?_crLf (s : List Char) :
    closedValue? (crLf s) = (closedValue? s).map crLf := by
  have hp : ('\r' != quote) = ('\n' != quote) := rfl
  rw [closedValue?, closedValue?, Text.takeWhile_putBefore hp, Text.dropWhile_putBefore hp]
  have head := List.head?_dropWhile_not (· != quote) s
  cases hs : s.dropWhile (· != quote) with
  | nil => rfl
  | cons q rest =>
    rw [hs] at head
    have hq : q ≠ '\n' := by
      rintro rfl
      cases head
    simp only [Text.putBefore_cons_of_ne _ _ hq, endsLine_crLf, ne_eq, Text.putBefore_eq_nil_iff]
    split <;> rfl

theorem dropSpace_crLf (s : List Char) : Text.dropSpace (crLf s) = crLf (Text.dropSpace s) :=
  Text.dropWhile_putBefore (show Text.isSpace '\r' = Text.isSpace '\n' from rfl) s

theorem declarationAtFront?_crLf (s : List Char) :
    declarationAtFront? (crLf s) = (declarationAtFront? s).map crLf := by
  rw [declarationAtFront?_eq_bind, declarationAtFront?_eq_bind,
    Text.stripStart?_crLf (by decide : '\n' ∉ versionKey) (by decide : '\r' ∉ versionKey)]
  cases Text.stripStart? versionKey s with
  | none => rfl
  | some afterKey =>
    simp only [Option.map_some, Option.bind_some, dropSpace_crLf]
    rw [Text.stripStart?_crLf (by decide : '\n' ∉ ['=']) (by decide : '\r' ∉ ['='])]
    cases Text.stripStart? ['='] (Text.dropSpace afterKey) with
    | none => rfl
    | some afterEquals =>
      simp only [Option.map_some, Option.bind_some, dropSpace_crLf]
      rw [Text.stripStart?_crLf (by decide : '\n' ∉ [quote]) (by decide : '\r' ∉ [quote])]
      cases Text.stripStart? [quote] (Text.dropSpace afterEquals) with
      | none => rfl
      | some afterQuote => exact closedValue?_crLf afterQuote

theorem declarationFrom?_crLf (atStart : Bool) (s : List Char) :
    declarationFrom? atStart (crLf s) = (declarationFrom? atStart s).map crLf := by
  induction s generalizing atStart with
  | nil => rfl
  | cons c s ih =>
    by_cases hx : c = '\n'
    · subst hx
      rw [crLf, Text.putBefore_cons_self,
        declarationFrom?_cons_of_none (declarationAtFront?_cons_of_ne (by decide) _),
        declarationFrom?_cons_of_none (declarationAtFront?_cons_of_ne (by decide) _),
        declarationFrom?_cons_of_none (declarationAtFront?_cons_of_ne (by decide) _)]
      exact ih true
    · have front := declarationAtFront?_crLf (c :: s)
      rw [crLf, Text.putBefore_cons_of_ne _ _ hx] at front ⊢
      rw [declarationFrom?, declarationFrom?, front]
      cases atStart with
      | false => exact ih _
      | true =>
        cases declarationAtFront? (c :: s) with
        | none => exact ih _
        | some v => rfl

/-- **A version is read alike, however lines end**; line ends inside it are kept. -/
theorem declaredVersion?_crLf (manifest : List Char) :
    declaredVersion? (crLf manifest) = (declaredVersion? manifest).map crLf :=
  declarationFrom?_crLf true manifest

/-! ### Schema Notes -/

theorem stripFolded?_crLf {words : List Char}
    (h : ∀ w ∈ words, Unicode.sameFold w '\r' = false ∧ Unicode.sameFold w '\n' = false)
    (s : List Char) : stripFolded? words (crLf s) = (stripFolded? words s).map crLf := by
  induction words generalizing s with
  | nil => rfl
  | cons w words ih =>
    obtain ⟨hw, hwords⟩ := List.forall_mem_cons.1 h
    cases s with
    | nil => rfl
    | cons c s =>
      by_cases hx : c = '\n'
      · subst hx
        rw [crLf, Text.putBefore_cons_self, stripFolded?, stripFolded?, hw.1, hw.2]
        rfl
      · rw [crLf, Text.putBefore_cons_of_ne _ _ hx, stripFolded?, stripFolded?, ih hwords]
        split <;> rfl

theorem wordEnds_crLf (s : List Char) : wordEnds (crLf s) = wordEnds s := by
  cases s with
  | nil => rfl
  | cons c s =>
    by_cases hx : c = '\n'
    · have hw : Unicode.isWord '\r' = Unicode.isWord '\n' := by decide
      rw [hx, crLf, Text.putBefore_cons_self, wordEnds, wordEnds, hw]
    · rw [crLf, Text.putBefore_cons_of_ne _ _ hx, wordEnds, wordEnds]

/-- No word of the heading has a line end in it, in any case. -/
theorem not_sameFold_lineEnd : ∀ w ∈ notesWords,
    Unicode.sameFold w '\r' = false ∧ Unicode.sameFold w '\n' = false := by
  have h : (notesWords.all fun w =>
      !Unicode.sameFold w '\r' && !Unicode.sameFold w '\n') = true := by decide +kernel
  simpa only [List.all_eq_true, Bool.and_eq_true, Bool.not_eq_true'] using h

theorem startsWithWords_crLf (s : List Char) : startsWithWords (crLf s) = startsWithWords s := by
  rw [startsWithWords, startsWithWords, stripFolded?_crLf not_sameFold_lineEnd]
  cases stripFolded? notesWords s with
  | none => rfl
  | some rest => exact wordEnds_crLf rest

/-- White space and then the words of the heading. -/
theorem spaced_crLf (s : List Char) :
    (match crLf s with
      | c :: more => Text.isSpace c && startsWithWords (Text.dropSpace more)
      | [] => false) =
      match s with
      | c :: more => Text.isSpace c && startsWithWords (Text.dropSpace more)
      | [] => false := by
  cases s with
  | nil => rfl
  | cons c more =>
    by_cases hx : c = '\n'
    · -- the line feed that the carriage return stands before is white space like it
      subst hx
      simp only [crLf, Text.putBefore_cons_self, Text.isSpace_cr, Text.isSpace_lf, Bool.true_and]
      rw [Text.dropSpace, List.dropWhile_cons_of_pos Text.isSpace_lf, ← Text.dropSpace,
        dropSpace_crLf, startsWithWords_crLf]
    · simp only [crLf, Text.putBefore_cons_of_ne _ _ hx, dropSpace_crLf, startsWithWords_crLf]

theorem notesAtFront_crLf (s : List Char) : notesAtFront (crLf s) = notesAtFront s := by
  have takeIndent : (crLf s).takeWhile Text.isIndent = s.takeWhile Text.isIndent :=
    Text.takeWhile_putBefore_of_not (by decide) (by decide) s
  have dropIndent : (crLf s).dropWhile Text.isIndent = crLf (s.dropWhile Text.isIndent) :=
    Text.dropWhile_putBefore (by decide) s
  have takeMarks (t : List Char) : (crLf t).takeWhile (· == '#') = t.takeWhile (· == '#') :=
    Text.takeWhile_putBefore_of_not (by decide) (by decide) t
  have dropMarks (t : List Char) : (crLf t).dropWhile (· == '#') = crLf (t.dropWhile (· == '#')) :=
    Text.dropWhile_putBefore (by decide) t
  simp only [notesAtFront, takeIndent, dropIndent, takeMarks, dropMarks]
  exact congrArg (_ && ·) (spaced_crLf _)

theorem notesFrom_crLf (atStart : Bool) (s : List Char) :
    notesFrom atStart (crLf s) = notesFrom atStart s := by
  induction s generalizing atStart with
  | nil => rfl
  | cons c s ih =>
    have front := notesAtFront_crLf (c :: s)
    by_cases hx : c = '\n'
    · subst hx
      rw [crLf, Text.putBefore_cons_self] at front ⊢
      rw [notesFrom, notesFrom, notesFrom, front]
      exact congrArg _ (ih true)
    · rw [crLf, Text.putBefore_cons_of_ne _ _ hx] at front ⊢
      rw [notesFrom, notesFrom, front, ih]

/-- **Schema Notes are found alike, however lines end.** -/
theorem hasSchemaNotes_crLf (s : List Char) : hasSchemaNotes (crLf s) = hasSchemaNotes s :=
  notesFrom_crLf true s

end Release

/-! ### Bytes -/

namespace Text.Utf8

/-- A byte sequence with every line feed written as a carriage return and a line feed. -/
abbrev crLf : Bytes → Bytes := putBefore 13 10

/-- **Line ends are decoded as they are written.** -/
theorem decode?_crLf (bs : Bytes) : decode? (crLf bs) = (decode? bs).map Text.crLf := by
  have unchanged {l : Bytes} (hl : 10 ∉ l) : (decode? l).map Text.crLf = decode? l := by
    cases hd : decode? l with
    | none => rfl
    | some s => exact congrArg some (putBefore_eq_self _ _ (lf_not_mem_of_decode? hd hl))
  induction bs using cut_induction (10 : UInt8) with
  | last l hl => rw [crLf, putBefore_eq_self _ _ hl, unchanged hl]
  | cut l bs hl ih =>
    rw [crLf, putBefore_append, putBefore_cons_self, putBefore_eq_self _ _ hl,
      decode?_append (by decide), decode?_append (by decide), decode?_cons_of_lt (by decide),
      decode?_cons_of_lt (by decide), decode?_cons_of_lt (by decide), ih]
    have hl := unchanged hl
    cases hd : decode? l with
    | none => rfl
    | some s =>
      rw [hd, Option.map_some, Option.some.injEq] at hl
      cases decode? bs with
      | none => rfl
      | some r =>
        show some (s ++ '\r' :: '\n' :: Text.crLf r) = some (Text.crLf (s ++ '\n' :: r))
        rw [Text.crLf, putBefore_append, putBefore_cons_self, ← Text.crLf, hl]

theorem cr_not_mem_of_decode? {bs : Bytes} {s : List Char} (h : decode? bs = some s)
    (hc : 13 ∉ bs) : '\r' ∉ s :=
  decodeLossy_of_decode? h ▸ control_not_mem_decodeLossy (by decide) (by decide) hc

end Text.Utf8

end ReleaseGate
