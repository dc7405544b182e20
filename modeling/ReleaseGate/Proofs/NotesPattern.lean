import Mathlib
import ReleaseGate.Proofs.CaseFolding
import ReleaseGate.Proofs.PatternPlaces
import ReleaseGate.Release.SchemaNotes

/-!
# The pattern of Schema Notes headings

Schema Notes headings are also described by a pattern, which is read without regard to case
(`read?_notesPattern`). Its words stand for all texts that are alike but for case
(`matchesFrom_foldedLiteral_iff`).
-/

namespace ReleaseGate

namespace Pattern

/-! ### Texts in any case -/

/-- The characters of a text one after the other, each in any case. -/
def foldedLiteral (text : List Char) (rest : Expr) : Expr :=
  text.foldr (fun c q => .seq (.chars (.folded (.one c))) q) rest

theorem foldedLiteral_cons (c : Char) (text : List Char) (rest : Expr) :
    foldedLiteral (c :: text) rest = .seq (.chars (.folded (.one c))) (foldedLiteral text rest) :=
  rfl

theorem mem_folded_one_iff (w c : Char) :
    (CharClass.folded (.one w)).mem c = true ↔ Unicode.fold c = Unicode.fold w := by
  simp only [CharClass.mem, List.any_eq_true, Unicode.mem_foldOrbit_iff, beq_iff_eq,
    exists_eq_right, Unicode.sameFold]

theorem mem_folded_union_iff (a b : CharClass) (c : Char) :
    (CharClass.folded (.union a b)).mem c = true ↔
      (CharClass.folded a).mem c = true ∨ (CharClass.folded b).mem c = true := by
  simp only [CharClass.mem, List.any_eq_true, Bool.or_eq_true, and_or_left, exists_or]

theorem spells_foldedLiteral_iff (text : List Char) (m : List Char) :
    Spells (foldedLiteral text .empty) m ↔ m.map Unicode.fold = text.map Unicode.fold := by
  induction text generalizing m with
  | nil => simp [foldedLiteral, Spells]
  | cons w text ih =>
    simp only [foldedLiteral_cons, Spells, mem_folded_one_iff, ih]
    constructor
    · rintro ⟨_, b, ⟨c, hc, rfl⟩, hb, rfl⟩
      simp [hc, hb]
    · intro h
      obtain ⟨c, b, rfl, hc, hb⟩ := List.map_eq_cons_iff.1 h
      exact ⟨[c], b, ⟨c, hc, rfl⟩, hb, rfl⟩

/-- A text in any case is taken, and the rest goes on behind it. -/
theorem matchesFrom_foldedLiteral_iff {before behind : List Char} {q : Expr} (text : List Char) :
    MatchesFrom before behind (foldedLiteral text q) ↔
      ∃ m r, behind = m ++ r ∧ m.map Unicode.fold = text.map Unicode.fold ∧
        MatchesFrom (before ++ m) r q := by
  induction text generalizing before behind with
  | nil => simp [foldedLiteral]
  | cons w text ih =>
    have free : (Expr.chars (.folded (.one w))).LookFree := trivial
    rw [foldedLiteral_cons, matchesFrom_seq_iff free]
    simp only [Spells, mem_folded_one_iff, ih]
    constructor
    · rintro ⟨_, _, rfl, ⟨c, hc, rfl⟩, m, r, rfl, hm, h⟩
      exact ⟨c :: m, r, rfl, by simp [hc, hm], by simpa using h⟩
    · rintro ⟨m, r, rfl, hm, h⟩
      obtain ⟨c, m, rfl, hc, hm⟩ := List.map_eq_cons_iff.1 hm
      exact ⟨[c], m ++ r, rfl, ⟨c, hc, rfl⟩, m, r, rfl, hm, by simpa using h⟩

theorem lookFree_foldedLiteral (text : List Char) : (foldedLiteral text .empty).LookFree := by
  induction text with
  | nil => trivial
  | cons w text ih => exact ⟨trivial, ih⟩

end Pattern

namespace Release

open Pattern (Expr CharClass Options Item content escape bracket foldedLiteral)

/-! ### The pattern and its parts -/

/-- Schema Notes headings as a pattern. -/
def notesPattern : String := "(?im)^[ \\t]\x7b0,3\x7d(##|###)\\s+Schema Notes\\b"

/-- A blank, as the pattern has it. -/
def blankClass : CharClass := .folded (.union (.one ' ') (.one '\t'))

/-- Two or three marks. -/
def marksExpr : Expr :=
  .alt (foldedLiteral ['#', '#'] .empty) (foldedLiteral ['#', '#', '#'] .empty)

/-- The pattern once it is read. -/
def notesExpr : Expr :=
  .seq (.look .lineStart) <| .seq (.rep (.chars blankClass) 0 (some 3)) <| .seq marksExpr <|
    .seq (.rep (.chars (.having Text.isSpace)) 1 none) <| foldedLiteral "Schema Notes".toList <|
      .seq (.look (.boundary Unicode.isWord)) .empty

/-! ### The reading -/

/-- Case does not count, and lines have starts and ends. -/
def notesOptions : Options := { Options.initial with ignoreCase := true, multiLine := true }

/-- What is read up to the class of blanks, the last part first. -/
def blankItems : List Item :=
  [.part ⟨.chars blankClass, 2, 96⟩, .part ⟨.look .lineStart, 0, 32⟩, .flags]

/-- What is read up to the words, the last part first. -/
def wordItems : List Item :=
  ("Schema Notes".toList.reverse.map fun c => .part ⟨.chars (.folded (.one c)), 0, 32⟩) ++
    [.part ⟨.rep (.chars (.having Text.isSpace)) 1 none, 1, 1432⟩, .part ⟨marksExpr, 3, 264⟩,
      .part ⟨.rep (.chars blankClass) 0 (some 3), 3, 320⟩, .part ⟨.look .lineStart, 0, 32⟩, .flags]

section

variable (fuel : Nat) (s : List Char)

theorem escape_tab (o : Options) : escape o ('t' :: s) = some (.literal '\t' false, s) := by
  have noClass : o.letterClass? 't' = none := rfl
  have noSign : Pattern.isEscapable 't' = false := by cbv
  simp [escape, noClass, noSign, Pattern.controlEscape?]

theorem escape_boundary (o : Options) : escape o ['b'] = some (.look (.boundary o.word), []) := by
  have noClass : o.letterClass? 'b' = none := rfl
  have noSign : Pattern.isEscapable 'b' = false := by cbv
  simp [escape, noClass, noSign, Pattern.controlEscape?, Pattern.boundaryEscape]

theorem bracket_blanks :
    bracket notesOptions (" \\t]".toList ++ s) = some (⟨blankClass, 2, 96⟩, s) := by
  simp [notesOptions, blankClass, bracket, Pattern.openBracket, Pattern.leadingLiterals,
    Pattern.bracketItems, Pattern.rangeItem, escape_tab, Options.skip, Options.initial,
    Pattern.atomItem?, Pattern.literalItem?, Unicode.isAscii, Pattern.closeBracket?,
    Pattern.BracketState.part, Pattern.BracketState.push, Pattern.unionOf, Options.foldClass]

theorem skip_notesOptions : notesOptions.skip s = s := rfl

theorem content_flags :
    content (fuel + 2) .initial ⟨[], [], []⟩ ("(?im)^".toList ++ s) =
      content fuel notesOptions ⟨[], blankItems.tail, []⟩ s := by
  cbv

theorem content_blanks :
    content (fuel + 1) notesOptions ⟨[], blankItems.tail, []⟩ ("[ \\t]".toList ++ s) =
      content fuel notesOptions ⟨[], blankItems, []⟩ s := by
  have split : "[ \\t]".toList ++ s = '[' :: (" \\t]".toList ++ s) := by simp
  rw [split, content, skip_notesOptions]
  simp only [bracket_blanks]
  rfl

theorem content_words :
    content (fuel + 16) notesOptions ⟨[], blankItems, []⟩
        ("\x7b0,3\x7d(##|###)\\s+Schema Notes".toList ++ s) =
      content fuel notesOptions ⟨[], wordItems, []⟩ s := by
  cbv

theorem content_boundary :
    content (fuel + 2) notesOptions ⟨[], wordItems, []⟩ "\\b".toList =
      some (⟨[], .part ⟨.look (.boundary Unicode.isWord), 0, 32⟩ :: wordItems, []⟩, []) := by
  have split : "\\b".toList = '\\' :: ['b'] := by simp
  rw [split, content, skip_notesOptions]
  simp only [escape_boundary]
  rw [content.atomic]
  cbv

end

/-- **The pattern is read.** Its flags hold for all that follows, so its characters stand for
themselves in any case. -/
theorem read?_notesPattern : Pattern.read? notesPattern.toList = some notesExpr := by
  have split : notesPattern.toList = "(?im)^".toList ++ ("[ \\t]".toList ++
      ("\x7b0,3\x7d(##|###)\\s+Schema Notes".toList ++ "\\b".toList)) := by
    simp [notesPattern]
  have length : notesPattern.toList.length = 41 := by simp [notesPattern]
  have h := calc content 42 .initial ⟨[], [], []⟩ notesPattern.toList
    _ = content 40 notesOptions ⟨[], blankItems.tail, []⟩ _ := by rw [split, content_flags]
    _ = content 39 notesOptions ⟨[], blankItems, []⟩ _ := content_blanks 39 _
    _ = content 23 notesOptions ⟨[], wordItems, []⟩ _ := content_words 23 _
    _ = _ := content_boundary 21
  rw [Pattern.read?, length, h]
  rfl

end Release

end ReleaseGate
