import Mathlib
import ReleaseGate.Proofs.LinePlaces
import ReleaseGate.Release.Tag

/-!
# Lines of release headings

A changelog has a heading for a tag exactly if one of its lines has the form of one: at most three
blanks, two or three marks, one space, the tag, and nothing that would make the version longer
(`hasReleaseHeading_iff_exists_line`). The version may be any text; one that holds a line feed stands
in no line and has no heading.
-/

namespace ReleaseGate.Release

theorem isVersionChar_iff (c : Char) :
    isVersionChar c = true ↔ c.isAlphanum = true ∨ c = '.' ∨ c = '-' ∨ c = '+' := by
  have upper : c.isUpper = true ↔ 'A' ≤ c ∧ c ≤ 'Z' := by
    rw [Char.isUpper, decide_eq_true_eq]
    rfl
  have lower : c.isLower = true ↔ 'a' ≤ c ∧ c ≤ 'z' := by
    rw [Char.isLower, Bool.and_eq_true, decide_eq_true_eq, decide_eq_true_eq]
    rfl
  have digit : c.isDigit = true ↔ '0' ≤ c ∧ c ≤ '9' := by
    rw [Char.isDigit, Bool.and_eq_true, decide_eq_true_eq, decide_eq_true_eq]
    rfl
  simp only [isVersionChar, Char.isAlphanum, Char.isAlpha, Bool.or_eq_true, Bool.and_eq_true,
    decide_eq_true_eq, beq_iff_eq, upper, lower, digit, or_assoc]
  exact or_left_comm

theorem tagEnds_iff (rest : List Char) :
    tagEnds rest = true ↔
      rest = [] ∨ ∃ c r, rest = c :: r ∧ ¬(c.isAlphanum = true ∨ c = '.' ∨ c = '-' ∨ c = '+') := by
  cases rest with
  | nil => simp [tagEnds]
  | cons c r =>
    rw [tagEnds, Bool.not_eq_true', ← Bool.not_eq_true, isVersionChar_iff]
    constructor
    · intro h
      exact .inr ⟨c, r, rfl, h⟩
    · rintro (h | ⟨d, t, h, hd⟩)
      · cases h
      · cases h
        exact hd

theorem all_isIndent_iff (indent : List Char) :
    indent.all Text.isIndent = true ↔ ∀ c ∈ indent, c = ' ' ∨ c = '\t' := by
  simp only [List.all_eq_true, Text.isIndent_iff]

theorem hasReleaseHeading_iff_isHeading (tag text : List Char) :
    hasReleaseHeading tag text = true ↔ ∃ line, Text.IsLine text line ∧ IsHeading tag line := by
  simp only [hasReleaseHeading, List.any_eq_true, Text.mem_lines_iff, isHeading_iff]

/-- **A changelog has a heading for a tag exactly if one of its lines is one**, whatever the version
and the rest of the changelog are. A fourth mark or blank makes another line of it, and so does a
character behind the tag that a version may hold. -/
theorem hasReleaseHeading_iff_exists_line (tag : Tag) (text : List Char) :
    hasReleaseHeading tag.name.toList text = true ↔
      ∃ indent marks rest,
        Text.IsLine text (indent ++ (marks ++ ' ' :: (('v' :: tag.version.toList) ++ rest))) ∧
          indent.length ≤ 3 ∧ (∀ c ∈ indent, c = ' ' ∨ c = '\t') ∧
          (marks = ['#', '#'] ∨ marks = ['#', '#', '#']) ∧
          (rest = [] ∨
            ∃ c r, rest = c :: r ∧ ¬(c.isAlphanum = true ∨ c = '.' ∨ c = '-' ∨ c = '+')) := by
  have name : tag.name.toList = 'v' :: tag.version.toList := by simp [Tag.name]
  rw [hasReleaseHeading_iff_isHeading, name]
  constructor
  · rintro ⟨_, hline, indent, marks, rest, rfl, short, blank, hmarks, ends⟩
    exact ⟨indent, marks, rest, hline, short, (all_isIndent_iff indent).1 blank, hmarks,
      (tagEnds_iff rest).1 ends⟩
  · rintro ⟨indent, marks, rest, hline, short, blank, hmarks, ends⟩
    exact ⟨_, hline, indent, marks, rest, rfl, short, (all_isIndent_iff indent).2 blank, hmarks,
      (tagEnds_iff rest).2 ends⟩

/-- A heading of the third level, whose line ends in a carriage return and a line feed; four marks and
four blanks are none. -/
example :
    hasReleaseHeading "v1.0".toList "#### v1.0\n    ## v1.0\n \t### v1.0\r\n".toList = true ∧
      hasReleaseHeading "v1.0".toList "#### v1.0\n    ## v1.0\n".toList = false := by decide

end ReleaseGate.Release
