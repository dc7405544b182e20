import Mathlib.Data.List.TakeWhile
import ReleaseGate.Release.Heading

/-!
# Headings of releases

What the reader of headings accepts is the form of a heading (`isHeading_iff`). A tag has to end
where the heading's text goes on, so one line is the heading of at most one version
(`eq_of_isHeading`): a heading for a longer or a shorter version does not stand in for it.
-/

namespace ReleaseGate.Release

/-- A version that is made of the characters of versions only. -/
def IsVersion (version : List Char) : Prop := ∀ c ∈ version, isVersionChar c = true

instance (version : List Char) : Decidable (IsVersion version) :=
  List.decidableBAll (isVersionChar · = true) version

theorem IsVersion.not_mem {version : List Char} (h : IsVersion version) {c : Char}
    (hc : isVersionChar c = false) : c ∉ version :=
  fun hm => Bool.eq_false_iff.1 hc (h c hm)

/-! ### The form of a heading -/

/-- What the reader asks of a line: a short indentation, and after it the hashes, of which a third
one does not count, the tag and its end. -/
theorem isHeading_eq_true_iff {tag line : List Char} :
    isHeading tag line = true ↔
      (line.takeWhile Text.isIndent).length ≤ 3 ∧
        ∃ rest, dropThirdHash (line.dropWhile Text.isIndent) = '#' :: '#' :: ' ' :: (tag ++ rest) ∧
          tagEnds rest = true := by
  have strip (s rest : List Char) : Text.stripStart? ("## ".toList ++ tag) s = some rest ↔
      s = '#' :: '#' :: ' ' :: (tag ++ rest) := Text.stripStart?_eq_some_iff
  simp only [isHeading, Bool.and_eq_true, decide_eq_true_eq, ← strip]
  refine and_congr_right fun _ => ?_
  cases Text.stripStart? ("## ".toList ++ tag) (dropThirdHash (line.dropWhile Text.isIndent)) <;>
    simp

theorem dropThirdHash_eq_iff {s rest : List Char} :
    dropThirdHash s = '#' :: '#' :: ' ' :: rest ↔
      s = '#' :: '#' :: ' ' :: rest ∨ s = '#' :: '#' :: '#' :: ' ' :: rest := by
  unfold dropThirdHash
  split
  · next h =>
    obtain ⟨t, rfl⟩ := Text.startsWith_iff.1 h
    simp
  · next h =>
    have third : s ≠ '#' :: '#' :: '#' :: ' ' :: rest := by
      rintro rfl
      exact h rfl
    simp [third]

/-- **The reader accepts exactly the headings.** -/
theorem isHeading_iff {tag line : List Char} : isHeading tag line = true ↔ IsHeading tag line := by
  rw [isHeading_eq_true_iff]
  constructor
  · rintro ⟨short, rest, h, ends⟩
    have blank : (line.takeWhile Text.isIndent).all Text.isIndent = true :=
      List.all_eq_true.2 fun c hc => List.mem_takeWhile_imp hc
    have split := List.takeWhile_append_dropWhile (p := Text.isIndent) (l := line)
    rcases dropThirdHash_eq_iff.1 h with e | e
    · rw [e] at split
      exact ⟨_, ['#', '#'], rest, split.symm, short, blank, .inl rfl, ends⟩
    · rw [e] at split
      exact ⟨_, ['#', '#', '#'], rest, split.symm, short, blank, .inr rfl, ends⟩
  · rintro ⟨indent, hashes, rest, rfl, short, blank, hashes_eq, ends⟩
    have blank : ∀ c ∈ indent, Text.isIndent c = true := List.all_eq_true.1 blank
    rw [List.takeWhile_append_of_pos blank, List.dropWhile_append_of_pos blank]
    rcases hashes_eq with rfl | rfl
    · exact ⟨by simpa [Text.isIndent] using short, rest, dropThirdHash_eq_iff.2 (.inl rfl), ends⟩
    · exact ⟨by simpa [Text.isIndent] using short, rest, dropThirdHash_eq_iff.2 (.inr rfl), ends⟩

instance (tag line : List Char) : Decidable (IsHeading tag line) :=
  decidable_of_iff _ isHeading_iff

/-! ### One line, one version -/

/-- A version is what stands in front of its end. -/
theorem takeWhile_append_of_tagEnds {version rest : List Char} (hv : IsVersion version)
    (ends : tagEnds rest = true) : (version ++ rest).takeWhile isVersionChar = version := by
  rw [List.takeWhile_append_of_pos hv]
  cases rest with
  | nil => simp
  | cons c rest => simpa [tagEnds] using ends

/-- **A line is the heading of at most one version.** -/
theorem eq_of_isHeading {version other line : List Char} (hv : IsVersion version)
    (ho : IsVersion other) (h : isHeading ('v' :: version) line = true)
    (h' : isHeading ('v' :: other) line = true) : version = other := by
  obtain ⟨-, rest, e, ends⟩ := isHeading_eq_true_iff.1 h
  obtain ⟨-, rest', e', ends'⟩ := isHeading_eq_true_iff.1 h'
  have e : version ++ rest = other ++ rest' := by simpa using e.symm.trans e'
  rw [← takeWhile_append_of_tagEnds hv ends, e, takeWhile_append_of_tagEnds ho ends']

example :
    hasReleaseHeading "v1.0.0".toList "## v1.0.0-rc1\n## v1.0.01\n## v1.0\n### v11.0.0\n".toList =
      false := by decide

end ReleaseGate.Release
