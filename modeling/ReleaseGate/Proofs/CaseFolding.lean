import Mathlib.Data.List.Chain
import ReleaseGate.Unicode.Folding

/-!
# Case folding

The table of simple case folding is sound: its rows are apart from each other, they move characters to
characters, and what a row moved no row moves again (`foldCode_foldCode`). So the characters listed
as like another one but for case are exactly those with the same fold (`mem_foldOrbit_iff`).
-/

namespace ReleaseGate.Unicode

/-! ### The rows of the table -/

/-- From one number to the other there are only code points of characters, and not zero. -/
def Spans (first last : Int) : Prop :=
  0 < first ∧ (last < 0xD800 ∨ 0xDFFF < first ∧ last < 0x110000)

instance (first last : Int) : Decidable (Spans first last) := inferInstanceAs (Decidable (_ ∧ _))

theorem Spans.isValidChar {first last : Int} (h : Spans first last) {n : Nat} (hfirst : first ≤ n)
    (hlast : n ≤ last) : n.isValidChar ∧ 0 < n := by
  obtain ⟨hpos, hrange⟩ := h
  unfold Nat.isValidChar
  omega

/-- One row ends before another one begins. -/
def FoldRow.Before (r other : FoldRow) : Prop := r.last < other.first ∧ other.first ≤ other.last

instance (r other : FoldRow) : Decidable (r.Before other) := inferInstanceAs (Decidable (_ ∧ _))

instance : IsTrans FoldRow FoldRow.Before where
  trans r other third h h' := ⟨by have := h.1; have := h.2; have := h'.1; omega, h'.2⟩

/-- The code point to which a row moves another one. -/
def FoldRow.moved (r : FoldRow) (n : Nat) : Nat := ((n : Int) + r.shift).toNat

/-- Whether another row has nothing of what a row moves: it lies before or behind, or takes every
second code point and not these. -/
def FoldRow.movesBeside (r other : FoldRow) : Bool :=
  Nat.blt (r.moved r.last) other.first || Nat.blt other.last (r.moved r.first) ||
    other.step == 2 && (r.first == r.last || r.step == 2) &&
      (r.moved r.first + other.first) % 2 == 1

theorem foldRows_pairwise : foldRows.Pairwise FoldRow.Before :=
  List.isChain_iff_pairwise.1 (by decide +kernel)

theorem spans_of_mem_foldRows : ∀ r ∈ foldRows,
    Spans r.first r.last ∧ Spans (r.first + r.shift) (r.last + r.shift) := by
  decide +kernel

theorem movesBeside_of_mem_foldRows {r other : FoldRow} (hr : r ∈ foldRows)
    (hother : other ∈ foldRows) : r.movesBeside other = true := by
  have all : (foldRows.all fun r => foldRows.all r.movesBeside) = true := by decide +kernel
  exact List.all_eq_true.1 (List.all_eq_true.1 all r hr) other hother

theorem FoldRow.mem_iff (r : FoldRow) (n : Nat) :
    r.mem n = true ↔ r.first ≤ n ∧ n ≤ r.last ∧ (n - r.first) % r.step = 0 := by
  simp [mem, and_assoc]

/-- Of rows in order, the one with a code point is found. -/
theorem find?_row {rows : List FoldRow} (h : rows.Pairwise FoldRow.Before) {r : FoldRow}
    (hr : r ∈ rows) {n : Nat} (hn : r.mem n = true) : rows.find? (·.mem n) = some r := by
  induction rows with
  | nil => cases hr
  | cons first rows ih =>
    obtain ⟨hbelow, hrows⟩ := List.pairwise_cons.1 h
    rcases List.mem_cons.1 hr with rfl | hr
    · exact List.find?_cons_of_pos hn
    · have hfirst : ¬first.mem n = true := by
        intro hmem
        have := ((FoldRow.mem_iff ..).1 hmem).2.1
        have := ((FoldRow.mem_iff ..).1 hn).1
        have := (hbelow r hr).1
        omega
      rw [List.find?_cons_of_neg (p := fun r : FoldRow => r.mem n) hfirst, ih hrows hr]

/-! ### Folds -/

theorem foldCode_of_mem {r : FoldRow} (hr : r ∈ foldRows) {n : Nat} (hn : r.mem n = true) :
    foldCode n = r.moved n := by
  rw [foldCode, find?_row foldRows_pairwise hr hn]
  rfl

theorem foldCode_of_not_mem {n : Nat} (h : ∀ r ∈ foldRows, ¬r.mem n = true) : foldCode n = n := by
  rw [foldCode, List.find?_eq_none.2 h]

/-- A code point lies in a row and is moved by it, or is its own fold. -/
theorem foldCode_cases (n : Nat) :
    (∃ r ∈ foldRows, r.mem n = true ∧ foldCode n = r.moved n) ∨ foldCode n = n := by
  by_cases h : ∃ r ∈ foldRows, r.mem n = true
  · obtain ⟨r, hr, hn⟩ := h
    exact .inl ⟨r, hr, hn, foldCode_of_mem hr hn⟩
  · exact .inr (foldCode_of_not_mem fun r hr hn => h ⟨r, hr, hn⟩)

theorem moved_eq {r : FoldRow} (hr : r ∈ foldRows) {n : Nat} (hn : r.mem n = true) :
    (r.moved n : Int) = n + r.shift := by
  obtain ⟨hfirst, -⟩ := (r.mem_iff n).1 hn
  obtain ⟨-, hpos, -⟩ := spans_of_mem_foldRows r hr
  unfold FoldRow.moved
  omega

theorem isValidChar_foldCode {n : Nat} (h : n.isValidChar) : (foldCode n).isValidChar := by
  rcases foldCode_cases n with ⟨r, hr, hn, e⟩ | e
  · obtain ⟨hfirst, hlast, -⟩ := (r.mem_iff n).1 hn
    have hmoved := moved_eq hr hn
    rw [e]
    exact ((spans_of_mem_foldRows r hr).2.isValidChar (by omega) (by omega)).1
  · rwa [e]

theorem not_mem_moved {r other : FoldRow} (hr : r ∈ foldRows) (hother : other ∈ foldRows) {n : Nat}
    (hn : r.mem n = true) : ¬other.mem (r.moved n) = true := by
  obtain ⟨hfirst, hlast, hstep⟩ := (r.mem_iff n).1 hn
  have hmoved := moved_eq hr hn
  have hspan := (spans_of_mem_foldRows r hr).2.1
  have first : (r.moved r.first : Int) = r.first + r.shift := Int.toNat_of_nonneg (by omega)
  have last : (r.moved r.last : Int) = r.last + r.shift := Int.toNat_of_nonneg (by omega)
  have beside := movesBeside_of_mem_foldRows hr hother
  simp only [FoldRow.movesBeside, Bool.or_eq_true, Bool.and_eq_true, beq_iff_eq, Nat.blt_eq] at beside
  intro hmem
  obtain ⟨hfirst', hlast', hstep'⟩ := (other.mem_iff _).1 hmem
  rcases beside with (h | h) | ⟨⟨htwo, hone | htwo'⟩, h⟩
  · omega
  · omega
  · -- the other row takes every second code point, and not this one
    rw [htwo] at hstep'
    omega
  · rw [htwo] at hstep'
    rw [htwo'] at hstep
    omega

/-- **A fold is its own fold.** -/
theorem foldCode_foldCode (n : Nat) : foldCode (foldCode n) = foldCode n := by
  rcases foldCode_cases n with ⟨r, hr, hn, e⟩ | e
  · rw [e]
    exact foldCode_of_not_mem fun other hother => not_mem_moved hr hother hn
  · rw [e, e]

/-! ### Characters -/

theorem toNat_ofNat_of_isValidChar {n : Nat} (h : n.isValidChar) : (Char.ofNat n).toNat = n := by
  rw [Char.ofNat, dif_pos h]
  rfl

theorem toNat_fold (c : Char) : (fold c).toNat = foldCode c.toNat :=
  toNat_ofNat_of_isValidChar (isValidChar_foldCode c.valid)

theorem sameFold_iff (c d : Char) : sameFold c d = true ↔ foldCode c.toNat = foldCode d.toNat := by
  rw [sameFold, beq_iff_eq, ← Char.toNat_inj, toNat_fold, toNat_fold]

theorem sameFold_fold (c : Char) : sameFold c (fold c) = true := by
  rw [sameFold_iff, toNat_fold, foldCode_foldCode]

/-- **The characters that are like another one but for case are those with the same fold.** -/
theorem mem_foldOrbit_iff (c d : Char) : d ∈ foldOrbit c ↔ sameFold c d = true := by
  have listed : d ∈ foldOrbit c ↔ d = c ∨ d = fold c ∨
      ∃ r ∈ foldRows, r.mem ((foldCode c.toNat : Int) - r.shift).toNat = true ∧
        Char.ofNat ((foldCode c.toNat : Int) - r.shift).toNat = d := by
    simp [foldOrbit, fold]
  rw [listed]
  constructor
  · rintro (rfl | rfl | ⟨r, hr, hn, rfl⟩)
    · exact (sameFold_iff d d).2 rfl
    · exact sameFold_fold c
    · obtain ⟨hfirst, hlast, -⟩ := (r.mem_iff _).1 hn
      obtain ⟨hvalid, hpos⟩ :=
        (spans_of_mem_foldRows r hr).1.isValidChar (Int.ofNat_le.2 hfirst) (Int.ofNat_le.2 hlast)
      have hmoved := moved_eq hr hn
      rw [sameFold_iff, toNat_ofNat_of_isValidChar hvalid, foldCode_of_mem hr hn]
      omega
  · intro h
    rw [sameFold_iff] at h
    rcases foldCode_cases d.toNat with ⟨r, hr, hn, e⟩ | e
    · have hmoved := moved_eq hr hn
      have back : ((foldCode c.toNat : Int) - r.shift).toNat = d.toNat := by omega
      refine .inr (.inr ⟨r, hr, ?_, ?_⟩)
      · rwa [back]
      · rw [back, Char.ofNat_toNat]
    · refine .inr (.inl ?_)
      rw [← Char.toNat_inj, toNat_fold, h, e]

end ReleaseGate.Unicode
