import ReleaseGate.Proofs.PatternSearch

/-!
# Matches from a place

A place in a text is between what stands before it and what stands behind it. A pattern matches from
a place (`MatchesFrom`) if a match starts there. A pattern whose first part has no conditions takes
what that part spells, and goes on behind it (`matchesFrom_seq_iff`); a condition is asked of the
characters next to the place (`matchesFrom_look_seq_iff`).
-/

namespace ReleaseGate.Pattern

/-- A match of the pattern starts at the place between two texts. -/
def MatchesFrom (before behind : List Char) (p : Expr) : Prop :=
  ∃ j, Matches (before ++ behind) p before.length j

section

variable {before behind : List Char} {p q : Expr}

theorem charBefore_length (before behind : List Char) :
    charBefore (before ++ behind) before.length = before.getLast? := by
  rcases List.eq_nil_or_concat before with rfl | ⟨b, c, rfl⟩
  · rfl
  · simp [charBefore, List.concat_eq_append]

theorem getElem?_length (before behind : List Char) :
    (before ++ behind)[before.length]? = behind.head? := by
  rw [← List.head?_drop, List.drop_left]

@[simp]
theorem matchesFrom_empty : MatchesFrom before behind .empty := ⟨_, rfl⟩

/-- What the first part spells is taken, and the rest goes on behind it. -/
theorem matchesFrom_seq_iff (hp : p.LookFree) :
    MatchesFrom before behind (.seq p q) ↔
      ∃ m r, behind = m ++ r ∧ Spells p m ∧ MatchesFrom (before ++ m) r q := by
  simp only [MatchesFrom, Matches, matches_iff_spells _ hp, List.drop_left]
  constructor
  · rintro ⟨j, _, ⟨m, hm, rfl, r, rfl⟩, h⟩
    refine ⟨m, r, rfl, hm, j, ?_⟩
    rwa [List.append_assoc, List.length_append]
  · rintro ⟨m, r, rfl, hm, j, h⟩
    rw [List.append_assoc, List.length_append] at h
    exact ⟨j, _, ⟨m, hm, rfl, List.prefix_append m r⟩, h⟩

/-- A condition is asked of the characters on both sides. -/
theorem matchesFrom_look_seq_iff (l : Look) :
    MatchesFrom before behind (.seq (.look l) q) ↔
      l.holds before.getLast? behind.head? = true ∧ MatchesFrom before behind q := by
  simp only [MatchesFrom, Matches, charBefore_length, getElem?_length]
  constructor
  · rintro ⟨j, _, ⟨rfl, hl⟩, h⟩
    exact ⟨hl, j, h⟩
  · rintro ⟨hl, j, h⟩
    exact ⟨j, _, ⟨rfl, hl⟩, h⟩

theorem matchesFrom_one_seq_iff (c : Char) :
    MatchesFrom before behind (.seq (.chars (.one c)) q) ↔
      ∃ r, behind = c :: r ∧ MatchesFrom (before ++ [c]) r q := by
  have free : (Expr.chars (.one c)).LookFree := trivial
  rw [matchesFrom_seq_iff free]
  simp only [Spells, CharClass.mem, beq_iff_eq]
  constructor
  · rintro ⟨_, r, rfl, ⟨_, rfl, rfl⟩, h⟩
    exact ⟨r, rfl, h⟩
  · rintro ⟨r, rfl, h⟩
    exact ⟨[c], r, rfl, ⟨c, rfl, rfl⟩, h⟩

theorem matchesFrom_literal_iff (text : List Char) :
    MatchesFrom before behind (literal text q) ↔
      ∃ r, behind = text ++ r ∧ MatchesFrom (before ++ text) r q := by
  induction text generalizing before behind with
  | nil => simp [literal]
  | cons c text ih =>
    have e : literal (c :: text) q = .seq (.chars (.one c)) (literal text q) := rfl
    rw [e, matchesFrom_one_seq_iff]
    simp only [ih, List.append_assoc, List.singleton_append]
    constructor
    · rintro ⟨_, rfl, r, rfl, h⟩
      exact ⟨r, rfl, h⟩
    · rintro ⟨r, rfl, h⟩
      exact ⟨_, rfl, r, rfl, h⟩

/-- Any number of characters of a class. -/
theorem matchesFrom_rep_seq_iff (k : CharClass) (min : Nat) :
    MatchesFrom before behind (.seq (.rep (.chars k) min none) q) ↔
      ∃ m r, behind = m ++ r ∧ min ≤ m.length ∧ (∀ c ∈ m, k.mem c = true) ∧
        MatchesFrom (before ++ m) r q := by
  have free : (Expr.rep (.chars k) min none).LookFree := trivial
  simp only [matchesFrom_seq_iff free, spells_rep_iff, reduceCtorEq, false_imp_iff, implies_true,
    true_and, and_assoc]

theorem holds_lineStart_iff (before after : Option Char) :
    Look.lineStart.holds before after = true ↔ before = none ∨ before = some '\n' := by
  cases before <;> simp [Look.holds]

theorem holds_lineEnd_iff (before after : Option Char) :
    Look.lineEnd.holds before after = true ↔ after = none ∨ after = some '\n' := by
  cases after <;> simp [Look.holds]

end

end ReleaseGate.Pattern
