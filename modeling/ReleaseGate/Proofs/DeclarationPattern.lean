import Mathlib
import ReleaseGate.Proofs.FirstDeclaration
import ReleaseGate.Proofs.PatternPlaces

/-!
# The pattern of declarations

Declarations of versions are also described by a pattern, which matches from a place exactly if a
declaration stands there (`matchesFrom_declarationExpr_iff`). The reader of versions takes the first
such place (`declaredVersion?_firstDeclaration`).
-/

namespace ReleaseGate.Release

/-- Declarations as a pattern. -/
def declarationPattern : String := "(?m)^version\\s*=\\s*\"([^\"]+)\"\\s*$"

/-- White space as a pattern. -/
def spaceExpr : Pattern.Expr := .rep (.chars (.having Text.isSpace)) 0 none

/-- The pattern of declarations once it is read. -/
def declarationExpr : Pattern.Expr :=
  .seq (.look .lineStart) <| Pattern.literal versionKey <| .seq spaceExpr <|
    .seq (.chars (.one '=')) <| .seq spaceExpr <| .seq (.chars (.one quote)) <|
      .seq (.rep (.chars (.compl (.one quote))) 1 none) <| .seq (.chars (.one quote)) <|
        .seq spaceExpr <| .seq (.look .lineEnd) .empty

theorem read?_declarationPattern :
    Pattern.read? declarationPattern.toList = some declarationExpr := by cbv

theorem matchesFrom_space_seq_iff {before behind : List Char} {q : Pattern.Expr} :
    Pattern.MatchesFrom before behind (.seq spaceExpr q) ↔
      ∃ w r, behind = w ++ r ∧ Text.isBlank w = true ∧ Pattern.MatchesFrom (before ++ w) r q := by
  simp only [spaceExpr, Pattern.matchesFrom_rep_seq_iff, Nat.zero_le, true_and,
    Pattern.CharClass.mem, Text.isBlank, List.all_eq_true]

/-- One character or more that is no quote. -/
theorem matchesFrom_unquoted_seq_iff {before behind : List Char} {q : Pattern.Expr} :
    Pattern.MatchesFrom before behind (.seq (.rep (.chars (.compl (.one quote))) 1 none) q) ↔
      ∃ v r, behind = v ++ r ∧ v ≠ [] ∧ quote ∉ v ∧ Pattern.MatchesFrom (before ++ v) r q := by
  have unquoted (v : List Char) :
      (∀ c ∈ v, (Pattern.CharClass.compl (.one quote)).mem c = true) ↔ quote ∉ v := by
    simp only [Pattern.CharClass.mem, Bool.not_eq_true', beq_eq_false_iff_ne]
    exact ⟨fun h hm => h _ hm rfl, fun h c hc e => h (e ▸ hc)⟩
  simp only [Pattern.matchesFrom_rep_seq_iff, unquoted, Nat.one_le_iff_ne_zero, ne_eq,
    List.length_eq_zero_iff]

/-- **The pattern matches from a place exactly if a declaration stands there**: however far its
repetitions went, they can stop where the parts of the declaration do. -/
theorem matchesFrom_declarationExpr_iff (before behind : List Char) :
    Pattern.MatchesFrom before behind declarationExpr ↔
      ∃ v, DeclaredAt (before ++ behind) before v := by
  have start : before.getLast? = none ∨ before.getLast? = some '\n' ↔
      before = [] ∨ ∃ b, before = b ++ ['\n'] := by
    rw [List.getLast?_eq_none_iff, List.getLast?_eq_some_iff]
  have stop (r : List Char) : r.head? = none ∨ r.head? = some '\n' ↔
      r = [] ∨ ∃ t, r = '\n' :: t := by
    rw [List.head?_eq_none_iff, List.head?_eq_some_iff]
  simp only [declarationExpr, Pattern.matchesFrom_look_seq_iff, Pattern.matchesFrom_literal_iff,
    Pattern.matchesFrom_one_seq_iff, matchesFrom_space_seq_iff, matchesFrom_unquoted_seq_iff,
    Pattern.matchesFrom_empty, Pattern.holds_lineStart_iff, Pattern.holds_lineEnd_iff, start, stop,
    and_true, DeclaredAt, List.append_cancel_left_eq]
  constructor
  · rintro ⟨hstart, _, rfl, w₁, _, rfl, hw₁, _, rfl, w₂, _, rfl, hw₂, _, rfl, v, _, rfl, hne, hv, _,
      rfl, w₃, rest, rfl, hw₃, hrest⟩
    exact ⟨v, hstart, w₁, w₂, w₃, rest, rfl, hw₁, hw₂, hw₃, hne, hv, hrest⟩
  · rintro ⟨v, hstart, w₁, w₂, w₃, rest, rfl, hw₁, hw₂, hw₃, hne, hv, hrest⟩
    exact ⟨hstart, _, rfl, w₁, _, rfl, hw₁, _, rfl, w₂, _, rfl, hw₂, _, rfl, v, _, rfl, hne, hv, _,
      rfl, w₃, rest, rfl, hw₃, hrest⟩

/-- **The version of a manifest is that of its first declaration**, whatever else the text is. A
version is read exactly if it is the value at the least place where a declaration stands, and none
exactly if a declaration stands nowhere; so none is lost because an earlier line starts like one.
These places are the ones from which the pattern of declarations matches. -/
theorem declaredVersion?_firstDeclaration :
    (∀ text : List Char,
      (∀ v, declaredVersion? text = some v ↔
        ∃ before, DeclaredAt text before v ∧
          ∀ other w, DeclaredAt text other w → before.length ≤ other.length) ∧
      (declaredVersion? text = none ↔ ∀ before v, ¬DeclaredAt text before v)) ∧
    ∃ e, Pattern.read? declarationPattern.toList = some e ∧
      ∀ before behind, Pattern.MatchesFrom before behind e ↔
        ∃ v, DeclaredAt (before ++ behind) before v := by
  refine ⟨fun text => ⟨fun v => ?_, declaredVersion?_eq_none_iff text⟩,
    declarationExpr, read?_declarationPattern, matchesFrom_declarationExpr_iff⟩
  rw [declaredVersion?_eq_some_iff]
  exact exists_congr fun before => ⟨fun h => ⟨h.declared, h.first⟩, fun h => ⟨h.1, h.2⟩⟩

/-- A declaration that fails runs over the line of the next one, which counts. -/
example : declaredVersion? "version = \"1\n\nversion = \"2\"\n".toList = some ['2'] := by decide

end ReleaseGate.Release
