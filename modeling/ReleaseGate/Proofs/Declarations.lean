import ReleaseGate.Release.Declaration

/-!
# Reading version declarations

What the reader of version declarations does step by step, and two consequences: a version is a part
of its manifest (`subset_of_declaredVersion?`), and a line that does not start like a declaration may
be put before a manifest (`declaredVersion?_append_lf`).
-/

namespace ReleaseGate.Release

/-! ### Steps -/

/-- A declaration at the front of a text, as one text stripped off after the other. -/
theorem declarationAtFront?_eq_bind (s : List Char) :
    declarationAtFront? s =
      (Text.stripStart? versionKey s).bind fun afterKey =>
        (Text.stripStart? ['='] (Text.dropSpace afterKey)).bind fun afterEquals =>
          (Text.stripStart? [quote] (Text.dropSpace afterEquals)).bind closedValue? := by
  rw [declarationAtFront?]
  cases Text.stripStart? versionKey s with
  | none => rfl
  | some afterKey =>
    dsimp only [Option.bind_some]
    cases Text.dropSpace afterKey with
    | nil => rfl
    | cons c afterEquals =>
      by_cases hc : c = '='
      · subst hc
        simp only [Text.stripStart?, if_true, Option.bind_some]
        cases Text.dropSpace afterEquals with
        | nil => rfl
        | cons q afterQuote =>
          by_cases hq : quote = q
          · simp [hq, Text.stripStart?]
          · simp [hq, Ne.symm hq, Text.stripStart?]
      · simp only [Text.stripStart?, Ne.symm hc, if_false, Option.bind_none]
        split
        · next h => exact absurd (List.cons.inj h).1 hc
        · rfl

/-- No declaration stands where its key does not start. -/
theorem declarationAtFront?_cons_of_ne {c : Char} (h : c ≠ 'v') (s : List Char) :
    declarationAtFront? (c :: s) = none := by
  have hk : Text.stripStart? versionKey (c :: s) = none := if_neg (Ne.symm h)
  rw [declarationAtFront?, hk]

theorem declarationFrom?_cons_of_none {atStart : Bool} {c : Char} {s : List Char}
    (h : declarationAtFront? (c :: s) = none) :
    declarationFrom? atStart (c :: s) = declarationFrom? (c == '\n') s := by
  rw [declarationFrom?, h, ite_self]

/-! ### Parts of a manifest -/

theorem subset_of_stripStart? {p s r : List Char} (h : Text.stripStart? p s = some r) : r ⊆ s := by
  rw [Text.stripStart?_eq_some_iff.1 h]
  exact List.subset_append_right p r

theorem subset_of_closedValue? {s v : List Char} (h : closedValue? s = some v) : v ⊆ s := by
  simp only [closedValue?] at h
  split at h
  · split at h
    · cases h
      exact (List.takeWhile_sublist _).subset
    · cases h
  · cases h

theorem subset_of_declarationAtFront? {s v : List Char} (h : declarationAtFront? s = some v) :
    v ⊆ s := by
  rw [declarationAtFront?_eq_bind] at h
  obtain ⟨afterKey, hk, h⟩ := Option.bind_eq_some_iff.1 h
  obtain ⟨afterEquals, he, h⟩ := Option.bind_eq_some_iff.1 h
  obtain ⟨afterQuote, hq, h⟩ := Option.bind_eq_some_iff.1 h
  have hv := subset_of_closedValue? h
  have hq := subset_of_stripStart? hq
  have he := subset_of_stripStart? he
  have hk := subset_of_stripStart? hk
  have hd (t : List Char) : Text.dropSpace t ⊆ t := (List.dropWhile_sublist _).subset
  exact fun c hc => hk (hd _ (he (hd _ (hq (hv hc)))))

theorem subset_of_declarationFrom? {atStart : Bool} {s v : List Char}
    (h : declarationFrom? atStart s = some v) : v ⊆ s := by
  induction s generalizing atStart with
  | nil => cases h
  | cons c s ih =>
    rw [declarationFrom?] at h
    split at h
    · next v' hv' =>
      cases h
      cases atStart with
      | false => cases hv'
      | true => exact subset_of_declarationAtFront? hv'
    · exact List.subset_cons_of_subset c (ih h)

/-- A version is a part of its manifest. -/
theorem subset_of_declaredVersion? {manifest v : List Char} (h : declaredVersion? manifest = some v) :
    v ⊆ manifest :=
  subset_of_declarationFrom? h

/-! ### Lines before a manifest -/

/-- Within a line nothing is declared. -/
theorem declarationFrom?_false_append_lf {l : List Char} (hl : '\n' ∉ l) (s : List Char) :
    declarationFrom? false (l ++ '\n' :: s) = declarationFrom? true s := by
  induction l with
  | nil => rfl
  | cons c l ih =>
    rw [List.mem_cons, not_or] at hl
    have hc : (c == '\n') = false := by simpa using Ne.symm hl.1
    rw [List.cons_append, declarationFrom?, hc]
    exact ih hl.2

/-- **A line that does not start like a declaration does not change the version.** -/
theorem declaredVersion?_append_lf {l : List Char} (hl : '\n' ∉ l) (hv : l.head? ≠ some 'v')
    (s : List Char) : declaredVersion? (l ++ '\n' :: s) = declaredVersion? s := by
  cases l with
  | nil => exact declarationFrom?_cons_of_none (declarationAtFront?_cons_of_ne (by decide) s)
  | cons c l =>
    rw [List.mem_cons, not_or] at hl
    have hc : c ≠ 'v' := fun e => hv (congrArg some e)
    have hn : (c == '\n') = false := by simpa using Ne.symm hl.1
    rw [declaredVersion?, List.cons_append,
      declarationFrom?_cons_of_none (declarationAtFront?_cons_of_ne hc _), hn,
      declarationFrom?_false_append_lf hl.2, declaredVersion?]

end ReleaseGate.Release
