/-!
# Search for a text inside a text

`startsWith` and `occursIn` decide the two relations `<+:` and `<:+:` on texts, and `stripStart?`
is `startsWith` with what is left.
-/

namespace ReleaseGate.Text

/-- What follows `p` in `s`, if `s` starts with `p`. -/
def stripStart? : (p s : List Char) → Option (List Char)
  | [], s => some s
  | _ :: _, [] => none
  | a :: p, b :: s => if a = b then stripStart? p s else none

/-- Whether `s` starts with `p`. -/
def startsWith (p s : List Char) : Bool := (stripStart? p s).isSome

/-- Whether `p` stands somewhere in `s`. -/
def occursIn (p : List Char) : List Char → Bool
  | [] => startsWith p []
  | c :: s => startsWith p (c :: s) || occursIn p s

theorem stripStart?_eq_some_iff {p s r : List Char} : stripStart? p s = some r ↔ s = p ++ r := by
  induction p generalizing s with
  | nil => simp [stripStart?, eq_comm]
  | cons a p ih =>
    cases s with
    | nil => simp [stripStart?]
    | cons b s =>
      by_cases h : a = b
      · simp [stripStart?, h, ih]
      · simp [stripStart?, h, Ne.symm h]

theorem startsWith_iff {p s : List Char} : startsWith p s = true ↔ p <+: s := by
  constructor
  · intro h
    obtain ⟨r, hr⟩ := Option.isSome_iff_exists.1 h
    exact ⟨r, (stripStart?_eq_some_iff.1 hr).symm⟩
  · rintro ⟨r, rfl⟩
    simp [startsWith, stripStart?_eq_some_iff.2 rfl]

theorem occursIn_iff {p s : List Char} : occursIn p s = true ↔ p <:+: s := by
  induction s with
  | nil => simp [occursIn, startsWith_iff]
  | cons c s ih => simp [occursIn, startsWith_iff, ih, List.infix_cons_iff]

end ReleaseGate.Text
