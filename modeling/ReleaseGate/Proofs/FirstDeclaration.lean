import Mathlib.Data.List.TakeWhile
import ReleaseGate.Proofs.Declarations

/-!
# First declarations

What the reader of versions answers on an arbitrary manifest: the value of the first declaration
(`declaredVersion?_eq_some_iff`), and nothing exactly where no declaration stands
(`declaredVersion?_eq_none_iff`). The reader takes white space as far as it goes and the value up to
the next quote; `declarationAtFront?_eq_some_iff` shows that no declaration is lost by that, and
`exists_of_endsLine` that white space behind the closing quote gives back its first line end and what
follows.
-/

namespace ReleaseGate

namespace Text

/-! ### Starts of lines -/

/-- Whether a line starts behind a text; `atStart` tells whether one starts before it. -/
def startsLine (atStart : Bool) (before : List Char) : Bool :=
  before.foldl (fun _ c => c == '\n') atStart

@[simp]
theorem startsLine_nil (atStart : Bool) : startsLine atStart [] = atStart := rfl

@[simp]
theorem startsLine_cons (atStart : Bool) (c : Char) (before : List Char) :
    startsLine atStart (c :: before) = startsLine (c == '\n') before := rfl

theorem startsLine_true_iff (before : List Char) :
    startsLine true before = true ↔ before = [] ∨ ∃ b, before = b ++ ['\n'] := by
  rcases List.eq_nil_or_concat before with rfl | ⟨b, c, rfl⟩
  · simp
  · rw [List.concat_eq_append]
    simp only [startsLine, List.foldl_append, List.foldl_cons, List.foldl_nil, beq_iff_eq]
    constructor
    · rintro rfl
      exact .inr ⟨b, rfl⟩
    · rintro (h | ⟨b', h⟩)
      · simp at h
      · exact (List.append_inj' h rfl).2 |> List.singleton_inj.1

/-- A run of white space goes up to the first other character. -/
theorem dropSpace_eq_cons_iff {c : Char} (hc : isSpace c = false) (s r : List Char) :
    dropSpace s = c :: r ↔ ∃ w, isBlank w = true ∧ s = w ++ c :: r := by
  constructor
  · intro h
    refine ⟨s.takeWhile isSpace, List.all_eq_true.2 fun d hd => List.mem_takeWhile_imp hd, ?_⟩
    rw [← h, dropSpace, List.takeWhile_append_dropWhile]
  · rintro ⟨w, hw, rfl⟩
    rw [dropSpace, List.dropWhile_append_of_pos (List.all_eq_true.1 hw),
      List.dropWhile_cons_of_neg (by simp [hc])]

end Text

namespace Release

/-! ### The form of a declaration -/

/-- White space ends a line before a line feed, and at the end of the text. -/
theorem endsLine_append {w rest : List Char} (hw : Text.isBlank w = true)
    (hrest : rest = [] ∨ ∃ r, rest = '\n' :: r) : endsLine (w ++ rest) = true := by
  rw [endsLine, Bool.or_eq_true]
  rcases hrest with rfl | ⟨r, rfl⟩
  · rw [List.append_nil]
    exact .inl hw
  · right
    rw [List.takeWhile_append_of_pos (List.all_eq_true.1 hw),
      List.takeWhile_cons_of_pos Text.isSpace_lf]
    simp

/-- The white space at the end of a line gives back all from the first line feed on. -/
theorem exists_of_endsLine {s : List Char} (h : endsLine s = true) :
    ∃ w rest, s = w ++ rest ∧ Text.isBlank w = true ∧ '\n' ∉ w ∧
      (rest = [] ∨ ∃ r, rest = '\n' :: r) := by
  rw [endsLine, Bool.or_eq_true, List.contains_iff_mem] at h
  by_cases hlf : '\n' ∈ s.takeWhile Text.isSpace
  · obtain ⟨w, r, hs, hw⟩ := List.eq_append_cons_of_mem hlf
    have blank : Text.isBlank (w ++ '\n' :: r) = true :=
      hs ▸ List.all_eq_true.2 fun c hc => List.mem_takeWhile_imp hc
    rw [Text.isBlank_append, Bool.and_eq_true] at blank
    have split : s = w ++ '\n' :: (r ++ s.dropWhile Text.isSpace) := calc
      s = s.takeWhile Text.isSpace ++ s.dropWhile Text.isSpace :=
        List.takeWhile_append_dropWhile.symm
      _ = w ++ '\n' :: (r ++ s.dropWhile Text.isSpace) := by
        rw [hs, List.append_assoc, List.cons_append]
    exact ⟨w, '\n' :: (r ++ s.dropWhile Text.isSpace), split, blank.1, hw, .inr ⟨_, rfl⟩⟩
  · have blank : Text.isBlank s = true := h.resolve_right hlf
    have all : s.takeWhile Text.isSpace = s :=
      List.takeWhile_eq_self_iff.2 (List.all_eq_true.1 blank)
    exact ⟨s, [], (List.append_nil s).symm, blank, all ▸ hlf, .inl rfl⟩

theorem closedValue?_eq_some_iff (s v : List Char) :
    closedValue? s = some v ↔
      ∃ after, s = v ++ quote :: after ∧ v ≠ [] ∧ quote ∉ v ∧ endsLine after = true := by
  constructor
  · intro h
    have split := List.takeWhile_append_dropWhile (p := (· != quote)) (l := s)
    have head := List.head?_dropWhile_not (· != quote) s
    rw [closedValue?] at h
    split at h
    · next q after hd =>
      rw [hd] at split head
      obtain rfl : q = quote := by simpa using head
      split at h
      · next hends =>
        cases h
        have free : quote ∉ s.takeWhile (· != quote) := fun hm => by
          simpa using List.mem_takeWhile_imp hm
        exact ⟨after, split.symm, hends.1, free, hends.2⟩
      · cases h
    · cases h
  · rintro ⟨after, rfl, hne, hv, hends⟩
    have unquoted : ∀ c ∈ v, (c != quote) = true := fun c hc => by
      simp only [bne_iff_ne]
      rintro rfl
      exact hv hc
    rw [closedValue?, List.takeWhile_append_of_pos unquoted, List.dropWhile_append_of_pos unquoted]
    simp [hne, hends]

/-- **The reader takes exactly the declarations**: the white space before the equals sign and before
the opening quote ends there, and the value ends at the next quote. -/
theorem declarationAtFront?_eq_some_iff (s v : List Char) :
    declarationAtFront? s = some v ↔
      ∃ w₁ w₂ after,
        s = versionKey ++ (w₁ ++ '=' :: (w₂ ++ quote :: (v ++ quote :: after))) ∧
        Text.isBlank w₁ = true ∧ Text.isBlank w₂ = true ∧ v ≠ [] ∧ quote ∉ v ∧
        endsLine after = true := by
  have signs : Text.isSpace '=' = false ∧ Text.isSpace quote = false := by decide
  rw [declarationAtFront?_eq_bind]
  simp only [Option.bind_eq_some_iff, Text.stripStart?_eq_some_iff, List.singleton_append,
    Text.dropSpace_eq_cons_iff signs.1, Text.dropSpace_eq_cons_iff signs.2,
    closedValue?_eq_some_iff]
  constructor
  · rintro ⟨_, rfl, _, ⟨w₁, hw₁, rfl⟩, _, ⟨w₂, hw₂, rfl⟩, after, rfl, hne, hv, hends⟩
    exact ⟨w₁, w₂, after, rfl, hw₁, hw₂, hne, hv, hends⟩
  · rintro ⟨w₁, w₂, after, rfl, hw₁, hw₂, hne, hv, hends⟩
    exact ⟨_, rfl, _, ⟨w₁, hw₁, rfl⟩, _, ⟨w₂, hw₂, rfl⟩, after, rfl, hne, hv, hends⟩

theorem declaredAt_iff (text before v : List Char) :
    DeclaredAt text before v ↔
      Text.startsLine true before = true ∧
        ∃ s, text = before ++ s ∧ declarationAtFront? s = some v := by
  rw [Text.startsLine_true_iff]
  simp only [DeclaredAt, declarationAtFront?_eq_some_iff]
  refine and_congr_right fun _ => ?_
  constructor
  · rintro ⟨w₁, w₂, w₃, rest, rfl, hw₁, hw₂, hw₃, hne, hv, hrest⟩
    exact ⟨_, rfl, w₁, w₂, _, rfl, hw₁, hw₂, hne, hv, endsLine_append hw₃ hrest⟩
  · rintro ⟨_, rfl, w₁, w₂, _, rfl, hw₁, hw₂, hne, hv, hends⟩
    obtain ⟨w₃, rest, rfl, hw₃, -, hrest⟩ := exists_of_endsLine hends
    exact ⟨w₁, w₂, w₃, rest, rfl, hw₁, hw₂, hw₃, hne, hv, hrest⟩

/-! ### The search -/

/-- The first declaration of a text stands at a place: no other one has less text before it. -/
structure FirstDeclaredAt (text before version : List Char) : Prop where
  declared : DeclaredAt text before version
  first : ∀ other v, DeclaredAt text other v → before.length ≤ other.length

/-- **A run of the search** stops at the first start of a line at which a declaration stands. -/
theorem declarationFrom?_eq_some_iff (atStart : Bool) (s v : List Char) :
    declarationFrom? atStart s = some v ↔
      ∃ before rest, s = before ++ rest ∧ Text.startsLine atStart before = true ∧
        declarationAtFront? rest = some v ∧
        ∀ other rest', s = other ++ rest' → Text.startsLine atStart other = true →
          declarationAtFront? rest' ≠ none → before.length ≤ other.length := by
  induction s generalizing atStart with
  | nil =>
    constructor
    · intro h
      cases h
    · rintro ⟨before, rest, h, -, hv, -⟩
      obtain ⟨-, rfl⟩ := List.append_eq_nil_iff.1 h.symm
      cases hv
  | cons c s ih =>
    rw [declarationFrom?]
    cases hfront : if atStart = true then declarationAtFront? (c :: s) else none with
    | some w =>
      obtain ⟨hstart, hw⟩ : atStart = true ∧ declarationAtFront? (c :: s) = some w := by
        simpa using hfront
      constructor
      · intro h
        cases h
        exact ⟨[], c :: s, rfl, hstart, hw, fun _ _ _ _ _ => Nat.zero_le _⟩
      · rintro ⟨before, rest, hs, -, hv, hfirst⟩
        -- nothing stands before the front
        have hlength := hfirst [] (c :: s) rfl hstart (by simp [hw])
        obtain rfl := List.length_eq_zero_iff.1 (Nat.le_zero.1 hlength)
        obtain rfl : c :: s = rest := hs
        rw [← hw, hv]
    | none =>
      have hnone : atStart = true → declarationAtFront? (c :: s) = none := by simpa using hfront
      rw [ih]
      constructor
      · rintro ⟨before, rest, rfl, hstart, hv, hfirst⟩
        refine ⟨c :: before, rest, rfl, hstart, hv, fun other rest' hs hother hne => ?_⟩
        cases other with
        | nil =>
          obtain rfl : c :: (before ++ rest) = rest' := hs
          exact absurd (hnone hother) hne
        | cons d other =>
          obtain ⟨rfl, htail⟩ := List.cons.inj hs
          exact Nat.succ_le_succ (hfirst other rest' htail hother hne)
      · rintro ⟨before, rest, hs, hstart, hv, hfirst⟩
        cases before with
        | nil =>
          obtain rfl : c :: s = rest := hs
          rw [hnone hstart] at hv
          cases hv
        | cons d before =>
          obtain ⟨rfl, htail⟩ := List.cons.inj hs
          refine ⟨before, rest, htail, hstart, hv, fun other rest' hs hother hne => ?_⟩
          exact Nat.le_of_succ_le_succ (hfirst (c :: other) rest' (congrArg (c :: ·) hs) hother hne)

theorem declarationFrom?_eq_none_iff (atStart : Bool) (s : List Char) :
    declarationFrom? atStart s = none ↔
      ∀ before rest, s = before ++ rest → Text.startsLine atStart before = true →
        declarationAtFront? rest = none := by
  induction s generalizing atStart with
  | nil =>
    refine iff_of_true rfl fun before rest h _ => ?_
    obtain ⟨-, rfl⟩ := List.append_eq_nil_iff.1 h.symm
    rfl
  | cons c s ih =>
    have split : declarationFrom? atStart (c :: s) = none ↔
        (atStart = true → declarationAtFront? (c :: s) = none) ∧
          declarationFrom? (c == '\n') s = none := by
      rw [declarationFrom?]
      cases hfront : if atStart = true then declarationAtFront? (c :: s) else none with
      | some w =>
        obtain ⟨hstart, hw⟩ : atStart = true ∧ declarationAtFront? (c :: s) = some w := by
          simpa using hfront
        simp [hstart, hw]
      | none =>
        have hnone : atStart = true → declarationAtFront? (c :: s) = none := by simpa using hfront
        exact ⟨fun h => ⟨hnone, h⟩, And.right⟩
    rw [split, ih]
    constructor
    · rintro ⟨hfront, hlater⟩ before rest hs hstart
      cases before with
      | nil =>
        obtain rfl : c :: s = rest := hs
        exact hfront hstart
      | cons d before =>
        obtain ⟨rfl, htail⟩ := List.cons.inj hs
        exact hlater before rest htail hstart
    · intro h
      exact ⟨h [] (c :: s) rfl, fun before rest hs =>
        h (c :: before) rest (congrArg (c :: ·) hs)⟩

/-- **The version is the value of the first declaration.** -/
theorem declaredVersion?_eq_some_iff (text v : List Char) :
    declaredVersion? text = some v ↔ ∃ before, FirstDeclaredAt text before v := by
  rw [declaredVersion?, declarationFrom?_eq_some_iff]
  constructor
  · rintro ⟨before, rest, hs, hstart, hv, hfirst⟩
    refine ⟨before, (declaredAt_iff ..).2 ⟨hstart, rest, hs, hv⟩, fun other w h => ?_⟩
    obtain ⟨hother, rest', hs', hw⟩ := (declaredAt_iff ..).1 h
    exact hfirst other rest' hs' hother (by simp [hw])
  · rintro ⟨before, declared, hfirst⟩
    obtain ⟨hstart, rest, hs, hv⟩ := (declaredAt_iff ..).1 declared
    refine ⟨before, rest, hs, hstart, hv, fun other rest' hs' hother hne => ?_⟩
    obtain ⟨w, hw⟩ := Option.ne_none_iff_exists'.1 hne
    exact hfirst other w ((declaredAt_iff ..).2 ⟨hother, rest', hs', hw⟩)

/-- **No version is read exactly where no declaration stands.** -/
theorem declaredVersion?_eq_none_iff (text : List Char) :
    declaredVersion? text = none ↔ ∀ before v, ¬DeclaredAt text before v := by
  rw [declaredVersion?, declarationFrom?_eq_none_iff]
  constructor
  · intro h before v declared
    obtain ⟨hstart, rest, hs, hv⟩ := (declaredAt_iff ..).1 declared
    rw [h before rest hs hstart] at hv
    cases hv
  · intro h before rest hs hstart
    rw [Option.eq_none_iff_forall_ne_some]
    exact fun v hv => h before v ((declaredAt_iff ..).2 ⟨hstart, rest, hs, hv⟩)

end Release

end ReleaseGate
