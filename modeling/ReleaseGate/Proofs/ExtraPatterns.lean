import ReleaseGate.Proofs.FirstSignal

/-!
# Extra patterns

Extra patterns only add to the markers. A line is a signal for two sets of patterns together exactly
if it is one for either of them, so the first signal for both is the earlier one of theirs
(`firstSignal?_append_extra`), and what counts of the patterns is which ones there are
(`ofPatterns_append`).
-/

namespace ReleaseGate

namespace Change

/-! ### Valid patterns -/

namespace Detector

theorem exists_ofPatterns_iff (patterns : List String) :
    (∃ d, ofPatterns patterns = .ok d) ↔ ∀ p ∈ patterns, Pattern.isValid p.toList = true := by
  simp only [ofPatterns_eq_ok_iff, exists_and_left, exists_eq, and_true]

/-- **The first pattern that is not valid is reported.** -/
theorem ofPatterns_eq_error_iff (patterns : List String) (p : String) :
    ofPatterns patterns = .error p ↔
      ∃ before after, patterns = before ++ p :: after ∧
        (∀ q ∈ before, Pattern.isValid q.toList = true) ∧ Pattern.isValid p.toList = false := by
  have reported : ofPatterns patterns = .error p ↔ firstInvalid? patterns = some p := by
    unfold ofPatterns
    split
    · next q hq => rw [hq, Except.error.injEq, Option.some.injEq]
    · next hnone => simp [hnone]
  rw [reported, firstInvalid?, List.find?_eq_some_iff_append]
  constructor
  · rintro ⟨hp, before, after, rfl, hbefore⟩
    exact ⟨before, after, rfl, by simpa using hbefore, by simpa using hp⟩
  · rintro ⟨before, after, rfl, hbefore, hp⟩
    exact ⟨by simpa using hp, before, after, rfl, by simpa using hbefore⟩

end Detector

/-! ### The earlier signal -/

/-- The earlier one of two signals, if there are any. -/
def earlier? : Option Signal → Option Signal → Option Signal
  | none, t => t
  | s, none => s
  | some s, some t => if s.lineNumber ≤ t.lineNumber then some s else some t

theorem earlier?_self (s : Option Signal) : earlier? s s = s := by
  cases s with
  | none => rfl
  | some s => rw [earlier?, if_pos (Nat.le_refl _)]

theorem earlier?_of_le {s : Signal} {t : Option Signal}
    (h : ∀ u, t = some u → s.lineNumber ≤ u.lineNumber) : earlier? (some s) t = some s := by
  cases t with
  | none => rfl
  | some u => rw [earlier?, if_pos (h u rfl)]

theorem earlier?_of_lt {s : Option Signal} {t : Signal}
    (h : ∀ u, s = some u → t.lineNumber < u.lineNumber) : earlier? s (some t) = some t := by
  cases s with
  | none => rfl
  | some u => rw [earlier?, if_neg (Nat.not_le.2 (h u rfl))]

/-- The earlier signal is not later than either. -/
theorem exists_earlier?_le {s t : Option Signal} {u : Signal} (h : s = some u ∨ t = some u) :
    ∃ v, earlier? s t = some v ∧ v.lineNumber ≤ u.lineNumber := by
  cases s with
  | none =>
    obtain rfl : t = some u := h.resolve_left (Option.some_ne_none u).symm
    exact ⟨u, rfl, Nat.le_refl _⟩
  | some s =>
    cases t with
    | none =>
      obtain rfl : s = u := Option.some.inj (h.resolve_right (Option.some_ne_none u).symm)
      exact ⟨s, rfl, Nat.le_refl _⟩
    | some t =>
      rw [Option.some.injEq, Option.some.injEq] at h
      by_cases hle : s.lineNumber ≤ t.lineNumber
      · refine ⟨s, by rw [earlier?, if_pos hle], ?_⟩
        rcases h with rfl | rfl <;> omega
      · refine ⟨t, by rw [earlier?, if_neg hle], ?_⟩
        rcases h with rfl | rfl <;> omega

/-! ### Markers of several detectors -/

namespace Detector

variable {d d₁ d₂ : Detector}

theorem lt_lineNumber {inHunk : Bool} {seen : Nat} {ls : List (List Char)} {s : Signal}
    (h : d.firstSignalAmong inHunk seen ls = some s) : seen < s.lineNumber := by
  obtain ⟨i, hi, -⟩ := (firstSignalAmong_eq_some_iff ..).1 h
  omega

theorem signals_eq_or (h : ∀ text, d.isMarker text = (d₁.isMarker text || d₂.isMarker text))
    (inHunk : Bool) (line : List Char) :
    d.signals inHunk line = (d₁.signals inHunk line || d₂.signals inHunk line) := by
  unfold signals
  split_ifs with hstart hname
  · rfl
  · rfl
  · cases changedContent? line with
    | none => rfl
    | some content => exact h content

/-- **A run of the reader** for the markers of two detectors stops where the first of their runs
does: all three carry the same bit, which does not depend on markers. -/
theorem firstSignalAmong_eq_earlier?
    (h : ∀ text, d.isMarker text = (d₁.isMarker text || d₂.isMarker text)) (inHunk : Bool)
    (seen : Nat) (ls : List (List Char)) :
    d.firstSignalAmong inHunk seen ls =
      earlier? (d₁.firstSignalAmong inHunk seen ls) (d₂.firstSignalAmong inHunk seen ls) := by
  induction ls generalizing inHunk seen with
  | nil => rfl
  | cons l ls ih =>
    have later {e : Detector} {s : Signal}
        (hs : e.firstSignalAmong (hunkAfter inHunk l) (seen + 1) ls = some s) :
        seen + 1 < s.lineNumber := lt_lineNumber hs
    rw [firstSignalAmong, firstSignalAmong, firstSignalAmong, signals_eq_or h]
    cases h₁ : d₁.signals inHunk l <;> cases h₂ : d₂.signals inHunk l
    · exact ih ..
    · exact (earlier?_of_lt fun s hs => later hs).symm
    · exact (earlier?_of_le fun s hs => (later hs).le).symm
    · exact (earlier?_self _).symm

theorem firstSignal?_eq_earlier?
    (h : ∀ text, d.isMarker text = (d₁.isMarker text || d₂.isMarker text)) (diff : List Char) :
    d.firstSignal? diff = earlier? (d₁.firstSignal? diff) (d₂.firstSignal? diff) :=
  firstSignalAmong_eq_earlier? h false 0 (Text.lines diff)

/-! ### Patterns put together -/

theorem isMarker_append (es fs : List Pattern.Expr) (text : List Char) :
    isMarker ⟨es ++ fs⟩ text = (isMarker ⟨es⟩ text || isMarker ⟨fs⟩ text) := by
  simp only [isMarker, List.any_append]
  cases hasBuiltinMarker text <;> simp

theorem firstSignal?_append_extra (es fs : List Pattern.Expr) (diff : List Char) :
    firstSignal? ⟨es ++ fs⟩ diff = earlier? (firstSignal? ⟨es⟩ diff) (firstSignal? ⟨fs⟩ diff) :=
  firstSignal?_eq_earlier? (isMarker_append es fs) diff

/-- The built-in markers are always among those of a detector. -/
theorem exists_firstSignal?_le_builtin (d : Detector) {diff : List Char} {s : Signal}
    (h : firstSignal? ⟨[]⟩ diff = some s) :
    ∃ u, d.firstSignal? diff = some u ∧ u.lineNumber ≤ s.lineNumber := by
  have split := firstSignal?_append_extra d.extra [] diff
  rw [List.append_nil] at split
  rw [split]
  exact exists_earlier?_le (.inr h)

/-- Only which patterns there are counts. -/
theorem exists_ofPatterns_of_mem_iff {patterns others : List String}
    (h : ∀ p, p ∈ others ↔ p ∈ patterns) (hd : ofPatterns patterns = .ok d) :
    ∃ e, ofPatterns others = .ok e ∧ ∀ diff, e.firstSignal? diff = d.firstSignal? diff := by
  obtain ⟨valid, -⟩ := ofPatterns_eq_ok_iff.1 hd
  obtain ⟨e, he⟩ := (exists_ofPatterns_iff others).2 fun p hp => valid p ((h p).1 hp)
  refine ⟨e, he, fun diff => ?_⟩
  have markers (text : List Char) : e.isMarker text = (d.isMarker text || d.isMarker text) := by
    rw [Bool.or_self, Bool.eq_iff_iff, isMarker_iff he, isMarker_iff hd, HasMarker, HasMarker]
    simp only [h]
  rw [firstSignal?_eq_earlier? markers, earlier?_self]

end Detector

end Change

theorem detectorOf_eq_error_iff {config : Config} {f : Failure} :
    detectorOf config = .error f ↔
      ∃ p, Change.Detector.ofPatterns config.schema.extraPatterns = .error p ∧
        f = .config (.badPattern p) := by
  unfold detectorOf
  split
  · next d hd => simp [hd]
  · next p hp => simp [hp, eq_comm]

namespace Change.Detector

/-- **Extra patterns only add.** A detector has two lists of patterns together if it can have either,
and else the first pattern that is not valid is named. Its first signal is the earlier one of theirs,
so it is never later than one of theirs or of the built-in markers; and patterns in another order,
or given more than once, have the same first signal. -/
theorem ofPatterns_append (ps qs : List String) :
    ((∃ d, ofPatterns (ps ++ qs) = .ok d) ↔
      (∃ d, ofPatterns ps = .ok d) ∧ ∃ d, ofPatterns qs = .ok d) ∧
    (∀ config : Config, config.schema.extraPatterns = ps ++ qs →
      (∀ d, detectorOf config = .ok d ↔ ofPatterns (ps ++ qs) = .ok d) ∧
      ∀ f, detectorOf config = .error f ↔
        ∃ before p after, ps ++ qs = before ++ p :: after ∧
          (∀ q ∈ before, Pattern.isValid q.toList = true) ∧ Pattern.isValid p.toList = false ∧
          f = .config (.badPattern p)) ∧
    (∀ d, ofPatterns (ps ++ qs) = .ok d →
      ∃ dp dq, ofPatterns ps = .ok dp ∧ ofPatterns qs = .ok dq ∧ ∀ diff,
        d.firstSignal? diff = earlier? (dp.firstSignal? diff) (dq.firstSignal? diff) ∧
        ∀ s, dp.firstSignal? diff = some s ∨ dq.firstSignal? diff = some s ∨
            firstSignal? ⟨[]⟩ diff = some s →
          ∃ u, d.firstSignal? diff = some u ∧ u.lineNumber ≤ s.lineNumber) ∧
    ∀ (rs : List String) (d : Detector), (∀ p, p ∈ rs ↔ p ∈ ps) → ofPatterns ps = .ok d →
      ∃ e, ofPatterns rs = .ok e ∧ ∀ diff, e.firstSignal? diff = d.firstSignal? diff := by
  refine ⟨?_, fun config hconfig => ⟨fun d => ?_, fun f => ?_⟩, fun d hd => ?_,
    fun rs d h hd => exists_ofPatterns_of_mem_iff h hd⟩
  · rw [exists_ofPatterns_iff, exists_ofPatterns_iff, exists_ofPatterns_iff, List.forall_mem_append]
  · rw [detectorOf_eq_ok_iff, hconfig]
  · rw [detectorOf_eq_error_iff, hconfig]
    simp only [ofPatterns_eq_error_iff]
    constructor
    · rintro ⟨p, ⟨before, after, hsplit, hbefore, hp⟩, rfl⟩
      exact ⟨before, p, after, hsplit, hbefore, hp, rfl⟩
    · rintro ⟨before, p, after, hsplit, hbefore, hp, rfl⟩
      exact ⟨p, ⟨before, after, hsplit, hbefore, hp⟩, rfl⟩
  · obtain ⟨valid, rfl⟩ := ofPatterns_eq_ok_iff.1 hd
    obtain ⟨hps, hqs⟩ := List.forall_mem_append.1 valid
    refine ⟨_, _, ofPatterns_eq_ok_iff.2 ⟨hps, rfl⟩, ofPatterns_eq_ok_iff.2 ⟨hqs, rfl⟩,
      fun diff => ?_⟩
    have together := firstSignal?_append_extra (ps.filterMap fun p => Pattern.read? p.toList)
      (qs.filterMap fun p => Pattern.read? p.toList) diff
    rw [← List.filterMap_append] at together
    refine ⟨together, fun s hs => ?_⟩
    rcases hs with hs | hs | hs
    · rw [together]
      exact exists_earlier?_le (.inl hs)
    · rw [together]
      exact exists_earlier?_le (.inr hs)
    · exact exists_firstSignal?_le_builtin _ hs

/-- A pattern that matches any text and one that matches only a whole one take nothing from the
built-in markers. -/
theorem ofPatterns_append_anyText :
    (∃ d, detectorOf ⟨.default, ⟨[], ["^wire$", "x*"]⟩, .system⟩ = .ok d ∧
      ∃ u, d.firstSignal? "+a\n-SCHEMA_VERSION\n".toList = some u ∧ u.lineNumber ≤ 2) ∧
      ∃ d e, ofPatterns ["^wire$"] = .ok d ∧ ofPatterns ["^wire$", "^wire$"] = .ok e ∧
        ∀ diff, e.firstSignal? diff = d.firstSignal? diff := by
  obtain ⟨valid, failure, signal, members⟩ := ofPatterns_append ["^wire$"] ["x*"]
  have wire : ∃ d, ofPatterns ["^wire$"] = .ok d :=
    (exists_ofPatterns_iff _).2 (List.forall_mem_singleton.2 (by cbv))
  have any : ∃ d, ofPatterns ["x*"] = .ok d :=
    (exists_ofPatterns_iff _).2 (List.forall_mem_singleton.2 (by cbv))
  have marked : firstSignal? ⟨[]⟩ "+a\n-SCHEMA_VERSION\n".toList =
      some ⟨2, "-SCHEMA_VERSION".toList⟩ := rfl
  refine ⟨?_, ?_⟩
  · obtain ⟨d, hd⟩ := valid.2 ⟨wire, any⟩
    obtain ⟨_, _, -, -, reads⟩ := signal d hd
    exact ⟨d, ((failure _ rfl).1 d).2 hd, (reads _).2 _ (.inr (.inr marked))⟩
  · obtain ⟨d, hd⟩ := wire
    obtain ⟨e, he, same⟩ := members ["^wire$", "^wire$"] d (by simp) hd
    exact ⟨d, e, hd, he, same⟩

end Change.Detector

end ReleaseGate
