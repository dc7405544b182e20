import Mathlib.Tactic.Ring
import ReleaseGate.Proofs.DocumentTexts

/-!
# Reading numbers and moments

The readers of integers, floats and moments take what the grammar of documents lets be written.
Moments are tried before floats and floats before integers, so each reader also has to turn down
what the later ones are for: a date has a minus sign behind its first digits and a time of day a
colon (`takeMoment_eq_none`), and a float has a point or an exponent.
-/

namespace ReleaseGate.Toml

/-! ### Digits -/

section Digits

variable {digit : Char → Bool} {ds w s rest : List Char}

/-- Digits end where neither one more nor an underscore is ahead. -/
def EndsRun (digit : Char → Bool) (s : List Char) : Prop := Clear (fun c => digit c || c == '_') s

theorem RunText.head (h : RunText digit ds w) :
    ∃ d t u, ds = d :: t ∧ w = d :: u ∧ digit d = true := by
  cases h with
  | one hd => exact ⟨_, _, _, rfl, rfl, hd⟩
  | cons hd => exact ⟨_, _, _, rfl, rfl, hd⟩
  | skip hd => exact ⟨_, _, _, rfl, rfl, hd⟩

theorem RunText.forall_digit (h : RunText digit ds w) : ∀ d ∈ ds, digit d = true := by
  induction h with
  | one hd => simpa using hd
  | cons hd _ ih => exact List.forall_mem_cons.2 ⟨hd, ih⟩
  | skip hd _ ih => exact List.forall_mem_cons.2 ⟨hd, ih⟩

theorem digitRun_of_endsRun (hs : EndsRun digit s) : digitRun digit s = ([], s) := by
  cases s with
  | nil => rfl
  | cons c s =>
    obtain ⟨hc, hunder⟩ : digit c = false ∧ c ≠ '_' := by simpa [EndsRun] using hs
    unfold digitRun
    rw [if_neg (by simp [hc])]
    split
    · exact absurd rfl hunder
    · rfl

theorem digitRun_cons {d : Char} (hd : digit d = true) :
    digitRun digit (d :: s) = (d :: (digitRun digit s).1, (digitRun digit s).2) := by
  unfold digitRun
  rw [if_pos hd]
  cases s <;> rfl

theorem digitRun_append (hunder : digit '_' = false) (h : RunText digit ds w)
    (hrest : EndsRun digit rest) : digitRun digit (w ++ rest) = (ds, rest) := by
  induction h with
  | one hd =>
    rw [List.singleton_append, digitRun_cons hd, digitRun_of_endsRun hrest]
  | cons hd _ ih =>
    rw [List.cons_append, digitRun_cons hd, ih]
  | skip hd h ih =>
    obtain ⟨d, t, u, rfl, rfl, hd'⟩ := h.head
    have inner : digitRun digit ('_' :: d :: (u ++ rest)) = (d :: t, rest) := by
      rw [digitRun]
      simp only [hunder, Bool.false_eq_true, if_false, hd', if_true]
      exact ih
    rw [List.cons_append, List.cons_append, List.cons_append, digitRun_cons hd, inner]

theorem takeRun_append (hunder : digit '_' = false) (h : RunText digit ds w)
    (hrest : EndsRun digit rest) : takeRun digit (w ++ rest) = some (ds, rest) := by
  have read := digitRun_append hunder h hrest
  obtain ⟨d, t, u, rfl, rfl, hd⟩ := h.head
  rw [List.cons_append] at read ⊢
  rw [takeRun, if_pos hd, read]

theorem takeWhole_append (h : WholeText ds w) (hrest : EndsRun isDigit rest) :
    takeWhole (w ++ rest) = some (ds, rest) := by
  cases h with
  | zero => rfl
  | run hd h =>
    have read := takeRun_append rfl h hrest
    obtain ⟨d, t, u, heq, rfl, -⟩ := h.head
    obtain ⟨rfl, rfl⟩ := List.cons.inj heq
    rw [List.cons_append] at read ⊢
    unfold takeWhole
    split
    next heq => exact absurd (List.cons.inj heq).1 hd
    · exact read

theorem WholeText.head (h : WholeText ds w) :
    ∃ d t u, ds = d :: t ∧ w = d :: u ∧ isDigit d = true := by
  cases h with
  | zero => exact ⟨_, _, _, rfl, rfl, rfl⟩
  | run _ h => exact h.head

theorem WholeText.opens (h : WholeText ds w) : Opens isDigit w := by
  obtain ⟨d, t, u, -, rfl, hd⟩ := h.head
  exact ⟨d, u, rfl, hd⟩

theorem WholeText.forall_digit (h : WholeText ds w) : ∀ d ∈ ds, isDigit d = true := by
  cases h with
  | zero => simp; rfl
  | run _ h => exact h.forall_digit

/-- The digits of a decimal integer and what follows a first digit: digits, then an underscore or
the text behind the integer. -/
theorem clear_dropWhile_whole {p : Char → Bool} (h : WholeText ds w) (hp : p '_' = false)
    (hs : Clear p (s.dropWhile isDigit)) : Clear p ((w ++ s).dropWhile isDigit) := by
  have run {ds w} (h : RunText isDigit ds w) : Clear p ((w ++ s).dropWhile isDigit) := by
    induction h with
    | one hd => rwa [List.singleton_append, List.dropWhile_cons_of_pos hd]
    | cons hd _ ih => rwa [List.cons_append, List.dropWhile_cons_of_pos hd]
    | skip hd _ _ =>
      rw [List.cons_append, List.dropWhile_cons_of_pos hd, List.cons_append,
        List.dropWhile_cons_of_neg (by decide)]
      exact clear_cons.2 hp
  cases h with
  | zero => rwa [List.singleton_append, List.dropWhile_cons_of_pos (by decide)]
  | run _ h => exact run h

end Digits

/-! ### Integers -/

section Integers

variable {negative : Bool} {n : Int} {ds s w t rest : List Char}

theorem takeSign_append (hs : SignText negative s)
    (hrest : Clear (fun c => c == '-' || c == '+') rest) :
    takeSign (s ++ rest) = (negative, rest) := by
  cases hs with
  | none =>
    rw [List.nil_append]
    unfold takeSign
    split
    · cases clear_cons.1 hrest
    · cases clear_cons.1 hrest
    · rfl
  | plus => rfl
  | minus => rfl

theorem takeSign_whole (hs : SignText negative s) (hw : WholeText ds w) :
    takeSign (s ++ (w ++ rest)) = (negative, w ++ rest) :=
  takeSign_append hs <| (hw.opens.append rest).clear fun c hc => by
    rcases (by simpa using hc : c = '-' ∨ c = '+') with rfl | rfl <;> rfl

theorem fits_iff : fits n = true ↔ -2 ^ 63 ≤ n ∧ n < 2 ^ 63 := by
  have hmin : Int64.minValue.toInt = -2 ^ 63 := rfl
  have hmax : Int64.maxValue.toInt = 2 ^ 63 - 1 := rfl
  rw [fits, Bool.and_eq_true, decide_eq_true_iff, decide_eq_true_iff, hmin, hmax]
  omega

theorem takeDecimal_append (hs : SignText negative s) (hw : WholeText ds w)
    (hfits : fits (signed negative ds) = true) (hrest : EndsRun isDigit rest) :
    takeDecimal (s ++ (w ++ rest)) = some (signed negative ds, rest) := by
  rw [signed] at hfits
  simp only [takeDecimal, takeSign_whole hs hw, takeWhole_append hw hrest, Option.bind_eq_bind,
    Option.bind_some, hfits, if_true, signed]
  rfl

theorem takeInBase_append {base : Nat} {digit : Char → Bool} (hunder : digit '_' = false)
    (hw : RunText digit ds w) (hfits : fits (ofDigits base ds) = true)
    (hrest : EndsRun digit rest) :
    takeInBase base digit (w ++ rest) = some ((ofDigits base ds : Int), rest) := by
  simp only [takeInBase, takeRun_append hunder hw hrest, Option.bind_eq_bind, Option.bind_some,
    hfits, if_true]
  rfl

/-- Without a letter behind a zero, an integer is decimal. -/
theorem takeInteger_eq_takeDecimal (h : ∀ c u, t = '0' :: c :: u → c ≠ 'x' ∧ c ≠ 'o' ∧ c ≠ 'b') :
    takeInteger t = takeDecimal t := by
  unfold takeInteger
  split
  · exact absurd rfl (h _ _ rfl).1
  · exact absurd rfl (h _ _ rfl).2.1
  · exact absurd rfl (h _ _ rfl).2.2
  · rfl

theorem takeInteger_append (h : IntegerText n w) (hmin : -2 ^ 63 ≤ n) (hmax : n < 2 ^ 63)
    (hrest : EndsValue rest) : takeInteger (w ++ rest) = some (n, rest) := by
  have hfits : fits n = true := fits_iff.2 ⟨hmin, hmax⟩
  cases h with
  | @decimal negative s ds w hs hw =>
    rw [List.append_assoc, takeInteger_eq_takeDecimal,
      takeDecimal_append hs hw hfits (hrest.clear rfl)]
    intro c u hu
    cases hs with
    | plus => cases hu
    | minus => cases hu
    | none =>
      cases hw with
      | zero =>
        obtain ⟨-, rfl⟩ := List.cons.inj hu
        have : Clear (fun c => c == 'x' || c == 'o' || c == 'b') (c :: u) := hrest.clear rfl
        simpa [and_assoc] using clear_cons.1 this
      | run hd hw =>
        obtain ⟨d, t, u', heq, rfl, -⟩ := hw.head
        exact absurd ((List.cons.inj heq).1.trans (List.cons.inj hu).1) hd
  | @based letter base digit ds w hbase hw =>
    simp only [bases, List.mem_cons, List.not_mem_nil, or_false, Prod.mk.injEq] at hbase
    rcases hbase with ⟨rfl, rfl, rfl⟩ | ⟨rfl, rfl, rfl⟩ | ⟨rfl, rfl, rfl⟩
    all_goals exact takeInBase_append rfl hw hfits (hrest.clear rfl)

end Integers

/-! ### Floats -/

section Floats

variable {negative : Bool} {fraction : Option (List Char)} {exponent : Option Int}
  {ds s w p x rest : List Char}

theorem takeFraction_append (h : FractionText fraction p) (hdot : Clear (· == '.') rest)
    (hrest : EndsRun isDigit rest) : takeFraction (p ++ rest) = (fraction, rest) := by
  cases h with
  | none =>
    rw [List.nil_append]
    unfold takeFraction
    split
    · cases clear_cons.1 hdot
    · rfl
  | some h => simp only [List.cons_append, takeFraction, takeRun_append rfl h hrest]

theorem takeExponent_append (h : ExponentText exponent x)
    (hrest : Clear (fun c => isDigit c || c == '_' || c == 'e' || c == 'E') rest) :
    takeExponent (x ++ rest) = (exponent, rest) := by
  cases h with
  | none =>
    cases rest with
    | nil => rfl
    | cons c rest =>
      have hc : ¬(c = 'e' ∨ c = 'E') := by
        have := clear_cons.1 hrest
        simp only [Bool.or_eq_false_iff, beq_eq_false_iff_ne] at this
        tauto
      rw [List.nil_append, takeExponent, if_neg hc]
  | @some c negative s ds w hc hs h =>
    have hend : EndsRun isDigit rest := hrest.mono fun c hc => by simp_all
    have sign : takeSign (s ++ (w ++ rest)) = (negative, w ++ rest) := by
      refine takeSign_append hs ?_
      obtain ⟨d, t, u, -, rfl, hd⟩ := h.head
      refine clear_cons.2 ?_
      simp only [Bool.or_eq_false_iff, beq_eq_false_iff_ne]
      constructor <;> rintro rfl <;> cases hd
    simp only [List.cons_append, List.append_assoc, takeExponent, if_pos hc, sign,
      takeRun_append rfl h hend, signed]

theorem FractionText.clear (h : FractionText fraction p) {q : Char → Bool} (hq : q '.' = false)
    (hs : Clear q s) : Clear q (p ++ s) := by
  cases h with
  | none => exact hs
  | some => exact clear_cons.2 hq

theorem ExponentText.clear (h : ExponentText exponent x) {q : Char → Bool}
    (hq : q 'e' = false ∧ q 'E' = false) (hs : Clear q s) : Clear q (x ++ s) := by
  cases h with
  | none => exact hs
  | some hc =>
    rcases hc with rfl | rfl
    · exact clear_cons.2 hq.1
    · exact clear_cons.2 hq.2

theorem FractionText.forall_digit (h : FractionText fraction p) :
    ∀ d ∈ fraction.getD [], isDigit d = true := by
  cases h with
  | none => simp
  | some h => exact h.forall_digit

/-- The value of digits is that of the first one with as many places behind it, and of the rest. -/
theorem ofDigits_cons (base : Nat) (d : Char) (ds : List Char) :
    ofDigits base (d :: ds) = digitValue d * base ^ ds.length + ofDigits base ds := by
  have from_ (n : Nat) : ds.foldl (fun n d => base * n + digitValue d) n =
      n * base ^ ds.length + ofDigits base ds := by
    induction ds generalizing n with
    | nil => simp [ofDigits]
    | cons c ds ih =>
      rw [ofDigits, List.foldl_cons, List.foldl_cons, ih, ih (base * 0 + digitValue c),
        List.length_cons, pow_succ]
      ring
  rw [ofDigits, List.foldl_cons, from_, Nat.mul_zero, Nat.zero_add]

/-- Zeros in front add nothing. -/
theorem ofDigits_dropWhile_zero (base : Nat) (ds : List Char) :
    ofDigits base (ds.dropWhile (· == '0')) = ofDigits base ds := by
  induction ds with
  | nil => rfl
  | cons d ds ih =>
    by_cases hd : d = '0'
    · have zero : digitValue '0' = 0 := rfl
      rw [List.dropWhile_cons_of_pos (by simpa using hd), ih, ofDigits_cons, hd, zero,
        Nat.zero_mul, Nat.zero_add]
    · rw [List.dropWhile_cons_of_neg (by simpa using hd)]

/-- Digits that start with no zero write a number of that many places. -/
theorem pow_le_ofDigits {d : Char} (hd : isDigit d = true) (hzero : d ≠ '0') (ds : List Char) :
    10 ^ ds.length ≤ ofDigits 10 (d :: ds) := by
  have hvalue : 1 ≤ digitValue d := by
    have hle : '0' ≤ d := by
      rw [isDigit, Bool.and_eq_true, decide_eq_true_iff] at hd
      exact hd.1
    have hlt : '0'.toNat < d.toNat := by
      refine Nat.lt_of_le_of_ne hle fun h => hzero ?_
      exact (Char.toNat_inj.1 h).symm
    rw [digitValue, if_pos hd]
    omega
  calc 10 ^ ds.length ≤ digitValue d * 10 ^ ds.length := Nat.le_mul_of_pos_left _ hvalue
    _ ≤ ofDigits 10 (d :: ds) := by
      rw [ofDigits_cons]
      exact Nat.le_add_right _ _

theorem doubleLimit_le {n : Nat} (h : 310 ≤ n) : doubleLimit ≤ 10 ^ n := by
  obtain ⟨m, rfl⟩ := Nat.exists_eq_add_of_le (show 155 ≤ n by omega)
  calc doubleLimit ≤ 10 ^ 155 * 10 ^ 155 := by decide +kernel
    _ ≤ 10 ^ 155 * 10 ^ m := Nat.mul_le_mul_left _ (Nat.pow_le_pow_right (by decide) (by omega))
    _ = 10 ^ (155 + m) := (Nat.pow_add ..).symm

/-- A finite number is taken for one. -/
theorem isInfinite_eq_false (hds : ∀ d ∈ ds, isDigit d = true) {e : Int} (h : IsFinite ds e) :
    isInfinite ds e = false := by
  rw [IsFinite, ← ofDigits_dropWhile_zero] at h
  have hsig : ∀ d ∈ (ds.dropWhile (· == '0')).head?, isDigit d = true ∧ d ≠ '0' := by
    intro d hd
    refine ⟨hds d ((List.dropWhile_suffix _).subset (List.mem_of_mem_head? hd)), ?_⟩
    simpa using clear_dropWhile (· == '0') ds d hd
  unfold isInfinite
  generalize ds.dropWhile (· == '0') = significant at h hsig ⊢
  cases significant with
  | nil => simp
  | cons d t =>
    obtain ⟨hd, hzero⟩ := hsig d rfl
    -- more places than a finite number can have would make the number too large
    have hplaces : t.length + e.toNat < 310 + (-e).toNat := by
      by_contra hle
      have hsplit : t.length + e.toNat = t.length + e.toNat - (-e).toNat + (-e).toNat := by omega
      refine lt_irrefl (10 ^ (t.length + e.toNat)) ?_
      calc 10 ^ (t.length + e.toNat) = 10 ^ t.length * 10 ^ e.toNat := Nat.pow_add ..
        _ ≤ ofDigits 10 (d :: t) * 10 ^ e.toNat :=
          Nat.mul_le_mul_right _ (pow_le_ofDigits hd hzero t)
        _ < doubleLimit * 10 ^ (-e).toNat := h
        _ ≤ 10 ^ (t.length + e.toNat - (-e).toNat) * 10 ^ (-e).toNat :=
          Nat.mul_le_mul_right _ (doubleLimit_le (by omega))
        _ = 10 ^ (t.length + e.toNat) := by rw [← Nat.pow_add, ← hsplit]
    simp only [List.cons_ne_nil, false_or, List.length_cons, Nat.pow_eq]
    split
    · rfl
    rw [if_neg (by omega)]
    split
    next hpos =>
      have : (-e).toNat = 0 := by omega
      simpa [this] using h
    next hneg =>
      have : e.toNat = 0 := by omega
      simpa [this] using h

theorem takeDigitFloat_append (hs : SignText negative s) (hw : WholeText ds w)
    (hp : FractionText fraction p) (hx : ExponentText exponent x)
    (hne : fraction ≠ none ∨ exponent ≠ none)
    (hfinite : negative = false →
      IsFinite (ds ++ fraction.getD []) (exponent.getD 0 - (fraction.getD []).length))
    (hrest : EndsValue rest) :
    takeDigitFloat (s ++ (w ++ (p ++ (x ++ rest)))) = some ((), rest) := by
  have whole : takeWhole (w ++ (p ++ (x ++ rest))) = some (ds, p ++ (x ++ rest)) :=
    takeWhole_append hw (hp.clear rfl (hx.clear ⟨rfl, rfl⟩ (hrest.clear rfl)))
  have fractional : takeFraction (p ++ (x ++ rest)) = (fraction, x ++ rest) :=
    takeFraction_append hp (hx.clear ⟨rfl, rfl⟩ (hrest.clear rfl))
      (hx.clear ⟨rfl, rfl⟩ (hrest.clear rfl))
  have exponential : takeExponent (x ++ rest) = (exponent, rest) :=
    takeExponent_append hx (hrest.clear rfl)
  have finite : (!negative && isInfinite (ds ++ fraction.getD [])
      (exponent.getD 0 - (fraction.getD []).length)) = false := by
    cases negative with
    | true => rfl
    | false =>
      refine isInfinite_eq_false (fun d hd => ?_) (hfinite rfl)
      rcases List.mem_append.1 hd with hd | hd
      · exact hw.forall_digit d hd
      · exact hp.forall_digit d hd
  simp only [takeDigitFloat, takeSign_whole hs hw, whole, fractional, exponential,
    Option.bind_eq_bind, Option.bind_some, finite, Bool.false_eq_true, if_false]
  split
  · simp at hne
  · rfl

theorem takeFloat_append (h : FloatText .reader w) (hrest : EndsValue rest) :
    takeFloat (w ++ rest) = some ((), rest) := by
  cases h with
  | @digits negative s ds w fraction p exponent x hs hw hp hx hne hfinite =>
    simp only [takeFloat, List.append_assoc,
      takeDigitFloat_append hs hw hp hx hne (hfinite rfl) hrest]
  | @named negative s w hs hw =>
    have sign : takeSign (s ++ (w ++ rest)) = (negative, w ++ rest) := by
      refine takeSign_append hs ?_
      simp only [List.mem_cons, List.not_mem_nil, or_false] at hw
      rcases hw with rfl | rfl <;> exact clear_cons.2 rfl
    simp only [List.append_assoc, takeFloat, takeDigitFloat, takeNamedFloat, sign]
    simp only [List.mem_cons, List.not_mem_nil, or_false] at hw
    rcases hw with rfl | rfl <;> rfl

/-- What is neither the name of a float nor digits with a point or an exponent is no float. -/
theorem takeFloat_eq_none (hnamed : Clear (fun c => c == 'i' || c == 'n') (takeSign w).2)
    (hdigits : ∀ ds r, takeWhole (takeSign w).2 = some (ds, r) →
      Clear (fun c => c == '.' || c == 'e' || c == 'E') r) : takeFloat w = none := by
  have digitFloat : takeDigitFloat w = none := by
    rw [takeDigitFloat]
    cases h : takeWhole (takeSign w).2 with
    | none => simp only [h, Option.bind_eq_bind, Option.bind_none]
    | some r =>
      obtain ⟨ds, r⟩ := r
      have clear := hdigits ds r h
      have fraction : takeFraction r = (none, r) := by
        unfold takeFraction
        split
        · cases clear_cons.1 clear
        · rfl
      have exponent : takeExponent r = (none, r) := by
        cases r with
        | nil => rfl
        | cons c r =>
          have := clear_cons.1 clear
          simp only [Bool.or_eq_false_iff, beq_eq_false_iff_ne] at this
          rw [takeExponent, if_neg (by tauto)]
      simp only [h, Option.bind_eq_bind, Option.bind_some, fraction, exponent]
  have named : takeNamedFloat w = none := by
    unfold takeNamedFloat
    generalize (takeSign w).2 = t at hnamed
    split
    · cases clear_cons.1 hnamed
    · cases clear_cons.1 hnamed
    · rfl
  rw [takeFloat, digitFloat, named]

/-- An integer is no float. -/
theorem takeFloat_integer {n : Int} (h : IntegerText n w) (hrest : EndsValue rest) :
    takeFloat (w ++ rest) = none := by
  cases h with
  | @decimal negative s ds w hs hw =>
    have sign : (takeSign (s ++ w ++ rest)).2 = w ++ rest := by
      rw [List.append_assoc, takeSign_whole hs hw]
    refine takeFloat_eq_none ?_ ?_
    · rw [sign]
      exact (hw.opens.append rest).clear fun c hc => by
        rcases (by simpa using hc : c = 'i' ∨ c = 'n') with rfl | rfl <;> rfl
    · intro ds' r hr
      rw [sign, takeWhole_append hw (hrest.clear rfl)] at hr
      cases hr
      exact hrest.clear rfl
  | @based letter base digit ds w hbase hw =>
    simp only [bases, List.mem_cons, List.not_mem_nil, or_false, Prod.mk.injEq] at hbase
    refine takeFloat_eq_none (clear_cons.2 rfl) fun ds' r hr => ?_
    cases hr
    rcases hbase with ⟨rfl, -, -⟩ | ⟨rfl, -, -⟩ | ⟨rfl, -, -⟩ <;> exact clear_cons.2 rfl

end Floats

/-! ### Moments -/

section Moments

variable {n v : Nat} {w d t o f s rest : List Char}

theorem takeDigits_append (h : DigitsText n v w) : takeDigits n (w ++ rest) = some (v, rest) := by
  have htake : (w ++ rest).take n = w := by rw [← h.length, List.take_left]
  have hdrop : (w ++ rest).drop n = rest := by rw [← h.length, List.drop_left]
  simp only [takeDigits, htake, hdrop, h.length, h.digits, and_self, if_true, h.value]

theorem takeDate_append (h : DateText d) : takeDate (d ++ rest) = some ((), rest) := by
  cases h with
  | @mk year month day y m d hy hm hd hmonth hday =>
    have valid : 1 ≤ month ∧ month ≤ 12 ∧ 1 ≤ day ∧ day ≤ daysIn year month :=
      ⟨hmonth.1, hmonth.2, hday⟩
    simp only [takeDate, List.append_assoc, List.cons_append, takeDigits_append hy,
      takeDigits_append hm, takeDigits_append hd, takeChar, if_true, Option.bind_eq_bind,
      Option.bind_some, valid, and_self]
    rfl

theorem takeClock_append (h : ClockText w) : takeClock (w ++ rest) = some ((), rest) := by
  cases h with
  | mk hh hm hhour hminute =>
    simp only [takeClock, List.append_assoc, List.cons_append, takeDigits_append hh,
      takeDigits_append hm, takeChar, if_true, Option.bind_eq_bind, Option.bind_some, hhour,
      hminute, and_self]
    rfl

theorem dropSecondFraction_append (h : SecondFraction f)
    (hrest : Clear (fun c => isDigit c || c == '.') rest) :
    dropSecondFraction (f ++ rest) = rest := by
  cases h with
  | none =>
    rw [List.nil_append]
    unfold dropSecondFraction
    split
    · cases clear_cons.1 hrest
    · rfl
  | some hd hw =>
    simp only [List.cons_append, dropSecondFraction, hd, if_true]
    exact dropWhile_append_of_clear hw (hrest.mono fun c hc => by simp [hc])

theorem takeTime_append (h : TimeText t) (hrest : Clear (fun c => isDigit c || c == '.') rest) :
    takeTime (t ++ rest) = some ((), rest) := by
  cases h with
  | mk hc hs hsecond hf =>
    simp only [takeTime, List.append_assoc, List.cons_append, takeClock_append hc, takeChar,
      if_true, takeDigits_append hs, Option.bind_eq_bind, Option.bind_some, hsecond,
      dropSecondFraction_append hf hrest]
    rfl

theorem dropOffset_append (h : OffsetText o) (hrest : EndsValue rest) :
    dropOffset (o ++ rest) = rest := by
  cases h with
  | none =>
    cases rest with
    | nil => rfl
    | cons c rest =>
      have : Clear (fun c => c == 'Z' || c == 'z' || c == '+' || c == '-') (c :: rest) :=
        hrest.clear rfl
      have := clear_cons.1 this
      simp only [Bool.or_eq_false_iff, beq_eq_false_iff_ne] at this
      rw [List.nil_append, dropOffset, if_neg (by tauto), if_neg (by tauto)]
  | zero hc => rw [List.singleton_append, dropOffset, if_pos hc]
  | clock hc hw =>
    have hz : ∀ c : Char, c = '+' ∨ c = '-' → ¬(c = 'Z' ∨ c = 'z') := by
      rintro c (rfl | rfl) <;> decide
    rw [List.cons_append, dropOffset, if_neg (hz _ hc), if_pos hc, takeClock_append hw]

theorem OffsetText.clear (h : OffsetText o) {p : Char → Bool}
    (hp : ['Z', 'z', '+', '-'].all (fun c => !p c) = true) (hs : Clear p s) : Clear p (o ++ s) := by
  simp only [List.all_cons, List.all_nil, Bool.and_true, Bool.and_eq_true,
    Bool.not_eq_true'] at hp
  cases h with
  | none => exact hs
  | zero hc => rcases hc with rfl | rfl <;> simp [hp]
  | clock hc => rcases hc with rfl | rfl <;> simp [hp]

/-- Digits that are not as many as asked for are not taken. -/
theorem takeDigits_eq_none (h : ∀ c ∈ s[n]?, isDigit c = false) {m : Nat} (hm : n < m) :
    takeDigits m s = none := by
  rw [takeDigits]
  refine if_neg fun ⟨hlength, hdigits⟩ => ?_
  have hn : n < s.length := by
    rw [List.length_take] at hlength
    omega
  have hmem : s[n] ∈ s.take m := List.mem_take_iff_getElem.2 ⟨n, by omega, rfl⟩
  have := h s[n] (List.getElem?_eq_getElem hn)
  exact Bool.false_ne_true (this.symm.trans (List.all_eq_true.1 hdigits _ hmem))

theorem takeDigits_of_clear (h : Clear isDigit s) {m : Nat} (hm : 0 < m) :
    takeDigits m s = none :=
  takeDigits_eq_none (n := 0) (by rwa [← List.head?_eq_getElem?]) hm

/-- Behind a date, blanks and the end of the value are no time of day. -/
theorem dropTimeOfDate_of_endsValue (hrest : EndsValue rest) : dropTimeOfDate rest = rest := by
  cases rest with
  | nil => rfl
  | cons c s =>
    rw [dropTimeOfDate]
    split
    next hc =>
      have hblank : c = ' ' := by
        have : Clear (fun c => c == 'T' || c == 't') (c :: s) := hrest.clear rfl
        have := clear_cons.1 this
        simp only [Bool.or_eq_false_iff, beq_eq_false_iff_ne] at this
        tauto
      subst hblank
      have behind : EndsValue s := hrest
      have time : takeTime s = none := by
        rw [takeTime, takeClock, takeDigits_of_clear (behind.clear rfl) (by decide)]
        rfl
      rw [time]
    · rfl

/-- A colon stands where a date has its third digit. -/
theorem takeDate_time (h : TimeText t) : takeDate (t ++ rest) = none := by
  have digits : takeDigits 4 (t ++ rest) = none := by
    refine takeDigits_eq_none (n := 2) ?_ (by decide)
    cases h with
    | mk hc =>
      cases hc with
      | mk hh =>
        simp only [List.append_assoc, List.cons_append]
        rw [List.getElem?_append_right (by rw [hh.length]), hh.length]
        simp [isDigit]
  rw [takeDate, digits]
  rfl

theorem takeMoment_append (h : MomentText w) (hrest : EndsValue rest) :
    takeMoment (w ++ rest) = some ((), rest) := by
  cases h with
  | date hd =>
    simp only [takeMoment, takeDate_append hd, dropTimeOfDate_of_endsValue hrest]
  | time ht =>
    simp only [takeMoment, takeDate_time ht]
    exact takeTime_append ht (hrest.clear rfl)
  | @dateTime d c t o hd hc ht ho =>
    have time : takeTime (t ++ (o ++ rest)) = some ((), o ++ rest) :=
      takeTime_append ht (ho.clear rfl (hrest.clear rfl))
    simp only [takeMoment, List.append_assoc, List.cons_append, takeDate_append hd,
      dropTimeOfDate, if_pos hc, time, dropOffset_append ho hrest]

/-- Behind digits that were taken stands what is behind all digits, or one more of them. -/
theorem takeChar_of_takeDigits {c : Char} (h : takeDigits n s = some (v, rest))
    (hc : isDigit c = false) (hs : Clear (· == c) (s.dropWhile isDigit)) :
    takeChar c rest = none := by
  rw [takeDigits] at h
  split at h
  next hdigits =>
    obtain ⟨-, rfl⟩ := Prod.mk.inj (Option.some.inj h)
    rw [← List.take_append_drop n s,
      List.dropWhile_append_of_pos (List.all_eq_true.1 hdigits.2)] at hs
    cases hd : s.drop n with
    | nil => rfl
    | cons e r =>
      have hne : e ≠ c := by
        rintro rfl
        rw [hd, List.dropWhile_cons_of_neg (by simp [hc])] at hs
        simp at hs
      rw [takeChar, if_neg hne]
  · cases h

/-- Without a minus sign and a colon behind its digits, a text starts with no moment. -/
theorem takeMoment_eq_none
    (h : Clear isDigit s ∨ Clear (fun c => c == '-' || c == ':') (s.dropWhile isDigit)) :
    takeMoment s = none := by
  have behind {m : Nat} (hm : 0 < m) {c : Char} (hc : c = '-' ∨ c = ':') {v r}
      (hr : takeDigits m s = some (v, r)) : takeChar c r = none := by
    rcases h with h | h
    · rw [takeDigits_of_clear h hm] at hr
      cases hr
    · refine takeChar_of_takeDigits hr ?_ (h.mono fun d hd => ?_)
      · rcases hc with rfl | rfl <;> rfl
      · rw [eq_of_beq hd]
        rcases hc with rfl | rfl <;> rfl
  have date : takeDate s = none := by
    rw [takeDate]
    cases hr : takeDigits 4 s with
    | none => rfl
    | some r => simp only [Option.bind_eq_bind, Option.bind_some, behind (by decide) (.inl rfl) hr,
        Option.bind_none]
  have time : takeTime s = none := by
    rw [takeTime, takeClock]
    cases hr : takeDigits 2 s with
    | none => rfl
    | some r => simp only [Option.bind_eq_bind, Option.bind_some, behind (by decide) (.inr rfl) hr,
        Option.bind_none]
  rw [takeMoment, date, time]

/-- Digits of a number, with a sign or not, start no moment. -/
theorem takeMoment_whole {negative : Bool} {ds : List Char} (hs : SignText negative s)
    (hw : WholeText ds w) (ht : Clear (fun c => isDigit c || c == '-' || c == ':') t) :
    takeMoment (s ++ (w ++ t)) = none := by
  refine takeMoment_eq_none ?_
  cases hs with
  | plus => exact .inl (clear_cons.2 rfl)
  | minus => exact .inl (clear_cons.2 rfl)
  | none =>
    rw [List.nil_append]
    refine .inr (clear_dropWhile_whole hw rfl ?_)
    rw [dropWhile_of_clear (ht.mono fun c hc => by simp [hc])]
    exact ht.mono fun c hc => by simpa [or_assoc] using .inr (by simpa using hc)

theorem takeMoment_integer {m : Int} (h : IntegerText m w) (hrest : EndsValue rest) :
    takeMoment (w ++ rest) = none := by
  cases h with
  | decimal hs hw =>
    rw [List.append_assoc]
    exact takeMoment_whole hs hw (hrest.clear rfl)
  | based hbase hw =>
    simp only [bases, List.mem_cons, List.not_mem_nil, or_false, Prod.mk.injEq] at hbase
    refine takeMoment_eq_none (.inr ?_)
    rw [List.cons_append, List.dropWhile_cons_of_pos (by decide)]
    rcases hbase with ⟨rfl, -, -⟩ | ⟨rfl, -, -⟩ | ⟨rfl, -, -⟩
    all_goals
      rw [List.cons_append, List.dropWhile_cons_of_neg (by decide)]
      exact clear_cons.2 rfl

theorem takeMoment_float {limits : Limits} (h : FloatText limits w) (hrest : EndsValue rest) :
    takeMoment (w ++ rest) = none := by
  cases h with
  | digits hs hw hp hx =>
    simp only [List.append_assoc]
    exact takeMoment_whole hs hw (hp.clear rfl (hx.clear ⟨rfl, rfl⟩ (hrest.clear rfl)))
  | named hs hw =>
    simp only [List.mem_cons, List.not_mem_nil, or_false] at hw
    refine takeMoment_eq_none (.inl ?_)
    rw [List.append_assoc]
    cases hs with
    | plus => exact clear_cons.2 rfl
    | minus => exact clear_cons.2 rfl
    | none => rcases hw with rfl | rfl <;> exact clear_cons.2 rfl

end Moments

end ReleaseGate.Toml
