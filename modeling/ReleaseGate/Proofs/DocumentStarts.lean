import ReleaseGate.Proofs.DocumentPlaces

/-!
# Starts of lines in a document

Numbers, keys, values and lines of a document, followed through its places. No value leaves anything
open, however values nest in it (`leavesClosed_valueText`). So a line of a document starts outside of
comments and texts, or inside a text between three quotes; and where it starts outside and with a `v`,
a pair is written (`BodyText.exists_pairText`).
-/

namespace ReleaseGate.Toml

open Place

/-! ### Numbers and moments -/

section Numbers

variable {limits : Limits} {m : Mark} {n : Int} {negative : Bool} {count v : Nat}
  {fraction : Option (List Char)} {exponent : Option Int} {ds w : List Char}

theorem isCalm_of {p : Char → Bool}
    (hp : p doubleQuote = false ∧ p singleQuote = false ∧ p '#' = false ∧ p '\n' = false) {c : Char}
    (hc : p c = true) : isCalm c = true := by
  rw [← Bool.not_eq_false]
  intro h
  simp only [isCalm, isQuote, Bool.not_eq_false', Bool.or_eq_true, beq_iff_eq, or_assoc] at h
  rcases h with rfl | rfl | rfl | rfl <;> simp [hc] at hp

theorem isCalm_of_isDigit {c : Char} (hc : isDigit c = true) : isCalm c = true :=
  isCalm_of ⟨rfl, rfl, rfl, rfl⟩ hc

theorem RunText.calm {digit : Char → Bool} (hdigit : ∀ c, digit c = true → isCalm c = true)
    (h : RunText digit ds w) : ∀ c ∈ w, isCalm c = true := by
  induction h with
  | one hd => simpa using hdigit _ hd
  | cons hd _ ih => exact List.forall_mem_cons.2 ⟨hdigit _ hd, ih⟩
  | skip hd _ ih => exact List.forall_mem_cons.2 ⟨hdigit _ hd, List.forall_mem_cons.2 ⟨rfl, ih⟩⟩

theorem SignText.calm (h : SignText negative w) : ∀ c ∈ w, isCalm c = true := by
  cases h <;> exact List.all_eq_true.1 rfl

theorem WholeText.calm (h : WholeText ds w) : ∀ c ∈ w, isCalm c = true := by
  cases h with
  | zero => exact List.all_eq_true.1 rfl
  | run _ h => exact h.calm fun _ => isCalm_of_isDigit

theorem IntegerText.calm (h : IntegerText n w) : ∀ c ∈ w, isCalm c = true := by
  cases h with
  | decimal hs hw => exact List.forall_mem_append.2 ⟨hs.calm, hw.calm⟩
  | @based letter base digit ds w hbase hw =>
    have known : isCalm letter = true ∧ digit doubleQuote = false ∧ digit singleQuote = false ∧
        digit '#' = false ∧ digit '\n' = false := by
      simp only [bases, List.mem_cons, List.not_mem_nil, or_false, Prod.mk.injEq] at hbase
      rcases hbase with ⟨rfl, -, rfl⟩ | ⟨rfl, -, rfl⟩ | ⟨rfl, -, rfl⟩ <;>
        exact ⟨rfl, rfl, rfl, rfl, rfl⟩
    exact List.forall_mem_cons.2 ⟨rfl, List.forall_mem_cons.2
      ⟨known.1, hw.calm fun c => isCalm_of known.2⟩⟩

theorem FractionText.calm (h : FractionText fraction w) : ∀ c ∈ w, isCalm c = true := by
  cases h with
  | none => simp
  | some h => exact List.forall_mem_cons.2 ⟨rfl, h.calm fun _ => isCalm_of_isDigit⟩

theorem ExponentText.calm (h : ExponentText exponent w) : ∀ c ∈ w, isCalm c = true := by
  cases h with
  | none => simp
  | @some c negative s ds w hc hs h =>
    have letter : isCalm c = true := by rcases hc with rfl | rfl <;> rfl
    exact List.forall_mem_append.2 ⟨List.forall_mem_cons.2 ⟨letter, hs.calm⟩,
      h.calm fun _ => isCalm_of_isDigit⟩

theorem FloatText.calm (h : FloatText limits w) : ∀ c ∈ w, isCalm c = true := by
  cases h with
  | digits hs hw hp hx =>
    simp only [List.forall_mem_append]
    exact ⟨⟨⟨hs.calm, hw.calm⟩, hp.calm⟩, hx.calm⟩
  | named hs hw =>
    refine List.forall_mem_append.2 ⟨hs.calm, ?_⟩
    simp only [List.mem_cons, List.not_mem_nil, or_false] at hw
    rcases hw with rfl | rfl <;> exact List.all_eq_true.1 rfl

theorem DigitsText.calm (h : DigitsText count v w) : ∀ c ∈ w, isCalm c = true := fun c hc =>
  isCalm_of_isDigit (List.all_eq_true.1 h.digits c hc)

theorem DateText.calm (h : DateText w) : ∀ c ∈ w, isCalm c = true := by
  cases h with
  | mk hy hm hd =>
    simp only [List.forall_mem_append, List.forall_mem_cons]
    exact ⟨⟨hy.calm, rfl, hm.calm⟩, rfl, hd.calm⟩

theorem ClockText.calm (h : ClockText w) : ∀ c ∈ w, isCalm c = true := by
  cases h with
  | mk hh hm =>
    simp only [List.forall_mem_append, List.forall_mem_cons]
    exact ⟨hh.calm, rfl, hm.calm⟩

theorem TimeText.calm (h : TimeText w) : ∀ c ∈ w, isCalm c = true := by
  cases h with
  | mk hc hs _ hf =>
    have fraction : ∀ {f : List Char}, SecondFraction f → ∀ c ∈ f, isCalm c = true := fun hf => by
      cases hf with
      | none => simp
      | some hd hw =>
        simp only [List.forall_mem_cons]
        exact ⟨rfl, isCalm_of_isDigit hd, fun c hc => isCalm_of_isDigit (hw c hc)⟩
    simp only [List.forall_mem_append, List.forall_mem_cons]
    exact ⟨⟨hc.calm, rfl, hs.calm⟩, fraction hf⟩

theorem OffsetText.calm (h : OffsetText w) : ∀ c ∈ w, isCalm c = true := by
  cases h with
  | none => simp
  | zero hc => rcases hc with rfl | rfl <;> exact List.all_eq_true.1 rfl
  | @clock c w hc hw =>
    have sign : isCalm c = true := by rcases hc with rfl | rfl <;> rfl
    exact List.forall_mem_cons.2 ⟨sign, hw.calm⟩

theorem MomentText.calm (h : MomentText w) : ∀ c ∈ w, isCalm c = true := by
  cases h with
  | date hd => exact hd.calm
  | time ht => exact ht.calm
  | @dateTime d c t o hd hc ht ho =>
    have between : isCalm c = true := by rcases hc with rfl | rfl | rfl <;> rfl
    simp only [List.forall_mem_append, List.forall_mem_cons]
    exact ⟨⟨hd.calm, between, ht.calm⟩, ho.calm⟩

/-- **A value that holds no others leaves nothing open.** -/
theorem SimpleText.closes (h : SimpleText limits m w) : Closes w := by
  cases h with
  | text h => exact h.closes
  | integer h => exact .calm h.calm
  | float h => exact .calm h.calm
  | boolean h =>
    simp only [List.mem_cons, List.not_mem_nil, or_false] at h
    rcases h with rfl | rfl <;> exact .calm (List.all_eq_true.1 rfl)
  | moment h => exact .calm h.calm

end Numbers

/-! ### Keys and values -/

section Values

variable {limits : Limits} {value : Layout → List Char → Prop} {k : Key} {ks : List Key}
  {L : Layout} {Ms : List Layout} {g : Given} {gs : List Given} {w t : List Char}

theorem KeyText.closes (h : KeyText k w) : Closes w := by
  cases h with
  | bare _ hw => exact .calm fun c hc => isCalm_of ⟨rfl, rfl, rfl, rfl⟩ (hw c hc)
  | quoted h => exact h.closes

theorem Place.Closes.append_blanks {b : List Char} (h : Closes w) (hb : Blanks b) :
    Closes (w ++ b) := by
  have hquote : Clear isQuote (b ++ []) := hb.clear ⟨rfl, rfl⟩ (clear_nil _)
  rw [List.append_nil] at hquote
  exact h.append (.calm hb.calm) hquote

theorem KeysText.closes (h : KeysText ks w) : Closes w := by
  induction h with
  | one hb hk hb' => exact .append_blanks (.calm_append hb.calm hk.closes) hb'
  | cons hb hk hb' _ ih =>
    exact .append (.append_blanks (.calm_append hb.calm hk.closes) hb') (.cons rfl ih)
      (clear_cons.2 rfl)

/-- A value starts with no `v`, and leaves nothing open. -/
structure LeavesClosed (value : Layout → List Char → Prop) : Prop where
  opens : ∀ L w, value L w → Opens opensValue w
  closes : ∀ L w, value L w → Closes w

/-- Behind a value, a gap and the character that ends it. -/
theorem Place.Closes.append_gap {g' : List Char} {c : Char} (h : Closes w) (hg : Gap g')
    (hc : c = ',' ∨ c = ']') (ht : Closes t) : Closes (w ++ (g' ++ c :: t)) := by
  have known : isCalm c = true ∧ c ≠ 'v' ∧ EndsValue (c :: t) := by
    rcases hc with rfl | rfl <;> exact ⟨rfl, by decide, endsValue_cons (by decide)⟩
  have hv : Clear (· == 'v') (c :: t) := by simpa using known.2.1
  exact h.append ((Closes.cons known.1 ht).gap_append hg (by simp) hv)
    ((hg.endsValue known.2.2).clear rfl)

theorem ElementsText.closes (hvalue : LeavesClosed value) (h : ElementsText value Ms t) :
    Closes t := by
  have shut : Closes [']'] := .calm (List.all_eq_true.1 rfl)
  have behind {g w t : List Char} {M : Layout} (hg : Gap g) (hw : value M w) (ht : Closes (w ++ t)) :
      Closes (g ++ (w ++ t)) := by
    have opens := (hvalue.opens M w hw).append t
    refine ht.gap_append hg ?_ (opens.clear fun c hc => ?_)
    · obtain ⟨c, u, hcu, -⟩ := opens
      simp [hcu]
    · obtain rfl := beq_iff_eq.1 hc
      rfl
  induction h with
  | none hg => exact shut.gap_append hg (by simp) (clear_cons.2 rfl)
  | last hg hw hg' =>
    have := (hvalue.closes _ _ hw).append_gap hg' (.inr rfl) (.calm (List.forall_mem_nil _))
    simpa only [List.append_assoc] using behind hg hw this
  | cons hg hw hg' _ ih =>
    have := (hvalue.closes _ _ hw).append_gap hg' (.inl rfl) ih
    simpa only [List.append_assoc] using behind hg hw this

theorem PairText.closes (hvalue : LeavesClosed value) (h : PairText limits value g w) :
    Closes w := by
  cases h with
  | mk hk _ hb hw =>
    rw [List.append_assoc, List.cons_append]
    refine hk.closes.append (.cons rfl ?_) (clear_cons.2 rfl)
    exact .calm_append hb.calm (hvalue.closes _ _ hw)

theorem MembersText.closes (hvalue : LeavesClosed value)
    (h : MembersText (PairText limits value) gs t) : Closes t := by
  induction h with
  | last hw hb =>
    exact ((hw.closes hvalue).append_blanks hb).append (.calm (List.all_eq_true.1 rfl)) (clear_cons.2 rfl)
  | cons hw hb _ ih =>
    exact ((hw.closes hvalue).append_blanks hb).append (.cons rfl ih) (clear_cons.2 rfl)

theorem TableText.closes (hvalue : LeavesClosed value)
    (h : TableText (PairText limits value) gs t) : Closes t := by
  cases h with
  | empty hb => exact .calm_append hb.calm (.calm (List.all_eq_true.1 rfl))
  | members h => exact h.closes hvalue

/-- **No value leaves anything open**, whatever nests in it. -/
theorem leavesClosed_valueText (limits : Limits) (depth : Nat) :
    LeavesClosed (ValueText limits depth) := by
  have simple {m : Mark} {w : List Char} (h : SimpleText limits m w) :
      Opens opensValue w ∧ Closes w :=
    ⟨h.opens.mono fun c hc => by simp [opensValue, hc], h.closes⟩
  have both : ∀ L w, ValueText limits depth L w → Opens opensValue w ∧ Closes w := by
    induction depth with
    | zero =>
      rintro L w ⟨m, h, -⟩
      exact simple h
    | succ depth ih =>
      have inner : LeavesClosed (ValueText limits depth) :=
        ⟨fun L w h => (ih L w h).1, fun L w h => (ih L w h).2⟩
      rintro L w (⟨m, h, -⟩ | ⟨Ms, t, h, rfl, -⟩ | ⟨gs, t, h, rfl, -⟩)
      · exact simple h
      · exact ⟨⟨_, _, rfl, rfl⟩, .cons rfl (h.closes inner)⟩
      · exact ⟨⟨_, _, rfl, rfl⟩, .cons rfl (h.closes inner)⟩
  exact ⟨fun L w h => (both L w h).1, fun L w h => (both L w h).2⟩

end Values

/-! ### Lines -/

section Lines

variable {limits : Limits} {h : Header} {g : Given} {gs : List Given} {ps : List Part}
  {a b e t w s : List Char}

theorem HeaderText.closes (hw : HeaderText limits h w) : Closes w := by
  cases hw with
  | table hk => exact .cons rfl (hk.closes.append (.calm (List.all_eq_true.1 rfl)) (clear_cons.2 rfl))
  | element hk =>
    exact .cons rfl (.cons rfl (hk.closes.append (.calm (List.all_eq_true.1 rfl)) (clear_cons.2 rfl)))

/-- A text in which nothing is exposed, up to the end of a line or of the document. -/
structure Ends (p : Place) (w t : List Char) : Prop where
  hides : p.exposes w = false
  after_eq : t = [] ∨ p.after w = lineStart

theorem LineEnd.ends (he : LineEnd t e) (a : Bool) : Ends ⟨.outside, a⟩ e t := by
  cases he with
  | broken hb hr hn =>
    have h := passes_lineEnd hb hr hn a
    exact ⟨h.hides, .inr h.after_eq⟩
  | @last b r hb hr ht =>
    -- nothing would be exposed before a line end either
    have h := (passes_lineEnd hb hr .lf a).hides
    rw [exposes_append, Bool.or_eq_false_iff] at h
    exact ⟨h.1, .inl ht⟩

/-- What leaves nothing open may be followed by the end of its line. -/
theorem Place.Closes.ends (h : Closes w) (he : LineEnd t e) : Ends inLine (w ++ e) t := by
  obtain ⟨m, hm, hw⟩ := h
  obtain ⟨hides, hafter⟩ := he.ends false
  have quoteless : Clear isQuote (e ++ t) := he.endsValue.clear rfl
  have behind : Ends ⟨m, false⟩ e t := by
    cases e with
    | nil => exact ⟨rfl, hafter.imp id fun h => absurd h (by decide)⟩
    | cons c e =>
      have h : Passes inLine (c :: e) (inLine.after (c :: e)) := ⟨rfl, hides⟩
      have h := h.of_isClosed hm (by simp) (clear_cons.2 (clear_cons.1 quoteless))
      exact ⟨h.hides, hafter.imp id h.after_eq.trans⟩
  refine ⟨?_, behind.after_eq.imp id fun h => ?_⟩
  · rw [exposes_append, hw.hides, hw.after_eq, behind.hides]
    rfl
  · rw [after_append, hw.after_eq, h]

/-- Behind a text in which nothing is exposed, what is exposed stands after the end of the line. -/
theorem Ends.exists_of_exposed {p : Place} (h : Ends p w t) (hs : w ++ t = a ++ 'v' :: s)
    (hstart : (p.after a).atStart = true) (hout : (p.after a).mode.isLong = false) :
    ∃ a', a = w ++ a' ∧ t = a' ++ 'v' :: s ∧ p.after w = lineStart := by
  have ended (ht : t ≠ []) : p.after w = lineStart := h.after_eq.resolve_left ht
  rcases List.append_eq_append_iff.1 hs with ⟨a', rfl, rfl⟩ | ⟨r, rfl, hr⟩
  · exact ⟨a', rfl, rfl, ended (by simp)⟩
  · cases r with
    | nil =>
      rw [List.nil_append] at hr
      exact ⟨[], by simp, hr.symm, by simpa using ended (by simp [← hr])⟩
    | cons d r =>
      obtain ⟨rfl, -⟩ := List.cons.inj hr
      have := h.hides
      simp [exposes_append, exposes, hstart, hout] at this

/-- Whether a line starts at a place matters to its first character only. -/
theorem Place.after_of_ne_nil (hw : w ≠ []) (m : Mode) (a a' : Bool) :
    after ⟨m, a⟩ w = after ⟨m, a'⟩ w := by
  cases w with
  | nil => exact absurd rfl hw
  | cons c w => rfl

/-- **Where a line of a document starts with a `v`**, and not inside a text between three quotes, there
is no comment and no text, and the document gives a key a value. -/
theorem BodyText.exists_pairText {text : List Char} (h : BodyText limits gs ps text)
    (hs : text = a ++ 'v' :: s) (hstart : (lineStart.after a).atStart = true)
    (hout : (lineStart.after a).mode.isLong = false) :
    (lineStart.after a).mode = .outside ∧
      ∃ g w e t, (g ∈ gs ∨ ∃ p ∈ ps, g ∈ p.given) ∧
        PairText limits (ValueText limits limits.depth) g w ∧ LineEnd t e ∧
          'v' :: s = w ++ (e ++ t) := by
  -- behind a line, the lines that follow decide
  have later {l t a : List Char} (hne : a ≠ []) (h : Ends inLine l t) (hs : l ++ t = a ++ 'v' :: s)
      (hstart : (lineStart.after a).atStart = true)
      (hout : (lineStart.after a).mode.isLong = false) :
      ∃ a', t = a' ++ 'v' :: s ∧ lineStart.after a = lineStart.after a' := by
    rw [after_of_ne_nil hne .outside true false] at hstart hout
    obtain ⟨a', rfl, ht, hl⟩ := h.exists_of_exposed hs hstart hout
    refine ⟨a', ht, ?_⟩
    rw [after_of_ne_nil hne .outside true false, after_append, hl]
  have leaves := leavesClosed_valueText limits limits.depth
  induction h generalizing a with
  | done => simp at hs
  | empty he _ ih =>
    obtain ⟨a', rfl, ht, hl⟩ := (he.ends true).exists_of_exposed hs hstart hout
    rw [after_append, hl] at hstart hout ⊢
    exact ih ht hstart hout
  | @pair g gs ps b w e t hb hw he _ ih =>
    cases a with
    | nil =>
      simp only [List.append_assoc] at hs
      obtain rfl := hb.eq_nil rfl hs
      refine ⟨rfl, g, w, e, t, .inl List.mem_cons_self, hw, he, ?_⟩
      simpa using hs.symm
    | cons c a =>
      have line := (Closes.calm_append hb.calm (hw.closes leaves)).ends he
      obtain ⟨a', ht, hplace⟩ := later (by simp) line hs hstart hout
      rw [hplace] at hstart hout ⊢
      obtain ⟨hmode, g', w', e', t', hmem, hrest⟩ := ih ht hstart hout
      exact ⟨hmode, g', w', e', t', hmem.imp (List.mem_cons_of_mem _) id, hrest⟩
  | @header h gs ps b w e t hb hw he _ ih =>
    cases a with
    | nil =>
      have front : Clear (· == 'v') (b ++ (w ++ (e ++ t))) :=
        hb.clear ⟨rfl, rfl⟩ (by cases hw <;> exact clear_cons.2 rfl)
      simp only [List.append_assoc] at hs
      rw [hs] at front
      cases clear_cons.1 front
    | cons c a =>
      have line := (Closes.calm_append hb.calm hw.closes).ends he
      obtain ⟨a', ht, hplace⟩ := later (by simp) line hs hstart hout
      rw [hplace] at hstart hout ⊢
      obtain ⟨hmode, g', w', e', t', hmem, hrest⟩ := ih ht hstart hout
      refine ⟨hmode, g', w', e', t', .inr ?_, hrest⟩
      rcases hmem with hmem | ⟨p, hp, hmem⟩
      · exact ⟨_, List.mem_cons_self, hmem⟩
      · exact ⟨p, List.mem_cons_of_mem _ hp, hmem⟩

end Lines

end ReleaseGate.Toml
