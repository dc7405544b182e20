import ReleaseGate.Proofs.DocumentNumbers

/-!
# Reading values and documents

Every text that the grammar of documents lets be written, within the limits of the reader, is read
as what it means: a value up to what ends it (`reads_valueText`), the lines of a document one after
the other (`exists_statements_of_bodyText`), and so the document, to a table with the layout that
the rules of the format give it (`exists_read?_of_writes`).

Arrays and tables in braces are read by the reader for the values inside, of which only `Reads` is
used; the induction is on the depth.
-/

namespace ReleaseGate.Toml

/-! ### Simple values -/

section Simple

variable {m : Mark} {n : Int} {negative : Bool} {limits : Limits} {cs s w rest : List Char}

theorem takeQuoted_eq_none (h : Clear isQuote s) : takeQuoted s = none := by
  have strip {quote : Char} (hquote : isQuote quote = true) :
      Text.stripStart? (List.replicate 3 quote) s = none := by
    rw [Option.eq_none_iff_forall_ne_some]
    intro r hr
    rw [Text.stripStart?_eq_some_iff.1 hr] at h
    exact Bool.false_ne_true ((clear_cons.1 h).symm.trans hquote)
  rw [takeQuoted, strip rfl, strip rfl]
  cases s with
  | nil => rfl
  | cons c s =>
    have := clear_cons.1 h
    rw [isQuote, Bool.or_eq_false_iff, beq_eq_false_iff_ne, beq_eq_false_iff_ne] at this
    simp only [takeShortQuoted, if_neg this.1, if_neg this.2]

/-- A character that a number, a moment or a truth value starts with. -/
def opensNumber (c : Char) : Bool := isDigit c || ['+', '-', 'i', 'n', 't', 'f'].contains c

theorem opensNumber_of_isDigit {c : Char} (h : isDigit c = true) : opensNumber c = true := by
  simp [opensNumber, h]

theorem SignText.opens (hs : SignText negative s) (hw : Opens opensNumber w) :
    Opens opensNumber (s ++ w) := by
  cases hs with
  | none => exact hw
  | plus => exact ⟨_, _, rfl, rfl⟩
  | minus => exact ⟨_, _, rfl, rfl⟩

theorem IntegerText.opens (h : IntegerText n w) : Opens opensNumber w := by
  cases h with
  | decimal hs hw => exact hs.opens (hw.opens.mono fun _ => opensNumber_of_isDigit)
  | based => exact ⟨_, _, rfl, rfl⟩

theorem FloatText.opens (h : FloatText limits w) : Opens opensNumber w := by
  cases h with
  | digits hs hw =>
    exact ((hs.opens (hw.opens.mono fun _ => opensNumber_of_isDigit)).append _).append _
  | named hs hw =>
    refine hs.opens ?_
    simp only [List.mem_cons, List.not_mem_nil, or_false] at hw
    rcases hw with rfl | rfl <;> exact ⟨_, _, rfl, rfl⟩

theorem DigitsText.opens {count v : Nat} (h : DigitsText (count + 1) v w) :
    Opens opensNumber w := by
  obtain ⟨c, u, rfl⟩ := List.exists_cons_of_length_eq_add_one h.length
  exact ⟨c, u, rfl, opensNumber_of_isDigit (List.all_eq_true.1 h.digits c List.mem_cons_self)⟩

theorem MomentText.opens (h : MomentText w) : Opens opensNumber w := by
  have date {d} (h : DateText d) : Opens opensNumber d := by
    cases h with
    | mk hy => exact (hy.opens.append _).append _
  cases h with
  | date hd => exact date hd
  | time ht =>
    cases ht with
    | mk hc =>
      cases hc with
      | mk hh => exact ((hh.opens.append _).append _).append _
  | dateTime hd => exact ((date hd).append _).append _

theorem QuotedText.opens (h : QuotedText cs w) : Opens isQuote w := by
  cases h with
  | short h =>
    obtain ⟨quote, u, rfl, hquote, -⟩ := h.quoted
    exact ⟨quote, u ++ [quote], rfl, hquote⟩
  | long hquote =>
    simp only [List.mem_cons, List.not_mem_nil, or_false, Prod.mk.injEq] at hquote
    rcases hquote with ⟨rfl, -⟩ | ⟨rfl, -⟩ <;> exact ⟨_, _, rfl, rfl⟩

theorem SimpleText.opens (h : SimpleText limits m w) :
    Opens (fun c => isQuote c || opensNumber c) w := by
  have number (h : Opens opensNumber w) : Opens (fun c => isQuote c || opensNumber c) w :=
    h.mono fun c hc => by simp [hc]
  cases h with
  | text h => exact h.opens.mono fun c hc => by simp [hc]
  | integer h => exact number h.opens
  | float h => exact number h.opens
  | boolean h =>
    simp only [List.mem_cons, List.not_mem_nil, or_false] at h
    rcases h with rfl | rfl <;> exact ⟨_, _, rfl, rfl⟩
  | moment h => exact number h.opens

/-- **A value that holds no others is read.** -/
theorem takeSimple_append (h : SimpleText .reader m w) (hrest : EndsValue rest) :
    ∃ i, takeSimple (w ++ rest) = some (i, rest) ∧ i.layout = .only m := by
  have unquoted (h : Opens opensNumber w) : takeQuoted (w ++ rest) = none :=
    takeQuoted_eq_none <| (h.append rest).clear fun c hc => by
      rcases (by simpa [isQuote] using hc : c = doubleQuote ∨ c = singleQuote) with rfl | rfl <;>
        rfl
  -- an item without others below it is laid out by its mark
  have leaf {i : Item} (hi : ∀ s, i.child? s = none) : i.layout = .only i.mark :=
    Item.layout_of_child? hi
  cases h with
  | @text cs w h =>
    refine ⟨.string cs, ?_, leaf fun s => by cases s <;> rfl⟩
    rw [takeSimple, takeQuoted_append h (hrest.clear rfl)]
  | @integer n w h hmin hmax =>
    refine ⟨.integer n, ?_, leaf fun s => by cases s <;> rfl⟩
    rw [takeSimple, unquoted h.opens, takeMoment_integer h hrest, takeFloat_integer h hrest,
      takeInteger_append h hmin hmax hrest]
  | @float w h =>
    refine ⟨.float (taken (w ++ rest) rest), ?_, leaf fun s => by cases s <;> rfl⟩
    rw [takeSimple, unquoted h.opens, takeMoment_float h hrest, takeFloat_append h hrest]
  | boolean h =>
    simp only [List.mem_cons, List.not_mem_nil, or_false] at h
    rcases h with rfl | rfl
    · exact ⟨.boolean true, rfl, leaf fun s => by cases s <;> rfl⟩
    · exact ⟨.boolean false, rfl, leaf fun s => by cases s <;> rfl⟩
  | @moment w h =>
    refine ⟨.moment (taken (w ++ rest) rest), ?_, leaf fun s => by cases s <;> rfl⟩
    rw [takeSimple, unquoted h.opens, takeMoment_append h hrest]

end Simple

/-! ### Values -/

/-- A character that a value starts with. -/
def opensValue (c : Char) : Bool := isQuote c || opensNumber c || c == '[' || c == '\x7b'

/-- A reader takes the values that a grammar lets be written. -/
structure Reads (value : Layout → List Char → Prop) (take : Scan Item) : Prop where
  opens : ∀ L w, value L w → Opens opensValue w
  takes : ∀ L w rest, value L w → EndsValue rest →
    ∃ i, take (w ++ rest) = some (i, rest) ∧ i.layout = L

section Values

variable {value : Layout → List Char → Prop} {take : Scan Item} {L : Layout} {Ms : List Layout}
  {g : Given} {gs : List Given} {w t rest : List Char}

/-- Where a value starts, there is no gap, and no bracket that closes an array. -/
theorem clear_of_opensValue (h : Opens opensValue w) :
    Clear (fun c => opensGap c || c == ']') w := h.clear fun c hc => by
  rcases (by simpa [opensGap, isBlank, or_assoc] using hc :
    c = ' ' ∨ c = '\t' ∨ c = '#' ∨ c = '\n' ∨ c = '\r' ∨ c = ']') with
    rfl | rfl | rfl | rfl | rfl | rfl <;> rfl

/-- One element of an array is read, with the gap before it. -/
theorem exists_takeElements_eq (hreads : Reads value take) {gap : List Char} {M : Layout}
    (hgap : Gap gap) (hw : value M w) (ht : EndsValue t) :
    ∃ i, i.layout = M ∧ ∀ fuel, takeElements take (fuel + 1) (gap ++ (w ++ t)) =
      match dropLines t with
      | ']' :: rest => some ([i], rest)
      | ',' :: s => do
        let (items, rest) ← takeElements take fuel s
        return (i :: items, rest)
      | _ => none := by
  have ahead := clear_of_opensValue ((hreads.opens M w hw).append t)
  have front : dropLines (gap ++ (w ++ t)) = w ++ t :=
    dropLines_gap hgap (ahead.mono fun c hc => by simp [hc])
  have notClose : ∀ r, w ++ t ≠ ']' :: r := by
    intro r hr
    rw [hr] at ahead
    cases clear_cons.1 ahead
  obtain ⟨i, hi, hlayout⟩ := hreads.takes M w t hw ht
  refine ⟨i, hlayout, fun fuel => ?_⟩
  simp only [takeElements, front, hi, Option.bind_eq_bind, Option.bind_some]
  rfl

theorem takeElements_append (hreads : Reads value take) (h : ElementsText value Ms t)
    (rest : List Char) {fuel : Nat} (hfuel : t.length < fuel) :
    ∃ items, takeElements take fuel (t ++ rest) = some (items, rest) ∧
      items.map Item.layout = Ms := by
  induction h generalizing fuel with
  | @none gap hgap =>
    obtain ⟨fuel, rfl⟩ := Nat.exists_eq_succ_of_ne_zero (Nat.ne_zero_of_lt hfuel)
    have close : dropLines (gap ++ ']' :: rest) = ']' :: rest :=
      dropLines_gap hgap (clear_cons.2 rfl)
    refine ⟨[], ?_, rfl⟩
    simp only [takeElements, List.append_assoc, List.singleton_append, close]
  | @last gap M w gap' hgap hw hgap' =>
    obtain ⟨fuel, rfl⟩ := Nat.exists_eq_succ_of_ne_zero (Nat.ne_zero_of_lt hfuel)
    have ends : EndsValue (gap' ++ ']' :: rest) := hgap'.endsValue (endsValue_cons (by simp))
    have close : dropLines (gap' ++ ']' :: rest) = ']' :: rest :=
      dropLines_gap hgap' (clear_cons.2 rfl)
    obtain ⟨i, rfl, hi⟩ := exists_takeElements_eq hreads hgap hw ends
    refine ⟨[i], ?_, rfl⟩
    simp only [List.append_assoc, List.singleton_append, hi, close]
  | @cons gap M w gap' Ms t hgap hw hgap' _ ih =>
    obtain ⟨fuel, rfl⟩ := Nat.exists_eq_succ_of_ne_zero (Nat.ne_zero_of_lt hfuel)
    have ends : EndsValue (gap' ++ ',' :: (t ++ rest)) := hgap'.endsValue (endsValue_cons (by simp))
    have comma : dropLines (gap' ++ ',' :: (t ++ rest)) = ',' :: (t ++ rest) :=
      dropLines_gap hgap' (clear_cons.2 rfl)
    obtain ⟨i, rfl, hi⟩ := exists_takeElements_eq hreads hgap hw ends
    simp only [List.length_append, List.length_cons] at hfuel
    obtain ⟨items, hitems, rfl⟩ := ih (by omega : t.length < fuel)
    refine ⟨i :: items, ?_, rfl⟩
    simp only [List.append_assoc, List.cons_append, hi, comma, hitems, Option.bind_eq_bind,
      Option.bind_some]
    rfl

theorem takePair_append (hreads : Reads value take) (h : PairText .reader value g w)
    (hrest : EndsValue rest) :
    ∃ p : Pair, takePair take (w ++ rest) = some (p, rest) ∧ p.Means g := by
  cases h with
  | @mk path key M k b w hk hparts hb hw =>
    have blank : Clear isBlank (w ++ rest) :=
      (clear_of_opensValue ((hreads.opens M w hw).append rest)).mono fun c hc => by
        simp [opensGap, hc]
    have keys : takeKeys (k ++ '=' :: (b ++ (w ++ rest))) =
        some (path ++ [key], '=' :: (b ++ (w ++ rest))) := by
      refine takeKeys_append hk ?_ (by simp)
      rwa [List.length_append, List.length_singleton]
    obtain ⟨i, hi, rfl⟩ := hreads.takes M w rest hw hrest
    refine ⟨⟨path, key, i⟩, ?_, ⟨rfl, rfl, rfl⟩⟩
    simp only [takePair, List.append_assoc, List.cons_append, keys, Option.bind_eq_bind,
      Option.bind_some, takeChar, if_true, dropBlanks_append_of_clear hb blank, hi,
      List.getLast?_concat, List.dropLast_concat]
    rfl

theorem PairText.opens {limits : Limits} (h : PairText limits value g w) (rest : List Char) :
    Opens opensKey (dropBlanks (w ++ rest)) := by
  cases h with
  | mk hk =>
    rw [List.append_assoc, List.append_assoc]
    exact hk.opens _

theorem takeMembers_append (hreads : Reads value take)
    (h : MembersText (PairText .reader value) gs t) (rest : List Char) {fuel : Nat}
    (hfuel : t.length < fuel) :
    ∃ ps, takeMembers take fuel (t ++ rest) = some (ps, rest) ∧
      List.Forall₂ Pair.Means ps gs := by
  induction h generalizing fuel with
  | @last g w b hw hb =>
    obtain ⟨fuel, rfl⟩ := Nat.exists_eq_succ_of_ne_zero (Nat.ne_zero_of_lt hfuel)
    have close : dropBlanks (b ++ '\x7d' :: rest) = '\x7d' :: rest :=
      dropBlanks_append_of_clear hb (clear_cons.2 rfl)
    have ends : EndsValue (b ++ '\x7d' :: rest) := endsValue_append hb (endsValue_cons (by simp))
    obtain ⟨p, hp, hmeans⟩ := takePair_append hreads hw ends
    refine ⟨[p], ?_, .cons hmeans .nil⟩
    simp only [takeMembers, List.append_assoc, List.singleton_append, hp, Option.bind_eq_bind,
      Option.bind_some, close]
    rfl
  | @cons g w b gs t hw hb _ ih =>
    obtain ⟨fuel, rfl⟩ := Nat.exists_eq_succ_of_ne_zero (Nat.ne_zero_of_lt hfuel)
    have comma : dropBlanks (b ++ ',' :: (t ++ rest)) = ',' :: (t ++ rest) :=
      dropBlanks_append_of_clear hb (clear_cons.2 rfl)
    have ends : EndsValue (b ++ ',' :: (t ++ rest)) :=
      endsValue_append hb (endsValue_cons (by simp))
    obtain ⟨p, hp, hmeans⟩ := takePair_append hreads hw ends
    simp only [List.length_append, List.length_cons] at hfuel
    obtain ⟨ps, hps, hall⟩ := ih (by omega : t.length < fuel)
    refine ⟨p :: ps, ?_, .cons hmeans hall⟩
    simp only [takeMembers, List.append_assoc, List.cons_append, hp, Option.bind_eq_bind,
      Option.bind_some, comma, hps]
    rfl

theorem takeTable_append (hreads : Reads value take)
    (h : TableText (PairText .reader value) gs t)
    (hL : Layout.AddsAll gs (.only (.table .closed)) L) :
    ∃ i, takeTable take (t ++ rest) = some (i, rest) ∧ i.layout = L := by
  cases h with
  | @empty b hb =>
    have close : dropBlanks (b ++ '\x7d' :: rest) = '\x7d' :: rest :=
      dropBlanks_append_of_clear hb (clear_cons.2 rfl)
    obtain ⟨i, hi, hlayout⟩ := exists_closedTable_of_addsAll .nil hL
    refine ⟨i, ?_, hlayout⟩
    simp only [takeTable, List.append_assoc, List.singleton_append, close, Option.bind_eq_bind,
      Option.bind_some, hi]
    rfl
  | members h =>
    have key : Opens opensKey (dropBlanks (t ++ rest)) := by
      cases h with
      | last hw =>
        simp only [List.append_assoc]
        exact hw.opens _
      | cons hw =>
        simp only [List.append_assoc]
        exact hw.opens _
    have notClose : ∀ r, dropBlanks (t ++ rest) ≠ '\x7d' :: r := by
      intro r hr
      obtain ⟨c, u, hc, hopens⟩ := key
      rw [hr] at hc
      obtain ⟨rfl, -⟩ := List.cons.inj hc
      cases hopens
    have hfuel : t.length < (t ++ rest).length + 1 := by
      rw [List.length_append]
      omega
    obtain ⟨ps, hps, hall⟩ := takeMembers_append hreads h rest hfuel
    obtain ⟨i, hi, hlayout⟩ := exists_closedTable_of_addsAll hall hL
    refine ⟨i, ?_, hlayout⟩
    rw [takeTable]
    simp only [hps, Option.bind_eq_bind, Option.bind_some, hi]
    rfl

end Values

/-- **Values are read**, as deep as brackets and braces nest. -/
theorem reads_valueText (n : Nat) : Reads (ValueText .reader n) (takeValue n) := by
  induction n with
  | zero =>
    constructor
    · rintro L w ⟨m, hm, -⟩
      exact hm.opens.mono fun c hc => by simp_all [opensValue]
    · rintro L w rest ⟨m, hm, rfl⟩ hrest
      exact takeSimple_append hm hrest
  | succ n ih =>
    constructor
    · rintro L w (⟨m, hm, -⟩ | ⟨Ms, t, -, rfl, -⟩ | ⟨gs, t, -, rfl, -⟩)
      · exact hm.opens.mono fun c hc => by simp_all [opensValue]
      · exact ⟨_, _, rfl, rfl⟩
      · exact ⟨_, _, rfl, rfl⟩
    · rintro L w rest (⟨m, hm, rfl⟩ | ⟨Ms, t, ht, rfl, rfl⟩ | ⟨gs, t, ht, rfl, hL⟩) hrest
      · have ahead : Clear (fun c => c == '[' || c == '\x7b') (w ++ rest) :=
          (hm.opens.append rest).clear fun c hc => by
            rcases (by simpa using hc : c = '[' ∨ c = '\x7b') with rfl | rfl <;> rfl
        have simple : takeValue (n + 1) (w ++ rest) = takeSimple (w ++ rest) := by
          unfold takeValue
          split
          next h => cases clear_cons.1 (h ▸ ahead)
          next h => cases clear_cons.1 (h ▸ ahead)
          · rfl
        rw [simple]
        exact takeSimple_append hm hrest
      · have hfuel : t.length < (t ++ rest).length + 1 := by
          rw [List.length_append]
          omega
        obtain ⟨items, hitems, rfl⟩ := takeElements_append ih ht rest hfuel
        refine ⟨.array items, ?_, Item.layout_array items⟩
        simp only [List.cons_append, takeValue, hitems, Option.map_some]
      · exact takeTable_append ih ht hL

/-! ### Lines -/

section Lines

variable {g : Given} {gs : List Given} {h : Header} {ps : List Part} {b e w t s rest : List Char}

/-- A header starts with a bracket, and is read behind it. -/
theorem takeHeader_append (hw : HeaderText .reader h w) (rest : List Char) :
    ∃ t, w ++ rest = '[' :: t ∧ takeHeader t = some (h, rest) := by
  have keys {path : List Key} {key : Key} {k : List Char} (hk : KeysText (path ++ [key]) k)
      (hparts : path.length + 1 ≤ maxParts - 1) (r : List Char) :
      takeKeys (k ++ ']' :: r) = some (path ++ [key], ']' :: r) := by
    refine takeKeys_append hk ?_ (by simp)
    rwa [List.length_append, List.length_singleton]
  cases hw with
  | @table path key k hk hparts =>
    refine ⟨k ++ ']' :: rest, by simp, ?_⟩
    have notElement : ∀ t, k ++ ']' :: rest ≠ '[' :: t := by
      intro t ht
      obtain ⟨c, u, hc, hopens⟩ := hk.opens (']' :: rest)
      rw [ht] at hc
      obtain ⟨rfl, -⟩ := List.cons.inj hc
      cases hopens
    rw [takeHeader]
    · simp only [keys hk hparts, Option.bind_eq_bind, Option.bind_some, takeChar, if_true,
        Bool.false_eq_true, if_false, List.getLast?_concat, List.dropLast_concat]
      rfl
    · exact notElement
  | @element path key k hk hparts =>
    refine ⟨'[' :: (k ++ ']' :: ']' :: rest), by simp, ?_⟩
    simp only [takeHeader, keys hk hparts, Option.bind_eq_bind, Option.bind_some, takeChar,
      if_true, List.getLast?_concat, List.dropLast_concat]
    rfl

/-- Blanks before a pair make no difference. -/
theorem takePair_dropBlanks (take : Scan Item) (s : List Char) :
    takePair take (dropBlanks s) = takePair take s := by
  have keys : takeKeys (dropBlanks s) = takeKeys s := takeKeysWith_dropBlanks _ s
  simp only [takePair, keys]

theorem takeLineRest_dropBlanks (s : List Char) : takeLineRest (dropBlanks s) = takeLineRest s := by
  have again : dropBlanks (dropBlanks s) = dropBlanks s :=
    dropWhile_of_clear (clear_dropWhile isBlank s)
  rw [takeLineRest, again, takeLineRest]

/-- A line that says nothing is passed over; where only blanks are left, the document ends. -/
theorem statementsWith_lineEnd (he : LineEnd t e) (fuel : Nat) :
    (t = [] ∧ statementsWith (fuel + 1) (e ++ t) = some []) ∨
      (e ≠ [] ∧ statementsWith (fuel + 1) (e ++ t) = statementsWith fuel t) := by
  have rest : takeLineRest (dropBlanks (e ++ t)) = some ((), t) := by
    rw [takeLineRest_dropBlanks, takeLineRest_lineEnd he]
  have passed (hopens : Opens (fun c => c == '#' || c == '\n' || c == '\r') (dropBlanks (e ++ t))) :
      statementsWith (fuel + 1) (e ++ t) = statementsWith fuel t := by
    obtain ⟨c, u, heq, hc⟩ := hopens
    rw [heq] at rest
    have hc : c = '#' ∨ c = '\n' ∨ c = '\r' := by simpa [or_assoc] using hc
    simp only [statementsWith, heq, if_pos hc, rest, Option.bind_eq_bind, Option.bind_some]
  cases he with
  | @broken b r n hb hr hn =>
    refine .inr ⟨by cases hn <;> simp, passed ?_⟩
    simp only [List.append_assoc]
    rw [dropBlanks_append_of_clear hb (hr.clear rfl (hn.clear ⟨rfl, rfl⟩))]
    cases hr with
    | none => cases hn <;> exact ⟨_, _, rfl, rfl⟩
    | some => exact ⟨_, _, rfl, rfl⟩
  | @last b r hb hr ht =>
    cases hr with
    | none =>
      subst ht
      have blank : dropBlanks b = [] := by
        simpa using dropBlanks_append_of_clear (s := []) hb (clear_nil _)
      refine .inl ⟨rfl, ?_⟩
      simp only [statementsWith, List.append_nil, blank]
    | some =>
      refine .inr ⟨by simp, passed ?_⟩
      simp only [List.append_assoc, List.cons_append]
      rw [dropBlanks_append_of_clear hb (clear_cons.2 rfl)]
      exact ⟨_, _, rfl, rfl⟩

/-- A line that says something is read. -/
theorem statementsWith_statement {c : Char} {u : List Char} {statement : Statement}
    (hs : dropBlanks s = c :: u) (hc : ¬(c = '#' ∨ c = '\n' ∨ c = '\r'))
    (hread : takeStatement (c :: u) = some (statement, t)) (fuel : Nat) :
    statementsWith (fuel + 1) s = (statementsWith fuel t).map (statement :: ·) := by
  simp only [statementsWith, hs, if_neg hc, hread, Option.bind_eq_bind, Option.bind_some]
  cases statementsWith fuel t <;> rfl

/-- A pair and the end of its line are read. -/
theorem takeStatement_pair (hw : PairText .reader (ValueText .reader maxDepth) g w)
    (he : LineEnd t e) :
    ∃ p : Pair, p.Means g ∧ takeStatement (dropBlanks (w ++ (e ++ t))) = some (.pair p, t) := by
  obtain ⟨p, hp, hmeans⟩ := takePair_append (reads_valueText maxDepth) hw he.endsValue
  refine ⟨p, hmeans, ?_⟩
  rw [← takePair_dropBlanks] at hp
  obtain ⟨c, u, heq, hc⟩ := hw.opens (e ++ t)
  rw [heq] at hp ⊢
  have notHeader : ∀ r, c :: u ≠ '[' :: r := by
    intro r hr
    obtain ⟨rfl, -⟩ := List.cons.inj hr
    cases hc
  rw [takeStatement]
  · simp only [hp, Option.map_some, Option.bind_eq_bind, Option.bind_some, takeLineRest_lineEnd he]
    rfl
  · exact notHeader

/-- A header and the end of its line are read. -/
theorem takeStatement_header (hw : HeaderText .reader h w) (he : LineEnd t e) :
    ∃ u, w ++ (e ++ t) = '[' :: u ∧ takeStatement ('[' :: u) = some (.header h, t) := by
  obtain ⟨u, hu, hread⟩ := takeHeader_append hw (e ++ t)
  refine ⟨u, hu, ?_⟩
  simp only [takeStatement, hread, Option.map_some, Option.bind_eq_bind, Option.bind_some,
    takeLineRest_lineEnd he]
  rfl

/-- What a document says, as a list of pairs and sections: they are what is given in it. -/
structure Document.Means (d : Document) (gs : List Given) (ps : List Part) : Prop where
  pairs : List.Forall₂ Pair.Means d.pairs gs
  sections : List.Forall₂ Section.Means d.sections ps

/-- **The lines of a document are read**, one after the other. -/
theorem exists_statements_of_bodyText (h : BodyText .reader gs ps s) {fuel : Nat}
    (hfuel : s.length < fuel) :
    ∃ ss, statementsWith fuel s = some ss ∧ (Document.ofStatements ss).Means gs ps := by
  induction h generalizing fuel with
  | done =>
    obtain ⟨fuel, rfl⟩ := Nat.exists_eq_succ_of_ne_zero (Nat.ne_zero_of_lt hfuel)
    exact ⟨[], rfl, ⟨.nil, .nil⟩⟩
  | @empty gs ps e t he _ ih =>
    obtain ⟨fuel, rfl⟩ := Nat.exists_eq_succ_of_ne_zero (Nat.ne_zero_of_lt hfuel)
    rcases statementsWith_lineEnd he fuel with ⟨rfl, hend⟩ | ⟨hne, hline⟩
    · obtain ⟨ss, hss, hmeans⟩ := ih (Nat.zero_lt_one)
      cases hss
      exact ⟨[], hend, hmeans⟩
    · have hpos := List.length_pos_iff.2 hne
      rw [List.length_append] at hfuel
      obtain ⟨ss, hss, hmeans⟩ := ih (by omega : t.length < fuel)
      exact ⟨ss, hline.trans hss, hmeans⟩
  | @pair g gs ps b w e t hb hw he _ ih =>
    obtain ⟨fuel, rfl⟩ := Nat.exists_eq_succ_of_ne_zero (Nat.ne_zero_of_lt hfuel)
    obtain ⟨p, hp, hread⟩ := takeStatement_pair hw he
    obtain ⟨c, u, heq, hc⟩ := hw.opens (e ++ t)
    have front : dropBlanks (b ++ w ++ e ++ t) = c :: u := by
      rw [List.append_assoc, List.append_assoc, dropBlanks_append hb, heq]
    have statement : ¬(c = '#' ∨ c = '\n' ∨ c = '\r') := by
      rintro (rfl | rfl | rfl) <;> cases hc
    have hpos : 0 < w.length := by
      cases hw
      simp
    simp only [List.length_append] at hfuel
    obtain ⟨ss, hss, hmeans⟩ := ih (by omega : t.length < fuel)
    refine ⟨.pair p :: ss, ?_, ⟨.cons hp hmeans.pairs, hmeans.sections⟩⟩
    rw [statementsWith_statement front statement (heq ▸ hread), hss, Option.map_some]
  | @header h gs ps b w e t hb hw he _ ih =>
    obtain ⟨fuel, rfl⟩ := Nat.exists_eq_succ_of_ne_zero (Nat.ne_zero_of_lt hfuel)
    obtain ⟨u, heq, hread⟩ := takeStatement_header hw he
    have front : dropBlanks (b ++ w ++ e ++ t) = '[' :: u := by
      rw [List.append_assoc, List.append_assoc, heq,
        dropBlanks_append_of_clear hb (clear_cons.2 rfl)]
    have hpos : 0 < w.length := by cases hw <;> simp
    simp only [List.length_append] at hfuel
    obtain ⟨ss, hss, hmeans⟩ := ih (by omega : t.length < fuel)
    refine ⟨.header h :: ss, ?_, ⟨.nil, .cons ⟨rfl, hmeans.pairs⟩ hmeans.sections⟩⟩
    rw [statementsWith_statement front (by decide) hread, hss, Option.map_some]

/-- A text that starts with a byte order mark says nothing. -/
theorem statementsWith_mark (fuel : Nat) (s : List Char) :
    statementsWith fuel ('\ufeff' :: s) = none := by
  cases fuel with
  | zero => rfl
  | succ fuel => rfl

/-- **A document within the limits is read**, to a table with its layout. -/
theorem exists_read?_of_writes {text : List Char} {L : Layout} (h : Writes .reader text L) :
    ∃ es, read? text = some es ∧ (Item.table .headed es).layout = L := by
  obtain ⟨gs, ps, hbody, hL⟩ := h
  obtain ⟨ss, hss, hmeans⟩ := exists_statements_of_bodyText hbody (Nat.lt_succ_self text.length)
  have mark : dropMark text = text := by
    unfold dropMark
    split
    · rw [statementsWith_mark] at hss
      cases hss
    · rfl
  obtain ⟨es, hes, hlayout⟩ := exists_entries_of_laysOut hmeans.pairs hmeans.sections hL
  refine ⟨es, ?_, hlayout⟩
  rw [read?, document?, mark, hss, Option.map_some]
  exact hes

end Lines

end ReleaseGate.Toml
