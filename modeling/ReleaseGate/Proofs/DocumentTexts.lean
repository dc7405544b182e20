import ReleaseGate.Proofs.DocumentGrammar

/-!
# Reading blanks, texts and keys

The readers of blanks, comments, quoted texts and keys take what the grammar of documents lets be
written, and leave what stands behind it. How far a reader goes often depends on that rest: blanks
end where no blank is ahead (`Clear`), and a value ends before a comma, a bracket, a brace, a
comment or a line end, perhaps with blanks in between (`EndsValue`).
-/

namespace ReleaseGate.Toml

/-! ### What stands ahead -/

/-- No character of a kind stands at the front of a text. -/
def Clear (p : Char → Bool) (s : List Char) : Prop := ∀ c ∈ s.head?, p c = false

/-- A character of a kind stands at the front of a text. -/
def Opens (p : Char → Bool) (w : List Char) : Prop := ∃ c u, w = c :: u ∧ p c = true

/-- The text behind a value: what ends the value, perhaps after blanks. -/
def EndsValue (s : List Char) : Prop :=
  ∀ c ∈ (dropBlanks s).head?, c ∈ [',', ']', '\x7d', '#', '\n', '\r']

@[simp]
theorem clear_nil (p : Char → Bool) : Clear p [] := nofun

@[simp]
theorem clear_cons {p : Char → Bool} {c : Char} {s : List Char} :
    Clear p (c :: s) ↔ p c = false := by
  simp [Clear]

theorem Opens.append {p : Char → Bool} {w : List Char} (h : Opens p w) (s : List Char) :
    Opens p (w ++ s) := by
  obtain ⟨c, u, rfl, hc⟩ := h
  exact ⟨c, u ++ s, rfl, hc⟩

theorem Opens.mono {p q : Char → Bool} {w : List Char} (h : Opens p w)
    (hp : ∀ c, p c = true → q c = true) : Opens q w := by
  obtain ⟨c, u, rfl, hc⟩ := h
  exact ⟨c, u, rfl, hp c hc⟩

theorem Opens.clear {p q : Char → Bool} {w : List Char} (h : Opens p w)
    (hq : ∀ c, q c = true → p c = false) : Clear q w := by
  obtain ⟨c, u, rfl, hc⟩ := h
  refine clear_cons.2 ?_
  rw [← Bool.not_eq_true]
  exact fun h => Bool.false_ne_true ((hq c h).symm.trans hc)

theorem Clear.mono {p q : Char → Bool} {s : List Char} (h : Clear q s)
    (hp : ∀ c, p c = true → q c = true) : Clear p s := fun c hc => by
  rw [← Bool.not_eq_true]
  exact fun hc' => Bool.false_ne_true ((h c hc).symm.trans (hp c hc'))

theorem dropWhile_of_clear {p : Char → Bool} {s : List Char} (h : Clear p s) :
    s.dropWhile p = s := by
  cases s with
  | nil => rfl
  | cons c s => rw [List.dropWhile_cons_of_neg (by simp [clear_cons.1 h])]

theorem clear_dropWhile (p : Char → Bool) (s : List Char) : Clear p (s.dropWhile p) := by
  induction s with
  | nil => exact clear_nil p
  | cons c s ih =>
    by_cases hc : p c = true
    · rwa [List.dropWhile_cons_of_pos hc]
    · rw [List.dropWhile_cons_of_neg hc]
      exact clear_cons.2 (by simpa using hc)

theorem takeWhile_of_clear {p : Char → Bool} {s : List Char} (h : Clear p s) :
    s.takeWhile p = [] := by
  cases s with
  | nil => rfl
  | cons c s => rw [List.takeWhile_cons_of_neg (by simp [clear_cons.1 h])]

theorem dropWhile_append_of_clear {p : Char → Bool} {w s : List Char} (hw : ∀ c ∈ w, p c = true)
    (hs : Clear p s) : (w ++ s).dropWhile p = s := by
  rw [List.dropWhile_append_of_pos hw, dropWhile_of_clear hs]

theorem takeWhile_append_of_clear {p : Char → Bool} {w s : List Char} (hw : ∀ c ∈ w, p c = true)
    (hs : Clear p s) : (w ++ s).takeWhile p = w := by
  rw [List.takeWhile_append_of_pos hw, takeWhile_of_clear hs, List.append_nil]

theorem isBlank_iff {c : Char} : isBlank c = true ↔ c = ' ' ∨ c = '\t' := by
  simp [isBlank]

/-- A kind of characters that end no value is not ahead behind one. -/
theorem EndsValue.clear {p : Char → Bool} {s : List Char} (h : EndsValue s)
    (hp : [' ', '\t', ',', ']', '\x7d', '#', '\n', '\r'].all (fun c => !p c) = true) :
    Clear p s := by
  cases s with
  | nil => exact clear_nil p
  | cons c s =>
    have ends : c ∈ [' ', '\t', ',', ']', '\x7d', '#', '\n', '\r'] := by
      by_cases hc : isBlank c = true
      · rcases isBlank_iff.1 hc with rfl | rfl <;> simp
      · have := h c (by rw [dropBlanks, List.dropWhile_cons_of_neg hc]; rfl)
        exact List.mem_cons_of_mem _ (List.mem_cons_of_mem _ this)
    simpa using List.all_eq_true.1 hp c ends

/-! ### Blanks, comments and line ends -/

section Blanks

variable {b r n g e t s : List Char}

theorem dropBlanks_append (hb : Blanks b) : dropBlanks (b ++ s) = dropBlanks s :=
  List.dropWhile_append_of_pos hb

theorem dropBlanks_append_of_clear (hb : Blanks b) (hs : Clear isBlank s) :
    dropBlanks (b ++ s) = s :=
  dropWhile_append_of_clear hb hs

theorem endsValue_append (hb : Blanks b) (hs : EndsValue s) : EndsValue (b ++ s) := by
  rwa [EndsValue, dropBlanks_append hb]

theorem endsValue_cons {c : Char} (hc : c ∈ [',', ']', '\x7d', '#', '\n', '\r']) :
    EndsValue (c :: s) := by
  have : isBlank c = false := by
    simp only [List.mem_cons, List.not_mem_nil, or_false] at hc
    rcases hc with rfl | rfl | rfl | rfl | rfl | rfl <;> rfl
  simpa [EndsValue, dropBlanks, List.dropWhile_cons, this] using hc

theorem blanks_nil : Blanks [] := List.forall_mem_nil _

theorem gap_nil : Gap [] := .blanks blanks_nil

/-- No blanks stand before a text that starts with another character. -/
theorem Blanks.eq_nil {c : Char} (hb : Blanks b) (hc : isBlank c = false) (h : b ++ s = c :: t) :
    b = [] := by
  cases b with
  | nil => rfl
  | cons d b =>
    obtain ⟨rfl, -⟩ := List.cons.inj h
    simp [hb _ List.mem_cons_self] at hc

/-- Blanks are ahead, or what stands behind them. -/
theorem Blanks.clear (hb : Blanks b) {p : Char → Bool} (hp : p ' ' = false ∧ p '\t' = false)
    (hs : Clear p s) : Clear p (b ++ s) := by
  cases b with
  | nil => exact hs
  | cons c b =>
    rcases isBlank_iff.1 (hb c List.mem_cons_self) with rfl | rfl
    · exact clear_cons.2 hp.1
    · exact clear_cons.2 hp.2

theorem takeNewline_break (hn : LineBreak n) : takeNewline (n ++ s) = some ((), s) := by
  cases hn <;> rfl

theorem takeNewline_of_clear (h : Clear (fun c => c == '\n' || c == '\r') s) :
    takeNewline s = none := by
  unfold takeNewline
  split
  · cases clear_cons.1 h
  · cases clear_cons.1 h
  · rfl

/-- A line end is ahead, and nothing else. -/
theorem LineBreak.clear (hn : LineBreak n) {p : Char → Bool}
    (hp : p '\n' = false ∧ p '\r' = false) : Clear p (n ++ s) := by
  cases hn
  · exact clear_cons.2 hp.1
  · exact clear_cons.2 hp.2

theorem dropComment_of_clear (h : Clear (· == '#') s) : dropComment s = s := by
  unfold dropComment
  split
  · cases clear_cons.1 h
  · rfl

/-- A comment goes up to the line end, or to the end of the text. -/
theorem dropComment_remark (hr : Remark r) (hs : Clear isPlain s) : dropComment (r ++ s) = s := by
  cases hr with
  | none => exact dropComment_of_clear (hs.mono fun c hc => by rw [eq_of_beq hc]; rfl)
  | some hw => exact dropWhile_append_of_clear hw hs

/-- A comment is ahead, or what stands behind it. -/
theorem Remark.clear (hr : Remark r) {p : Char → Bool} (hp : p '#' = false) (hs : Clear p s) :
    Clear p (r ++ s) := by
  cases hr with
  | none => exact hs
  | some => exact clear_cons.2 hp

theorem endsValue_remark (hr : Remark r) (hs : EndsValue s) : EndsValue (r ++ s) := by
  cases hr with
  | none => exact hs
  | some => exact endsValue_cons (by simp)

theorem endsValue_break (hn : LineBreak n) : EndsValue (n ++ s) := by
  cases hn <;> exact endsValue_cons (by simp)

/-- At the end of a line, blanks, a comment and the line end are read. -/
theorem takeLineRest_lineEnd (he : LineEnd t e) : takeLineRest (e ++ t) = some ((), t) := by
  cases he with
  | @broken b r n hb hr hn =>
    rw [takeLineRest, List.append_assoc, List.append_assoc,
      dropBlanks_append_of_clear hb (hr.clear rfl (hn.clear ⟨rfl, rfl⟩)),
      dropComment_remark hr (hn.clear ⟨rfl, rfl⟩)]
    cases hn <;> rfl
  | @last b r hb hr ht =>
    subst ht
    rw [takeLineRest, List.append_assoc,
      dropBlanks_append_of_clear hb (hr.clear rfl (clear_nil _)),
      dropComment_remark hr (clear_nil _)]
    rfl

theorem LineEnd.endsValue (he : LineEnd t e) : EndsValue (e ++ t) := by
  cases he with
  | @broken b r n hb hr hn =>
    rw [List.append_assoc, List.append_assoc]
    exact endsValue_append hb (endsValue_remark hr (endsValue_break hn))
  | @last b r hb hr ht =>
    subst ht
    rw [List.append_assoc]
    exact endsValue_append hb (endsValue_remark hr nofun)

/-- A character that the text between two elements of an array starts with. -/
def opensGap (c : Char) : Bool := isBlank c || c == '#' || c == '\n' || c == '\r'

theorem dropLines_gap (hg : Gap g) (hs : Clear opensGap s) : dropLines (g ++ s) = s := by
  have run {fuel : Nat} (hfuel : g.length < fuel) : dropLinesWith fuel (g ++ s) = s := by
    induction hg generalizing fuel with
    | @blanks b hb =>
      obtain ⟨fuel, rfl⟩ := Nat.exists_eq_succ_of_ne_zero (Nat.ne_zero_of_lt hfuel)
      have hblank : Clear isBlank s := hs.mono fun c h => by simp [opensGap, h]
      have hhash : Clear (· == '#') s := hs.mono fun c h => by simp [opensGap, h]
      have hline : Clear (fun c => c == '\n' || c == '\r') s := hs.mono fun c h => by
        simpa [opensGap, or_assoc] using .inr (.inr (by simpa using h))
      simp only [dropLinesWith, dropBlanks_append_of_clear hb hblank, dropComment_of_clear hhash,
        takeNewline_of_clear hline]
    | @line b r n g hb hr hn _ ih =>
      obtain ⟨fuel, rfl⟩ := Nat.exists_eq_succ_of_ne_zero (Nat.ne_zero_of_lt hfuel)
      have hpos : 0 < n.length := by cases hn <;> simp
      simp only [List.length_append] at hfuel
      simp only [dropLinesWith, List.append_assoc,
        dropBlanks_append_of_clear hb (hr.clear rfl (hn.clear ⟨rfl, rfl⟩)),
        dropComment_remark hr (hn.clear ⟨rfl, rfl⟩), takeNewline_break hn]
      exact ih (by omega)
  exact run (by rw [List.length_append]; omega)

theorem Gap.endsValue (hg : Gap g) (hs : EndsValue s) : EndsValue (g ++ s) := by
  induction hg with
  | blanks hb => exact endsValue_append hb hs
  | @line b r n g hb hr hn _ _ =>
    rw [List.append_assoc, List.append_assoc, List.append_assoc]
    exact endsValue_append hb (endsValue_remark hr (endsValue_break hn))

end Blanks

/-! ### Quoted texts -/

theorem charOf?_toNat (c : Char) : charOf? c.toNat = some c := dif_pos c.valid

section Texts

variable {c : Char} {cs e w rest : List Char}

/-- The digits of a code point are read as its character. -/
theorem takeCode_append {n : Nat} (hlength : w.length = n) (hdigits : w.all isHexDigit = true)
    (hcode : ofDigits 16 w = c.toNat) : takeCode n (w ++ rest) = some (c, rest) := by
  have htake : (w ++ rest).take n = w := by rw [← hlength, List.take_left]
  have hdrop : (w ++ rest).drop n = rest := by rw [← hlength, List.drop_left]
  simp only [takeCode, htake, hdrop, hlength, hdigits, and_self, if_true, hcode, charOf?_toNat,
    Option.map_some]

theorem takeEscape_append (he : Escape c e) : takeEscape (e ++ rest) = some (c, rest) := by
  cases he with
  | sign h =>
    simp only [List.mem_cons, List.not_mem_nil, or_false, Prod.mk.injEq] at h
    rcases h with ⟨rfl, rfl⟩ | ⟨rfl, rfl⟩ | ⟨rfl, rfl⟩ | ⟨rfl, rfl⟩ | ⟨rfl, rfl⟩ | ⟨rfl, rfl⟩ |
      ⟨rfl, rfl⟩ <;> rfl
  | short hlength hdigits hcode => exact takeCode_append hlength hdigits hcode
  | long hlength hdigits hcode => exact takeCode_append hlength hdigits hcode

theorem takeBasic_append (h : BasicText cs w) {fuel : Nat} (hfuel : w.length < fuel) :
    takeBasic fuel (w ++ doubleQuote :: rest) = some (cs, rest) := by
  induction h generalizing fuel with
  | nil =>
    obtain ⟨fuel, rfl⟩ := Nat.exists_eq_succ_of_ne_zero (Nat.ne_zero_of_lt hfuel)
    simp [takeBasic]
  | plain hc hquote hback _ ih =>
    obtain ⟨fuel, rfl⟩ := Nat.exists_eq_succ_of_ne_zero (Nat.ne_zero_of_lt hfuel)
    simp [takeBasic, hquote, hback, hc, ih (Nat.lt_of_succ_lt_succ hfuel)]
  | @escape c cs e w he _ ih =>
    obtain ⟨fuel, rfl⟩ := Nat.exists_eq_succ_of_ne_zero (Nat.ne_zero_of_lt hfuel)
    have hne : backslash ≠ doubleQuote := by decide
    simp only [List.cons_append, List.length_cons, List.length_append] at hfuel
    simp [takeBasic, hne, takeEscape_append he, ih (by omega : w.length < fuel)]

theorem takeLiteral_append (hw : ∀ c ∈ w, isPlain c = true ∧ c ≠ singleQuote) (rest : List Char) :
    takeLiteral (w ++ singleQuote :: rest) = some (w, rest) := by
  induction w with
  | nil => simp [takeLiteral]
  | cons c w ih =>
    obtain ⟨⟨hc, hquote⟩, hw⟩ := List.forall_mem_cons.1 hw
    simp [takeLiteral, hc, hquote, ih hw]

theorem takeShortQuoted_append (h : ShortText cs w) (rest : List Char) :
    takeShortQuoted (w ++ rest) = some (cs, rest) := by
  cases h with
  | @basic w h =>
    have inner : takeBasic ((w ++ doubleQuote :: rest).length + 1) (w ++ doubleQuote :: rest) =
        some (cs, rest) := takeBasic_append h (by rw [List.length_append]; omega)
    simpa [takeShortQuoted] using inner
  | literal hw =>
    have hne : singleQuote ≠ doubleQuote := by decide
    simpa [takeShortQuoted, hne] using takeLiteral_append hw rest

/-- Text between three quotes is closed, so it is not empty. -/
theorem LongText.ne_nil {quote : Char} {escapes : Bool} (h : LongText quote escapes cs w) :
    w ≠ [] := by
  induction h with
  | close => simp [List.replicate_succ]
  | quotes _ _ _ _ ih => simp [ih]
  | plain => simp
  | newline _ _ ih => simp [ih]
  | escape => simp
  | hidden => simp

theorem head?_append_of_ne_nil {w : List Char} (hw : w ≠ []) (rest : List Char) :
    (w ++ rest).head? = w.head? := by
  cases w with
  | nil => exact absurd rfl hw
  | cons => rfl

theorem quotesAtFront_replicate {quote : Char} (n : Nat) (hrest : rest.head? ≠ some quote) :
    quotesAtFront quote (List.replicate n quote ++ rest) = n := by
  have clear : Clear (· == quote) rest := fun c hc => by
    simp only [beq_eq_false_iff_ne]
    rintro rfl
    exact hrest hc
  rw [quotesAtFront, takeWhile_append_of_clear (by simp [List.mem_replicate]) clear,
    List.length_replicate]

theorem dropSpaceWith_append {s : List Char} (hs : Spaces s) (hw : StartsSolid w) {fuel : Nat}
    (hfuel : s.length < fuel) : dropSpaceWith fuel (s ++ w) = w := by
  induction hs generalizing fuel with
  | @blanks b hb =>
    obtain ⟨fuel, rfl⟩ := Nat.exists_eq_succ_of_ne_zero (Nat.ne_zero_of_lt hfuel)
    have hline : takeNewline w = none := takeNewline_of_clear fun c hc => by simp [hw c hc]
    simp only [dropSpaceWith, dropBlanks_append_of_clear hb fun c hc => (hw c hc).1, hline]
  | @line b n s hb hn _ ih =>
    obtain ⟨fuel, rfl⟩ := Nat.exists_eq_succ_of_ne_zero (Nat.ne_zero_of_lt hfuel)
    have hpos : 0 < n.length := by cases hn <;> simp
    simp only [List.length_append] at hfuel
    simp only [dropSpaceWith, List.append_assoc,
      dropBlanks_append_of_clear hb (hn.clear ⟨rfl, rfl⟩), takeNewline_break hn]
    exact ih (by omega)

theorem hiddenLineEnd?_append {b n s : List Char} (hb : Blanks b) (hn : LineBreak n)
    (hs : Spaces s) (hw : StartsSolid w) : hiddenLineEnd? (b ++ n ++ s ++ w) = some w := by
  simp only [hiddenLineEnd?, List.append_assoc,
    dropBlanks_append_of_clear hb (hn.clear ⟨rfl, rfl⟩), takeNewline_break hn]
  rw [dropSpaceWith_append hs hw (by rw [List.length_append]; omega)]

/-- An escape hides no line end. -/
theorem hiddenLineEnd?_escape (he : Escape c e) : hiddenLineEnd? (e ++ rest) = none := by
  have ahead {p : Char → Bool}
      (hp : ['b', 't', 'n', 'f', 'r', doubleQuote, backslash, 'u', 'U'].all (fun c => !p c) =
        true) :
      Clear p (e ++ rest) := by
    have hp (d) (hd : d ∈ ['b', 't', 'n', 'f', 'r', doubleQuote, backslash, 'u', 'U']) :
        p d = false := by
      simpa using List.all_eq_true.1 hp d hd
    cases he with
    | sign h =>
      refine clear_cons.2 (hp _ ?_)
      simp only [List.mem_cons, List.not_mem_nil, or_false, Prod.mk.injEq] at h ⊢
      tauto
    | short => exact clear_cons.2 (hp _ (by simp))
    | long => exact clear_cons.2 (hp _ (by simp))
  rw [hiddenLineEnd?, show dropBlanks (e ++ rest) = e ++ rest from dropWhile_of_clear (ahead rfl),
    takeNewline_of_clear (ahead rfl)]

section Long

variable {quote : Char} {escapes : Bool}

/-- Quotes ahead close a text, or belong to it. -/
theorem takeLong_quotes {n fuel : Nat} (hpos : 0 < n) (hrest : rest.head? ≠ some quote) :
    takeLong quote escapes (fuel + 1) (List.replicate n quote ++ rest) =
      if 3 ≤ n then
        some (List.replicate (min (n - 3) 2) quote,
          (List.replicate n quote ++ rest).drop (min (n - 3) 2 + 3))
      else (takeLong quote escapes fuel rest).map
        fun r => (List.replicate n quote ++ r.1, r.2) := by
  obtain ⟨n, rfl⟩ := Nat.exists_eq_succ_of_ne_zero (Nat.ne_of_gt hpos)
  have front : quotesAtFront quote (quote :: (List.replicate n quote ++ rest)) = n + 1 :=
    quotesAtFront_replicate (n + 1) hrest
  have behind : (quote :: (List.replicate n quote ++ rest)).drop (n + 1) = rest :=
    @List.drop_left' _ (List.replicate (n + 1) quote) rest (n + 1) List.length_replicate
  rw [List.replicate_succ, List.cons_append, takeLong, if_pos rfl]
  simp only [front, behind]
  split
  · rfl
  · cases takeLong quote escapes fuel rest <;> rfl

theorem takeLong_append (hquote : (quote, escapes) ∈ [(doubleQuote, true), (singleQuote, false)])
    (h : LongText quote escapes cs w) (hrest : rest.head? ≠ some quote) {fuel : Nat}
    (hfuel : w.length < fuel) : takeLong quote escapes fuel (w ++ rest) = some (cs, rest) := by
  obtain ⟨hlf, hcr, hback⟩ : quote ≠ '\n' ∧ quote ≠ '\r' ∧ quote ≠ backslash := by
    simp only [List.mem_cons, List.not_mem_nil, or_false, Prod.mk.injEq] at hquote
    rcases hquote with ⟨rfl, -⟩ | ⟨rfl, -⟩ <;> decide
  induction h generalizing fuel with
  | @close n hn =>
    obtain ⟨fuel, rfl⟩ := Nat.exists_eq_succ_of_ne_zero (Nat.ne_zero_of_lt hfuel)
    have hkept : min (n + 3 - 3) 2 = n := by omega
    rw [takeLong_quotes (by omega) hrest, if_pos (by omega), hkept,
      List.drop_left' List.length_replicate]
  | @quotes n cs w hpos hn h hw ih =>
    obtain ⟨fuel, rfl⟩ := Nat.exists_eq_succ_of_ne_zero (Nat.ne_zero_of_lt hfuel)
    have hahead : (w ++ rest).head? ≠ some quote := by rwa [head?_append_of_ne_nil h.ne_nil]
    simp only [List.length_append, List.length_replicate] at hfuel
    rw [List.append_assoc, takeLong_quotes hpos hahead, if_neg (by omega),
      ih (by omega : w.length < fuel), Option.map_some]
  | @plain c cs w hc hne hescape _ ih =>
    obtain ⟨fuel, rfl⟩ := Nat.exists_eq_succ_of_ne_zero (Nat.ne_zero_of_lt hfuel)
    have hnot : ¬(escapes && decide (c = backslash)) = true := by
      simpa using hescape
    rw [List.cons_append, takeLong, if_neg hne, if_neg hnot, if_pos hc,
      ih (Nat.lt_of_succ_lt_succ hfuel)]
    rfl
  | @newline n cs w hn _ ih =>
    obtain ⟨fuel, rfl⟩ := Nat.exists_eq_succ_of_ne_zero (Nat.ne_zero_of_lt hfuel)
    have hlength : w.length < fuel := by
      have hpos : 0 < n.length := by cases hn <;> simp
      simp only [List.length_append] at hfuel
      omega
    cases hn with
    | lf => simp [takeLong, hlf.symm, show '\n' ≠ backslash by decide,
        show isPlain '\n' = false by decide, takeNewline, ih hlength]
    | crLf => simp [takeLong, hcr.symm, show '\r' ≠ backslash by decide,
        show isPlain '\r' = false by decide, takeNewline, ih hlength]
  | @escape c cs e w hescapes he _ ih =>
    obtain ⟨fuel, rfl⟩ := Nat.exists_eq_succ_of_ne_zero (Nat.ne_zero_of_lt hfuel)
    subst hescapes
    simp only [List.cons_append, List.length_cons, List.length_append] at hfuel
    simp [takeLong, hback.symm, hiddenLineEnd?_escape he, takeEscape_append he,
      ih (by omega : w.length < fuel)]
  | @hidden b n s cs w hescapes hb hn hs h hw ih =>
    obtain ⟨fuel, rfl⟩ := Nat.exists_eq_succ_of_ne_zero (Nat.ne_zero_of_lt hfuel)
    have hsolid : StartsSolid (w ++ rest) := by
      rwa [StartsSolid, head?_append_of_ne_nil h.ne_nil]
    have hhidden := hiddenLineEnd?_append hb hn hs hsolid
    simp only [List.cons_append, List.length_cons, List.length_append] at hfuel
    simp only [List.append_assoc] at hhidden
    subst hescapes
    simp [takeLong, hback.symm, hhidden, ih (by omega : w.length < fuel)]

end Long

/-- A quote of either form. -/
def isQuote (c : Char) : Bool := c == doubleQuote || c == singleQuote

theorem BasicText.head?_ne (h : BasicText cs w) : w.head? ≠ some doubleQuote := by
  cases h with
  | nil => simp
  | plain _ hquote => simpa using hquote
  | escape => simp [show backslash ≠ doubleQuote by decide]

/-- A text on one line stands between quotes, and does not start with that quote. -/
theorem ShortText.quoted (h : ShortText cs w) :
    ∃ quote u, w = quote :: u ++ [quote] ∧ isQuote quote = true ∧ u.head? ≠ some quote := by
  cases h with
  | @basic w h => exact ⟨doubleQuote, w, rfl, rfl, h.head?_ne⟩
  | literal hw =>
    refine ⟨singleQuote, cs, rfl, rfl, fun h => ?_⟩
    exact (hw _ (List.mem_of_mem_head? h)).2 rfl

/-- A text on one line does not start with three quotes. -/
theorem ShortText.stripStart?_eq_none (h : ShortText cs w) (hrest : Clear isQuote rest)
    (quote : Char) : Text.stripStart? (List.replicate 3 quote) (w ++ rest) = none := by
  obtain ⟨q, u, rfl, hq, hu⟩ := h.quoted
  rw [Option.eq_none_iff_forall_ne_some]
  intro r hr
  have heq := Text.stripStart?_eq_some_iff.1 hr
  simp only [List.replicate, List.cons_append, List.nil_append, List.append_assoc,
    List.cons.injEq] at heq
  obtain ⟨rfl, heq⟩ := heq
  cases u with
  | nil =>
    obtain ⟨-, rfl⟩ := List.cons.inj heq
    exact Bool.false_ne_true ((clear_cons.1 hrest).symm.trans hq)
  | cons c u =>
    obtain ⟨rfl, -⟩ := List.cons.inj heq
    exact hu rfl

/-- Just after the opening quotes, a line end is left out. -/
theorem dropFirstNewline_append {n : List Char} (hw : w ≠ [])
    (hn : LineBreak n ∨ n = [] ∧ w.head? ≠ some '\n' ∧ w.head? ≠ some '\r') (rest : List Char) :
    dropFirstNewline (n ++ (w ++ rest)) = w ++ rest := by
  rcases hn with hn | ⟨rfl, hlf, hcr⟩
  · rw [dropFirstNewline, takeNewline_break hn]
  · have clear : Clear (fun c => c == '\n' || c == '\r') (w ++ rest) := fun c hc => by
      rw [head?_append_of_ne_nil hw] at hc
      simp only [Bool.or_eq_false_iff, beq_eq_false_iff_ne]
      exact ⟨fun h => hlf (h ▸ hc), fun h => hcr (h ▸ hc)⟩
    rw [List.nil_append, dropFirstNewline, takeNewline_of_clear clear]

/-- **Quoted texts of all forms are read.** -/
theorem takeQuoted_append (h : QuotedText cs w) (hrest : Clear isQuote rest) :
    takeQuoted (w ++ rest) = some (cs, rest) := by
  cases h with
  | short h =>
    simp only [takeQuoted, h.stripStart?_eq_none hrest]
    exact takeShortQuoted_append h rest
  | @long quote escapes n cs w hquote hn h =>
    have hne : doubleQuote ≠ singleQuote := by decide
    have first := dropFirstNewline_append h.ne_nil hn rest
    have inner {fuel : Nat} (hfuel : w.length < fuel) :
        takeLong quote escapes fuel (w ++ rest) = some (cs, rest) := by
      refine takeLong_append hquote h (fun hr => ?_) hfuel
      have := hrest quote hr
      simp only [List.mem_cons, List.not_mem_nil, or_false, Prod.mk.injEq] at hquote
      rcases hquote with ⟨rfl, -⟩ | ⟨rfl, -⟩ <;> cases this
    have hlong : w.length < n.length + (w.length + rest.length) + 1 := by omega
    simp only [List.mem_cons, List.not_mem_nil, or_false, Prod.mk.injEq] at hquote
    rcases hquote with ⟨rfl, rfl⟩ | ⟨rfl, rfl⟩
    · simp [takeQuoted, Text.stripStart?, first, inner hlong]
    · simp [takeQuoted, Text.stripStart?, hne, first, inner hlong]

end Texts

/-! ### Keys -/

section Keys

variable {k : Key} {ks : List Key} {w rest : List Char}

/-- A character that a key starts with. -/
def opensKey (c : Char) : Bool := isKeyChar c || isQuote c

theorem KeyText.opens (h : KeyText k w) : Opens opensKey w := by
  cases h with
  | bare hne hw =>
    obtain ⟨c, u, rfl⟩ := List.exists_cons_of_ne_nil hne
    exact ⟨c, u, rfl, by simp [opensKey, hw c List.mem_cons_self]⟩
  | quoted h =>
    obtain ⟨quote, u, rfl, hquote, -⟩ := h.quoted
    exact ⟨quote, u ++ [quote], rfl, by simp [opensKey, hquote]⟩

theorem KeyText.clear_isBlank (h : KeyText k w) : Clear isBlank (w ++ rest) :=
  (h.opens.append rest).clear fun c hc => by
    rcases isBlank_iff.1 hc with rfl | rfl <;> rfl

theorem takeKey_append (h : KeyText k w) (hrest : Clear isKeyChar rest) :
    takeKey (w ++ rest) = some (k, rest) := by
  cases h with
  | bare hne hw =>
    obtain ⟨c, u, rfl⟩ := List.exists_cons_of_ne_nil hne
    have hc := hw c List.mem_cons_self
    have hquote : ¬(c = doubleQuote ∨ c = singleQuote) := by
      rintro (rfl | rfl) <;> cases hc
    have htake := takeWhile_append_of_clear hw hrest
    have hdrop := dropWhile_append_of_clear hw hrest
    rw [List.cons_append] at htake hdrop ⊢
    rw [takeKey, if_neg hquote, if_pos hc, htake, hdrop]
  | quoted h =>
    have hread := takeShortQuoted_append h rest
    obtain ⟨quote, u, rfl, hquote, -⟩ := h.quoted
    have hcond : quote = doubleQuote ∨ quote = singleQuote := by simpa [isQuote] using hquote
    simpa only [List.cons_append, takeKey, if_pos hcond] using hread

theorem takeKeysWith_append (h : KeysText ks w) (hrest : ∀ c ∈ rest.head?, c = '=' ∨ c = ']')
    {fuel : Nat} (hfuel : ks.length ≤ fuel) : takeKeysWith fuel (w ++ rest) = some (ks, rest) := by
  induction h generalizing fuel with
  | @one b k w b' hb hk hb' =>
    obtain ⟨fuel, rfl⟩ := Nat.exists_eq_succ_of_ne_zero (Nat.ne_zero_of_lt hfuel)
    have clear {p : Char → Bool} (hp : p '=' = false ∧ p ']' = false) : Clear p rest := by
      intro c hc
      rcases hrest c hc with rfl | rfl
      · exact hp.1
      · exact hp.2
    have key := takeKey_append hk (hb'.clear ⟨rfl, rfl⟩ (clear ⟨rfl, rfl⟩))
    have dot : ∀ s, rest ≠ '.' :: s := by
      rintro s rfl
      rcases hrest '.' rfl with h | h <;> cases h
    simp only [takeKeysWith, List.append_assoc, dropBlanks_append_of_clear hb hk.clear_isBlank,
      key, Option.bind_eq_bind, Option.bind_some,
      dropBlanks_append_of_clear hb' (clear ⟨rfl, rfl⟩)]
    rfl
  | @cons b k w b' ks t hb hk hb' _ ih =>
    obtain ⟨fuel, rfl⟩ := Nat.exists_eq_succ_of_ne_zero (Nat.ne_zero_of_lt hfuel)
    have key : takeKey (w ++ (b' ++ '.' :: (t ++ rest))) = some (k, b' ++ '.' :: (t ++ rest)) :=
      takeKey_append hk (hb'.clear ⟨rfl, rfl⟩ (clear_cons.2 rfl))
    simp only [takeKeysWith, List.append_assoc, List.cons_append,
      dropBlanks_append_of_clear hb hk.clear_isBlank, key, Option.bind_eq_bind, Option.bind_some,
      dropBlanks_append_of_clear hb' (clear_cons.2 (rfl : isBlank '.' = false)),
      ih (Nat.le_of_succ_le_succ hfuel)]
    rfl

theorem takeKeys_append (h : KeysText ks w) (hparts : ks.length ≤ maxParts - 1)
    (hrest : ∀ c ∈ rest.head?, c = '=' ∨ c = ']') : takeKeys (w ++ rest) = some (ks, rest) :=
  takeKeysWith_append h hrest hparts

theorem KeysText.opens (h : KeysText ks w) (rest : List Char) :
    Opens opensKey (dropBlanks (w ++ rest)) := by
  cases h with
  | one hb hk =>
    simp only [List.append_assoc, dropBlanks_append_of_clear hb hk.clear_isBlank]
    exact hk.opens.append _
  | cons hb hk =>
    simp only [List.append_assoc, dropBlanks_append_of_clear hb hk.clear_isBlank]
    exact hk.opens.append _

/-- Blanks before a key make no difference. -/
theorem takeKeysWith_dropBlanks (fuel : Nat) (s : List Char) :
    takeKeysWith fuel (dropBlanks s) = takeKeysWith fuel s := by
  have again : dropBlanks (dropBlanks s) = dropBlanks s :=
    dropWhile_of_clear (clear_dropWhile isBlank s)
  cases fuel with
  | zero => rfl
  | succ fuel => simp only [takeKeysWith, again]

end Keys

end ReleaseGate.Toml
