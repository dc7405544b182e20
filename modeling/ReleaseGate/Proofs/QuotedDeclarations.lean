import ReleaseGate.Proofs.DeclarationLines
import ReleaseGate.Proofs.DocumentStarts
import ReleaseGate.Proofs.GivenTexts
import ReleaseGate.Proofs.Loading

/-!
# Declarations in documents

The reader of versions knows no more of documents than where lines start. In a document this is nearly
enough: a declaration is a pair of the document, whose key `version` has the value as a text in some
table, unless it stands inside a text between three quotes (`declaredVersion?_of_isDocument`). No
comment and no text on one line is ever taken for a declaration. Lines of a text between three quotes
are (`declaredVersion?_longText`); a manifest that never has three quotes in a row is safe
(`exists_text_of_not_infix_quotes`).
-/

namespace ReleaseGate

/-- White space that leads to another quote on the line does not end it. -/
theorem Release.endsLine_append_quote {w : List Char} (hlf : '\n' ∉ w) (rest : List Char) :
    endsLine (w ++ quote :: rest) = false := by
  have hquote : Text.isSpace quote = false := by decide
  rw [endsLine, Text.isBlank_append, Text.isBlank_cons, hquote, Bool.false_and, Bool.and_false,
    Bool.false_or, List.takeWhile_append, List.takeWhile_cons_of_neg (by simp [hquote]),
    ← Bool.not_eq_true, List.contains_iff_mem]
  split
  · simpa using hlf
  · exact fun hm => hlf ((List.takeWhile_sublist _).subset hm)

namespace Toml

/-! ### Characters that are seen -/

section Visible

variable {c : Char}

theorem isSpace_of_visible (h : '!' ≤ c ∧ c ≤ '~') : Text.isSpace c = false := by
  simp only [Char.le_def, UInt32.le_iff_toNat_le] at h
  have hlow : 33 ≤ c.toNat := h.1
  have hhigh : c.toNat ≤ 126 := h.2
  simp only [Text.isSpace, Bool.or_eq_false_iff, Bool.and_eq_false_iff, decide_eq_false_iff_not,
    beq_eq_false_iff_ne]
  omega

theorem visible_of_isKeyChar (h : isKeyChar c = true) : '!' ≤ c ∧ c ≤ '~' := by
  simp only [isKeyChar, isDigit, Bool.or_eq_true, Bool.and_eq_true, decide_eq_true_eq,
    beq_iff_eq] at h
  rcases h with (((⟨h, h'⟩ | ⟨h, h'⟩) | ⟨h, h'⟩) | rfl) | rfl
  · exact ⟨Char.le_trans (by decide) h, Char.le_trans h' (by decide)⟩
  · exact ⟨Char.le_trans (by decide) h, Char.le_trans h' (by decide)⟩
  · exact ⟨Char.le_trans (by decide) h, Char.le_trans h' (by decide)⟩
  · decide
  · decide

theorem visible_of_opensValue (h : opensValue c = true) : '!' ≤ c ∧ c ≤ '~' := by
  simp only [opensValue, isQuote, opensNumber, isDigit, Bool.or_eq_true, Bool.and_eq_true,
    decide_eq_true_eq, beq_iff_eq, List.contains_iff_mem, List.mem_cons, List.not_mem_nil, or_false,
    or_assoc] at h
  rcases h with rfl | rfl | ⟨h, h'⟩ | rfl | rfl | rfl | rfl | rfl | rfl | rfl | rfl
  case inr.inr.inl => exact ⟨Char.le_trans (by decide) h, Char.le_trans h' (by decide)⟩
  all_goals decide

end Visible

/-! ### Pairs that read like declarations -/

section Pairs

open Release (versionKey quote declaration)

variable {limits : Limits} {depth : Nat} {M : Layout} {ks : List Key} {g : Given}
  {cs k e t w w₁ w₂ v after x y rest : List Char}

theorem Blanks.isBlank (hw : Blanks w) : Text.isBlank w = true :=
  List.all_eq_true.2 fun c hc => by
    rcases isBlank_iff.1 (hw c hc) with rfl | rfl <;> rfl

theorem dropSpace_append_cons {c : Char} (hw : Text.isBlank w = true)
    (hc : Text.isSpace c = false) : Text.dropSpace (w ++ c :: x) = c :: x :=
  (Text.dropSpace_eq_cons_iff hc ..).2 ⟨w, hw, rfl⟩

/-- What is no key character stands behind a key, and then a character that is no white space. -/
theorem clear_isKeyChar_append {c : Char} (hw : Text.isBlank w = true) (hc : isKeyChar c = false) :
    Clear isKeyChar (w ++ c :: x) := by
  cases w with
  | nil => exact clear_cons.2 hc
  | cons d w =>
    rw [Text.isBlank_cons, Bool.and_eq_true] at hw
    refine clear_cons.2 (Bool.eq_false_iff.2 fun hd => ?_)
    exact Bool.false_ne_true ((isSpace_of_visible (visible_of_isKeyChar hd)).symm.trans hw.1)

/-- A simple key that is written like the key of versions is this key. -/
theorem KeyText.eq_versionKey {key : Key} (hk : KeyText key k) {c : Char}
    (hw : Text.isBlank w = true) (hc : isKeyChar c = false) (hw₁ : Text.isBlank w₁ = true)
    (h : k ++ (w ++ c :: x) = versionKey ++ (w₁ ++ '=' :: y)) :
    key = versionKey ∧ w ++ c :: x = w₁ ++ '=' :: y := by
  cases hk with
  | bare _ hkey =>
    have hv : ∀ c ∈ versionKey, isKeyChar c = true := List.all_eq_true.1 rfl
    have left := takeWhile_append_of_clear hkey (clear_isKeyChar_append (x := x) hw hc)
    have right := takeWhile_append_of_clear hv (clear_isKeyChar_append (x := y) hw₁ (c := '=') rfl)
    rw [h, right] at left
    subst left
    exact ⟨rfl, List.append_cancel_left h⟩
  | quoted hk =>
    obtain ⟨q, u, rfl, hq, -⟩ := hk.quoted
    obtain ⟨rfl, -⟩ := List.cons.inj h
    cases hq

/-- A dotted key before an equals sign that is written like the key of versions is this key. -/
theorem KeysText.eq_versionKey (hk : KeysText ks k) (hw₁ : Text.isBlank w₁ = true)
    (h : k ++ '=' :: x = versionKey ++ (w₁ ++ '=' :: y)) : ks = [versionKey] ∧ x = y := by
  -- no blank stands before it
  have front {b s : List Char} (hb : Blanks b) (h : b ++ s = versionKey ++ (w₁ ++ '=' :: y)) :
      b = [] :=
    hb.eq_nil (c := 'v') rfl h
  have sign : Text.isSpace '=' = false ∧ Text.isSpace '.' = false := by decide
  cases hk with
  | one hb hk hb' =>
    simp only [List.append_assoc] at h
    obtain rfl := front hb h
    obtain ⟨rfl, h⟩ := hk.eq_versionKey hb'.isBlank rfl hw₁ h
    have e := congrArg Text.dropSpace h
    rw [dropSpace_append_cons hb'.isBlank sign.1, dropSpace_append_cons hw₁ sign.1] at e
    exact ⟨rfl, (List.cons.inj e).2⟩
  | cons hb hk hb' =>
    simp only [List.append_assoc, List.cons_append] at h
    obtain rfl := front hb h
    obtain ⟨-, h⟩ := hk.eq_versionKey hb'.isBlank rfl hw₁ h
    have e := congrArg Text.dropSpace h
    rw [dropSpace_append_cons hb'.isBlank sign.2, dropSpace_append_cons hw₁ sign.1] at e
    cases (List.cons.inj e).1

/-- A value that starts with a double quote is a text. -/
theorem ValueText.exists_quotedText (h : ValueText limits depth M w)
    (hw : Opens (· == doubleQuote) w) : ∃ cs, M = .only (.text cs) ∧ QuotedText cs w := by
  have other {p : Char → Bool} (h : Opens p w) (hp : p doubleQuote = false) : False := by
    obtain ⟨c, u, rfl, hc⟩ := hw
    obtain ⟨c', u', hcu, hc'⟩ := h
    obtain ⟨rfl, -⟩ := List.cons.inj hcu
    obtain rfl := beq_iff_eq.1 hc
    exact Bool.false_ne_true (hp.symm.trans hc')
  have simple {m : Mark} (h : SimpleText limits m w) :
      ∃ cs, Layout.only m = .only (.text cs) ∧ QuotedText cs w := by
    cases h with
    | text h => exact ⟨_, rfl, h⟩
    | integer h => exact (other h.opens rfl).elim
    | float h => exact (other h.opens rfl).elim
    | boolean h =>
      simp only [List.mem_cons, List.not_mem_nil, or_false] at h
      rcases h with rfl | rfl <;> exact (other (p := opensNumber) ⟨_, _, rfl, rfl⟩ rfl).elim
    | moment h => exact (other h.opens rfl).elim
  cases depth with
  | zero =>
    obtain ⟨m, h, rfl⟩ := h
    exact simple h
  | succ depth =>
    obtain ⟨m, h, rfl⟩ | ⟨Ms, t, -, rfl, -⟩ | ⟨gs, t, -, rfl, -⟩ := h
    · exact simple h
    · exact (other (p := (· == '[')) ⟨_, _, rfl, rfl⟩ rfl).elim
    · exact (other (p := (· == '\x7b')) ⟨_, _, rfl, rfl⟩ rfl).elim

theorem BasicText.lf_not_mem (h : BasicText cs w) : '\n' ∉ w := by
  induction h with
  | nil => simp
  | plain hc _ _ _ ih => simpa using ⟨(ne_lf_of_isPlain hc).symm, ih⟩
  | escape he _ ih =>
    obtain ⟨x, u, rfl, hx, hu⟩ := he.exists_cons
    have hback : '\n' ≠ backslash := by decide
    have hu : '\n' ∉ u := fun hm => (hu _ hm).2 rfl
    simp [hback, Ne.symm hx, hu, ih]

/-- **The value of a declaration is written as a text in double quotes on one line.** An escaped quote
would end the value as well, but not the line. -/
theorem QuotedText.basicText (h : QuotedText cs w)
    (hw : w ++ rest = quote :: (v ++ quote :: after)) (hne : v ≠ []) (hv : quote ∉ v)
    (hends : Release.endsLine after = true) : BasicText cs v := by
  have empty {s s' : List Char} (h : quote :: s = v ++ quote :: s') : False := by
    cases v with
    | nil => exact hne rfl
    | cons c v =>
      obtain ⟨rfl, -⟩ := List.cons.inj h
      exact hv List.mem_cons_self
  cases h with
  | short h =>
    cases h with
    | @basic w h =>
      have e : w ++ quote :: rest = v ++ quote :: after := by
        simp only [List.append_assoc, List.cons_append, List.nil_append] at hw
        exact (List.cons.inj hw).2
      by_cases hquote : quote ∈ w
      · -- behind an escaped quote, the text goes on up to its own end
        exfalso
        obtain ⟨u, u', rfl, hu⟩ := List.eq_append_cons_of_mem hquote
        rw [List.append_assoc, List.cons_append, Text.append_cons_inj_of_not_mem hu hv] at e
        obtain ⟨-, rfl⟩ := e
        have hu' : '\n' ∉ u' := fun hm =>
          h.lf_not_mem (List.mem_append_right _ (List.mem_cons_of_mem _ hm))
        exact Bool.false_ne_true ((Release.endsLine_append_quote hu' _).symm.trans hends)
      · obtain ⟨rfl, -⟩ := (Text.append_cons_inj_of_not_mem hquote hv).1 e
        exact h
    | literal => cases (List.cons.inj hw).1
  | @long quote escapes n cs w hquote =>
    simp only [List.mem_cons, List.not_mem_nil, or_false, Prod.mk.injEq] at hquote
    rcases hquote with ⟨rfl, -⟩ | ⟨rfl, -⟩
    · exact (empty (List.cons.inj hw).2).elim
    · cases (List.cons.inj hw).1

/-- **A pair that reads like a declaration gives the key of versions its value.** -/
theorem PairText.eq_of_declaration (h : PairText limits (ValueText limits depth) g w)
    (hw : w ++ rest = declaration w₁ w₂ v after) (hw₁ : Text.isBlank w₁ = true)
    (hw₂ : Text.isBlank w₂ = true) (hne : v ≠ []) (hv : quote ∉ v)
    (hends : Release.endsLine after = true) :
    ∃ cs, g = ⟨[], versionKey, .only (.text cs)⟩ ∧ BasicText cs v := by
  cases h with
  | @mk path key M k b w hk _ hb hval =>
    simp only [declaration, List.append_assoc, List.cons_append] at hw
    obtain ⟨hkeys, hw⟩ := hk.eq_versionKey hw₁ hw
    obtain ⟨rfl, hkey⟩ := List.append_eq_singleton_iff.1 hkeys |>.resolve_right (by simp)
    obtain rfl := List.singleton_inj.1 hkey
    obtain ⟨c, u, rfl, hc⟩ := (leavesClosed_valueText limits depth).opens M w hval
    have e := congrArg Text.dropSpace hw
    rw [List.cons_append, dropSpace_append_cons hb.isBlank (isSpace_of_visible (visible_of_opensValue hc)),
      dropSpace_append_cons hw₂ (by decide)] at e
    have opens : Opens (· == doubleQuote) (c :: u) := ⟨c, u, rfl, beq_iff_eq.2 (List.cons.inj e).1⟩
    obtain ⟨cs, rfl, hquoted⟩ := hval.exists_quotedText opens
    exact ⟨cs, rfl, hquoted.basicText e hne hv hends⟩

end Pairs

end Toml

namespace Release

open Toml (modeAfter Place)

/-- **A declaration in a document is one of its pairs**, unless it starts inside a text between three
quotes. -/
theorem DeclaredAt.exists_text {text before v : List Char} {L : Toml.Layout}
    (h : DeclaredAt text before v) (hdocument : Toml.IsDocument text L)
    (hout : (modeAfter before).isLong = false) :
    modeAfter before = .outside ∧
      ∃ table kind cs, L table = some (.table kind) ∧
        L (table ++ [.key versionKey]) = some (.text cs) ∧ Toml.BasicText cs v := by
  obtain ⟨limits, gs, ps, hbody, hlaid⟩ := hdocument
  obtain ⟨hne, hv⟩ := h.value
  obtain ⟨hstart, -⟩ := (declaredAt_iff ..).1 h
  obtain ⟨w₁, w₂, after, text_eq, hw₁, hw₂, hends⟩ := h.exists_parts
  have place : Place.lineStart.after before = ⟨modeAfter before, true⟩ := by
    rw [Place.after_eq, hstart, modeAfter]
  obtain ⟨hmode, g, w, e, t, hmem, hpair, -, hs⟩ :=
    hbody.exists_pairText text_eq (by rw [place]) (by rw [place]; exact hout)
  obtain ⟨cs, rfl, hbasic⟩ := hpair.eq_of_declaration hs.symm hw₁ hw₂ hne hv hends
  obtain ⟨table, kind, htable, htext⟩ := (hlaid.hasText hmem).exists_address
  rw [place] at hmode
  exact ⟨hmode, table, kind, cs, htable, htext, hbasic⟩

/-- **Where the version of a document comes from.** The declaration that is read starts outside of all
comments and texts, and then some table of the document has the key `version` with a text whose
writing in double quotes is the version; or it starts inside a text between three quotes. -/
theorem declaredVersion?_of_isDocument {text v : List Char} {L : Toml.Layout}
    (hdocument : Toml.IsDocument text L) (h : declaredVersion? text = some v) :
    ∃ before, FirstDeclaredAt text before v ∧
      ((modeAfter before = .outside ∧
          ∃ table kind cs, L table = some (.table kind) ∧
            L (table ++ [.key versionKey]) = some (.text cs) ∧ Toml.BasicText cs v) ∨
        (modeAfter before).isLong = true) := by
  obtain ⟨before, first⟩ := (declaredVersion?_eq_some_iff ..).1 h
  refine ⟨before, first, ?_⟩
  cases hout : (modeAfter before).isLong with
  | true => exact .inr rfl
  | false => exact .inl (first.declared.exists_text hdocument hout)

/-- **Without three quotes in a row, the version is that of a key.** -/
theorem exists_text_of_not_infix_quotes {text v : List Char} {L : Toml.Layout}
    (hdocument : Toml.IsDocument text L) (h : declaredVersion? text = some v)
    (hquotes : ∀ q, Toml.isQuote q = true → ¬[q, q, q] <:+: text) :
    ∃ table kind cs, L table = some (.table kind) ∧
      L (table ++ [.key versionKey]) = some (.text cs) ∧ Toml.BasicText cs v := by
  obtain ⟨before, first⟩ := (declaredVersion?_eq_some_iff ..).1 h
  cases hout : (modeAfter before).isLong with
  | true =>
    obtain ⟨q, hq, hthree⟩ := Toml.exists_quotes_of_isLong hout
    obtain ⟨_, _, _, rfl, -⟩ := first.declared.exists_parts
    exact absurd (hthree.trans (List.prefix_append before _).isInfix) (hquotes q hq)
  | false => exact (first.declared.exists_text hdocument hout).2

/-! ### A text with a line that reads like a declaration -/

/-- A document with a description of three lines, the second of which reads like a declaration. -/
def describedManifest : List Char := "description = '''\nversion = \"9.9.9\"\n'''\n".toList

/-- The description. -/
def description : List Char := "version = \"9.9.9\"\n".toList

theorem bodyText_described {gs : List Toml.Given} {ps : List Toml.Part} {t : List Char}
    (h : Toml.BodyText .reader gs ps t) :
    Toml.BodyText .reader (⟨[], "description".toList, .only (.text description)⟩ :: gs) ps
      (describedManifest ++ t) := by
  have plain {w cs u : List Char}
      (hw : w.all (fun c => Toml.isPlain c && c != Toml.singleQuote) = true)
      (h : Toml.LongText Toml.singleQuote false cs u) :
      Toml.LongText Toml.singleQuote false (w ++ cs) (w ++ u) := by
    induction w with
    | nil => exact h
    | cons c w ih =>
      rw [List.all_cons, Bool.and_eq_true] at hw
      have hc : Toml.isPlain c = true ∧ c ≠ Toml.singleQuote := by simpa using hw.1
      exact .plain hc.1 hc.2 nofun (ih hw.2)
  have lines : Toml.LongText Toml.singleQuote false description _ :=
    @plain "version = \"9.9.9\"".toList _ _ (by decide) (.newline .lf (.close (Nat.zero_le 2)))
  have long : Toml.QuotedText description _ := .long (by decide) (.inl .lf) lines
  have pair : Toml.PairText .reader (Toml.ValueText .reader 79)
      ⟨[], "description".toList, .only (.text description)⟩ _ :=
    .mk (keysText_blank (by decide)) (by decide) (by simp [Toml.Blanks, Toml.isBlank] : Toml.Blanks [' '])
      (.inl ⟨_, .text long, rfl⟩)
  exact .pair Toml.blanks_nil pair (lineEnd_newline t) h

theorem declaredVersion?_of_isDocument_described :
    ∃ L, Toml.IsDocument ("version = \"1.0\"\n".toList ++ describedManifest) L ∧
      declaredVersion? ("version = \"1.0\"\n".toList ++ describedManifest) = some "1.0".toList ∧
      ∃ before,
        FirstDeclaredAt ("version = \"1.0\"\n".toList ++ describedManifest) before "1.0".toList ∧
        ((modeAfter before = .outside ∧
            ∃ table kind cs, L table = some (.table kind) ∧
              L (table ++ [.key versionKey]) = some (.text cs) ∧
              Toml.BasicText cs "1.0".toList) ∨
          (modeAfter before).isLong = true) := by
  have value : Toml.BasicText "1.0".toList "1.0".toList := Toml.basicText_escaped "1.0".toList
  have pair : Toml.PairText .reader (Toml.ValueText .reader 79)
      ⟨[], versionKey, .only (.text "1.0".toList)⟩ _ :=
    .mk (keysText_blank (by decide)) (by decide) (by simp [Toml.Blanks, Toml.isBlank] : Toml.Blanks [' '])
      (.inl ⟨_, .text (.short (.basic value)), rfl⟩)
  have described := bodyText_described .done
  rw [List.append_nil] at described
  have body := Toml.BodyText.pair Toml.blanks_nil pair (lineEnd_newline _) described
  let fields : List (Toml.Key × Toml.Layout) :=
    [(versionKey, .only (.text "1.0".toList)), ("description".toList, .only (.text description))]
  have names : (fields.map Prod.fst).Nodup := by decide
  have document : Toml.IsDocument ("version = \"1.0\"\n".toList ++ describedManifest)
      (Toml.tableLayout .headed fields) :=
    ⟨.reader, _, _, body, _, Toml.addsAll_givenFields names, rfl⟩
  have declared : declaredVersion? ("version = \"1.0\"\n".toList ++ describedManifest) =
      some "1.0".toList := by decide
  exact ⟨_, document, declared, declaredVersion?_of_isDocument document declared⟩

/-- **A text may supply the version**: this document has no key for it in any table. -/
theorem declaredVersion?_longText :
    ∃ L, Toml.IsDocument describedManifest L ∧
      declaredVersion? describedManifest = some "9.9.9".toList ∧
      ∀ table kind, L table = some (.table kind) →
        ∀ cs, L (table ++ [.key versionKey]) ≠ some (.text cs) := by
  have body := bodyText_described .done
  rw [List.append_nil] at body
  have adds : Toml.Layout.Adds ⟨[], "description".toList, .only (.text description)⟩
      (.only (.table .headed)) _ := ⟨nofun, rfl, rfl⟩
  refine ⟨_, ⟨.reader, _, _, body, _, ⟨_, adds, rfl⟩, rfl⟩, by decide, fun table _ _ cs h => ?_⟩
  have hkey : Toml.Step.key versionKey ≠ .key "description".toList := by decide
  cases table with
  | nil =>
    rw [List.nil_append, Toml.Layout.set_other hkey] at h
    cases h
  | cons s table =>
    rw [List.cons_append] at h
    by_cases hs : s = .key "description".toList
    · subst hs
      rw [Toml.Layout.set_self] at h
      cases table <;> cases h
    · rw [Toml.Layout.set_other hs] at h
      cases h

end Release

end ReleaseGate
