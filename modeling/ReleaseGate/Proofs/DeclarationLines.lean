import ReleaseGate.Proofs.FirstDeclaration
import ReleaseGate.Proofs.LineEnds
import ReleaseGate.Proofs.MarkedLines

/-!
# Lines of declarations

A declaration starts with a line, but need not end with it: both runs of white space before the value
take line ends, and so does the value. The line it starts on declares the same version by itself
exactly if none of the three holds a line feed (`declaresAlone_iff_of_declaredVersion?`); else a later
line may happen to.
-/

namespace ReleaseGate

namespace Text

/-! ### Lines and places -/

/-- The parts before and after the first of some character are unique. -/
theorem append_cons_inj_of_not_mem {c : Char} {l m s t : List Char} (hl : c ∉ l) (hm : c ∉ m) :
    l ++ c :: s = m ++ c :: t ↔ l = m ∧ s = t := by
  refine ⟨fun h => ?_, fun h => by rw [h.1, h.2]⟩
  rcases List.append_eq_append_iff.1 h with ⟨r, rfl, hr⟩ | ⟨r, rfl, hr⟩
  · cases r with
    | nil => simpa using hr
    | cons d r =>
      obtain ⟨rfl, -⟩ := List.cons.inj hr
      exact absurd (List.mem_append_right l List.mem_cons_self) hm
  · cases r with
    | nil => simpa [eq_comm] using hr
    | cons d r =>
      obtain ⟨rfl, -⟩ := List.cons.inj hr
      exact absurd (List.mem_append_right m List.mem_cons_self) hl

theorem startsLine_append_lf (atStart : Bool) (l s : List Char) :
    startsLine atStart (l ++ '\n' :: s) = startsLine true s := by
  simp [startsLine, List.foldl_append]

/-- Where a line starts, the lines before it end. -/
theorem exists_segments_append {before : List Char} (h : startsLine true before = true)
    (s : List Char) :
    ∃ above, segments (before ++ s) = above ++ segments s ∧ above.length = before.count '\n' := by
  induction before using cut_induction '\n' with
  | last l hl =>
    rcases (startsLine_true_iff l).1 h with rfl | ⟨b, rfl⟩
    · exact ⟨[], rfl, rfl⟩
    · simp at hl
  | cut l before hl ih =>
    rw [startsLine_append_lf] at h
    obtain ⟨above, hs, hn⟩ := ih h
    refine ⟨l :: above, ?_, ?_⟩
    · rw [List.append_assoc, List.cons_append, segments_append_lf hl, hs, List.cons_append]
    · simp [hn, List.count_eq_zero_of_not_mem hl]

/-- A line stands at a start of a line, behind as many line feeds as there are lines above it. -/
theorem exists_place_of_segments {text l : List Char} {above below : List (List Char)}
    (h : segments text = above ++ l :: below) :
    ∃ before rest, text = before ++ (l ++ rest) ∧ startsLine true before = true ∧
      before.count '\n' = above.length ∧ (rest = [] ∨ ∃ r, rest = '\n' :: r) := by
  induction text using cut_induction '\n' generalizing above with
  | last m hm =>
    rw [segments_of_lf_not_mem hm] at h
    obtain ⟨rfl, hl⟩ := List.append_eq_singleton_iff.1 h.symm |>.resolve_right (by simp)
    obtain ⟨rfl, -⟩ := List.cons.inj hl
    exact ⟨[], [], by simp, rfl, rfl, .inl rfl⟩
  | cut m s hm ih =>
    rw [segments_append_lf hm] at h
    cases above with
    | nil =>
      obtain ⟨rfl, -⟩ := List.cons.inj h
      exact ⟨[], '\n' :: s, rfl, rfl, rfl, .inr ⟨s, rfl⟩⟩
    | cons k above =>
      obtain ⟨rfl, hs⟩ := List.cons.inj h
      obtain ⟨before, rest, rfl, hstart, hn, hrest⟩ := ih hs
      refine ⟨m ++ '\n' :: before, rest, by simp, ?_, ?_, hrest⟩
      · rw [startsLine_append_lf, hstart]
      · simp [hn, List.count_eq_zero_of_not_mem hm]

end Text

namespace Release

open Text (segments)

/-! ### Declarations by their parts -/

/-- The text of a declaration: its key and the white space around the equals sign, the value in
quotes, and what stands behind. -/
def declaration (w₁ w₂ v after : List Char) : List Char :=
  versionKey ++ (w₁ ++ '=' :: (w₂ ++ quote :: (v ++ quote :: after)))

/-- A line that is a declaration. -/
def DeclaresAlone (line v : List Char) : Prop :=
  ∃ w₁ w₂ w₃, line = declaration w₁ w₂ v w₃ ∧
    Text.isBlank w₁ = true ∧ Text.isBlank w₂ = true ∧ Text.isBlank w₃ = true

/-- The declaration that is read from a text, by its parts. -/
structure FirstDeclaration (text before w₁ w₂ v after : List Char) : Prop where
  text_eq : text = before ++ declaration w₁ w₂ v after
  first : FirstDeclaredAt text before v
  keyBlank : Text.isBlank w₁ = true
  valueBlank : Text.isBlank w₂ = true
  ends : endsLine after = true

theorem not_mem_of_isBlank {c : Char} (hc : Text.isSpace c = false) {w : List Char}
    (hw : Text.isBlank w = true) : c ∉ w := fun hm => by
  rw [List.all_eq_true.1 hw c hm] at hc
  cases hc

/-- A declaration has its parts in one way only. -/
theorem declaration_inj {w₁ w₂ v after w₁' w₂' v' after' : List Char}
    (hw₁ : Text.isBlank w₁ = true) (hw₂ : Text.isBlank w₂ = true) (hv : quote ∉ v)
    (hw₁' : Text.isBlank w₁' = true) (hw₂' : Text.isBlank w₂' = true) (hv' : quote ∉ v')
    (h : declaration w₁ w₂ v after = declaration w₁' w₂' v' after') :
    w₁ = w₁' ∧ w₂ = w₂' ∧ v = v' ∧ after = after' := by
  have signs : Text.isSpace '=' = false ∧ Text.isSpace quote = false := by decide
  obtain ⟨e₁, h⟩ := (Text.append_cons_inj_of_not_mem (not_mem_of_isBlank signs.1 hw₁)
    (not_mem_of_isBlank signs.1 hw₁')).1 (List.append_cancel_left h)
  obtain ⟨e₂, h⟩ := (Text.append_cons_inj_of_not_mem (not_mem_of_isBlank signs.2 hw₂)
    (not_mem_of_isBlank signs.2 hw₂')).1 h
  obtain ⟨e₃, e₄⟩ := (Text.append_cons_inj_of_not_mem hv hv').1 h
  exact ⟨e₁, e₂, e₃, e₄⟩

/-- A declaration that stands in a text, by its parts. -/
theorem DeclaredAt.exists_parts {text before v : List Char} (h : DeclaredAt text before v) :
    ∃ w₁ w₂ after, text = before ++ declaration w₁ w₂ v after ∧ Text.isBlank w₁ = true ∧
      Text.isBlank w₂ = true ∧ endsLine after = true := by
  obtain ⟨-, s, hs, hfront⟩ := (declaredAt_iff ..).1 h
  obtain ⟨w₁, w₂, after, rfl, hw₁, hw₂, -, -, hends⟩ := (declarationAtFront?_eq_some_iff ..).1 hfront
  exact ⟨w₁, w₂, after, hs, hw₁, hw₂, hends⟩

theorem DeclaredAt.value {text before v : List Char} (h : DeclaredAt text before v) :
    v ≠ [] ∧ quote ∉ v := by
  obtain ⟨-, _, _, _, _, -, -, -, -, hne, hv, -⟩ := h
  exact ⟨hne, hv⟩

/-- The characters that stand in a line feed's way to the end of a declaration. -/
theorem lf_not_mem_declaration_iff (w₁ w₂ v after : List Char) :
    '\n' ∉ declaration w₁ w₂ v after ↔ '\n' ∉ w₁ ++ w₂ ++ v ∧ '\n' ∉ after := by
  have fixed : '\n' ∉ versionKey ∧ '\n' ≠ '=' ∧ '\n' ≠ quote := by decide
  simp only [declaration, List.mem_append, List.mem_cons, fixed.1, fixed.2.1, fixed.2.2]
  tauto

/-! ### The line of a declaration -/

namespace FirstDeclaration

variable {text before w₁ w₂ v after : List Char}
  (d : FirstDeclaration text before w₁ w₂ v after)
include d

theorem startsLine : Text.startsLine true before = true :=
  ((declaredAt_iff ..).1 d.first.declared).1

/-- Without a line feed up to its closing quote, it is alone on its line. -/
theorem exists_declaresAlone (h : '\n' ∉ w₁ ++ w₂ ++ v) :
    ∃ line ∈ segments text, DeclaresAlone line v := by
  obtain ⟨w₃, rest, rfl, hw₃, hlf, hrest⟩ := exists_of_endsLine d.ends
  have hline : '\n' ∉ declaration w₁ w₂ v w₃ := (lf_not_mem_declaration_iff ..).2 ⟨h, hlf⟩
  have split : declaration w₁ w₂ v (w₃ ++ rest) = declaration w₁ w₂ v w₃ ++ rest := by
    simp [declaration]
  obtain ⟨above, hs, -⟩ := Text.exists_segments_append d.startsLine (declaration w₁ w₂ v w₃ ++ rest)
  rw [← split, ← d.text_eq, split] at hs
  refine ⟨_, hs ▸ List.mem_append_right above ?_, w₁, w₂, w₃, rfl, d.keyBlank, d.valueBlank, hw₃⟩
  rcases hrest with rfl | ⟨r, rfl⟩
  · rw [List.append_nil, Text.segments_of_lf_not_mem hline]
    exact List.mem_cons_self
  · rw [Text.segments_append_lf hline]
    exact List.mem_cons_self

/-- A line that declares the version alone is the line of this declaration, or stands below it. -/
theorem mem_drop_of_declaresAlone {line : List Char} (hline : line ∈ segments text)
    (alone : DeclaresAlone line v) :
    '\n' ∉ w₁ ++ w₂ ++ v ∨ line ∈ (segments text).drop (before.count '\n' + 1) := by
  have hlf := Text.lf_not_mem_of_mem_segments hline
  obtain ⟨above, below, hs⟩ := List.append_of_mem hline
  obtain ⟨other, rest, htext, hstart, hn, hrest⟩ := Text.exists_place_of_segments hs
  obtain ⟨u₁, u₂, u₃, rfl, hu₁, hu₂, hu₃⟩ := alone
  obtain ⟨hne, hv⟩ := d.first.declared.value
  have declared : DeclaredAt text other v := by
    refine (declaredAt_iff ..).2 ⟨hstart, _, htext, (declarationAtFront?_eq_some_iff ..).2 ?_⟩
    exact ⟨u₁, u₂, u₃ ++ rest, by simp [declaration], hu₁, hu₂, hne, hv, endsLine_append hu₃ hrest⟩
  obtain ⟨between, rfl⟩ : before <+: other :=
    List.prefix_of_prefix_length_le ⟨_, d.text_eq.symm⟩ ⟨_, htext.symm⟩
      (d.first.first other v declared)
  rw [List.count_append] at hn
  by_cases hcount : between.count '\n' = 0
  · -- no line starts between the two places, so they are one
    left
    have hbetween : '\n' ∉ between := List.count_eq_zero.1 hcount
    obtain rfl : between = [] := by
      rcases List.eq_nil_or_concat between with rfl | ⟨b, c, rfl⟩
      · rfl
      · rw [List.concat_eq_append] at hstart hbetween
        obtain h | ⟨b', h⟩ := (Text.startsLine_true_iff _).1 hstart
        · simp at h
        · rw [← List.append_assoc] at h
          obtain rfl := List.singleton_inj.1 (List.append_inj' h rfl).2
          simp at hbetween
    have e : declaration w₁ w₂ v after = declaration u₁ u₂ v (u₃ ++ rest) := by
      have := d.text_eq.symm.trans htext
      rw [List.append_nil] at this
      simpa [declaration] using this
    obtain ⟨rfl, rfl, -, -⟩ := declaration_inj d.keyBlank d.valueBlank hv hu₁ hu₂ hv e
    exact ((lf_not_mem_declaration_iff ..).1 hlf).1
  · right
    have hle : before.count '\n' + 1 ≤ above.length := by omega
    rw [hs, List.drop_append_of_le_length hle]
    exact List.mem_append_right _ List.mem_cons_self

end FirstDeclaration

/-- **When a version is declared by one line.** What is read is the value of the first declaration. It
has no line feed and is declared by some line alone exactly if the declaration has no line feed up to
its closing quote, or a line below the one it starts on happens to declare the same version alone. -/
theorem declaresAlone_iff_of_declaredVersion? {text v : List Char}
    (h : declaredVersion? text = some v) :
    ∃ before w₁ w₂ after, FirstDeclaration text before w₁ w₂ v after ∧
      (('\n' ∉ v ∧ ∃ line ∈ segments text, DeclaresAlone line v) ↔
        '\n' ∉ w₁ ++ w₂ ++ v ∨
          ∃ line ∈ (segments text).drop (before.count '\n' + 1), DeclaresAlone line v) := by
  obtain ⟨before, first⟩ := (declaredVersion?_eq_some_iff ..).1 h
  obtain ⟨w₁, w₂, after, text_eq, hw₁, hw₂, hends⟩ := first.declared.exists_parts
  have d : FirstDeclaration text before w₁ w₂ v after := ⟨text_eq, first, hw₁, hw₂, hends⟩
  refine ⟨before, w₁, w₂, after, d, ?_, ?_⟩
  · rintro ⟨-, line, hline, alone⟩
    exact (d.mem_drop_of_declaresAlone hline alone).imp id fun hdrop => ⟨line, hdrop, alone⟩
  · rintro (hlf | ⟨line, hline, alone⟩)
    · exact ⟨fun hm => hlf (List.mem_append_right _ hm), d.exists_declaresAlone hlf⟩
    · have hmem := List.mem_of_mem_drop hline
      have hlf := Text.lf_not_mem_of_mem_segments hmem
      refine ⟨?_, line, hmem, alone⟩
      obtain ⟨u₁, u₂, u₃, rfl, -⟩ := alone
      exact fun hm => ((lf_not_mem_declaration_iff ..).1 hlf).1 (List.mem_append_right _ hm)

/-- A manifest that has the key and the value on two lines. -/
def twoLineManifest : List Char := "name = \"a\"\nversion =\n\"1.0\"\n".toList

theorem declaresAlone_iff_of_declaredVersion?_twoLines :
    declaredVersion? twoLineManifest = some "1.0".toList ∧
      ∃ before w₁ w₂ after, FirstDeclaration twoLineManifest before w₁ w₂ "1.0".toList after ∧
        (('\n' ∉ "1.0".toList ∧
            ∃ line ∈ segments twoLineManifest, DeclaresAlone line "1.0".toList) ↔
          '\n' ∉ w₁ ++ w₂ ++ "1.0".toList ∨
            ∃ line ∈ (segments twoLineManifest).drop (before.count '\n' + 1),
              DeclaresAlone line "1.0".toList) :=
  ⟨by decide, declaresAlone_iff_of_declaredVersion? (by decide)⟩

/-- **A version may run over a line end**: it is read from the first line of this manifest and the
second one. -/
theorem declaredVersion?_brokenValue :
    declaredVersion? "version = \"1.0\n.0\"\n".toList = some "1.0\n.0".toList ∧
      '\n' ∈ "1.0\n.0".toList ∧
      ∀ line ∈ segments "version = \"1.0\n.0\"\n".toList, ¬DeclaresAlone line "1.0\n.0".toList := by
  refine ⟨by decide, by decide, fun line hline => ?_⟩
  rintro ⟨w₁, w₂, w₃, rfl, -⟩
  have hlf := Text.lf_not_mem_of_mem_segments hline
  exact ((lf_not_mem_declaration_iff ..).1 hlf).1 (List.mem_append_right _ (by decide))

end Release

end ReleaseGate
