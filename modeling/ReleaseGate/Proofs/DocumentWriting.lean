import ReleaseGate.Proofs.Assignments

/-!
# Writing a configuration

Every assignment of fields can be written as a document: a table for each section, with a line for
each assigned field, and texts in double quotes with escapes where they are needed
(`Assignment.exists_writes_written`).
-/

namespace ReleaseGate

open Toml (Key Layout Given Part KeyText PairText BodyText ValueText QuotedText SimpleText)

/-! ### Texts -/

namespace Toml

/-- The sign of a hexadecimal digit. -/
def hexDigit (n : Nat) : Char := if n < 10 then Char.ofNat (48 + n) else Char.ofNat (87 + n)

/-- The four hexadecimal digits of a number. -/
def codeDigits (n : Nat) : List Char :=
  [hexDigit (n / 4096 % 16), hexDigit (n / 256 % 16), hexDigit (n / 16 % 16), hexDigit (n % 16)]

/-- A character as it is written in double quotes. -/
def escaped (c : Char) : List Char :=
  if c = doubleQuote ∨ c = backslash then [backslash, c]
  else if isPlain c then [c]
  else backslash :: 'u' :: codeDigits c.toNat

/-- A text in double quotes. -/
def quoted (s : List Char) : List Char := doubleQuote :: s.flatMap escaped ++ [doubleQuote]

theorem codeDigits_spec :
    ∀ n < 128, (codeDigits n).all isHexDigit = true ∧ ofDigits 16 (codeDigits n) = n := by
  decide +kernel

/-- Only control characters need their code point. -/
theorem toNat_lt_of_not_isPlain {c : Char} (h : isPlain c ≠ true) : c.toNat < 128 := by
  by_contra hge
  refine h ?_
  have : 0x20 ≤ c.toNat ∧ c.toNat ≠ 0x7F := by omega
  simp [isPlain, this]

theorem basicText_escaped (s : List Char) : BasicText s (s.flatMap escaped) := by
  induction s with
  | nil => exact .nil
  | cons c s ih =>
    rw [List.flatMap_cons, escaped]
    split
    next hc =>
      refine @BasicText.escape c s [c] _ (.sign ?_) ih
      rcases hc with rfl | rfl <;> simp
    next hc =>
      split
      next hplain => exact .plain hplain (fun h => hc (.inl h)) (fun h => hc (.inr h)) ih
      next hplain =>
        obtain ⟨hdigits, hcode⟩ := codeDigits_spec c.toNat (toNat_lt_of_not_isPlain hplain)
        exact .escape (.short rfl hdigits hcode) ih

theorem quotedText_quoted (s : List Char) : QuotedText s (quoted s) :=
  .short (.basic (basicText_escaped s))

/-- The elements of an array of texts, with its closing bracket. -/
def quotedElements : List (List Char) → List Char
  | [] => [']']
  | s :: ss => quoted s ++ ',' :: quotedElements ss

theorem elementsText_quotedElements {value : Layout → List Char → Prop}
    (hvalue : ∀ s, value (.only (.text s)) (quoted s)) (ss : List (List Char)) :
    ElementsText value (ss.map fun s => .only (.text s)) (quotedElements ss) := by
  induction ss with
  | nil => exact .none gap_nil
  | cons s ss ih =>
    simpa [quotedElements] using ElementsText.cons gap_nil (hvalue s) gap_nil ih

end Toml

/-! ### Tables -/

namespace Toml

/-- The layout of a table with some keys. -/
def tableLayout (kind : TableKind) (fields : List (Key × Layout)) : Layout
  | [] => some (.table kind)
  | .key k :: a => (fields.lookup k).bind fun L => L a
  | .element _ :: _ => none

variable {kind : TableKind} {fields : List (Key × Layout)} {k : Key} {L : Layout}

theorem tableLayout_nil (kind : TableKind) : tableLayout kind [] = .only (.table kind) := by
  funext a
  match a with
  | [] => rfl
  | .key k :: a => rfl
  | .element n :: a => rfl

theorem lookup_eq_none_of_not_mem (hk : k ∉ fields.map Prod.fst) : fields.lookup k = none := by
  rw [List.lookup_eq_none_iff]
  rintro ⟨k', L⟩ hmem
  refine bne_iff_ne.2 ?_
  rintro rfl
  exact hk (List.mem_map_of_mem hmem)

/-- A table with one more key. -/
theorem tableLayout_append (hk : k ∉ fields.map Prod.fst) :
    tableLayout kind (fields ++ [(k, L)]) = (tableLayout kind fields).set (.key k) L := by
  funext a
  match a with
  | [] => rfl
  | .element n :: a => rfl
  | .key j :: a =>
    rw [Layout.set, tableLayout, List.lookup_append]
    by_cases hj : j = k
    · subst hj
      rw [lookup_eq_none_of_not_mem hk, if_pos rfl]
      simp
    · have other : (j == k) = false := by simpa using hj
      rw [if_neg (by simpa using hj)]
      simp [tableLayout, List.lookup_cons, other]

/-- What is given where a table has one line for each key. -/
def givenFields (fields : List (Key × Layout)) : List Given :=
  fields.map fun f => ⟨[], f.1, f.2⟩

theorem addsAll_givenFields (hnodup : (fields.map Prod.fst).Nodup) :
    Layout.AddsAll (givenFields fields) (.only (.table kind)) (tableLayout kind fields) := by
  -- the induction is on the lines that are left, behind those that were added
  have run (before after : List (Key × Layout))
      (hnodup : ((before ++ after).map Prod.fst).Nodup) :
      Layout.AddsAll (givenFields after) (tableLayout kind before)
        (tableLayout kind (before ++ after)) := by
    induction after generalizing before with
    | nil => rw [List.append_nil, givenFields, List.map_nil, Layout.AddsAll]
    | cons f after ih =>
      obtain ⟨k, L⟩ := f
      have hk : k ∉ before.map Prod.fst := by
        rw [List.map_append, List.nodup_append] at hnodup
        exact fun h => hnodup.2.2 k h k (by simp) rfl
      refine ⟨tableLayout kind (before ++ [(k, L)]), ⟨nofun, ?_, tableLayout_append hk⟩, ?_⟩
      · rw [tableLayout, lookup_eq_none_of_not_mem hk, Option.bind_none]
      · simpa [givenFields] using ih (before ++ [(k, L)]) (by simpa using hnodup)
  rw [← tableLayout_nil]
  exact run [] fields hnodup

/-- The parts of a document that has one table for each name. -/
def givenTables (tables : List (Key × List (Key × Layout))) : List Part :=
  tables.map fun t => ⟨.table [] t.1, givenFields t.2⟩

/-- The layout of such a document. -/
def tablesLayout (tables : List (Key × List (Key × Layout))) : Layout :=
  tableLayout .headed (tables.map fun t => (t.1, tableLayout .headed t.2))

theorem laysOut_givenTables {tables : List (Key × List (Key × Layout))}
    (hnodup : (tables.map Prod.fst).Nodup)
    (hfields : ∀ t ∈ tables, (t.2.map Prod.fst).Nodup) :
    Layout.LaysOut [] (givenTables tables) (tablesLayout tables) := by
  have run (before after : List (Key × List (Key × Layout)))
      (hnodup : ((before ++ after).map Prod.fst).Nodup)
      (hfields : ∀ t ∈ after, (t.2.map Prod.fst).Nodup) :
      Layout.BeginsAll (givenTables after) (tablesLayout before)
        (tablesLayout (before ++ after)) := by
    induction after generalizing before with
    | nil => rw [List.append_nil, givenTables, List.map_nil, Layout.BeginsAll]
    | cons t after ih =>
      obtain ⟨name, fields⟩ := t
      obtain ⟨hfirst, hfields⟩ := List.forall_mem_cons.1 hfields
      have hname : name ∉ before.map Prod.fst := by
        rw [List.map_append, List.nodup_append] at hnodup
        exact fun h => hnodup.2.2 name h name (by simp) rfl
      have hname' : name ∉ (before.map fun t => (t.1, tableLayout .headed t.2)).map Prod.fst := by
        rwa [List.map_map]
      refine ⟨tablesLayout (before ++ [(name, fields)]),
        .inl ⟨?_, tableLayout .headed fields, addsAll_givenFields hfirst, ?_⟩, ?_⟩
      · rw [tablesLayout, tableLayout, lookup_eq_none_of_not_mem hname', Option.bind_none]
      · rw [tablesLayout, List.map_append]
        exact tableLayout_append hname'
      · simpa [givenTables] using ih (before ++ [(name, fields)]) (by simpa using hnodup) hfields
  exact ⟨_, rfl, by simpa [tablesLayout, tableLayout_nil] using run [] tables hnodup hfields⟩

end Toml

/-! ### Lines -/

/-- A value of a field. -/
inductive FieldValue
  | text (s : String)
  | texts (ss : List String)

namespace FieldValue

/-- The layout of a value. -/
def layout : FieldValue → Layout
  | text s => textLayout s
  | texts ss => textsLayout ss

/-- A value as it is written. -/
def written : FieldValue → List Char
  | text s => Toml.quoted s.toList
  | texts ss => '[' :: Toml.quotedElements (ss.map String.toList)

theorem valueText_written (v : FieldValue) (n : Nat) :
    ValueText .reader (n + 1) v.layout v.written := by
  have simple (s : String) (limits : Toml.Limits) (m : Nat) :
      ValueText limits m (textLayout s) (Toml.quoted s.toList) := by
    have h : ∃ mark, SimpleText limits mark (Toml.quoted s.toList) ∧ textLayout s = .only mark :=
      ⟨_, .text (Toml.quotedText_quoted s.toList), rfl⟩
    cases m with
    | zero => exact h
    | succ m => exact .inl h
  cases v with
  | text s => exact simple s _ _
  | texts ss =>
    refine .inr (.inl ⟨ss.map textLayout, _, ?_, rfl, rfl⟩)
    have elements := @Toml.elementsText_quotedElements (ValueText .reader n)
      (fun s => by simpa [textLayout] using simple (String.ofList s) .reader n)
      (ss.map String.toList)
    rwa [List.map_map] at elements

end FieldValue

/-- The fields of a section that have a value. -/
def assignedFields (fields : List (Key × Option FieldValue)) : List (Key × Layout) :=
  fields.filterMap fun f => f.2.map fun v => (f.1, v.layout)

/-- The line of a field, if it has a value. -/
def fieldLine (key : Key) : Option FieldValue → List Char
  | none => []
  | some v => key ++ '=' :: v.written ++ ['\n']

/-- The header of a section and the lines of its fields. -/
def sectionLines (name : Key) (fields : List (Key × Option FieldValue)) : List Char :=
  '[' :: name ++ [']', '\n'] ++ fields.flatMap fun f => fieldLine f.1 f.2

/-- Whether a key needs no quotes. -/
def isBare (key : Key) : Bool := !key.isEmpty && key.all Toml.isKeyChar

section Lines

variable {fields : List (Key × Option FieldValue)} {key name : Key} {gs : List Given}
  {ps : List Part} {t : List Char}

theorem keysText_of_isBare (h : isBare key = true) : Toml.KeysText [key] key := by
  simp only [isBare, Bool.and_eq_true, Bool.not_eq_true', List.isEmpty_eq_false_iff,
    List.all_eq_true] at h
  have bare := @Toml.KeysText.one [] key key [] Toml.blanks_nil (.bare h.1 h.2) Toml.blanks_nil
  rwa [List.nil_append, List.append_nil] at bare

theorem lineEnd_newline (t : List Char) : Toml.LineEnd t ['\n'] :=
  @Toml.LineEnd.broken t [] [] ['\n'] Toml.blanks_nil .none .lf

theorem bodyText_fieldLines (hkeys : (fields.map Prod.fst).all isBare = true)
    (h : BodyText .reader gs ps t) :
    BodyText .reader (Toml.givenFields (assignedFields fields) ++ gs) ps
      ((fields.flatMap fun f => fieldLine f.1 f.2) ++ t) := by
  induction fields with
  | nil => exact h
  | cons f fields ih =>
    obtain ⟨key, value⟩ := f
    obtain ⟨hkey, hothers⟩ : isBare key = true ∧ (fields.map Prod.fst).all isBare = true := by
      rwa [List.map_cons, List.all_cons, Bool.and_eq_true] at hkeys
    cases value with
    | none => exact ih hothers
    | some v =>
      have pair : PairText .reader (ValueText .reader Toml.maxDepth) ⟨[], key, v.layout⟩
          (key ++ '=' :: [] ++ v.written) :=
        .mk (keysText_of_isBare hkey) (by decide) Toml.blanks_nil (v.valueText_written 78)
      have line := @BodyText.pair .reader _ _ ps [] _ ['\n'] _ Toml.blanks_nil pair
        (lineEnd_newline _) (ih hothers)
      simpa [fieldLine, assignedFields, Toml.givenFields] using line

theorem bodyText_sectionLines (hname : isBare name = true)
    (hkeys : (fields.map Prod.fst).all isBare = true) (h : BodyText .reader [] ps t) :
    BodyText .reader [] (⟨.table [] name, Toml.givenFields (assignedFields fields)⟩ :: ps)
      (sectionLines name fields ++ t) := by
  have header : Toml.HeaderText .reader (.table [] name) ('[' :: name ++ [']']) :=
    .table (keysText_of_isBare hname) (by decide)
  have body := bodyText_fieldLines hkeys h
  rw [List.append_nil] at body
  have line := @BodyText.header .reader _ _ ps [] _ ['\n'] _ Toml.blanks_nil header
    (lineEnd_newline _) body
  simpa [sectionLines] using line

theorem assignedFields_keys_sublist (fields : List (Key × Option FieldValue)) :
    ((assignedFields fields).map Prod.fst).Sublist (fields.map Prod.fst) := by
  induction fields with
  | nil => exact .slnil
  | cons f fields ih =>
    obtain ⟨key, value⟩ := f
    cases value with
    | none => exact .cons key ih
    | some v => exact .cons_cons key ih

theorem lookup_assignedFields (hnodup : (fields.map Prod.fst).Nodup)
    {f : Key × Option FieldValue} (hf : f ∈ fields) :
    (assignedFields fields).lookup f.1 = f.2.map FieldValue.layout := by
  induction fields with
  | nil => cases hf
  | cons g fields ih =>
    obtain ⟨key, value⟩ := g
    rw [List.map_cons, List.nodup_cons] at hnodup
    rcases List.mem_cons.1 hf with rfl | hlater
    · cases value with
      | none =>
        refine Toml.lookup_eq_none_of_not_mem fun h => hnodup.1 ?_
        exact (assignedFields_keys_sublist fields).subset h
      | some v => exact List.lookup_cons_self
    · have other : (f.1 == key) = false := by
        refine beq_false_of_ne fun h => hnodup.1 ?_
        exact List.mem_map.2 ⟨f, hlater, h⟩
      cases value with
      | none => exact ih hnodup.2 hlater
      | some v =>
        show List.lookup f.1 ((key, v.layout) :: assignedFields fields) = _
        rw [List.lookup_cons, other]
        exact ih hnodup.2 hlater

/-- A table with the lines of some fields gives the section its assigned values. -/
theorem givesSection_of_under {L : Layout} (hnodup : (fields.map Prod.fst).Nodup)
    (hunder : L.under (.key name) = Toml.tableLayout .headed (assignedFields fields)) :
    L.GivesSection name (fields.map Prod.fst) (fields.map fun f => f.2.map FieldValue.layout) := by
  have htable : L [.key name] = some (.table .headed) := congrFun hunder []
  refine .table htable ?_
  rw [hunder, List.map_map]
  refine List.map_congr_left fun f hf => ?_
  have hlookup := lookup_assignedFields hnodup hf
  show Layout.below? _ (.key f.1) = _
  cases hvalue : f.2 with
  | none => rw [Layout.below?, Toml.tableLayout, hlookup, hvalue]; rfl
  | some v =>
    have below :
        (Toml.tableLayout .headed (assignedFields fields)).under (.key f.1) = v.layout := by
      funext a
      rw [Layout.under, Toml.tableLayout, hlookup, hvalue]
      rfl
    have stands : (Toml.tableLayout .headed (assignedFields fields)) [.key f.1] = v.layout [] :=
      congrFun below []
    rw [Layout.below?, stands, below]
    cases v <;> rfl

end Lines

/-! ### Assignments -/

namespace Assignment

/-- The fields of the section on paths. -/
def pathFields (a : Assignment) : List (Key × Option FieldValue) :=
  PathSettings.keys.zip [a.manifest.map .text, a.changelog.map .text, a.releaseIndex.map .text,
    a.releaseNotesDir.map .text]

/-- The fields of the section on schemas. -/
def schemaFields (a : Assignment) : List (Key × Option FieldValue) :=
  SchemaSettings.keys.zip [a.diffPaths.map .texts, a.extraPatterns.map .texts]

/-- The field of the section on history. -/
def historyFields (a : Assignment) : List (Key × Option FieldValue) :=
  Backend.keys.zip [a.backend.map fun b => .text b.name]

theorem map_pathFields (a : Assignment) :
    a.pathFields.map (fun f => f.2.map FieldValue.layout) = a.pathValues := by
  simp [pathFields, PathSettings.keys, pathValues, Function.comp_def, FieldValue.layout]

theorem map_schemaFields (a : Assignment) :
    a.schemaFields.map (fun f => f.2.map FieldValue.layout) = a.schemaValues := by
  simp [schemaFields, SchemaSettings.keys, schemaValues, Function.comp_def, FieldValue.layout]

theorem map_historyFields (a : Assignment) :
    a.historyFields.map (fun f => f.2.map FieldValue.layout) = a.historyValues := by
  simp [historyFields, Backend.keys, historyValues, Function.comp_def, FieldValue.layout]

/-- The document that assigns the fields. -/
def written (a : Assignment) : List Char :=
  sectionLines "paths".toList a.pathFields ++
    (sectionLines "schema".toList a.schemaFields ++ sectionLines "git".toList a.historyFields)

/-- **Every assignment can be written.** -/
theorem exists_writes_written (a : Assignment) :
    ∃ L, Toml.Writes .reader a.written L ∧ a.GivenBy L := by
  have bare : PathSettings.keys.all isBare = true ∧ SchemaSettings.keys.all isBare = true ∧
      Backend.keys.all isBare = true := by decide
  have nodup : PathSettings.keys.Nodup ∧ SchemaSettings.keys.Nodup ∧ Backend.keys.Nodup := by
    decide
  let tables := [("paths".toList, assignedFields a.pathFields),
    ("schema".toList, assignedFields a.schemaFields),
    ("git".toList, assignedFields a.historyFields)]
  have body : BodyText .reader [] (Toml.givenTables tables) a.written := by
    have history := @bodyText_sectionLines a.historyFields "git".toList _ _ rfl bare.2.2 .done
    rw [List.append_nil] at history
    exact @bodyText_sectionLines a.pathFields "paths".toList _ _ rfl bare.1
      (@bodyText_sectionLines a.schemaFields "schema".toList _ _ rfl bare.2.1 history)
  have laysOut : Layout.LaysOut [] (Toml.givenTables tables) (Toml.tablesLayout tables) := by
    have names : ["paths".toList, "schema".toList, "git".toList].Nodup := by decide
    refine Toml.laysOut_givenTables names ?_
    simp only [tables, List.forall_mem_cons]
    exact ⟨(assignedFields_keys_sublist a.pathFields).nodup nodup.1,
      (assignedFields_keys_sublist a.schemaFields).nodup nodup.2.1,
      (assignedFields_keys_sublist a.historyFields).nodup nodup.2.2, nofun⟩
  refine ⟨Toml.tablesLayout tables, ⟨[], _, body, laysOut⟩, ?_⟩
  constructor
  case paths =>
    rw [← map_pathFields]
    exact @givesSection_of_under a.pathFields _ _ nodup.1 rfl
  case schema =>
    rw [← map_schemaFields]
    exact @givesSection_of_under a.schemaFields _ _ nodup.2.1 rfl
  case history =>
    rw [← map_historyFields]
    exact @givesSection_of_under a.historyFields _ _ nodup.2.2 rfl

end Assignment

end ReleaseGate
