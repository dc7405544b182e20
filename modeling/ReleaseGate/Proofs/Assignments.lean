import ReleaseGate.Config.Reading
import ReleaseGate.Proofs.DocumentReading

/-!
# What a document assigns

A document assigns some fields of the configuration (`Assignment`), in the tables of their sections
or, for the first fields of a section, as an array of their values (`Layout.GivesSection`); what
else it says does not matter. A text that writes such a document is read as the assigned values,
with the default in every other field (`Assignment.ofText?_of_writes`).
-/

namespace ReleaseGate

open Toml (Item Entries Key Layout Mark Step)

/-! ### What stands below a step -/

namespace Toml

/-- What stands below a step, if anything does. -/
def Layout.below? (L : Layout) (s : Step) : Option Layout := (L [s]).map fun _ => L.under s

theorem Item.below?_layout (i : Item) (s : Step) : i.layout.below? s = (i.child? s).map layout := by
  rw [Layout.below?, layout_cons]
  cases h : i.child? s with
  | none => rfl
  | some j => rw [Option.bind_some, layout_nil, Option.map_some, Option.map_some, under_layout h]

/-- An array is known by its elements. -/
theorem Layout.array_injective : Function.Injective Layout.array := by
  intro elements elements' h
  have hlength : elements.length = elements'.length := by
    have := congrFun h []
    simpa [Layout.array] using this
  refine List.ext_getElem hlength fun n hn hn' => ?_
  funext a
  have := congrFun h (.element n :: a)
  simpa [Layout.array, hn, hn'] using this

theorem Item.eq_string_of_layout {i : Item} {s : List Char} (h : i.layout = .only (.text s)) :
    i = .string s := by
  have hmark : some i.mark = some (.text s) := congrFun h []
  cases i <;> cases hmark
  rfl

theorem Item.eq_array_of_layout {i : Item} {elements : List Layout}
    (h : i.layout = .array elements) : ∃ items, i = .array items ∧ items.map layout = elements := by
  have hmark : some i.mark = some (.array elements.length) := congrFun h []
  cases i with
  | array items =>
    rw [layout_array] at h
    exact ⟨items, rfl, Layout.array_injective h⟩
  | _ => cases hmark

end Toml

/-! ### Values of fields -/

/-- The layout of a text. -/
def textLayout (s : String) : Layout := .only (.text s.toList)

/-- The layout of an array of texts. -/
def textsLayout (ss : List String) : Layout := .array (ss.map textLayout)

/-- The name of a backend. -/
def Backend.name : Backend → String
  | .system => "system"
  | .library => "libgit2"

theorem textOf?_of_layout {i : Item} {s : String} (h : i.layout = textLayout s) :
    textOf? i = some s := by
  rw [Item.eq_string_of_layout h, textOf?, String.ofList_toList]

theorem textsOf?_of_layout {i : Item} {ss : List String} (h : i.layout = textsLayout ss) :
    textsOf? i = some ss := by
  obtain ⟨items, rfl, hitems⟩ := Item.eq_array_of_layout h
  rw [textsOf?]
  clear h
  induction items generalizing ss with
  | nil =>
    obtain rfl := List.map_eq_nil_iff.1 hitems.symm
    rfl
  | cons i items ih =>
    cases ss with
    | nil => cases hitems
    | cons s ss =>
      obtain ⟨hi, hitems⟩ := List.cons.inj hitems
      rw [List.mapM_cons, textOf?_of_layout hi, ih hitems]
      rfl

theorem Backend.ofItem?_of_layout {i : Item} {b : Backend} (h : i.layout = textLayout b.name) :
    Backend.ofItem? i = some b := by
  rw [Item.eq_string_of_layout h]
  cases b <;> rfl

/-- A field has the value that is assigned to it, or its default. -/
theorem fieldOr_of_layout {α : Type} {read : Item → Option α} {write : α → Layout}
    (hread : ∀ {i x}, i.layout = write x → read i = some x) {item : Option Item} {value : Option α}
    (h : item.map Item.layout = value.map write) (default : α) :
    fieldOr default read item = some (value.getD default) := by
  cases item with
  | none =>
    cases value with
    | none => rfl
    | some => cases h
  | some i =>
    cases value with
    | none => cases h
    | some x => exact hread (Option.some.inj h)

/-! ### Sections -/

namespace Toml

/-- What a document says about a section, whose fields have some keys and, as far as they are
assigned, some values. Other keys of the section say nothing about it. -/
inductive Layout.GivesSection (L : Layout) (name : Key) (keys : List Key)
    (values : List (Option Layout)) : Prop
  /-- No field is assigned, and the section does not stand there. -/
  | absent (habsent : L [.key name] = none) (hvalues : ∀ v ∈ values, v = none)
  /-- The section is a table. -/
  | table {kind} (htable : L [.key name] = some (.table kind))
    (hvalues : keys.map (fun key => (L.under (.key name)).below? (.key key)) = values)
  /-- The first fields are assigned, and the section is the array of their values. -/
  | array {given n} (harray : L.under (.key name) = .array given)
    (hvalues : given.map some ++ List.replicate n none = values)

end Toml

/-- The entries of an array, as many as there may be fields: first its items, then nothing. -/
theorem map_range_getElem? (items : List Item) (n : Nat) :
    (List.range (items.length + n)).map (fun i => items[i]?) =
      items.map some ++ List.replicate n none := by
  refine List.ext_getElem (by simp) fun i hi _ => ?_
  rw [List.getElem_map, List.getElem_range, List.getElem_append]
  split
  next h => simp
  next h => simpa using h

/-- **A section is read as a document gives it**: it is missing and nothing is assigned, or each of
its fields is what is assigned. -/
theorem sectionFields_of_givesSection {kind : Toml.TableKind} {es : Entries} {L : Layout}
    (hL : (Item.table kind es).layout = L) {name : Key} {keys : List Key}
    {values : List (Option Layout)} (h : L.GivesSection name keys values)
    (hlength : values.length = keys.length) :
    (es.lookup name = none ∧ ∀ v ∈ values, v = none) ∨
      ∃ i fields, es.lookup name = some i ∧ sectionFields keys i = some fields ∧
        fields.map (Option.map Item.layout) = values := by
  subst hL
  cases h with
  | absent habsent hvalues => exact .inl ⟨Item.layout_eq_none_iff.1 habsent, hvalues⟩
  | @table kind' htable hvalues =>
    obtain ⟨i, hi, hmark⟩ := Item.layout_eq_some_iff.1 htable
    obtain ⟨inner, rfl⟩ := Item.eq_table_of_mark hmark
    refine .inr ⟨_, keys.map fun key => inner.lookup key, hi, rfl, ?_⟩
    simp only [Item.under_layout hi, Item.below?_layout] at hvalues
    rw [List.map_map, ← hvalues]
    rfl
  | @array given n harray hvalues =>
    have hmark : (Item.table kind es).layout [.key name] = some (.array given.length) :=
      congrFun harray []
    obtain ⟨i, hi, -⟩ := Item.layout_eq_some_iff.1 hmark
    rw [Item.under_layout hi] at harray
    obtain ⟨items, rfl, rfl⟩ := Item.eq_array_of_layout harray
    have hkeys : keys.length = items.length + n := by
      rw [← hlength, ← hvalues]
      simp
    refine .inr ⟨_, _, hi, rfl, ?_⟩
    rw [hkeys, map_range_getElem?, ← hvalues]
    simp [Function.comp_def]

/-! ### Assignments -/

/-- The fields of the configuration, each of them assigned or not. -/
structure Assignment where
  manifest : Option String
  changelog : Option String
  releaseIndex : Option String
  releaseNotesDir : Option String
  diffPaths : Option (List String)
  extraPatterns : Option (List String)
  backend : Option Backend
  deriving DecidableEq, Repr

namespace Assignment

/-- The assigned values, and the default in every other field. -/
def config (a : Assignment) : Config where
  paths :=
    { manifest := a.manifest.getD PathSettings.default.manifest
      changelog := a.changelog.getD PathSettings.default.changelog
      releaseIndex := a.releaseIndex.getD PathSettings.default.releaseIndex
      releaseNotesDir := a.releaseNotesDir.getD PathSettings.default.releaseNotesDir }
  schema :=
    { diffPaths := a.diffPaths.getD SchemaSettings.default.diffPaths
      extraPatterns := a.extraPatterns.getD SchemaSettings.default.extraPatterns }
  backend := a.backend.getD Config.default.backend

/-- The assigned values of the section on paths, in the order of its keys. -/
def pathValues (a : Assignment) : List (Option Layout) :=
  [a.manifest.map textLayout, a.changelog.map textLayout, a.releaseIndex.map textLayout,
    a.releaseNotesDir.map textLayout]

/-- The assigned values of the section on schemas. -/
def schemaValues (a : Assignment) : List (Option Layout) :=
  [a.diffPaths.map textsLayout, a.extraPatterns.map textsLayout]

/-- The assigned value of the section on history. -/
def historyValues (a : Assignment) : List (Option Layout) :=
  [a.backend.map fun b => textLayout b.name]

/-- A document assigns exactly these fields; what other keys it has does not matter. -/
structure GivenBy (a : Assignment) (L : Layout) : Prop where
  paths : L.GivesSection "paths".toList PathSettings.keys a.pathValues
  schema : L.GivesSection "schema".toList SchemaSettings.keys a.schemaValues
  history : L.GivesSection "git".toList Backend.keys a.historyValues

variable {a : Assignment} {kind : Toml.TableKind} {es : Entries}

theorem paths_of_givenBy (h : a.GivenBy (Item.table kind es).layout) :
    fieldOr .default PathSettings.ofItem? (es.lookup "paths".toList) = some a.config.paths := by
  rcases sectionFields_of_givesSection rfl h.paths rfl with
    ⟨hnone, hvalues⟩ | ⟨i, fields, hi, hfields, hvalues⟩
  · simp only [pathValues, List.forall_mem_cons, Option.map_eq_none_iff] at hvalues
    obtain ⟨hm, hc, hr, hd, -⟩ := hvalues
    simp only [hnone, fieldOr, config, hm, hc, hr, hd]
    rfl
  · obtain ⟨m, fields, rfl, hm, hvalues⟩ := List.map_eq_cons_iff.1 hvalues
    obtain ⟨c, fields, rfl, hc, hvalues⟩ := List.map_eq_cons_iff.1 hvalues
    obtain ⟨r, fields, rfl, hr, hvalues⟩ := List.map_eq_cons_iff.1 hvalues
    obtain ⟨d, fields, rfl, hd, hvalues⟩ := List.map_eq_cons_iff.1 hvalues
    obtain rfl := List.map_eq_nil_iff.1 hvalues
    rw [hi]
    show PathSettings.ofItem? i = _
    simp only [PathSettings.ofItem?, hfields,
      fieldOr_of_layout textOf?_of_layout hm, fieldOr_of_layout textOf?_of_layout hc,
      fieldOr_of_layout textOf?_of_layout hr, fieldOr_of_layout textOf?_of_layout hd]
    rfl

theorem schema_of_givenBy (h : a.GivenBy (Item.table kind es).layout) :
    fieldOr .default SchemaSettings.ofItem? (es.lookup "schema".toList) = some a.config.schema := by
  rcases sectionFields_of_givesSection rfl h.schema rfl with
    ⟨hnone, hvalues⟩ | ⟨i, fields, hi, hfields, hvalues⟩
  · simp only [schemaValues, List.forall_mem_cons, Option.map_eq_none_iff] at hvalues
    obtain ⟨hd, hp, -⟩ := hvalues
    simp only [hnone, fieldOr, config, hd, hp]
    rfl
  · obtain ⟨d, fields, rfl, hd, hvalues⟩ := List.map_eq_cons_iff.1 hvalues
    obtain ⟨p, fields, rfl, hp, hvalues⟩ := List.map_eq_cons_iff.1 hvalues
    obtain rfl := List.map_eq_nil_iff.1 hvalues
    rw [hi]
    show SchemaSettings.ofItem? i = _
    simp only [SchemaSettings.ofItem?, hfields,
      fieldOr_of_layout textsOf?_of_layout hd, fieldOr_of_layout textsOf?_of_layout hp]
    rfl

theorem backend_of_givenBy (h : a.GivenBy (Item.table kind es).layout) :
    fieldOr Config.default.backend Backend.ofSection? (es.lookup "git".toList) =
      some a.config.backend := by
  rcases sectionFields_of_givesSection rfl h.history rfl with
    ⟨hnone, hvalues⟩ | ⟨i, fields, hi, hfields, hvalues⟩
  · simp only [historyValues, List.forall_mem_cons, Option.map_eq_none_iff] at hvalues
    simp only [hnone, fieldOr, config, hvalues.1]
    rfl
  · obtain ⟨b, fields, rfl, hb, hvalues⟩ := List.map_eq_cons_iff.1 hvalues
    obtain rfl := List.map_eq_nil_iff.1 hvalues
    rw [hi]
    show Backend.ofSection? i = _
    simp only [Backend.ofSection?, hfields]
    exact fieldOr_of_layout Backend.ofItem?_of_layout hb _

/-- A table with a layout that gives the fields is read as the assigned values and defaults. -/
theorem ofEntries?_of_givenBy (h : a.GivenBy (Item.table kind es).layout) :
    Config.ofEntries? es = some a.config := by
  simp only [Config.ofEntries?, paths_of_givenBy h, schema_of_givenBy h, backend_of_givenBy h]
  rfl

/-- A text that writes the fields is read as the assigned values and defaults. -/
theorem ofText?_of_writes {text : List Char} {L : Layout} (hw : Toml.Writes .reader text L)
    (h : a.GivenBy L) : Config.ofText? text = some a.config := by
  obtain ⟨es, hes, rfl⟩ := Toml.exists_read?_of_writes hw
  rw [Config.ofText?, hes]
  exact ofEntries?_of_givenBy h

end Assignment

end ReleaseGate
