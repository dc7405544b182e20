import Mathlib.Data.List.Forall2
import ReleaseGate.Toml.Assembly

/-!
# Layouts of documents

What a document says, apart from how it is written: what stands at every address, which is a list of
steps into tables and arrays. A document is laid out by its pairs and headers in turn, under the
rules of the format:

* a key is given once (`Layout.Adds`);
* a dotted key makes the tables before its last part that are missing, passes through no table with
  a header of its own, and ends in a table that dotted keys made;
* a header names a table that nothing has made, or that only headers of tables below it imply; on
  the way it passes through tables that are not closed and into the last element of an array of
  tables (`Layout.Leads`, `Layout.Begins`).

The assembly follows these rules: where they lay out a document, it gives a table with that layout
(`exists_entries_of_laysOut`).
-/

namespace ReleaseGate.Toml

/-! ### Addresses -/

/-- A step into a table or an array. -/
inductive Step
  | key (k : Key)
  | element (n : Nat)
  deriving DecidableEq, Repr

/-- What stands at an address. -/
inductive Mark
  | text (s : List Char)
  /-- A number, a truth value or a moment. -/
  | other
  | array (length : Nat)
  | table (kind : TableKind)
  /-- An array of tables, each of them begun by a header. -/
  | tables (length : Nat)
  deriving DecidableEq, Repr

/-- What stands at each address below a value; the empty address is that of the value itself. -/
def Layout : Type := List Step → Option Mark

namespace Layout

/-- A value without anything below it. -/
def only (m : Mark) : Layout
  | [] => some m
  | _ :: _ => none

/-- An array of values. -/
def array (elements : List Layout) : Layout
  | [] => some (.array elements.length)
  | .element n :: a => (elements[n]?).bind fun e => e a
  | .key _ :: _ => none

/-- What stands below a step. -/
def under (L : Layout) (s : Step) : Layout := fun a => L (s :: a)

/-- The layout with another value below a step. -/
def set (L : Layout) (s : Step) (M : Layout) : Layout
  | [] => L []
  | t :: a => if t = s then M a else L (t :: a)

/-- The layout with another mark on the value itself. -/
def mark (L : Layout) (m : Mark) : Layout
  | [] => some m
  | s :: a => L (s :: a)

end Layout

/-! ### The rules of the format -/

/-- A key that is given a value, behind the dotted keys before it. -/
structure Given where
  path : List Key
  key : Key
  value : Layout

/-- A header and what is given after it. -/
structure Part where
  header : Header
  given : List Given

/-- Whether a way on which missing tables become ones of the kind `made` passes through a table of
a kind: none leads into a closed table, and dotted keys into none with a header of its own. -/
def TableKind.Passes (made kind : TableKind) : Prop :=
  kind ≠ .closed ∧ (made = .dotted → kind ≠ .headed)

namespace Layout

/-- A path leads to a table that a change is made in. A missing table on the way is made; into an
array of tables, only headers lead, and to its last element. -/
def Leads (made : TableKind) (change : Layout → Layout → Prop) :
    List Key → Layout → Layout → Prop
  | [], L, L' => change L L'
  | k :: path, L, L' =>
    (L [.key k] = none ∧
      ∃ M, Leads made change path (only (.table made)) M ∧ L' = L.set (.key k) M) ∨
    (∃ kind, L [.key k] = some (.table kind) ∧ made.Passes kind ∧
      ∃ M, Leads made change path (L.under (.key k)) M ∧ L' = L.set (.key k) M) ∨
    (made = .implied ∧ ∃ n, L [.key k] = some (.tables (n + 1)) ∧
      ∃ M, Leads made change path ((L.under (.key k)).under (.element n)) M ∧
        L' = L.set (.key k) ((L.under (.key k)).set (.element n) M))

/-- A key is given a value: the key is new where the dotted keys before it lead to, which is a table
that dotted keys made. -/
def Adds (g : Given) : Layout → Layout → Prop :=
  Leads .dotted (fun L L' => (g.path ≠ [] → L [] = some (.table .dotted)) ∧
    L [.key g.key] = none ∧ L' = L.set (.key g.key) g.value) g.path

/-- Keys are given values in turn. -/
def AddsAll : List Given → Layout → Layout → Prop
  | [], L, L' => L' = L
  | g :: gs, L, L' => ∃ M, Adds g L M ∧ AddsAll gs M L'

/-- A table begins: its name is new, or was only implied so far and keeps what it has. -/
def BeginsTable (key : Key) (gs : List Given) (L L' : Layout) : Prop :=
  (L [.key key] = none ∧ ∃ M, AddsAll gs (only (.table .headed)) M ∧ L' = L.set (.key key) M) ∨
  (L [.key key] = some (.table .implied) ∧
    ∃ M, AddsAll gs ((L.under (.key key)).mark (.table .headed)) M ∧ L' = L.set (.key key) M)

/-- An element of an array of tables begins: the first one of a new array, or the next one. -/
def BeginsElement (key : Key) (gs : List Given) (L L' : Layout) : Prop :=
  ∃ M, AddsAll gs (only (.table .headed)) M ∧
    ((L [.key key] = none ∧
        L' = L.set (.key key) ((only (.tables 1)).set (.element 0) M)) ∨
      ∃ n, L [.key key] = some (.tables n) ∧
        L' = L.set (.key key) (((L.under (.key key)).mark (.tables (n + 1))).set (.element n) M))

/-- A header begins a table or an element, and what follows it is given there. -/
def Begins (p : Part) : Layout → Layout → Prop :=
  match p.header with
  | .table path key => Leads .implied (BeginsTable key p.given) path
  | .element path key => Leads .implied (BeginsElement key p.given) path

/-- Headers begin tables in turn. -/
def BeginsAll : List Part → Layout → Layout → Prop
  | [], L, L' => L' = L
  | p :: ps, L, L' => ∃ M, Begins p L M ∧ BeginsAll ps M L'

/-- **The layout of a document**: of what is given before the first header, and of the parts. -/
def LaysOut (gs : List Given) (ps : List Part) (L : Layout) : Prop :=
  ∃ M, AddsAll gs (only (.table .headed)) M ∧ BeginsAll ps M L

end Layout

/-! ### The layout of an item -/

namespace Item

/-- What stands at an item itself. -/
def mark : Item → Mark
  | string s => .text s
  | array items => .array items.length
  | table kind _ => .table kind
  | tables elements => .tables elements.length
  | _ => .other

/-- The item below a step. -/
def child? : Item → Step → Option Item
  | table _ es, .key k => es.lookup k
  | array items, .element n => items[n]?
  | tables elements, .element n => elements[n]?.map (table .headed)
  | _, _ => none

/-- What stands at an address below an item. -/
def at? : List Step → Item → Option Mark
  | [], i => some i.mark
  | s :: a, i => (i.child? s).bind (at? a)

/-- The layout of an item. -/
def layout (i : Item) : Layout := fun a => i.at? a

theorem layout_nil (i : Item) : i.layout [] = some i.mark := rfl

theorem layout_cons (i : Item) (s : Step) (a : List Step) :
    i.layout (s :: a) = (i.child? s).bind fun j => j.layout a := rfl

theorem layout_eq_none_iff {i : Item} {s : Step} : i.layout [s] = none ↔ i.child? s = none := by
  rw [layout_cons]
  cases i.child? s <;> simp [layout_nil]

theorem layout_eq_some_iff {i : Item} {s : Step} {m : Mark} :
    i.layout [s] = some m ↔ ∃ j, i.child? s = some j ∧ j.mark = m := by
  rw [layout_cons]
  cases i.child? s <;> simp [layout_nil]

theorem under_layout {i j : Item} {s : Step} (h : i.child? s = some j) :
    i.layout.under s = j.layout := by
  funext a
  show i.layout (s :: a) = j.layout a
  rw [layout_cons, h, Option.bind_some]

/-- An item without anything below it has no layout beyond its mark. -/
theorem layout_of_child? {i : Item} (h : ∀ s, i.child? s = none) : i.layout = .only i.mark := by
  funext a
  cases a with
  | nil => rfl
  | cons s a => rw [layout_cons, h, Option.bind_none, Layout.only]

theorem layout_array (items : List Item) :
    (array items).layout = .array (items.map layout) := by
  funext a
  match a with
  | [] => simp [layout_nil, mark, Layout.array]
  | .key k :: a => rfl
  | .element n :: a =>
    rw [layout_cons, Layout.array, List.getElem?_map]
    show (items[n]?).bind _ = _
    cases items[n]? <;> rfl

theorem layout_table_nil (kind : TableKind) : (table kind []).layout = .only (.table kind) :=
  layout_of_child? fun s => by cases s <;> rfl

/-- A table of another kind has the same things below it. -/
theorem layout_table_kind (kind kind' : TableKind) (es : Entries) :
    (table kind' es).layout = (table kind es).layout.mark (.table kind') := by
  funext a
  cases a with
  | nil => rfl
  | cons s a => cases s <;> rfl

theorem layout_put (kind : TableKind) (es : Entries) (k : Key) (i : Item) :
    (table kind (put k i es)).layout = (table kind es).layout.set (.key k) i.layout := by
  funext a
  match a with
  | [] => rfl
  | .element n :: a => rfl
  | .key j :: a =>
    rw [layout_cons, Layout.set]
    show ((put k i es).lookup j).bind _ = _
    by_cases hj : j = k
    · subst hj
      rw [lookup_put_self, if_pos rfl, Option.bind_some]
    · rw [lookup_put_other _ _ hj, if_neg (by simpa using hj)]
      rfl

/-- The layout of an array of tables with another last element. -/
theorem layout_tables_set_last {elements : List Entries} {last : Entries}
    (h : elements.getLast? = some last) (last' : Entries) :
    (tables (elements.dropLast ++ [last'])).layout =
      (tables elements).layout.set (.element (elements.length - 1))
        (table .headed last').layout := by
  obtain ⟨init, rfl⟩ := List.getLast?_eq_some_iff.1 h
  funext a
  match a with
  | [] => simp [layout_nil, mark, Layout.set]
  | .key k :: a => rfl
  | .element n :: a =>
    rw [layout_cons, Layout.set]
    show (((init ++ [last]).dropLast ++ [last'])[n]?.map (table .headed)).bind _ = _
    by_cases hn : n = init.length
    · subst hn
      simp
    · have hne : ¬Step.element n = .element ((init ++ [last]).length - 1) := by simpa using hn
      rw [if_neg hne]
      show _ = ((init ++ [last])[n]?.map (table .headed)).bind _
      rcases Nat.lt_or_gt_of_ne hn with hlt | hgt
      · simp only [List.dropLast_concat, List.getElem?_append_left hlt]
        rfl
      · have outside (es : Entries) : (init ++ [es])[n]? = none :=
          List.getElem?_eq_none (by rw [List.length_append]; exact hgt)
        rw [List.dropLast_concat, outside, outside]
        rfl

/-- The layout of an array of tables with one more element. -/
theorem layout_tables_append (elements : List Entries) (es : Entries) :
    (tables (elements ++ [es])).layout =
      ((tables elements).layout.mark (.tables (elements.length + 1))).set
        (.element elements.length) (table .headed es).layout := by
  funext a
  match a with
  | [] => simp [layout_nil, mark, Layout.set, Layout.mark]
  | .key k :: a => rfl
  | .element n :: a =>
    rw [layout_cons, Layout.set]
    show ((elements ++ [es])[n]?.map (table .headed)).bind _ = _
    by_cases hn : n = elements.length
    · subst hn
      simp
    · rw [if_neg (by simpa using hn), Layout.mark]
      show _ = (elements[n]?.map (table .headed)).bind _
      rcases Nat.lt_or_gt_of_ne hn with hlt | hgt
      · rw [List.getElem?_append_left hlt]
        rfl
      · have outside : (elements ++ [es])[n]? = none :=
          List.getElem?_eq_none (by rw [List.length_append]; exact hgt)
        rw [outside, List.getElem?_eq_none (Nat.le_of_lt hgt)]
        rfl

end Item

/-! ### The assembly -/

namespace Item

/-- Only tables are marked as tables. -/
theorem eq_table_of_mark {i : Item} {kind : TableKind} (h : i.mark = .table kind) :
    ∃ es, i = table kind es := by
  cases i with
  | table =>
    cases h
    exact ⟨_, rfl⟩
  | _ => cases h

theorem eq_tables_of_mark {i : Item} {n : Nat} (h : i.mark = .tables n) :
    ∃ elements, i = tables elements ∧ elements.length = n := by
  cases i with
  | tables =>
    cases h
    exact ⟨_, rfl, rfl⟩
  | _ => cases h

end Item

/-- A change of a table's entries follows a rule on layouts. -/
def Follows (change : TableKind → Entries → Option Entries) (rule : Layout → Layout → Prop)
    (kind : TableKind) : Prop :=
  ∀ es L, rule (Item.table kind es).layout L →
    ∃ es', change kind es = some es' ∧ (Item.table kind es').layout = L

/-- **On its way to a table, the assembly follows the rules**, if it does so where the way ends. -/
theorem follows_within {made : TableKind} {change : TableKind → Entries → Option Entries}
    {rule : Layout → Layout → Prop} {path : List Key} {kind : TableKind}
    (hmade : made = .dotted ∨ made = .implied)
    (h : ∀ reached, (path = [] → reached = kind) → Follows change rule reached) :
    Follows (within made change path) (Layout.Leads made rule path) kind := by
  induction path generalizing kind with
  | nil => exact h kind fun _ => rfl
  | cons k path ih =>
    have ih {kind : TableKind} := @ih kind fun reached _ => h reached nofun
    -- one case for each thing that may stand where the path goes on
    rintro es L
      (⟨hnone, M, hM, rfl⟩ | ⟨kind', hkind, hpass, M, hM, rfl⟩ | ⟨rfl, n, htables, M, hM, rfl⟩)
    · have hlookup : es.lookup k = none := Item.layout_eq_none_iff.1 hnone
      obtain ⟨inner, hinner, rfl⟩ := @ih made [] M (by rwa [Item.layout_table_nil])
      refine ⟨put k (.table made inner) es, ?_, Item.layout_put kind es k _⟩
      rw [within, hlookup, hinner, Option.map_some]
    · obtain ⟨i, hchild, hmark⟩ := Item.layout_eq_some_iff.1 hkind
      obtain ⟨known, rfl⟩ := Item.eq_table_of_mark hmark
      have hlookup : es.lookup k = some (.table kind' known) := hchild
      rw [Item.under_layout hchild] at hM
      have hopen : ¬(kind' = .closed ∨ made = .dotted ∧ kind' = .headed) := fun h =>
        h.elim hpass.1 fun h => hpass.2 h.1 h.2
      obtain ⟨inner, hinner, rfl⟩ := ih known M hM
      refine ⟨put k (.table kind' inner) es, ?_, Item.layout_put kind es k _⟩
      rw [within, hlookup]
      simp only [if_neg hopen, hinner, Option.map_some]
    · obtain ⟨i, hchild, hmark⟩ := Item.layout_eq_some_iff.1 htables
      obtain ⟨elements, rfl, hlength⟩ := Item.eq_tables_of_mark hmark
      have hlookup : es.lookup k = some (.tables elements) := hchild
      obtain ⟨last, hlast⟩ : ∃ last, elements.getLast? = some last := by
        rw [← Option.isSome_iff_exists, List.getLast?_isSome]
        rintro rfl
        cases hlength
      obtain rfl : n = elements.length - 1 := by omega
      have helement : (Item.tables elements).child? (.element (elements.length - 1)) =
          some (.table .headed last) := by
        show elements[elements.length - 1]?.map _ = _
        rw [← List.getLast?_eq_getElem?, hlast, Option.map_some]
      rw [Item.under_layout hchild, Item.under_layout helement] at hM
      obtain ⟨last', hlast', rfl⟩ := ih last M hM
      refine ⟨put k (.tables (elements.dropLast ++ [last'])) es, ?_, ?_⟩
      · rw [within, hlookup]
        simp only [hlast, hlast', Option.map_some]
      · rw [Item.layout_put, Item.layout_tables_set_last hlast, Item.under_layout hchild]

/-- A pair of the assembly is what is given. -/
structure Pair.Means (p : Pair) (g : Given) : Prop where
  path : p.path = g.path
  key : p.key = g.key
  value : p.value.layout = g.value

/-- Pairs are added by the rules. The table that they are added to is made by no dotted key. -/
theorem exists_addPairs {kind : TableKind} (hkind : kind ≠ .dotted) {ps : List Pair}
    {gs : List Given} (h : List.Forall₂ Pair.Means ps gs) {es : Entries} {L : Layout}
    (hL : Layout.AddsAll gs (Item.table kind es).layout L) :
    ∃ es', addPairs kind es ps = some es' ∧ (Item.table kind es').layout = L := by
  induction h generalizing es with
  | nil => exact ⟨es, rfl, hL.symm⟩
  | @cons p g ps gs hp hps ih =>
    obtain ⟨M, hM, hL⟩ := hL
    obtain ⟨es₁, hadd, rfl⟩ : ∃ es₁, addPair kind es p = some es₁ ∧
        (Item.table kind es₁).layout = M := by
      rw [Layout.Adds, ← hp.path] at hM
      refine follows_within (.inl rfl) ?_ es M hM
      rintro reached hreached inner L' ⟨hdotted, hnone, rfl⟩
      have hends : (reached = .dotted) ≠ (p.path = []) := by
        by_cases hpath : p.path = []
        · simpa [hpath, hreached hpath] using hkind
        · have hmark := hdotted hpath
          rw [Item.layout_nil] at hmark
          cases hmark
          simpa using hpath
      have hlookup : inner.lookup p.key = none := by
        rw [hp.key]
        exact Item.layout_eq_none_iff.1 hnone
      refine ⟨put p.key p.value inner, ?_, ?_⟩
      · simp only [if_neg hends, hlookup]
      · rw [Item.layout_put, hp.value, hp.key]
    obtain ⟨es', hall, hL'⟩ := ih hL
    refine ⟨es', ?_, hL'⟩
    rw [addPairs, List.foldlM_cons, hadd]
    exact hall

/-- A section of the assembly is a part. -/
structure Section.Means (sec : Section) (p : Part) : Prop where
  header : sec.header = p.header
  pairs : List.Forall₂ Pair.Means sec.pairs p.given

/-- Sections are added by the rules. -/
theorem exists_addSection {sec : Section} {p : Part} (h : sec.Means p) {es : Entries} {L : Layout}
    (hL : Layout.Begins p (Item.table .headed es).layout L) :
    ∃ es', addSection es sec = some es' ∧ (Item.table .headed es').layout = L := by
  -- the pairs are added to a table with a header of its own, new or known
  have added {M : Layout} (known : Entries)
      (hM : Layout.AddsAll p.given (Item.table .headed known).layout M) :
      ∃ inner, addPairs .headed known sec.pairs = some inner ∧
        (Item.table .headed inner).layout = M :=
    exists_addPairs (by decide) h.pairs hM
  rw [Layout.Begins, ← h.header] at hL
  unfold addSection
  cases hh : sec.header with
  | table path key =>
    rw [hh] at hL
    refine follows_within (.inr rfl) ?_ es L hL
    rintro kind - parent L' (⟨hnone, M, hM, rfl⟩ | ⟨himplied, M, hM, rfl⟩)
    · have hlookup : parent.lookup key = none := Item.layout_eq_none_iff.1 hnone
      obtain ⟨inner, hinner, rfl⟩ := added [] (by rwa [Item.layout_table_nil])
      refine ⟨put key (.table .headed inner) parent, ?_, Item.layout_put kind parent key _⟩
      simp only [hlookup, hinner, Option.map_some]
    · obtain ⟨i, hchild, hmark⟩ := Item.layout_eq_some_iff.1 himplied
      obtain ⟨known, rfl⟩ := Item.eq_table_of_mark hmark
      have hlookup : parent.lookup key = some (.table .implied known) := hchild
      rw [Item.under_layout hchild, ← Item.layout_table_kind] at hM
      obtain ⟨inner, hinner, rfl⟩ := added known hM
      refine ⟨put key (.table .headed inner) parent, ?_, Item.layout_put kind parent key _⟩
      simp only [hlookup, hinner, Option.map_some]
  | element path key =>
    rw [hh] at hL
    refine follows_within (.inr rfl) ?_ es L hL
    rintro kind - parent L' ⟨M, hM, h⟩
    obtain ⟨inner, hinner, rfl⟩ := added [] (by rwa [Item.layout_table_nil])
    rcases h with ⟨hnone, rfl⟩ | ⟨n, htables, rfl⟩
    · have hlookup : parent.lookup key = none := Item.layout_eq_none_iff.1 hnone
      refine ⟨put key (.tables [inner]) parent, ?_, ?_⟩
      · simp only [hlookup, hinner, Option.map_some]
      · have first := Item.layout_tables_append [] inner
        rw [List.nil_append] at first
        rw [Item.layout_put, first,
          Item.layout_of_child? (i := .tables []) fun s => by cases s <;> rfl]
        rfl
    · obtain ⟨i, hchild, hmark⟩ := Item.layout_eq_some_iff.1 htables
      obtain ⟨elements, rfl, rfl⟩ := Item.eq_tables_of_mark hmark
      have hlookup : parent.lookup key = some (.tables elements) := hchild
      refine ⟨put key (.tables (elements ++ [inner])) parent, ?_, ?_⟩
      · simp only [hlookup, hinner, Option.map_some]
      · rw [Item.layout_put, Item.layout_tables_append, Item.under_layout hchild]

/-- **A document that the rules lay out is assembled**, to a table with that layout. -/
theorem exists_entries_of_laysOut {d : Document} {gs : List Given} {ps : List Part} {L : Layout}
    (hpairs : List.Forall₂ Pair.Means d.pairs gs)
    (hsections : List.Forall₂ Section.Means d.sections ps) (h : Layout.LaysOut gs ps L) :
    ∃ es, d.entries? = some es ∧ (Item.table .headed es).layout = L := by
  obtain ⟨M, hM, hL⟩ := h
  have run {sections : List Section} {ps : List Part}
      (hsections : List.Forall₂ Section.Means sections ps) {es : Entries}
      (hL : Layout.BeginsAll ps (Item.table .headed es).layout L) :
      ∃ es', sections.foldlM addSection es = some es' ∧ (Item.table .headed es').layout = L := by
    induction hsections generalizing es with
    | nil => exact ⟨es, rfl, hL.symm⟩
    | cons hsec _ ih =>
      obtain ⟨N, hN, hL⟩ := hL
      obtain ⟨es₁, hadd, rfl⟩ := exists_addSection hsec hN
      obtain ⟨es', hall, hL'⟩ := ih hL
      refine ⟨es', ?_, hL'⟩
      rw [List.foldlM_cons, hadd]
      exact hall
  obtain ⟨es, hes, rfl⟩ := exists_addPairs (show TableKind.headed ≠ .dotted by decide) hpairs
    (by rwa [Item.layout_table_nil])
  obtain ⟨es', hes', hL'⟩ := run hsections hL
  refine ⟨es', ?_, hL'⟩
  rw [Document.entries?, hes]
  exact hes'

/-- A closed table that the rules lay out is assembled. -/
theorem exists_closedTable_of_addsAll {ps : List Pair} {gs : List Given} {L : Layout}
    (hpairs : List.Forall₂ Pair.Means ps gs) (h : Layout.AddsAll gs (.only (.table .closed)) L) :
    ∃ i, closedTable? ps = some i ∧ i.layout = L := by
  obtain ⟨es, hes, hL⟩ := exists_addPairs (show TableKind.closed ≠ .dotted by decide) hpairs
    (by rwa [Item.layout_table_nil])
  exact ⟨.table .closed es, by rw [closedTable?, hes, Option.map_some], hL⟩

end ReleaseGate.Toml
