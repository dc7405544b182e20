/-!
# Items

What a key of a document stands for: a simple value, an array, a table, or an array of tables that
was made by headers. Tables remember how they came about, for that decides what may still be added
to them. Floats and moments are kept as they are written.
-/

namespace ReleaseGate.Toml

/-- A key of a table. -/
abbrev Key := List Char

/-- How a table came about. -/
inductive TableKind
  /-- Named by a header of its own, or the top of the document. -/
  | headed
  /-- Implied by the header of a table below it. -/
  | implied
  /-- Made by a dotted key. -/
  | dotted
  /-- Written in braces. -/
  | closed
  deriving DecidableEq, Repr

/-- What a key stands for. -/
inductive Item
  | string (text : List Char)
  | integer (n : Int)
  | float (text : List Char)
  | boolean (b : Bool)
  /-- A date, a time of day, or both. -/
  | moment (text : List Char)
  | array (items : List Item)
  | table (kind : TableKind) (entries : List (Key × Item))
  /-- An array of tables, each of them begun by a header. -/
  | tables (elements : List (List (Key × Item)))

/-- The entries of a table. -/
abbrev Entries := List (Key × Item)

/-- The entries with an item under a key, in the place of the one that was there. -/
def put (key : Key) (item : Item) : Entries → Entries
  | [] => [(key, item)]
  | (k, i) :: es => if k = key then (k, item) :: es else (k, i) :: put key item es

theorem lookup_put_self (key : Key) (item : Item) (es : Entries) :
    (put key item es).lookup key = some item := by
  induction es with
  | nil => simp [put]
  | cons e es ih =>
    obtain ⟨k, i⟩ := e
    by_cases h : k = key
    · simp only [put, h, if_true, List.lookup_cons_self]
    · have hk : (key == k) = false := by simpa using Ne.symm h
      simp only [put, h, if_false, List.lookup_cons, hk, ih]

theorem lookup_put_other {key other : Key} (item : Item) (es : Entries) (h : other ≠ key) :
    (put key item es).lookup other = es.lookup other := by
  have ho : (other == key) = false := by simpa using h
  induction es with
  | nil => simp [put, List.lookup_cons, ho]
  | cons e es ih =>
    obtain ⟨k, i⟩ := e
    by_cases hk : k = key
    · subst hk
      simp [put, List.lookup_cons, ho]
    · simp [put, hk, List.lookup_cons, ih]

end ReleaseGate.Toml
