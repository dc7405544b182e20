import ReleaseGate.Toml.Item

/-!
# Assembly

From the pairs and headers of a document to its table. A key is given once; a header names a table
that no other header or dotted key made; a table in braces is complete; a dotted key does not reach
into a table that a header made.
-/

namespace ReleaseGate.Toml

/-- A pair: a value under a key, and the dotted keys before that key. -/
structure Pair where
  path : List Key
  key : Key
  value : Item

/-- A header. -/
inductive Header
  /-- The pairs that follow belong to one table. -/
  | table (path : List Key) (key : Key)
  /-- The pairs that follow belong to a new element of an array of tables. -/
  | element (path : List Key) (key : Key)

/-- A header and the pairs after it. -/
structure Section where
  header : Header
  pairs : List Pair

/-- A document: the pairs before the first header, and the sections. -/
structure Document where
  pairs : List Pair
  sections : List Section

/-- Change the table at a path. Tables that are missing on the way are made, as ones of the kind
`made`; the last element stands for an array of tables. -/
def within (made : TableKind) (change : TableKind → Entries → Option Entries) :
    (path : List Key) → TableKind → Entries → Option Entries
  | [], kind, es => change kind es
  | key :: path, _, es =>
    match es.lookup key with
    | none => (within made change path made []).map fun inner => put key (.table made inner) es
    | some (.table kind inner) =>
      if kind = .closed ∨ (made = .dotted ∧ kind = .headed) then none
      else
        (within made change path kind inner).map fun inner' => put key (.table kind inner') es
    | some (.tables elements) =>
      match elements.getLast? with
      | none => none
      | some last =>
        (within made change path .headed last).map fun last' =>
          put key (.tables (elements.dropLast ++ [last'])) es
    | some _ => none

/-- Add a pair to a table. A dotted key ends in a table that dotted keys made. -/
def addPair (kind : TableKind) (es : Entries) (p : Pair) : Option Entries :=
  within .dotted
    (fun reached inner =>
      if (reached = .dotted) = (p.path = []) then none
      else
        match inner.lookup p.key with
        | none => some (put p.key p.value inner)
        | some _ => none)
    p.path kind es

/-- Add pairs to a table. -/
def addPairs (kind : TableKind) (es : Entries) (ps : List Pair) : Option Entries :=
  ps.foldlM (addPair kind) es

/-- The table in braces that pairs make. -/
def closedTable? (ps : List Pair) : Option Item :=
  (addPairs .closed [] ps).map (.table .closed)

/-- Add a section to a document's table. A table that was only implied so far keeps what it has. -/
def addSection (es : Entries) (sec : Section) : Option Entries :=
  match sec.header with
  | .table path key =>
    within .implied
      (fun _ parent =>
        match parent.lookup key with
        | none =>
          (addPairs .headed [] sec.pairs).map fun inner => put key (.table .headed inner) parent
        | some (.table .implied known) =>
          (addPairs .headed known sec.pairs).map fun inner => put key (.table .headed inner) parent
        | some _ => none)
      path .headed es
  | .element path key =>
    within .implied
      (fun _ parent =>
        match parent.lookup key with
        | none => (addPairs .headed [] sec.pairs).map fun inner => put key (.tables [inner]) parent
        | some (.tables elements) =>
          (addPairs .headed [] sec.pairs).map fun inner =>
            put key (.tables (elements ++ [inner])) parent
        | some _ => none)
      path .headed es

/-- The table of a document. -/
def Document.entries? (d : Document) : Option Entries := do
  let es ← addPairs .headed [] d.pairs
  d.sections.foldlM addSection es

end ReleaseGate.Toml
