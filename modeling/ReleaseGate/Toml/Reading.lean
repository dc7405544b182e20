import ReleaseGate.Toml.Value

/-!
# Reading a document

A text is read line by line into pairs and headers, these are put in sections, and the sections
make the document's table. A byte order mark at the front is passed over.
-/

namespace ReleaseGate.Toml

/-- What a line of a document says. -/
inductive Statement
  | pair (p : Pair)
  | header (h : Header)

/-- Take a header after its first bracket. -/
def takeHeader (s : List Char) : Option (Header × List Char) := do
  let (isElement, s) := match s with
    | '[' :: t => (true, t)
    | t => (false, t)
  let (keys, s) ← takeKeys s
  let (_, s) ← takeChar ']' s
  let (_, s) ← if isElement then takeChar ']' s else some ((), s)
  match keys.getLast? with
  | some key => return (if isElement then .element keys.dropLast key else .table keys.dropLast key, s)
  | none => none

/-- Take a line that says something, up to and with its end. -/
def takeStatement : Scan Statement := fun s => do
  let (statement, s) ← match s with
    | '[' :: t => (takeHeader t).map fun (h, rest) => (Statement.header h, rest)
    | _ => (takePair (takeValue maxDepth) s).map fun (p, rest) => (Statement.pair p, rest)
  let (_, s) ← takeLineRest s
  return (statement, s)

/-- The statements of a text. `fuel` bounds the number of lines. -/
def statementsWith : (fuel : Nat) → List Char → Option (List Statement)
  | 0, _ => none
  | fuel + 1, s =>
    match dropBlanks s with
    | [] => some []
    | c :: t =>
      if c = '#' ∨ c = '\n' ∨ c = '\r' then do
        let (_, rest) ← takeLineRest (c :: t)
        statementsWith fuel rest
      else do
        let (statement, rest) ← takeStatement (c :: t)
        let statements ← statementsWith fuel rest
        return statement :: statements

/-- The statements put in sections. -/
def Document.ofStatements : List Statement → Document
  | [] => ⟨[], []⟩
  | .pair p :: ss =>
    let d := ofStatements ss
    { d with pairs := p :: d.pairs }
  | .header h :: ss =>
    let d := ofStatements ss
    ⟨[], ⟨h, d.pairs⟩ :: d.sections⟩

/-- The text without a byte order mark at its front. -/
def dropMark : List Char → List Char
  | '\ufeff' :: s => s
  | s => s

/-- The document that a text writes. -/
def document? (text : List Char) : Option Document :=
  (statementsWith (text.length + 1) (dropMark text)).map Document.ofStatements

/-- The table of the document that a text writes. -/
def read? (text : List Char) : Option Entries :=
  match document? text with
  | some d => d.entries?
  | none => none

end ReleaseGate.Toml
