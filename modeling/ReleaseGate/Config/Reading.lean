import ReleaseGate.Config.Basic
import ReleaseGate.Failure
import ReleaseGate.Files.View
import ReleaseGate.Toml.Reading

/-!
# Reading a configuration

A configuration is a document with the tables `paths`, `schema` and `git`. Every table and every
key may be missing and then has its default; unknown keys say nothing. A section may also be
written as an array of its values in order, and the backend as a table with one key.
-/

namespace ReleaseGate

open Toml (Item Entries Key)

/-- What a section gives for each of its keys, if it has the form of a section: a table, or an
array of the values in order. A moment is taken for a section that says nothing. -/
def sectionFields (keys : List Key) : Item → Option (List (Option Item))
  | .table _ entries => some (keys.map fun key => entries.lookup key)
  | .array items => some ((List.range keys.length).map fun i => items[i]?)
  | .tables elements =>
    some ((List.range keys.length).map fun i => elements[i]?.map (.table .headed))
  | .moment _ => some (keys.map fun _ => none)
  | _ => none

/-- The value of a key, or its default where the key is missing. -/
def fieldOr {α : Type} (default : α) (read : Item → Option α) : Option Item → Option α
  | none => some default
  | some item => read item

/-- The text of an item. -/
def textOf? : Item → Option String
  | .string text => some (String.ofList text)
  | _ => none

/-- The texts of an array of texts. -/
def textsOf? : Item → Option (List String)
  | .array items => items.mapM textOf?
  | .tables [] => some []
  | _ => none

/-- Whether an item is an empty table or an empty array. -/
def isEmptyItem : Item → Bool
  | .table _ [] => true
  | .array [] => true
  | .tables [] => true
  | _ => false

/-- The backend of a name. -/
def Backend.ofName? (name : List Char) : Option Backend :=
  if name = "system".toList then some .system
  else if name = "libgit2".toList then some .library
  else none

/-- The backend that an item gives: its name, or a table with the name as its only key, for which
nothing stands. -/
def Backend.ofItem? : Item → Option Backend
  | .string name => ofName? name
  | .table _ [(name, item)] => if isEmptyItem item then ofName? name else none
  | _ => none

/-- The keys of the section on paths, in order. -/
def PathSettings.keys : List Key :=
  ["manifest".toList, "changelog".toList, "release_index".toList, "release_notes_dir".toList]

/-- The settings on paths that an item gives. -/
def PathSettings.ofItem? (item : Item) : Option PathSettings :=
  match sectionFields keys item with
  | some [manifest, changelog, index, notesDir] => do
    let d := PathSettings.default
    return {
      manifest := ← fieldOr d.manifest textOf? manifest
      changelog := ← fieldOr d.changelog textOf? changelog
      releaseIndex := ← fieldOr d.releaseIndex textOf? index
      releaseNotesDir := ← fieldOr d.releaseNotesDir textOf? notesDir }
  | _ => none

/-- The keys of the section on schemas, in order. -/
def SchemaSettings.keys : List Key := ["diff_paths".toList, "extra_patterns".toList]

/-- The settings on schemas that an item gives. -/
def SchemaSettings.ofItem? (item : Item) : Option SchemaSettings :=
  match sectionFields keys item with
  | some [diffPaths, patterns] => do
    let d := SchemaSettings.default
    return {
      diffPaths := ← fieldOr d.diffPaths textsOf? diffPaths
      extraPatterns := ← fieldOr d.extraPatterns textsOf? patterns }
  | _ => none

/-- The key of the section on history. -/
def Backend.keys : List Key := ["backend".toList]

/-- The backend that the section on history gives. -/
def Backend.ofSection? (item : Item) : Option Backend :=
  match sectionFields keys item with
  | some [backend] => fieldOr Config.default.backend ofItem? backend
  | _ => none

namespace Config

/-- The configuration that a document's table gives. -/
def ofEntries? (es : Entries) : Option Config := do
  return {
    paths := ← fieldOr .default PathSettings.ofItem? (es.lookup "paths".toList)
    schema := ← fieldOr .default SchemaSettings.ofItem? (es.lookup "schema".toList)
    backend := ← fieldOr Config.default.backend Backend.ofSection? (es.lookup "git".toList) }

/-- The configuration that a text writes. -/
def ofText? (text : List Char) : Option Config :=
  match Toml.read? text with
  | some es => ofEntries? es
  | none => none

/-- The configuration in the file at a path. -/
def readFile (files : Files.View) (path : String) : Except Failure Config :=
  match files.read path with
  | .error cause => .error (.config (.unreadable path cause))
  | .ok text =>
    match ofText? text.toList with
    | some config => .ok config
    | none => .error (.config (.malformed path text))

/-- The name of the configuration file at the root. -/
def fileName : String := "release-readiness.toml"

/-- The configuration of a run: from the file that was asked for, or else from the one at the root
if there is one, or else the default. -/
def load (files : Files.View) (root : String) (path : Option String) : Except Failure Config :=
  match path with
  | some path => readFile files path
  | none =>
    let path := Files.join root fileName
    if files.occupied path then readFile files path else .ok .default

end Config

end ReleaseGate
