/-!
# Configuration

The settings of a run and their defaults: where the documents lie, what counts as a schema change,
and how history is reached.
-/

namespace ReleaseGate

/-- Where the documents lie, relative to the root. -/
structure PathSettings where
  manifest : String
  changelog : String
  releaseIndex : String
  releaseNotesDir : String
  deriving DecidableEq, Repr

/-- What is looked at for schema changes. -/
structure SchemaSettings where
  /-- The paths whose changes are looked at. -/
  diffPaths : List String
  /-- Patterns that count as markers beside the built-in ones. -/
  extraPatterns : List String
  deriving DecidableEq, Repr

/-- How history is reached. -/
inductive Backend
  /-- By the version-control program of the system. -/
  | system
  /-- By the version-control library. -/
  | library
  deriving DecidableEq, Repr

/-- The settings of a run. -/
structure Config where
  paths : PathSettings
  schema : SchemaSettings
  backend : Backend
  deriving DecidableEq, Repr

/-- The usual layout of a package. -/
def PathSettings.default : PathSettings :=
  { manifest := "Cargo.toml"
    changelog := "CHANGELOG.md"
    releaseIndex := "docs/release-notes/README.md"
    releaseNotesDir := "docs/release-notes" }

/-- Sources, tests and documents are looked at, for the built-in markers. -/
def SchemaSettings.default : SchemaSettings :=
  { diffPaths := ["src", "tests", "docs"], extraPatterns := [] }

/-- The settings where nothing is said. -/
def Config.default : Config :=
  { paths := .default, schema := .default, backend := .system }

end ReleaseGate
