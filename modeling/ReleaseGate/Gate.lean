import ReleaseGate.Change.Range
import ReleaseGate.Change.Signal
import ReleaseGate.Notice
import ReleaseGate.Release.Declaration
import ReleaseGate.Release.Linkage

/-!
# The release gate

The checks of a release in their order: the extra patterns, the version of the manifest, its
linkage, and the schema rule on the range of changes. What only limits the view on history gives a
notice; everything else that is wrong fails the gate.
-/

namespace ReleaseGate

/-- What the schema check concluded. -/
inductive SchemaOutcome
  /-- It did not run; a notice says why. -/
  | skipped
  /-- No schema marker changed in the range. -/
  | unchanged (range : Change.Range)
  /-- A schema marker changed and the document `notes` says so. -/
  | documented (range : Change.Range) (notes : String)
  deriving DecidableEq, Repr

/-- What the gate found about a release that is ready. -/
structure Report where
  version : String
  schema : SchemaOutcome
  notices : List Notice
  deriving DecidableEq, Repr

/-- The tag of the release. -/
def Report.tag (r : Report) : Release.Tag := ⟨r.version⟩

/-- The version that the manifest declares. -/
def readVersion (files : Files.View) (root manifest : String) : Except Failure String :=
  match files.read (Files.join root manifest) with
  | .error .missing => .error (.config (.missingManifest manifest))
  | .error cause => .error (.io cause)
  | .ok text =>
    match Release.declaredVersion? text.toList with
    | some v => .ok (String.ofList v)
    | none => .error (.config (.noVersion manifest))

/-- The detector of the settings. -/
def detectorOf (config : Config) : Except Failure Change.Detector :=
  match Change.Detector.ofPatterns config.schema.extraPatterns with
  | .ok d => .ok d
  | .error pattern => .error (.config (.badPattern pattern))

/-- The schema check: what it concludes, and the notice where it could not look. -/
def checkSchema (files : Files.View) (config : Config) (env : Change.Environment)
    (repo : Change.Repository) (detector : Change.Detector) (tag : Release.Tag)
    (artifacts : Release.Artifacts) : Except Failure (SchemaOutcome × List Notice) :=
  match Change.resolve? env repo with
  | none => .ok (.skipped, [.noChangeRange])
  | some range =>
    match repo.diff range config.schema.diffPaths with
    | .error failure =>
      if failure.isVersionControl then
        .ok (.skipped, [.diffUnavailable range.text failure.message])
      else .error failure
    | .ok diff =>
      match detector.firstSignal? diff.toList with
      | none => .ok (.unchanged range, [])
      | some _ => do
        let notes ← Release.requireSchemaNotes files tag artifacts
        return (.documented range notes, [])

/-- Run the gate on the documents below a root, with a repository that answers. -/
def runGate (files : Files.View) (root : String) (config : Config) (env : Change.Environment)
    (repo : Change.Repository) : Except Failure Report := do
  let detector ← detectorOf config
  let version ← readVersion files root config.paths.manifest
  let tag : Release.Tag := ⟨version⟩
  let artifacts := Release.Artifacts.of root config.paths tag
  Release.checkLinkage files tag artifacts
  let (schema, notices) ← checkSchema files config env repo detector tag artifacts
  return ⟨version, schema, notices⟩

/-- The range whose diff a run of the gate asks for: the one that is found, once the version is
linked. -/
def diffRange? (files : Files.View) (root : String) (config : Config) (env : Change.Environment)
    (repo : Change.Repository) : Option Change.Range :=
  match detectorOf config, readVersion files root config.paths.manifest with
  | .ok _, .ok version =>
    match Release.checkLinkage files ⟨version⟩ (.of root config.paths ⟨version⟩) with
    | .ok () => Change.resolve? env repo
    | .error _ => none
  | _, _ => none

/-- Whether a run of the gate is cut off by the diff that it asks for. -/
def gateAborts (files : Files.View) (root : String) (config : Config) (env : Change.Environment)
    (repo : Change.Repository) : Bool :=
  match diffRange? files root config env repo with
  | some range => repo.aborts range config.schema.diffPaths
  | none => false

end ReleaseGate
