import ReleaseGate.Files.View

/-!
# Failures

Why a check fails, and the wording of each failure. A failure of version control is told apart
(`isVersionControl`): it never fails a release. What the readers of patterns and of documents say of
a text that they refuse is theirs (`Wording`); messages quote it as it is. A notice never does: it is
about a failure of version control, in which the readers have no say (`message_of_isVersionControl`).
-/

namespace ReleaseGate

/-- A broken link between the version and the release documents. Paths are relative to the root. -/
inductive LinkageViolation
  /-- A document that has to be read is not there. -/
  | missingFile (path : String)
  | missingChangelogHeading (changelog tag : String)
  | missingIndexLink (index link : String)
  | missingReleaseNotes (path : String)
  deriving DecidableEq, Repr

/-- A fault in the configuration or in the manifest. -/
inductive ConfigFault
  | missingManifest (path : String)
  | noVersion (path : String)
  /-- An extra pattern that is not valid. -/
  | badPattern (pattern : String)
  | unreadable (path : String) (cause : Files.ReadFailure)
  /-- A configuration file with a text that is no document, or not one of a configuration. -/
  | malformed (path text : String)
  /-- A fault that its finder put into words. -/
  | stated (text : String)
  deriving DecidableEq, Repr

/-- A broken release policy. -/
inductive PolicyBreach
  /-- A schema changed and neither document has Schema Notes. -/
  | noSchemaNotes (changelog notes tag : String)
  /-- A breach that its finder put into words. -/
  | stated (text : String)
  deriving DecidableEq, Repr

/-- Why a check fails. -/
inductive Failure
  | config (fault : ConfigFault)
  | linkage (violation : LinkageViolation)
  | policy (breach : PolicyBreach)
  /-- A failure inside the version-control library. -/
  | git (text : String)
  /-- A version-control request that was refused. -/
  | gitCommand (text : String)
  | io (cause : Files.ReadFailure)
  deriving DecidableEq, Repr

/-- What the readers of patterns and of documents say of a text that they refuse. -/
structure Wording where
  pattern : String → String
  document : String → String

/-- Readers that say no more than that they refuse a text. -/
def Wording.brief : Wording where
  pattern _ := "not a valid pattern"
  document _ := "not a valid configuration"

/-- The wording of a broken link. -/
def LinkageViolation.message : LinkageViolation → String
  | missingFile path => "missing required file: `" ++ path ++ "`"
  | missingChangelogHeading changelog tag =>
    "`" ++ changelog ++ "` is missing a release heading for `" ++ tag ++ "`"
  | missingIndexLink index link =>
    "`" ++ index ++ "` is missing the current version link `" ++ link ++ "`"
  | missingReleaseNotes path => "missing versioned release notes file: `" ++ path ++ "`"

/-- The wording of a fault. -/
def ConfigFault.message (w : Wording) : ConfigFault → String
  | missingManifest path => "missing required file: " ++ path
  | noVersion path => "could not parse package version from " ++ path
  | badPattern pattern => "invalid schema pattern '" ++ pattern ++ "': " ++ w.pattern pattern
  | unreadable path cause => "cannot read config file " ++ path ++ ": " ++ cause.message
  | malformed path text => "invalid config file " ++ path ++ ": " ++ w.document text
  | stated text => text

/-- The wording of a broken policy. -/
def PolicyBreach.message : PolicyBreach → String
  | noSchemaNotes changelog notes tag =>
    "schema-like constants changed, but no `Schema Notes` section was found in `" ++ changelog ++
      "` or `" ++ notes ++ "` for `" ++ tag ++ "`. Add a `### Schema Notes` (or `## Schema Notes`) " ++
      "section describing compatibility impact."
  | stated text => text

namespace Failure

/-- What the wording of a failure starts with. -/
def heading : Failure → String
  | config _ => "Configuration error: "
  | linkage _ => "Linkage error: "
  | policy _ => "Policy error: "
  | git _ => "Git operation failed: "
  | gitCommand _ => "Git command failed: "
  | io _ => "I/O error: "

/-- What a failure says beside its heading. -/
def detail (w : Wording) : Failure → String
  | config fault => fault.message w
  | linkage violation => violation.message
  | policy breach => breach.message
  | git text => text
  | gitCommand text => text
  | io cause => cause.message

/-- The wording of a failure. -/
def message (f : Failure) (w : Wording := .brief) : String := f.heading ++ f.detail w

/-- Whether version control failed. -/
def isVersionControl : Failure → Bool
  | git _ | gitCommand _ => true
  | _ => false

/-- **The readers have no say** in a failure of version control. -/
theorem message_of_isVersionControl {f : Failure} (h : f.isVersionControl = true) (w : Wording) :
    f.message w = f.message := by
  cases f <;> first | rfl | cases h

/-- The failure behind a failure, where there is one. -/
def cause? : Failure → Option String
  | linkage violation => some violation.message
  | git text => some text
  | io cause => some cause.message
  | _ => none

/-- The wording of a failure with the failure behind it. -/
def chain (f : Failure) (w : Wording := .brief) : String :=
  match f.cause? with
  | some text => f.message w ++ ": " ++ text
  | none => f.message w

end Failure

end ReleaseGate
