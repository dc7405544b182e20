import ReleaseGate.Pattern.Reader
import ReleaseGate.Text.Search

/-!
# Schema markers

A marker is a piece of text that tells a schema: one of two constant names, a schema identifier
such as `openagent.wire.v3`, or a match of an extra pattern. Extra patterns are added to the
built-in markers; they never replace them.
-/

namespace ReleaseGate.Change

/-- The names of schema constants that are markers wherever they stand. -/
def markerNames : List (List Char) := ["SCHEMA_VERSION".toList, "schema_version".toList]

/-- How a schema identifier starts. -/
def identifierStart : List Char := "openagent.".toList

/-- The characters between the start of a schema identifier and its version. -/
def isIdentifierChar (c : Char) : Bool := Unicode.isWord c || c == '.' || c == '-'

/-- A version at the front: `.v` and a digit. -/
def startsVersion : List Char → Bool
  | '.' :: 'v' :: d :: _ => Unicode.isDigit d
  | _ => false

/-- Whether a version follows at least one character of an identifier's middle. -/
def versionFollows : List Char → Bool
  | [] => false
  | c :: s => isIdentifierChar c && (startsVersion s || versionFollows s)

/-- Whether a schema identifier stands somewhere in the text. -/
def hasIdentifier : List Char → Bool
  | [] => false
  | c :: s =>
    (match Text.stripStart? identifierStart (c :: s) with
      | some rest => versionFollows rest
      | none => false) || hasIdentifier s

/-- Whether one of the built-in markers stands in the text. -/
def hasBuiltinMarker (text : List Char) : Bool :=
  markerNames.any (fun name => Text.occursIn name text) || hasIdentifier text

/-- What tells a marker: the built-in ones and the extra patterns. -/
structure Detector where
  extra : List Pattern.Expr

/-- The first of some patterns that is not valid. -/
def firstInvalid? (patterns : List String) : Option String :=
  patterns.find? fun p => !Pattern.isValid p.toList

/-- A detector with extra patterns, or the first of them that is not valid. -/
def Detector.ofPatterns (patterns : List String) : Except String Detector :=
  match firstInvalid? patterns with
  | some p => .error p
  | none => .ok ⟨patterns.filterMap fun p => Pattern.read? p.toList⟩

/-- Whether a marker stands in the text. -/
def Detector.isMarker (d : Detector) (text : List Char) : Bool :=
  hasBuiltinMarker text || d.extra.any fun p => Pattern.found p text

end ReleaseGate.Change
