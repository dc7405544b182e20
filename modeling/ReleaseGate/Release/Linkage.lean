import ReleaseGate.Failure
import ReleaseGate.Release.Artifacts
import ReleaseGate.Release.Heading
import ReleaseGate.Release.SchemaNotes

/-!
# Linkage

The checks that link a version to its release documents: the changelog has a heading for the tag,
the index has the link to the release notes, and the release notes are a regular file. The first
check that fails is the answer. Beside them stands the rule that a schema change is documented.
-/

namespace ReleaseGate.Release

/-- The text of a document; one that is not there breaks the linkage. -/
def readArtifact (files : Files.View) (a : Artifacts) (path : String) : Except Failure String :=
  match files.read (a.resolve path) with
  | .ok text => .ok text
  | .error .missing => .error (.linkage (.missingFile path))
  | .error cause => .error (.io cause)

/-- Check that the documents of a tag are linked. -/
def checkLinkage (files : Files.View) (tag : Tag) (a : Artifacts) : Except Failure Unit := do
  let changelog ← readArtifact files a a.changelog
  if !hasReleaseHeading tag.name.toList changelog.toList then
    throw (.linkage (.missingChangelogHeading a.changelog tag.name))
  let index ← readArtifact files a a.releaseIndex
  if !Text.occursIn tag.indexLink.toList index.toList then
    throw (.linkage (.missingIndexLink a.releaseIndex tag.indexLink))
  if !files.isFile (a.resolve a.releaseNotes) then
    throw (.linkage (.missingReleaseNotes a.releaseNotes))

/-- The first of some documents that has Schema Notes. -/
def firstWithNotes (files : Files.View) (a : Artifacts) : List String →
    Except Failure (Option String)
  | [] => .ok none
  | path :: rest => do
    let text ← readArtifact files a path
    if hasSchemaNotes text.toList then return some path else firstWithNotes files a rest

/-- The document that has Schema Notes: the changelog, or else the release notes. -/
def requireSchemaNotes (files : Files.View) (tag : Tag) (a : Artifacts) :
    Except Failure String := do
  match ← firstWithNotes files a [a.changelog, a.releaseNotes] with
  | some path => return path
  | none => throw (.policy (.noSchemaNotes a.changelog a.releaseNotes tag.name))

end ReleaseGate.Release
