/-!
# Release tags

The tag of a release is the letter `v` and its version. The changelog heading, the name of the
release-notes file and the link in the index are all built from it.
-/

namespace ReleaseGate.Release

/-- The tag of a release, told by its version. -/
structure Tag where
  version : String
  deriving DecidableEq, Repr

namespace Tag

/-- The tag as text. -/
def name (t : Tag) : String := "v" ++ t.version

/-- The heading of the release in the changelog. -/
def changelogHeading (t : Tag) : String := "## " ++ t.name

/-- The name of the release-notes file. -/
def notesFile (t : Tag) : String := "RELEASE_NOTES_" ++ t.name ++ ".md"

/-- The link to the release notes in the index. -/
def indexLink (t : Tag) : String := "[" ++ t.name ++ "](" ++ t.notesFile ++ ")"

end Tag

end ReleaseGate.Release
