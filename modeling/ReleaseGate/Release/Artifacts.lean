import ReleaseGate.Config.Basic
import ReleaseGate.Files.Path
import ReleaseGate.Release.Tag

/-!
# Release documents

The documents whose content depends on the version, and where they lie.
-/

namespace ReleaseGate.Release

/-- The release documents of a tag. Their paths are relative to the root. -/
structure Artifacts where
  root : String
  changelog : String
  releaseIndex : String
  releaseNotes : String
  deriving DecidableEq, Repr

/-- The path of a file in a directory; slashes at the end of the directory's path do not count, and
without a directory the file lies at the root. -/
def notesPath (dir file : String) : String :=
  match Files.dropTrailingSlashes dir.toList with
  | [] => file
  | kept => String.ofList kept ++ "/" ++ file

/-- The documents of a tag under some settings. -/
def Artifacts.of (root : String) (paths : PathSettings) (tag : Tag) : Artifacts :=
  { root := root
    changelog := paths.changelog
    releaseIndex := paths.releaseIndex
    releaseNotes := notesPath paths.releaseNotesDir tag.notesFile }

/-- Where a document is read from. -/
def Artifacts.resolve (a : Artifacts) (path : String) : String := Files.join a.root path

end ReleaseGate.Release
