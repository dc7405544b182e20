import ReleaseGate.Change.Scripted
import ReleaseGate.CommandLine.Reads
import ReleaseGate.Text.Utf8

/-!
# Main

Runs the program: reads the files that a run asks about, and writes its outcome. History is not
reached from here, so a run ends in the notice that there is no range of changes to look at.
-/

namespace ReleaseGate

/-- Why a file could not be read, by the system's error. -/
def failureOf : IO.Error → Files.ReadFailure
  | .noFileOrDirectory _ _ _ | .noSuchThing _ _ _ => .missing
  | .inappropriateType _ code _ => if code == 20 then .notDirectory else .isDirectory
  | .illegalOperation _ _ => .isDirectory
  | .otherError code _ =>
    if code == 20 then .notDirectory else if code == 36 then .nameTooLong else .isDirectory
  | _ => .missing

/-- Read the file at a path. -/
def readPath (path : String) : IO (Except Files.ReadFailure String) := do
  if path.toList.contains '\x00' then return .error .nulInPath
  match ← (IO.FS.readBinFile path).toBaseIO with
  | .error e => return .error (failureOf e)
  | .ok content =>
    match Text.Utf8.decode? content.toList with
    | some text => return .ok (String.ofList text)
    | none => return .error .notText

/-- Read what a run asks about, as often as reading may bring up new paths. -/
def gather (root : String) (o : CommandLine.Options) : (rounds : Nat) →
    List (String × Except Files.ReadFailure String) →
    IO (List (String × Except Files.ReadFailure String))
  | 0, known => return known
  | rounds + 1, known => do
    let paths := CommandLine.readPaths (CommandLine.viewOf known) root o
    let new := (paths.filter fun p => (known.lookup p).isNone).eraseDups
    let read ← new.mapM fun p => return (p, ← readPath p)
    gather root o rounds (known ++ read)

/-- The variables that the program looks at. -/
def variableNames : List String :=
  ["GITHUB_EVENT_NAME", "GITHUB_BASE_SHA", "GITHUB_SHA", "GITHUB_EVENT_BEFORE", "CLICOLOR_FORCE",
    "RUST_LOG"]

end ReleaseGate

open ReleaseGate in
/-- Run the program. -/
def main (args : List String) : IO UInt32 := do
  let directory := toString (← IO.currentDir)
  let environment ← variableNames.filterMapM fun name => do
    return (← IO.getEnv name).map fun value => (name, value)
  let known ← match CommandLine.Command.ofArguments args with
    | .run o => gather (o.root.getD directory) o 3 []
    | _ => pure []
  let world : CommandLine.World :=
    { directory := directory
      lookup := fun name => environment.lookup name
      files := CommandLine.viewOf known
      openRepository := fun _ _ => Change.Script.empty.repository
      libraryFails := fun _ => true }
  let outcome := CommandLine.run world args
  IO.print outcome.stdout
  IO.eprint outcome.stderr
  return outcome.code.toUInt32
