import ReleaseGate.CommandLine.Arguments
import ReleaseGate.Config.Reading
import ReleaseGate.Diagnostics
import ReleaseGate.Line

/-!
# The program

A run of the program as a function of its arguments and of all that it sees of the world: its
working directory, its variables, the files, the repositories that its backends open, and the words
of those parts that are not its own. What it writes and its exit code are the outcome.
-/

namespace ReleaseGate.CommandLine

/-- What the program sees of the world. -/
structure World where
  /-- The absolute path of the working directory. -/
  directory : String
  lookup : String → Option String
  files : Files.View
  /-- The repository of a root through a backend. -/
  openRepository : Backend → String → Change.Repository
  /-- Whether the library finds no history from a root on. -/
  libraryFails : String → Bool := fun _ => false
  console : Console := .brief

/-- What a run leaves behind. -/
structure Outcome where
  code : Nat
  stdout : String
  stderr : String
  deriving DecidableEq, Repr

/-- The outcome with a text before all else on the error stream. -/
def Outcome.after (text : String) (o : Outcome) : Outcome := { o with stderr := text ++ o.stderr }

/-- The name of the program. -/
def programName : String := "release-readiness"

/-- The version of the program. -/
def programVersion : String := "0.1.0"

/-- The text on how to use the program. -/
def usage : String :=
  "Usage: " ++ programName ++ " [OPTIONS]\n\n" ++
    "Options:\n" ++
    "      --root <ROOT>      Repository root (defaults to the current directory)\n" ++
    "  -c, --config <CONFIG>  Custom configuration file path\n" ++
    "  -h, --help             Print help\n" ++
    "  -V, --version          Print version\n"

/-- Whether output is coloured: the variable that forces colour is set, and not to zero. -/
def World.isColoured (w : World) : Bool :=
  match w.lookup "CLICOLOR_FORCE" with
  | some value => value != "0"
  | none => false

/-- The root of a run. -/
def World.root (w : World) (o : Options) : String := o.root.getD w.directory

/-- The verdict of a run: load the configuration and run the gate with the backend that it names. -/
def verdict (w : World) (o : Options) : Except Failure Report := do
  let root := w.root o
  let config ← Config.load w.files root o.config
  runGate w.files root config (.ofLookup w.lookup) (w.openRepository config.backend root)

/-- Whether a run is cut off by the diff that the gate asks for. -/
def isCutOff (w : World) (o : Options) : Bool :=
  match Config.load w.files (w.root o) o.config with
  | .ok config =>
    gateAborts w.files (w.root o) config (.ofLookup w.lookup)
      (w.openRepository config.backend (w.root o))
  | .error _ => false

/-- What a run tells of its own steps. -/
def diagnostics (w : World) (o : Options) : List Diagnostic :=
  match Config.load w.files (w.root o) o.config with
  | .ok config =>
    let opened : List Diagnostic :=
      if config.backend = .library && w.libraryFails (w.root o) then [.libraryUnavailable] else []
    opened ++ gateDiagnostics w.files (w.root o) config (.ofLookup w.lookup)
      (w.openRepository config.backend (w.root o))
  | .error _ => []

/-- What is written of some steps: nothing, unless the variable for the filter is set. -/
def World.logged (w : World) (steps : List Diagnostic) : String :=
  match w.lookup "RUST_LOG" with
  | some filter => w.console.log filter steps
  | none => ""

/-- The outcome of a verdict: notices and failures go to the error stream, success to the other. -/
def Outcome.ofVerdict (coloured : Bool) (wording : Wording) : Except Failure Report → Outcome
  | .ok report =>
    { code := 0
      stdout := (Line.success report.tag.name).print coloured
      stderr := String.join (report.notices.map fun n => (Line.ofNotice n).print coloured) }
  | .error failure =>
    { code := 1
      stdout := ""
      stderr := (Line.error (failure.chain wording)).print coloured }

/-- The outcome of a run of the gate, apart from what it tells of its steps. -/
def Outcome.ofOptions (w : World) (o : Options) : Outcome :=
  if isCutOff w o then ⟨101, "", w.console.abortText⟩
  else ofVerdict w.isColoured w.console.wording (verdict w o)

/-- The outcome of a command. -/
def runCommand (w : World) : Command → Outcome
  | .run o => (Outcome.ofOptions w o).after (w.logged (diagnostics w o))
  | .version => ⟨0, programName ++ " " ++ programVersion ++ "\n", w.logged []⟩
  | .help => ⟨0, usage, w.logged []⟩
  | .misuse => ⟨2, "", w.logged [] ++ "error: invalid arguments\n\n" ++ usage⟩

/-- The outcome of the program. -/
def run (w : World) (args : List String) : Outcome := runCommand w (.ofArguments args)

end ReleaseGate.CommandLine
