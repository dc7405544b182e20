import ReleaseGate.CommandLine.Program

/-!
# What a run reads

The paths that a run asks about, as far as the files that are known already tell them: the
configuration file, then the manifest that it names, then the documents of the version that the
manifest declares. When three rounds of reading these paths are done, nothing new is asked for.
-/

namespace ReleaseGate.CommandLine

/-- The path of the configuration file. -/
def configPath (root : String) (o : Options) : String :=
  o.config.getD (Files.join root Config.fileName)

/-- The paths of the documents, if the version is known. -/
def documentPaths (files : Files.View) (root : String) (paths : PathSettings) : List String :=
  match readVersion files root paths.manifest with
  | .error _ => []
  | .ok version =>
    let a := Release.Artifacts.of root paths ⟨version⟩
    [a.changelog, a.releaseIndex, a.releaseNotes].map a.resolve

/-- The paths that a run asks about. -/
def readPaths (files : Files.View) (root : String) (o : Options) : List String :=
  configPath root o ::
    match Config.load files root o.config with
    | .error _ => []
    | .ok config =>
      Files.join root config.paths.manifest :: documentPaths files root config.paths

/-- A view of what was read at some paths. Nothing is at the others. -/
def viewOf (known : List (String × Except Files.ReadFailure String)) : Files.View where
  read path := (known.lookup path).getD (.error .missing)
  isFile path :=
    match known.lookup path with
    | some (.ok _) | some (.error .notText) => true
    | _ => false
  occupied path :=
    match known.lookup path with
    | some (.ok _) | some (.error .isDirectory) | some (.error .notText) => true
    | _ => false

end ReleaseGate.CommandLine
