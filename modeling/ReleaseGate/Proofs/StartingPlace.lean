import ReleaseGate.CommandLine.Workspace
import ReleaseGate.Proofs.Relocation

/-!
# Where the program is started

A run takes its root from the option or from the directory where it is started, and everything else
from the root: the configuration file, the documents and the history. Behind an absolute root every
path is absolute, and an absolute path leads to the same from every directory
(`Files.Tree.locate_of_isAbsolute`). So a run in a directory and a run anywhere else that names this
directory leave the same behind (`run_root`).
-/

namespace ReleaseGate

/-! ### Absolute paths -/

namespace Files

variable {root path : String}

theorem isAbsolute_join_of_isAbsolute (hroot : isAbsolute root = true) (path : String) :
    isAbsolute (join root path) = true := by
  cases h : isAbsolute path with
  | true => rwa [join, if_pos h]
  | false => rwa [isAbsolute_join h]

namespace Tree

variable (t : Tree) (cwd cwd' : Place)

/-- An absolute path leads to the same from every directory. -/
theorem locate_of_isAbsolute (hpath : isAbsolute path = true) :
    t.locate cwd path = t.locate cwd' path := by
  unfold locate
  rw [if_pos hpath, if_pos hpath]

theorem read_of_isAbsolute (hpath : isAbsolute path = true) :
    (t.view cwd).read path = (t.view cwd').read path :=
  read_congr (congrArg _ (locate_of_isAbsolute t cwd cwd' hpath))

theorem occupied_of_isAbsolute (hpath : isAbsolute path = true) :
    (t.view cwd).occupied path = (t.view cwd').occupied path :=
  congrArg Except.isOk (locate_of_isAbsolute t cwd cwd' hpath)

/-- From an absolute root the same is seen, wherever one stands. -/
theorem below_of_isAbsolute (hroot : isAbsolute root = true) :
    (t.view cwd).below root = (t.view cwd').below root := by
  have absolute := isAbsolute_join_of_isAbsolute hroot
  unfold View.below
  congr 1 <;> funext path
  · exact read_of_isAbsolute t cwd cwd' (absolute path)
  · exact isFile_congr (congrArg _ (locate_of_isAbsolute t cwd cwd' (absolute path)))
  · exact occupied_of_isAbsolute t cwd cwd' (absolute path)

end Tree

end Files

/-! ### History -/

namespace History

variable (w : Workspace) {root : String} (cwd : Files.Place)

theorem directory?_of_isAbsolute (hroot : Files.isAbsolute root = true) :
    Workspace.directory? { w with cwd := cwd } root = w.directory? root := by
  have hne : root ≠ "" := by
    rintro rfl
    cases hroot
  rw [Workspace.directory?, Workspace.directory?, if_neg hne, if_neg hne,
    w.tree.locate_of_isAbsolute cwd w.cwd hroot]

theorem programRepository_of_isAbsolute (hroot : Files.isAbsolute root = true) :
    programRepository { w with cwd := cwd } root = programRepository w root := by
  have hdir := directory?_of_isAbsolute w cwd hroot
  have htext : noDirectoryText { w with cwd := cwd } root = noDirectoryText w root := by
    unfold noDirectoryText
    rw [w.tree.locate_of_isAbsolute cwd w.cwd hroot]
  have hdiff : programDiff { w with cwd := cwd } root = programDiff w root := by
    funext range paths
    rw [programDiff, programDiff, hdir, htext]
    rfl
  have hfinds : programFinds { w with cwd := cwd } root = programFinds w root := by
    funext rev
    rw [programFinds, programFinds, hdir]
    rfl
  rw [programRepository, programRepository, hdiff, hfinds]

theorem discover?_of_isAbsolute (hroot : Files.isAbsolute root = true) :
    Workspace.discover? { w with cwd := cwd } root = w.discover? root := by
  rw [Workspace.discover?, Workspace.discover?, w.tree.locate_of_isAbsolute cwd w.cwd hroot]
  rfl

/-- An absolute root has the same history through either backend, wherever one stands. -/
theorem openRepository_of_isAbsolute (backend : Backend) (hroot : Files.isAbsolute root = true) :
    openRepository backend { w with cwd := cwd } root = openRepository backend w root := by
  cases backend with
  | system => exact programRepository_of_isAbsolute w cwd hroot
  | library =>
    rw [openRepository, openRepository, discover?_of_isAbsolute w cwd hroot,
      programRepository_of_isAbsolute w cwd hroot]

theorem isAbsolute_placePath (place : Files.Place) :
    Files.isAbsolute (placePath place) = true := by
  rw [Files.isAbsolute, placePath, String.toList_append]
  rfl

end History

/-! ### Runs -/

theorem Config.load_of_isAbsolute (t : Files.Tree) (cwd cwd' : Files.Place) {root : String}
    {path : Option String} (hroot : Files.isAbsolute root = true)
    (hpath : ∀ p ∈ path, Files.isAbsolute p = true) :
    Config.load (t.view cwd) root path = Config.load (t.view cwd') root path := by
  cases path with
  | some p => rw [load, load, readFile, readFile, t.read_of_isAbsolute cwd cwd' (hpath p rfl)]
  | none =>
    have absolute := Files.isAbsolute_join_of_isAbsolute hroot fileName
    simp only [load, readFile, t.read_of_isAbsolute cwd cwd' absolute,
      t.occupied_of_isAbsolute cwd cwd' absolute]

namespace CommandLine

open History (placePath Workspace)

variable (w : Workspace) (lookup : String → Option String) (console : Console)

section

variable {root : String} {config : Option String} (cwd : Files.Place)
  (hroot : Files.isAbsolute root = true) (hconfig : ∀ p ∈ config, Files.isAbsolute p = true)

include hroot hconfig

/-- Under an absolute root, and with no configuration file named or an absolute one, the verdict is
the same wherever the program is started. -/
theorem verdict_of_isAbsolute :
    verdict (.ofWorkspace { w with cwd := cwd } lookup console) ⟨some root, config⟩ =
      verdict (.ofWorkspace w lookup console) ⟨some root, config⟩ := by
  simp only [verdict, World.root, World.ofWorkspace, Option.getD_some,
    Config.load_of_isAbsolute w.tree cwd w.cwd hroot hconfig,
    History.openRepository_of_isAbsolute w cwd _ hroot, runGate_below _ root,
    w.tree.below_of_isAbsolute cwd w.cwd hroot]

theorem isCutOff_of_isAbsolute :
    isCutOff (.ofWorkspace { w with cwd := cwd } lookup console) ⟨some root, config⟩ =
      isCutOff (.ofWorkspace w lookup console) ⟨some root, config⟩ := by
  simp only [isCutOff, World.root, World.ofWorkspace, Option.getD_some,
    Config.load_of_isAbsolute w.tree cwd w.cwd hroot hconfig,
    History.openRepository_of_isAbsolute w cwd _ hroot, gateAborts_below _ root,
    w.tree.below_of_isAbsolute cwd w.cwd hroot]

theorem diagnostics_of_isAbsolute :
    diagnostics (.ofWorkspace { w with cwd := cwd } lookup console) ⟨some root, config⟩ =
      diagnostics (.ofWorkspace w lookup console) ⟨some root, config⟩ := by
  simp only [diagnostics, World.root, World.ofWorkspace, Option.getD_some,
    Config.load_of_isAbsolute w.tree cwd w.cwd hroot hconfig,
    History.discover?_of_isAbsolute w cwd hroot,
    History.openRepository_of_isAbsolute w cwd _ hroot, gateDiagnostics_below _ root,
    w.tree.below_of_isAbsolute cwd w.cwd hroot]
  rfl

/-- So is all that the run leaves behind. -/
theorem runCommand_of_isAbsolute :
    runCommand (.ofWorkspace { w with cwd := cwd } lookup console) (.run ⟨some root, config⟩) =
      runCommand (.ofWorkspace w lookup console) (.run ⟨some root, config⟩) := by
  rw [runCommand, runCommand, Outcome.ofOptions, Outcome.ofOptions,
    verdict_of_isAbsolute w lookup console cwd hroot hconfig,
    isCutOff_of_isAbsolute w lookup console cwd hroot hconfig,
    diagnostics_of_isAbsolute w lookup console cwd hroot hconfig]
  rfl

end

/-- The option that names an absolute root. -/
theorem ofArguments_root {root : String} (hroot : Files.isAbsolute root = true) :
    Command.ofArguments ["--root", root] = .run ⟨some root, none⟩ := by
  have hfirst := beq_iff_eq.1 hroot
  have hvalue : isValue root = true := by
    rw [isValue, hfirst, Bool.or_eq_true]
    exact .inr rfl
  have hne : root ≠ "" := by
    rintro rfl
    cases hroot
  have harg : Argument.ofText "--root" = .option .root none := by decide
  simp only [Command.ofArguments, Command.read, harg, if_pos hvalue, Options.set?, if_neg hne]
  rfl

/-- **Where the program is started does not matter.** Started in a directory without arguments, and
started anywhere with this directory as its root, the program leaves the same behind: exit code,
output and errors. -/
theorem run_root (cwd : Files.Place) :
    run (.ofWorkspace { w with cwd := cwd } lookup console) ["--root", placePath w.cwd] =
      run (.ofWorkspace w lookup console) [] := by
  have hroot := History.isAbsolute_placePath w.cwd
  have hconfig : ∀ p ∈ (none : Option String), Files.isAbsolute p = true := nofun
  rw [run, run, ofArguments_root hroot, runCommand_of_isAbsolute w lookup console cwd hroot hconfig]
  rfl

end CommandLine

end ReleaseGate
