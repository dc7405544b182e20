import ReleaseGate.Change.Scripted
import ReleaseGate.Proofs.Backends
import ReleaseGate.Proofs.LineEnds
import ReleaseGate.Proofs.Observations
import ReleaseGate.Proofs.TreeChanges

/-!
# Line ends of documents and diffs

The gate reads up to four files: the manifest, the changelog, the index and the release notes of
the version (`gatePaths`). Their line feeds may all be written as a carriage return and a line
feed (`Tree.withCrLf`): the gate gives the same answer, and so does the detector for a diff
(`runGate_withCrLf`). Only a version with a line feed inside would change, so there must be none.
-/

namespace ReleaseGate

namespace Files.Tree

/-- The files that some paths lead to: their places and their contents. -/
def filesAt (t : Tree) (cwd : Place) (paths : List String) : List (Place × Text.Bytes) :=
  paths.filterMap fun path =>
    match t.locate cwd path with
    | .ok (place, .file content) => some (place, content)
    | _ => none

/-- The tree with the line ends changed in the files that some paths lead to. -/
def withCrLf (t : Tree) (cwd : Place) (paths : List String) : Tree :=
  t.rewrite fun place content =>
    if place ∈ (t.filesAt cwd paths).map Prod.fst then Text.Utf8.crLf content else content

/-- The files that some paths lead to have no carriage return. -/
def LacksCr (t : Tree) (cwd : Place) (paths : List String) : Prop :=
  ∀ file ∈ t.filesAt cwd paths, 13 ∉ file.2

instance (t : Tree) (cwd : Place) (paths : List String) : Decidable (t.LacksCr cwd paths) :=
  inferInstanceAs (Decidable (∀ file ∈ t.filesAt cwd paths, 13 ∉ file.2))

variable {t : Tree} {cwd : Place} {paths : List String} {path : String}

theorem mem_filesAt (h : path ∈ paths) {place : Place} {content : Text.Bytes}
    (hl : t.locate cwd path = .ok (place, .file content)) :
    (place, content) ∈ t.filesAt cwd paths :=
  List.mem_filterMap.2 ⟨path, h, by rw [hl]⟩

theorem isFile_withCrLf : ((t.withCrLf cwd paths).view cwd).isFile path = (t.view cwd).isFile path :=
  isFile_rewrite _ t cwd path

/-- One of the files is read with its line ends changed. -/
theorem read_withCrLf (h : path ∈ paths) :
    ((t.withCrLf cwd paths).view cwd).read path =
      ((t.view cwd).read path).map fun text => String.ofList (Text.crLf text.toList) := by
  refine read_rewrite _ t cwd path fun place content hl => ?_
  rw [if_pos (List.mem_map_of_mem (mem_filesAt h hl)), Text.Utf8.decode?_crLf]

theorem LacksCr.cr_not_mem (lacks : t.LacksCr cwd paths) (h : path ∈ paths) {text : String}
    (hr : (t.view cwd).read path = .ok text) : '\r' ∉ text.toList := by
  obtain ⟨place, content, hl, hd⟩ := read_eq_ok_iff.1 hr
  exact Text.Utf8.cr_not_mem_of_decode? hd (lacks _ (mem_filesAt h hl))

/-- A question that line ends do not matter for has the same answer. -/
theorem ask_withCrLf {γ : Type} {g : List Char → γ} (h : path ∈ paths)
    (hg : ∀ text, (t.view cwd).read path = .ok text → g (Text.crLf text.toList) = g text.toList) :
    ((t.withCrLf cwd paths).view cwd).ask g path = (t.view cwd).ask g path := by
  rw [View.ask, View.ask, read_withCrLf h]
  cases hr : (t.view cwd).read path with
  | error cause => rfl
  | ok text => simp only [Except.map, String.toList_ofList, hg text hr]

end Files.Tree

section

variable {t : Files.Tree} {cwd : Files.Place} {root : String} {paths : PathSettings}

/-- The gate sees the same, whichever way lines end. -/
theorem seenAlike_withCrLf (lacks : t.LacksCr cwd (gatePaths (t.view cwd) root paths))
    (hv : ∀ version, readVersion (t.view cwd) root paths.manifest = .ok version →
      '\n' ∉ version.toList) :
    SeenAlike (t.view cwd) ((t.withCrLf cwd (gatePaths (t.view cwd) root paths)).view cwd) root
      paths := by
  have hmanifest : Files.join root paths.manifest ∈ gatePaths (t.view cwd) root paths := by
    simp [gatePaths]
  have hchangelog : Files.join root paths.changelog ∈ gatePaths (t.view cwd) root paths := by
    simp [gatePaths]
  have hindex : Files.join root paths.releaseIndex ∈ gatePaths (t.view cwd) root paths := by
    simp [gatePaths]
  constructor
  case manifest =>
    refine (Files.Tree.ask_withCrLf hmanifest fun text hr => ?_).symm
    rw [Release.declaredVersion?_crLf]
    cases hd : Release.declaredVersion? text.toList with
    | none => rfl
    | some v =>
      have read := readVersion_eq_ok_iff.2 ⟨text, hr, by rw [hd, String.toList_ofList]⟩
      have lf := hv (String.ofList v) read
      rw [String.toList_ofList] at lf
      exact congrArg some (Text.putBefore_eq_self _ _ lf)
  case documents =>
    intro version read
    have hnotes := releaseNotes_mem_gatePaths read
    -- the version is a part of the manifest, so it has no carriage return either
    obtain ⟨text, hr, hd⟩ := readVersion_eq_ok_iff.1 read
    have cr : '\r' ∉ version.toList := fun m =>
      lacks.cr_not_mem hmanifest hr (Release.subset_of_declaredVersion? hd m)
    have lf := hv version read
    constructor
    case heading =>
      refine (Files.Tree.ask_withCrLf hchangelog fun text hr => ?_).symm
      rw [Release.hasReleaseHeading, Text.lines_crLf (lacks.cr_not_mem hchangelog hr),
        Release.hasReleaseHeading]
    case link =>
      exact (Files.Tree.ask_withCrLf hindex fun text _ =>
        Text.occursIn_crLf (Release.Tag.not_mem_indexLink (by decide) lf)
          (Release.Tag.not_mem_indexLink (by decide) cr) text.toList).symm
    case releaseNotes => exact Files.Tree.isFile_withCrLf.symm
    case schemaNotes =>
      intro path h
      have hpath : Files.join root path ∈ gatePaths (t.view cwd) root paths := by
        rcases List.mem_pair.1 h with rfl | rfl
        · exact hchangelog
        · exact hnotes
      exact (Files.Tree.ask_withCrLf hpath fun text _ =>
        Release.hasSchemaNotes_crLf text.toList).symm

end

/-- **Line ends do not matter.** Where the files that the gate reads have no carriage return, and
the version has no line feed inside, the gate gives the same answer once every line feed of these
files is written as a carriage return and a line feed; and every detector finds the same first
signal in a diff without carriage returns. -/
theorem runGate_withCrLf :
    (∀ (t : Files.Tree) (cwd : Files.Place) (root : String) (config : Config)
      (env : Change.Environment) (repo : Change.Repository),
      let paths := gatePaths (t.view cwd) root config.paths
      t.LacksCr cwd paths →
      (∀ version, readVersion (t.view cwd) root config.paths.manifest = .ok version →
        '\n' ∉ version.toList) →
      runGate ((t.withCrLf cwd paths).view cwd) root config env repo =
        runGate (t.view cwd) root config env repo) ∧
    ∀ (d : Change.Detector) (diff : List Char), '\r' ∉ diff →
      d.firstSignal? (Text.crLf diff) = d.firstSignal? diff := by
  constructor
  · intro t cwd root config env repo paths lacks hv
    exact (runGate_congr env repo (seenAlike_withCrLf lacks hv)).symm
  · intro d diff h
    rw [Change.Detector.firstSignal?, Text.lines_crLf h, Change.Detector.firstSignal?]

open History (noPipeline renamedFile) in
/-- A release whose changes ask for Schema Notes that it lacks. -/
theorem runGate_withCrLf_renamedFile :
    let t := renamedFile.tree
    let paths := gatePaths (t.view []) "." Config.default.paths
    let diff := "@@ -0,0 +1 @@\n+SCHEMA_VERSION\n"
    let script : Change.Script := ⟨["HEAD~1", "HEAD"], some diff, none⟩
    t.LacksCr [] paths ∧
      readVersion (t.view []) "." Config.default.paths.manifest = .ok "1.0.0" ∧
      runGate ((t.withCrLf [] paths).view []) "." .default noPipeline script.repository =
        runGate (t.view []) "." .default noPipeline script.repository ∧
      Change.Detector.firstSignal? ⟨[]⟩ (Text.crLf diff.toList) =
        Change.Detector.firstSignal? ⟨[]⟩ diff.toList := by
  intro t paths diff script
  obtain ⟨gate, detector⟩ := runGate_withCrLf
  have lacks : t.LacksCr [] paths := by decide +kernel
  have version : readVersion (t.view []) "." Config.default.paths.manifest = .ok "1.0.0" := by
    decide +kernel
  refine ⟨lacks, version, gate t [] "." .default noPipeline _ lacks ?_, detector _ _ (by decide)⟩
  intro v hv
  cases version.symm.trans hv
  decide

end ReleaseGate
