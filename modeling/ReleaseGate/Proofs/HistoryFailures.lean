import ReleaseGate.Change.Scripted
import ReleaseGate.Proofs.Backends
import ReleaseGate.Proofs.Checks

/-!
# History never fails a release

A repository may answer anything. What it says is either no failure of version control, and then
it counts, or it only gives a notice; and once the documents are linked, nothing but its diff can
still fail a release.

* `Objects.not_isVersionControl`: no check fails by version control;
* `Files.View.Coherent`: what is a regular file is not missing, in one view of a file system. File
  trees are such (`Files.Tree.view_coherent`), so documents that were found by the linkage are not
  missed by the rule on Schema Notes;
* `runGate_failure` is the result.
-/

namespace ReleaseGate

namespace Files

/-- What is a regular file is not missing. -/
def View.Coherent (v : View) : Prop := ∀ path, v.isFile path = true → v.read path ≠ .error .missing

theorem Tree.view_coherent (t : Tree) (cwd : Place) : (t.view cwd).Coherent := by
  intro path hf hr
  simp only [view, readText] at hf hr
  cases hl : t.locate cwd path with
  | error cause => simp [hl] at hf
  | ok found =>
    obtain ⟨place, node⟩ := found
    rw [hl] at hf hr
    cases node with
    | directory => cases hf
    | file content =>
      dsimp only at hr
      split at hr <;> cases hr

end Files

section

variable {files : Files.View} {root : String} {config : Config} {env : Change.Environment}
  {repo : Change.Repository} {version : String} {f : Failure}

theorem Release.not_isVersionControl_of_readArtifact {a : Artifacts} {path : String}
    (h : readArtifact files a path = .error f) : f.isVersionControl = false := by
  rcases isMissing_or_isIo_of_readArtifact h with rfl | ⟨cause, rfl⟩ <;> rfl

/-- No check fails by version control. -/
theorem Objects.not_isVersionControl {c : Check}
    (h : Objects files root config env repo version c f) : f.isVersionControl = false := by
  cases h with
  | badPattern h =>
    obtain ⟨fault, rfl⟩ := isConfig_of_detectorOf h
    rfl
  | noVersion h =>
    rcases isConfig_or_isIo_of_readVersion h with ⟨fault, rfl⟩ | ⟨cause, rfl⟩ <;> rfl
  | noChangelog h => exact Release.not_isVersionControl_of_readArtifact h
  | noHeading => rfl
  | noIndex h => exact Release.not_isVersionControl_of_readArtifact h
  | noLink => rfl
  | noReleaseNotes => rfl
  | noDiff _ _ h => exact h
  | undocumented _ h =>
    rcases Release.requireSchemaNotes_eq_error_iff.1 h with h | ⟨-, h | ⟨-, rfl⟩⟩
    · exact Release.not_isVersionControl_of_readArtifact h
    · exact Release.not_isVersionControl_of_readArtifact h
    · rfl

theorem not_isVersionControl_of_runGate (h : runGate files root config env repo = .error f) :
    f.isVersionControl = false := by
  obtain ⟨version, c, hf⟩ := runGate_eq_error_iff.1 h
  exact hf.2.not_isVersionControl

/-- The rule on Schema Notes finds the documents that the linkage found: it fails because neither
has them, or because the release notes cannot be read, though they are there. -/
theorem Release.requireSchemaNotes_eq_error_iff_of_isLinked {tag : Tag} {a : Artifacts}
    (coherent : files.Coherent) (linked : IsLinked files tag a) :
    requireSchemaNotes files tag a = .error f ↔
      LacksNotes files (a.resolve a.changelog) ∧
        ((LacksNotes files (a.resolve a.releaseNotes) ∧
            f = .policy (.noSchemaNotes a.changelog a.releaseNotes tag.name)) ∨
          ∃ cause, files.read (a.resolve a.releaseNotes) = .error cause ∧ cause ≠ .missing ∧
            f = .io cause) := by
  obtain ⟨changelog, hc, -⟩ := linked.heading
  have hchangelog : readArtifact files a a.changelog ≠ .error f := by
    rw [readArtifact_eq_ok_iff.2 hc]
    nofun
  have hnotes : ¬(files.read (a.resolve a.releaseNotes) = .error .missing ∧
      f = .linkage (.missingFile a.releaseNotes)) :=
    fun h => coherent _ linked.notes h.1
  rw [requireSchemaNotes_eq_error_iff, or_iff_right hchangelog, readArtifact_eq_error_iff,
    or_iff_right hnotes, or_comm]

end

/-- **History never fails a release.** No failure of the gate is one of version control. Where the
patterns are valid, the version is declared and the documents are linked, the gate fails exactly if
a range resolves and its diff failed otherwise than by version control, with the very failure of
the diff, or carries a signal that no document explains: neither of them has Schema Notes, or the
changelog has none and the release notes cannot be read. A file that the linkage found is never
missing. -/
theorem runGate_failure (t : Files.Tree) (cwd : Files.Place) (root : String) (config : Config)
    (env : Change.Environment) (repo : Change.Repository) :
    (∀ f, runGate (t.view cwd) root config env repo = .error f → f.isVersionControl = false) ∧
    ∀ d version, detectorOf config = .ok d →
      readVersion (t.view cwd) root config.paths.manifest = .ok version →
      Release.checkLinkage (t.view cwd) ⟨version⟩ (.of root config.paths ⟨version⟩) = .ok () →
      ∀ f, runGate (t.view cwd) root config env repo = .error f ↔
        ∃ range, Change.resolve? env repo = some range ∧
          ((repo.diff range config.schema.diffPaths = .error f ∧ f.isVersionControl = false) ∨
            ∃ diff, repo.diff range config.schema.diffPaths = .ok diff ∧
              (d.firstSignal? diff.toList).isSome ∧
              let a := Release.Artifacts.of root config.paths ⟨version⟩
              Release.LacksNotes (t.view cwd) (a.resolve a.changelog) ∧
                ((Release.LacksNotes (t.view cwd) (a.resolve a.releaseNotes) ∧
                    f = .policy (.noSchemaNotes a.changelog a.releaseNotes ("v" ++ version))) ∨
                  ∃ cause, (t.view cwd).read (a.resolve a.releaseNotes) = .error cause ∧
                    cause ≠ .missing ∧ f = .io cause)) := by
  refine ⟨fun f => not_isVersionControl_of_runGate, fun d version hd hv hl f => ?_⟩
  obtain ⟨valid, rfl⟩ := Change.Detector.ofPatterns_eq_ok_iff.1 (detectorOf_eq_ok_iff.1 hd)
  have linked := Release.checkLinkage_eq_ok_iff.1 hl
  have release : IsRelease (t.view cwd) root config.paths version :=
    isRelease_iff.2 ⟨readVersion_eq_ok_iff.1 hv, linked⟩
  rw [runGate_eq_map valid release, map_eq_error_iff, checkSchema_eq_error_iff,
    Release.requireSchemaNotes_eq_error_iff_of_isLinked (t.view_coherent cwd) linked]
  constructor
  · rintro (⟨range, hr, h⟩ | ⟨⟨range, diff, hr, hdiff, ha⟩, h⟩)
    · exact ⟨range, hr, .inl h⟩
    · exact ⟨range, hr, .inr ⟨diff, hdiff, ha, h⟩⟩
  · rintro ⟨range, hr, h | ⟨diff, hdiff, ha, h⟩⟩
    · exact .inl ⟨range, hr, h⟩
    · exact .inr ⟨⟨range, diff, hr, hdiff, ha⟩, h⟩

open History (lastCommit noPipeline renamedFile) in
/-- The changes ask for Schema Notes, and the release notes are no text. -/
theorem runGate_failure_unreadableNotes :
    let notes : Files.Place :=
      Files.components "docs/release-notes/RELEASE_NOTES_v1.0.0.md".toList
    let t := renamedFile.tree.put notes (.file [0xFF])
    let script : Change.Script := ⟨["HEAD~1", "HEAD"], some "@@ -1 +1 @@\n+SCHEMA_VERSION\n", none⟩
    Release.checkLinkage (t.view []) ⟨"1.0.0"⟩ (.of "." Config.default.paths ⟨"1.0.0"⟩) = .ok () ∧
      runGate (t.view []) "." .default noPipeline script.repository = .error (.io .notText) := by
  intro notes t script
  have linked : Release.checkLinkage (t.view []) ⟨"1.0.0"⟩
      (.of "." Config.default.paths ⟨"1.0.0"⟩) = .ok () := by decide +kernel
  refine ⟨linked, ?_⟩
  obtain ⟨-, h⟩ := runGate_failure t [] "." .default noPipeline script.repository
  refine (h ⟨[]⟩ "1.0.0" rfl (by decide +kernel) linked _).2 ⟨lastCommit, rfl, .inr ?_⟩
  refine ⟨_, rfl, by decide +kernel, ⟨"## v1.0.0\n", by decide +kernel, by decide +kernel⟩, .inr ?_⟩
  exact ⟨.notText, by decide +kernel, by decide, rfl⟩

end ReleaseGate
