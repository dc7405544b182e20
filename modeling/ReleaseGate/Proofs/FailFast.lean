import ReleaseGate.Change.Scripted
import ReleaseGate.Proofs.Backends
import ReleaseGate.Proofs.Checks
import ReleaseGate.Proofs.Observations

/-!
# Failing fast

Every check asks the files some questions of its own (`Check.questions`), and the gate ends with the
first check that fails. So a failure before the changes is settled by the questions up to that
check: whatever else the files hold, and whatever the environment and the history are, the gate
fails alike (`FailsAt.congr`). And all that a run ever asks of the files is about four paths.
-/

namespace ReleaseGate

/-- A question to the files below a root. -/
inductive Question
  /-- What the text of the file at a path is. -/
  | text (path : String)
  /-- Whether a path names a regular file. -/
  | isFile (path : String)

/-- Two views have the same answer to a question. -/
def Question.AnsweredAlike (files files' : Files.View) (root : String) : Question → Prop
  | text path => files.read (Files.join root path) = files'.read (Files.join root path)
  | isFile path => files.isFile (Files.join root path) = files'.isFile (Files.join root path)

/-- What a check asks of the files of a version. -/
def Check.questions (paths : PathSettings) (version : String) : Check → List Question
  | .patterns | .changes => []
  | .version => [.text paths.manifest]
  | .changelog | .heading => [.text paths.changelog]
  | .index | .link => [.text paths.releaseIndex]
  | .releaseNotes =>
    [.isFile (Release.notesPath paths.releaseNotesDir (Release.Tag.notesFile ⟨version⟩))]
  | .schemaNotes =>
    [.text paths.changelog,
      .text (Release.notesPath paths.releaseNotesDir (Release.Tag.notesFile ⟨version⟩))]

/-- Two views have the same answers to all that the checks up to one ask. -/
def AgreeUpTo (files files' : Files.View) (root : String) (paths : PathSettings) (version : String)
    (c : Check) : Prop :=
  ∀ b, ¬c < b → ∀ q ∈ b.questions paths version, q.AnsweredAlike files files' root

section

variable {files files' : Files.View} {root : String}

theorem readVersion_of_read_eq {manifest : String}
    (h : files.read (Files.join root manifest) = files'.read (Files.join root manifest)) :
    readVersion files root manifest = readVersion files' root manifest :=
  readVersion_congr (Files.View.ask_of_read_eq h)

theorem Release.readArtifact_of_read_eq {paths : PathSettings} {tag : Tag} {path : String}
    (h : files.read (Files.join root path) = files'.read (Files.join root path)) :
    readArtifact files (.of root paths tag) path = readArtifact files' (.of root paths tag) path := by
  rw [readArtifact, readArtifact, Artifacts.resolve, Artifacts.of, h]

variable {config : Config} {env env' : Change.Environment} {repo repo' : Change.Repository}
  {version : String} {c : Check} {f : Failure}

/-- A check on the documents is passed alike where its questions have the same answers. -/
theorem Passes.congr (hc : c < .changes)
    (agree : ∀ q ∈ c.questions config.paths version, q.AnsweredAlike files files' root)
    (h : Passes files root config env repo version c) :
    Passes files' root config env' repo' version c := by
  cases c with
  | patterns => exact h
  | version => exact (readVersion_of_read_eq (agree _ List.mem_cons_self)).symm.trans h
  | changelog =>
    obtain ⟨text, hr⟩ := h
    exact ⟨text, (agree _ List.mem_cons_self).symm.trans hr⟩
  | heading =>
    obtain ⟨text, hr, hh⟩ := h
    exact ⟨text, (agree _ List.mem_cons_self).symm.trans hr, hh⟩
  | index =>
    obtain ⟨text, hr⟩ := h
    exact ⟨text, (agree _ List.mem_cons_self).symm.trans hr⟩
  | link =>
    obtain ⟨text, hr, hl⟩ := h
    exact ⟨text, (agree _ List.mem_cons_self).symm.trans hr, hl⟩
  | releaseNotes => exact (agree _ List.mem_cons_self).symm.trans h
  | changes => cases Nat.lt_irrefl _ hc
  | schemaNotes => cases Nat.lt_asymm hc (by decide)

/-- And it fails alike. -/
theorem Objects.congr (hc : c < .changes)
    (agree : ∀ q ∈ c.questions config.paths version, q.AnsweredAlike files files' root)
    (h : Objects files root config env repo version c f) :
    Objects files' root config env' repo' version c f := by
  cases h with
  | badPattern h => exact .badPattern h
  | noVersion h =>
    exact .noVersion ((readVersion_of_read_eq (agree _ List.mem_cons_self)).symm.trans h)
  | noChangelog h =>
    exact .noChangelog ((Release.readArtifact_of_read_eq (agree _ List.mem_cons_self)).symm.trans h)
  | noHeading hr h => exact .noHeading ((agree _ List.mem_cons_self).symm.trans hr) h
  | noIndex h =>
    exact .noIndex ((Release.readArtifact_of_read_eq (agree _ List.mem_cons_self)).symm.trans h)
  | noLink hr h => exact .noLink ((agree _ List.mem_cons_self).symm.trans hr) h
  | noReleaseNotes h => exact .noReleaseNotes ((agree _ List.mem_cons_self).symm.trans h)
  | noDiff => cases Nat.lt_irrefl _ hc
  | undocumented => cases Nat.lt_asymm hc (by decide)

/-- **A failure is settled by what was asked up to it.** -/
theorem FailsAt.congr (hc : c < .changes)
    (agree : AgreeUpTo files files' root config.paths version c)
    (h : FailsAt files root config env repo version c f) :
    FailsAt files' root config env' repo' version c f := by
  obtain ⟨before, h⟩ := h
  constructor
  · intro b hb
    exact (before b hb).congr (Nat.lt_trans hb hc) (agree b (Nat.lt_asymm hb))
  · exact h.congr hc (agree c (Nat.lt_irrefl _))

end

/-- **Failing fast hides nothing and leaks nothing.** Where an extra pattern is not valid, the gate
gives the same answer for all files, environments and repositories. Where no version can be read, it
does for all files that show the manifest alike. Where the linkage fails, one of its checks is the
first of the gate that fails; and a failure at a check before the changes is the same for all files
that have the same answers to what was asked up to that check: what only later checks ask about does
not count. Last, files with the same answers about the manifest, the changelog, the index and the
release notes of the version are the same to every run. -/
theorem runGate_settled (root : String) (config : Config) :
    (¬config.schema.PatternsValid →
      ∀ (files files' : Files.View) (env env' : Change.Environment)
        (repo repo' : Change.Repository),
        runGate files root config env repo = runGate files' root config env' repo') ∧
    (∀ (files : Files.View) (f : Failure),
      readVersion files root config.paths.manifest = .error f →
      ∀ (files' : Files.View) (env env' : Change.Environment) (repo repo' : Change.Repository),
        files.read (Files.join root config.paths.manifest) =
          files'.read (Files.join root config.paths.manifest) →
        runGate files root config env repo = runGate files' root config env' repo') ∧
    (∀ (files : Files.View) (env : Change.Environment) (repo : Change.Repository)
      (version : String),
      (∀ f, config.schema.PatternsValid →
        readVersion files root config.paths.manifest = .ok version →
        Release.checkLinkage files ⟨version⟩ (.of root config.paths ⟨version⟩) = .error f →
        ∃ c, Check.version < c ∧ c < Check.changes ∧
          FailsAt files root config env repo version c f) ∧
      ∀ c f, FailsAt files root config env repo version c f → c < Check.changes →
        ∀ (files' : Files.View) (env' : Change.Environment) (repo' : Change.Repository),
          AgreeUpTo files files' root config.paths version c →
          runGate files root config env repo = .error f ∧
            runGate files' root config env' repo' = .error f) ∧
    ∀ (files files' : Files.View) (env : Change.Environment) (repo : Change.Repository),
      (∀ path ∈ gatePaths files root config.paths,
        files.read path = files'.read path ∧ files.isFile path = files'.isFile path) →
      runGate files root config env repo = runGate files' root config env repo := by
  have patterns (invalid : ¬config.schema.PatternsValid) (files files' : Files.View)
      (env env' : Change.Environment) (repo repo' : Change.Repository) :
      runGate files root config env repo = runGate files' root config env' repo' := by
    obtain ⟨f, hd⟩ := exists_detectorOf_eq_error invalid
    rw [runGate_eq_error_cases_iff.2 (.inl hd), runGate_eq_error_cases_iff.2 (.inl hd)]
  refine ⟨patterns, ?_, fun files env repo version => ⟨?_, ?_⟩, fun files files' env repo h =>
    runGate_congr env repo (seenAlike_of_gatePaths h)⟩
  · intro files f hv files' env env' repo repo' read
    by_cases valid : config.schema.PatternsValid
    · have hv' := (readVersion_of_read_eq read).symm.trans hv
      rw [runGate_eq_error_cases_iff.2 (.inr ⟨valid, .inl hv⟩),
        runGate_eq_error_cases_iff.2 (.inr ⟨valid, .inl hv'⟩)]
    · exact patterns valid files files' env env' repo repo'
  · intro f valid hv hl
    exact exists_failsAt_of_checkLinkage valid hv hl
  · intro c f h before files' env' repo' agree
    exact ⟨runGate_eq_error_iff.2 ⟨version, c, h⟩,
      runGate_eq_error_iff.2 ⟨version, c, h.congr before agree⟩⟩

open History (asciiFile noPipeline) in
/-- Runs that fail at a pattern, at the manifest and at the changelog, and the one at the changelog
once more: in each of them an index appears that the gate does not ask about, or a directory. -/
theorem runGate_settled_newIndex :
    let t : Files.Tree := ⟨[asciiFile "Cargo.toml" "version = \"1.0.0\"\n",
      asciiFile "CHANGELOG.md" "## v0.9.0\n", (["docs".toList], .directory),
      (["docs".toList, "release-notes".toList], .directory)]⟩
    let t' := t.put (Files.components "docs/release-notes/README.md".toList) (.file [])
    let unknown := Change.Script.repository .empty
    let known := Change.Script.repository ⟨["HEAD~1", "HEAD"], none, none⟩
    let invalid : Config :=
      { Config.default with schema := { SchemaSettings.default with extraPatterns := ["("] } }
    let missing : Config :=
      { Config.default with paths := { PathSettings.default with manifest := "none.toml" } }
    runGate (t.view []) "." invalid noPipeline unknown =
        runGate (t'.view []) "." invalid noPipeline known ∧
      runGate (t.view []) "." missing noPipeline unknown =
        runGate (t'.view []) "." missing noPipeline known ∧
      (FailsAt (t.view []) "." .default noPipeline unknown "1.0.0" .heading
          (.linkage (.missingChangelogHeading "CHANGELOG.md" "v1.0.0")) ∧
        runGate (t'.view []) "." .default noPipeline known =
          .error (.linkage (.missingChangelogHeading "CHANGELOG.md" "v1.0.0"))) ∧
      runGate (t.view []) "." .default noPipeline known =
        runGate ((t.put ["src".toList] .directory).view []) "." .default noPipeline known := by
  intro t t' unknown known invalid missing
  have version : readVersion (t.view []) "." Config.default.paths.manifest = .ok "1.0.0" := by
    decide +kernel
  have changelog : (t.view []).read (Files.join "." Config.default.paths.changelog) =
      .ok "## v0.9.0\n" := by decide +kernel
  have valid : Config.default.schema.PatternsValid := fun p hp => absurd hp List.not_mem_nil
  have heading : FailsAt (t.view []) "." .default noPipeline unknown "1.0.0" .heading
      (.linkage (.missingChangelogHeading "CHANGELOG.md" "v1.0.0")) := by
    refine ⟨Check.forall_lt_iff.2 ?_, .noHeading changelog (by decide +kernel)⟩
    simp [Check.place, Passes, valid, version, Release.Artifacts.resolve, Release.Artifacts.of,
      changelog]
  have unasked : AgreeUpTo (t.view []) (t'.view []) "." .default "1.0.0" .heading := by
    intro b hb
    cases b with
    | patterns => exact fun q hq => absurd hq List.not_mem_nil
    | version => exact List.forall_mem_singleton.2 (show _ = _ by decide +kernel)
    | changelog => exact List.forall_mem_singleton.2 (show _ = _ by decide +kernel)
    | heading => exact List.forall_mem_singleton.2 (show _ = _ by decide +kernel)
    | index | link | releaseNotes | changes | schemaNotes => exact absurd (by decide) hb
  refine ⟨(runGate_settled "." invalid).1 ?_ _ _ _ _ _ _, ?_, ⟨heading, ?_⟩, ?_⟩
  · have lone : Pattern.isValid "(".toList = false := by cbv
    exact fun h => Bool.false_ne_true (lone.symm.trans (h "(" List.mem_cons_self))
  · exact (runGate_settled "." missing).2.1 _ (.config (.missingManifest "none.toml"))
      (by decide +kernel) _ _ _ _ _ (by decide +kernel)
  · exact (((runGate_settled "." .default).2.2.1 _ _ _ _).2 _ _ heading (by decide) _ _ _ unasked).2
  · refine (runGate_settled "." .default).2.2.2 _ _ _ _ ?_
    decide +kernel

end ReleaseGate
