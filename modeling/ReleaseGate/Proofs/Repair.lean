import ReleaseGate.Proofs.MissedChange
import ReleaseGate.Proofs.Remedies

/-!
# Repair

Doing what a failure asks for leads on: the gate then succeeds or fails at a later check, with the
version as it was (`FailsAt.lt_of_remedy`), and a policy that is kept makes it succeed
(`runGate_of_policy_remedy`). Six checks can ask for something, so six remedies are enough
(`RepairRun.le_six`), and they lead to a report, or to a file that cannot be read or created
(`exists_repairRun`). `runGate_repair` says all of it.

The gate hands on what a repository fails with, unless version control failed. So this is about
repositories that answer (`Change.Repository.Answers`): what asks for a remedy is then the gate's own.
Both backends do, for paths without NUL (`answers_openRepository`); a repository that fails with a
breach of its own fails with it again, whatever is done about it (`runGate_handedOn`).
-/

namespace ReleaseGate

namespace Check

/-- How many checks after a check can ask for a remedy. -/
def remediesAfter : Check → Nat
  | patterns | version => 6
  | changelog => 5
  | heading => 4
  | index => 3
  | link => 2
  | releaseNotes | changes => 1
  | schemaNotes => 0

variable {paths : PathSettings} {v : String} {b c : Check} {remedy : Remedy}

theorem remediesAfter_lt (h : b < c) (hr : c.remedy? paths v = some remedy) :
    c.remediesAfter < b.remediesAfter := by
  cases c with
  | patterns => cases hr
  | version => cases hr
  | changes => cases hr
  | _ => revert h; cases b <;> decide

theorem version_lt_of_remedy? (hr : c.remedy? paths v = some remedy) : version < c := by
  cases c with
  | patterns => cases hr
  | version => cases hr
  | changes => cases hr
  | _ => decide

end Check

/-! ### Repositories that answer -/

/-- A repository answers for some paths: no diff of them is cut off, and one that fails does so in
version control or because a file cannot be read. -/
structure Change.Repository.Answers (repo : Change.Repository) (paths : List String) : Prop where
  runs : ∀ range, repo.aborts range paths = false
  fails : ∀ {range f}, repo.diff range paths = .error f →
    f.isVersionControl = true ∨ ∃ cause, f = .io cause

/-- A repository that answers as written does so. -/
theorem Change.Script.answers (s : Script) (paths : List String) : s.repository.Answers paths := by
  refine ⟨fun _ => rfl, fun {range f} h => .inl ?_⟩
  rw [repository] at h
  dsimp only at h
  split at h
  · cases h
    rfl
  · split at h <;> cases h
    rfl

open History in
/-- **Both backends answer**, unless a path holds the character NUL. -/
theorem answers_openRepository (backend : Backend) (w : Workspace) (root : String)
    {paths : List String} (hnul : ∀ q ∈ paths, Files.hasNul q = false) :
    (openRepository backend w root).Answers paths := by
  have program : (programRepository w root).Answers paths := by
    refine ⟨fun _ => rfl, fun {range f} h => ?_⟩
    rw [programRepository] at h
    dsimp only at h
    split at h
    · cases h
    · cases h
      exact .inl rfl
  cases backend with
  | system => exact program
  | library =>
    rw [openRepository]
    split
    · next c _ =>
      refine ⟨aborts_library hnul, fun {range f} h => .inl ?_⟩
      have missing {rev : String} (h : librarySnapshot c rev = .error f) :
          f.isVersionControl = true := by
        rw [librarySnapshot] at h
        split at h
        · cases h
        · cases h
          rfl
      rcases bind_eq_error_iff.1 h with h | ⟨base, -, h⟩
      · exact missing h
      · rcases bind_eq_error_iff.1 h with h | ⟨head, -, h⟩
        · exact missing h
        · cases h
    · exact program

section

variable {t t' : Files.Tree} {cwd : Files.Place} {root : String} {config : Config}
  {env : Change.Environment} {repo : Change.Repository} {version : String} {c : Check} {f : Failure}
  {remedy : Remedy}

/-- A run of the gate with a repository that answers is not cut off. -/
theorem gateAborts_eq_false (answers : repo.Answers config.schema.diffPaths) (files : Files.View) :
    gateAborts files root config env repo = false := by
  rw [gateAborts]
  split
  · exact answers.runs _
  · rfl

/-- All that such a repository can make the gate fail with is a file that cannot be read. -/
theorem FailsAt.isIo_of_changes (answers : repo.Answers config.schema.diffPaths) {files : Files.View}
    (h : FailsAt files root config env repo version .changes f) : ∃ cause, f = .io cause := by
  cases h.2 with
  | noDiff hrange hdiff hf =>
    rcases answers.fails hdiff with hv | hio
    · cases hf.symm.trans hv
    · exact hio

/-- The gate hands on what the diff of a range fails with, unless version control failed. -/
theorem failsAt_changes {files : Files.View} (valid : config.schema.PatternsValid)
    (release : IsRelease files root config.paths version) {range : Change.Range}
    (hr : Change.resolve? env repo = some range)
    (hdiff : repo.diff range config.schema.diffPaths = .error f) (hf : f.isVersionControl = false) :
    FailsAt files root config env repo version .changes f := by
  obtain ⟨hv, linked⟩ := isRelease_iff.1 release
  exact ⟨fun b hb => passes_of_isLinked valid (readVersion_eq_ok_iff.2 hv) linked hb,
    .noDiff hr hdiff hf⟩

/-- What asks for a remedy is not the diff of the range. -/
theorem FailsAt.ne_changes (answers : repo.Answers config.schema.diffPaths) {files : Files.View}
    (h : FailsAt files root config env repo version c f) (asks : f.remedy? = some remedy) :
    c ≠ .changes := by
  rintro rfl
  obtain ⟨cause, rfl⟩ := h.isIo_of_changes answers
  cases asks

/-! ### One remedy -/

/-- Every check up to the one that failed accepts after the remedy. -/
theorem FailsAt.passes_of_remedy (h : FailsAt (t.view cwd) root config env repo version c f)
    (own : c ≠ .changes) (hline : IsOneLine version) (asks : f.remedy? = some remedy)
    (applied : remedy.Applied cwd root t t') :
    ∀ b, ¬c < b → Passes (t'.view cwd) root config env repo version b :=
  ReleaseGate.passes_of_remedy hline h.1 (h.remedy?_eq own asks) applied

/-- A check after that of the version fails on the version that the manifest declares. -/
theorem FailsAt.version_eq {files : Files.View} {version' : String}
    (h : FailsAt files root config env repo version' c f) (hc : Check.version < c)
    (hv : readVersion files root config.paths.manifest = .ok version) : version' = version :=
  Except.ok.inj ((h.1 .version hc).symm.trans hv)

/-- **A remedy leads on**: what fails then fails at a later check, on the same version. -/
theorem FailsAt.lt_of_remedy (h : FailsAt (t.view cwd) root config env repo version c f)
    (own : c ≠ .changes) (hline : IsOneLine version) (asks : f.remedy? = some remedy)
    (applied : remedy.Applied cwd root t t') {version' : String} {c' : Check} {f' : Failure}
    (h' : FailsAt (t'.view cwd) root config env repo version' c' f') :
    c < c' ∧ version' = version := by
  have passes := h.passes_of_remedy own hline asks applied
  have hlt := h'.lt_of_passes passes
  have hc := Check.version_lt_of_remedy? (h.remedy?_eq own asks)
  exact ⟨hlt, h'.version_eq (Nat.lt_trans hc hlt) (passes .version (Nat.lt_asymm hc))⟩

/-- A breach of a policy is found by the last check. -/
theorem FailsAt.affected_of_policy {breach : PolicyBreach}
    (h : FailsAt (t.view cwd) root config env repo version c (.policy breach)) (own : c ≠ .changes) :
    c = .schemaNotes ∧ Affected config env repo := by
  have document {path : String} (h : Release.readArtifact (t.view cwd)
      (.of root config.paths ⟨version⟩) path = .error (.policy breach)) : False := by
    rcases Release.isMissing_or_isIo_of_readArtifact h with e | ⟨cause, e⟩ <;> cases e
  generalize hf : Failure.policy breach = f at h document
  cases h.2 with
  | badPattern hd =>
    obtain ⟨fault, rfl⟩ := isConfig_of_detectorOf hd
    cases hf
  | noVersion hv =>
    rcases isConfig_or_isIo_of_readVersion hv with ⟨fault, rfl⟩ | ⟨cause, rfl⟩ <;> cases hf
  | noChangelog h => exact (document h).elim
  | noHeading => cases hf
  | noIndex h => exact (document h).elim
  | noLink => cases hf
  | noReleaseNotes => cases hf
  | noDiff => exact absurd rfl own
  | undocumented haffected => exact ⟨rfl, haffected⟩

/-- **A policy that is kept makes the gate succeed.** -/
theorem runGate_of_policy_remedy {breach : PolicyBreach}
    (h : FailsAt (t.view cwd) root config env repo version c (.policy breach)) (own : c ≠ .changes)
    (hline : IsOneLine version) (asks : (Failure.policy breach).remedy? = some remedy)
    (applied : remedy.Applied cwd root t t') :
    ∃ range, Change.resolve? env repo = some range ∧
      runGate (t'.view cwd) root config env repo =
        .ok ⟨version, .documented range config.paths.changelog, []⟩ := by
  have passes := h.passes_of_remedy own hline asks applied
  have hr := h.remedy?_eq own asks
  obtain ⟨rfl, range, diff, hrange, hdiff, haffected⟩ := h.affected_of_policy own
  obtain ⟨signal, hsignal⟩ := Option.isSome_iff_exists.1 haffected
  refine ⟨range, hrange, runGate_eq_ok_iff.2 ⟨passes .patterns (by decide), ?_, ?_⟩⟩
  · refine isRelease_iff.2 ⟨readVersion_eq_ok_iff.1 (passes .version (by decide)), ?_⟩
    exact isLinked_of_passes fun b hb => passes b (Nat.lt_asymm (Nat.lt_trans hb (by decide)))
  · cases hr
    obtain ⟨text, hread⟩ := h.1 .changelog (by decide)
    exact .inChangelog hrange hdiff hsignal (Release.hasNotes_of_insertLine? applied hread)

end

/-! ### Many remedies -/

section

variable (cwd : Files.Place) (root : String) (config : Config) (env : Change.Environment)
  (repo : Change.Repository)

/-- Remedies applied one after the other, each asked for by the failure that the gate ends with. -/
inductive RepairRun : Nat → Files.Tree → Files.Tree → Prop
  | refl (t : Files.Tree) : RepairRun 0 t t
  | step {n : Nat} {t t' t'' : Files.Tree} {version : String} {c : Check} {f : Failure}
    {remedy : Remedy} (fails : FailsAt (t.view cwd) root config env repo version c f)
    (asks : f.remedy? = some remedy) (applied : remedy.Applied cwd root t t')
    (rest : RepairRun n t' t'') : RepairRun (n + 1) t t''

/-- No remedy is left: the gate succeeds, or a file cannot be read, or a file that is asked for cannot
be created. -/
inductive Settled (t : Files.Tree) : Prop
  | succeeds {report} (h : runGate (t.view cwd) root config env repo = .ok report)
  | unreadable {cause} (h : runGate (t.view cwd) root config env repo = .error (.io cause))
  | cannotCreate {path f} (h : runGate (t.view cwd) root config env repo = .error f)
    (asks : f.remedy? = some (.create path)) (never : ∀ t', ¬t.Creates t' cwd (Files.join root path))

end

section

variable {t t' : Files.Tree} {cwd : Files.Place} {root : String} {config : Config}
  {env : Change.Environment} {repo : Change.Repository} {version : String}

/-- A run may be carried on by another one. -/
theorem RepairRun.trans {n m : Nat} {t'' : Files.Tree}
    (run : RepairRun cwd root config env repo n t t')
    (rest : RepairRun cwd root config env repo m t' t'') :
    RepairRun cwd root config env repo (n + m) t t'' := by
  induction run with
  | refl t => rwa [Nat.zero_add]
  | step fails asks applied _ ih =>
    rw [Nat.add_right_comm]
    exact .step fails asks applied (ih rest)

variable (answers : repo.Answers config.schema.diffPaths)

include answers

/-- The version and what comes before it stay in order during a run. -/
theorem RepairRun.exists_passes {n : Nat} {b : Check} (hline : IsOneLine version)
    (run : RepairRun cwd root config env repo n t t') (hb : ¬b < .version)
    (passes : ∀ a, ¬b < a → Passes (t.view cwd) root config env repo version a) :
    ∃ b', ¬b' < Check.version ∧
      ∀ a, ¬b' < a → Passes (t'.view cwd) root config env repo version a := by
  induction run generalizing b with
  | refl t => exact ⟨b, hb, passes⟩
  | step fails asks applied rest ih =>
    have own := fails.ne_changes answers asks
    have hc := Check.version_lt_of_remedy? (fails.remedy?_eq own asks)
    obtain rfl := fails.version_eq hc (passes .version hb)
    exact ih (Nat.lt_asymm hc) (fails.passes_of_remedy own hline asks applied)

/-- A run is no longer than there are checks that can still ask for something. -/
theorem RepairRun.le_remediesAfter {n : Nat} {b : Check} (hline : IsOneLine version)
    (run : RepairRun cwd root config env repo n t t') (hb : ¬b < .version)
    (passes : ∀ a, ¬b < a → Passes (t.view cwd) root config env repo version a) :
    n ≤ b.remediesAfter := by
  -- every remedy moves the last check that is known to accept
  induction run generalizing b with
  | refl t => exact Nat.zero_le _
  | step fails asks applied rest ih =>
    have own := fails.ne_changes answers asks
    have hr := fails.remedy?_eq own asks
    have hc := Check.version_lt_of_remedy? hr
    obtain rfl := fails.version_eq hc (passes .version hb)
    have hn := ih (Nat.lt_asymm hc) (fails.passes_of_remedy own hline asks applied)
    exact Nat.lt_of_le_of_lt hn (Check.remediesAfter_lt (fails.lt_of_passes passes) hr)

/-- **Six remedies are enough.** -/
theorem RepairRun.le_six {n : Nat} (run : RepairRun cwd root config env repo n t t')
    (hline : ∀ version, readVersion (t.view cwd) root config.paths.manifest = .ok version →
      IsOneLine version) : n ≤ 6 := by
  cases run with
  | refl => exact Nat.zero_le 6
  | step fails asks applied rest =>
    have own := fails.ne_changes answers asks
    have hr := fails.remedy?_eq own asks
    have hc := Check.version_lt_of_remedy? hr
    have hline := hline _ (fails.1 .version hc)
    have hn := rest.le_remediesAfter answers hline (Nat.lt_asymm hc)
      (fails.passes_of_remedy own hline asks applied)
    exact Nat.lt_of_le_of_lt hn (Check.remediesAfter_lt hc hr)

omit answers in
/-- A line that is asked for can be put where it is asked for. -/
theorem FailsAt.exists_insertLine? {c : Check} {f : Failure} {path line : String}
    (h : FailsAt (t.view cwd) root config env repo version c f)
    (hr : c.remedy? config.paths version = some (.insert path line)) :
    ∃ t', t.insertLine? cwd (Files.join root path) line = some t' := by
  cases c with
  | heading =>
    cases hr
    obtain ⟨text, hread⟩ := h.1 .changelog (by decide)
    exact Files.Tree.exists_insertLine? hread _
  | link =>
    cases hr
    obtain ⟨text, hread⟩ := h.1 .index (by decide)
    exact Files.Tree.exists_insertLine? hread _
  | schemaNotes =>
    cases hr
    obtain ⟨text, hread⟩ := h.1 .changelog (by decide)
    exact Files.Tree.exists_insertLine? hread _
  | _ => cases hr

variable (env) in
/-- Where remedies are left, one can be applied. -/
theorem settled_or_exists_remedy (hvalid : config.schema.PatternsValid)
    (hv : readVersion (t.view cwd) root config.paths.manifest = .ok version) :
    Settled cwd root config env repo t ∨
      ∃ c f remedy t', FailsAt (t.view cwd) root config env repo version c f ∧
        f.remedy? = some remedy ∧ remedy.Applied cwd root t t' := by
  cases hgate : runGate (t.view cwd) root config env repo with
  | ok report => exact .inl (.succeeds hgate)
  | error f =>
    obtain ⟨version', c, fails⟩ := runGate_eq_error_iff.1 hgate
    by_cases own : c = .changes
    · subst own
      obtain ⟨cause, rfl⟩ := fails.isIo_of_changes answers
      exact .inl (.unreadable hgate)
    have passes : ∀ a, ¬Check.version < a →
        Passes (t.view cwd) root config env repo version a := by
      intro a ha
      cases a with
      | patterns => exact hvalid
      | version => exact hv
      | _ => exact absurd (by decide) ha
    have hc := fails.lt_of_passes passes
    obtain rfl := fails.version_eq hc hv
    rcases fails.cases_remedy own with ⟨hn, -⟩ | ⟨cause, rfl⟩ | ⟨remedy, asks, hr⟩
    · exact absurd hc hn
    · exact .inl (.unreadable hgate)
    · cases remedy with
      | create path =>
        by_cases can : ∃ t', t.Creates t' cwd (Files.join root path)
        · obtain ⟨t', applied⟩ := can
          exact .inr ⟨c, f, _, t', fails, asks, applied⟩
        · exact .inl (.cannotCreate hgate asks (not_exists.1 can))
      | insert path line =>
        obtain ⟨t', applied⟩ := fails.exists_insertLine? hr
        exact .inr ⟨c, f, _, t', fails, asks, applied⟩

/-- **Remedies lead to an end.** -/
theorem exists_repairRun {b : Check} (hline : IsOneLine version) (hb : ¬b < .version)
    (passes : ∀ a, ¬b < a → Passes (t.view cwd) root config env repo version a) :
    ∃ n t', RepairRun cwd root config env repo n t t' ∧ Settled cwd root config env repo t' := by
  induction hk : b.remediesAfter using Nat.strongRecOn generalizing t b with
  | ind k ih =>
    have hvalid := passes .patterns (by cases b <;> decide)
    rcases settled_or_exists_remedy env answers hvalid (passes .version hb) with
      settled | ⟨c, f, remedy, t', fails, asks, applied⟩
    · exact ⟨0, t, .refl t, settled⟩
    · have own := fails.ne_changes answers asks
      have hr := fails.remedy?_eq own asks
      have hlt := Check.remediesAfter_lt (fails.lt_of_passes passes) hr
      obtain ⟨n, t'', run, settled⟩ := ih _ (hk ▸ hlt)
        (Nat.lt_asymm (Check.version_lt_of_remedy? hr))
        (fails.passes_of_remedy own hline asks applied) rfl
      exact ⟨n + 1, t'', .step fails asks applied run, settled⟩

/-- A breach comes after the version and asks for a remedy. -/
theorem FailsAt.remedy_of_isBreach {c : Check} {f : Failure}
    (h : FailsAt (t.view cwd) root config env repo version c f) (hf : f.IsBreach) :
    Check.version < c ∧ c ≠ .changes ∧ ∃ remedy, f.remedy? = some remedy := by
  have own : c ≠ .changes := by
    rintro rfl
    obtain ⟨cause, rfl⟩ := h.isIo_of_changes answers
    rcases hf with ⟨_, e⟩ | ⟨_, e⟩ <;> cases e
  rcases h.cases_remedy own with ⟨-, fault, rfl⟩ | ⟨cause, rfl⟩ | ⟨remedy, asks, hr⟩
  · rcases hf with ⟨_, e⟩ | ⟨_, e⟩ <;> cases e
  · rcases hf with ⟨_, e⟩ | ⟨_, e⟩ <;> cases e
  · exact ⟨Check.version_lt_of_remedy? hr, own, remedy, asks⟩

end

/-- **Repairing what a failure names makes progress.** The version of the manifest is one line, and
the repository answers. A failure about a link or a policy asks for a remedy. After the remedy the
version is read as before, and the gate succeeds or fails at a strictly later check; after the remedy
of a policy it succeeds, and the report names the changelog. At most six remedies can follow each
other. However they were begun, they lead to a report, or to a file that cannot be read, or to one
that cannot be created. -/
theorem runGate_repair (t : Files.Tree) (cwd : Files.Place) (root : String) (config : Config)
    (env : Change.Environment) (repo : Change.Repository)
    (answers : repo.Answers config.schema.diffPaths)
    (hline : ∀ version, readVersion (t.view cwd) root config.paths.manifest = .ok version →
      IsOneLine version) :
    (∀ f, runGate (t.view cwd) root config env repo = .error f → f.IsBreach →
      ∃ version c remedy, FailsAt (t.view cwd) root config env repo version c f ∧
        f.remedy? = some remedy ∧ ∀ t', remedy.Applied cwd root t t' →
          gateAborts (t'.view cwd) root config env repo = false ∧
          readVersion (t'.view cwd) root config.paths.manifest = .ok version ∧
          ((∃ report, runGate (t'.view cwd) root config env repo = .ok report) ∨
            ∃ c' f', c < c' ∧ runGate (t'.view cwd) root config env repo = .error f' ∧
              FailsAt (t'.view cwd) root config env repo version c' f') ∧
          ∀ breach, f = .policy breach → ∃ range,
            runGate (t'.view cwd) root config env repo =
              .ok ⟨version, .documented range config.paths.changelog, []⟩) ∧
    (∀ n t', RepairRun cwd root config env repo n t t' → n ≤ 6) ∧
    ∀ f, runGate (t.view cwd) root config env repo = .error f → f.IsBreach →
      ∀ n t', RepairRun cwd root config env repo n t t' →
        ∃ m t'', RepairRun cwd root config env repo (n + m) t t'' ∧
          Settled cwd root config env repo t'' := by
  refine ⟨fun f hgate hf => ?_, fun n t' run => run.le_six answers hline,
    fun f hgate hf n t' run => ?_⟩ <;>
    obtain ⟨version, c, fails⟩ := runGate_eq_error_iff.1 hgate <;>
    obtain ⟨hc, own, remedy, asks⟩ := fails.remedy_of_isBreach answers hf <;>
    have line := hline version (fails.1 .version hc)
  · refine ⟨version, c, remedy, fails, asks, fun t' applied => ⟨?_, ?_, ?_, ?_⟩⟩
    · exact gateAborts_eq_false answers _
    · exact fails.passes_of_remedy own line asks applied .version (Nat.lt_asymm hc)
    · cases hgate' : runGate (t'.view cwd) root config env repo with
      | ok report => exact .inl ⟨report, rfl⟩
      | error f' =>
        obtain ⟨version', c', fails'⟩ := runGate_eq_error_iff.1 hgate'
        obtain ⟨hlt, rfl⟩ := fails.lt_of_remedy own line asks applied fails'
        exact .inr ⟨c', f', hlt, rfl, fails'⟩
    · rintro breach rfl
      obtain ⟨range, -, h⟩ := runGate_of_policy_remedy fails own line asks applied
      exact ⟨range, h⟩
  · -- all that is known of the start is that its patterns and its version are in order
    obtain ⟨b, hb, passes⟩ := run.exists_passes answers (b := .version) line (by decide) fun a ha =>
      fails.1 a (Nat.lt_of_le_of_lt (Nat.not_lt.1 ha) hc)
    obtain ⟨m, t'', rest, settled⟩ := exists_repairRun answers line hb passes
    exact ⟨m, t'', run.trans rest, settled⟩

open History (noPipeline renamedFile) in
/-- The changes ask for Schema Notes, and the changelog gets them. -/
theorem runGate_repair_renamedFile :
    let t := renamedFile.tree
    let script : Change.Script := ⟨["HEAD~1", "HEAD"], some "@@ -1 +1 @@\n+SCHEMA_VERSION\n", none⟩
    runGate (t.view []) "." .default noPipeline script.repository =
        .error (.policy (.noSchemaNotes "CHANGELOG.md"
          "docs/release-notes/RELEASE_NOTES_v1.0.0.md" "v1.0.0")) ∧
      readVersion (t.view []) "." Config.default.paths.manifest = .ok "1.0.0" ∧
      ∃ t' range, t.insertLine? [] "./CHANGELOG.md" "### Schema Notes" = some t' ∧
        runGate (t'.view []) "." .default noPipeline script.repository =
          .ok ⟨"1.0.0", .documented range "CHANGELOG.md", []⟩ := by
  intro t script
  have hgate : runGate (t.view []) "." .default noPipeline script.repository =
      .error (.policy (.noSchemaNotes "CHANGELOG.md"
        "docs/release-notes/RELEASE_NOTES_v1.0.0.md" "v1.0.0")) := by decide +kernel
  have hv : readVersion (t.view []) "." Config.default.paths.manifest = .ok "1.0.0" := by
    decide +kernel
  have hline : ∀ version, readVersion (t.view []) "." Config.default.paths.manifest = .ok version →
      IsOneLine version := by
    intro version h
    cases hv.symm.trans h
    exact ⟨by decide, by decide⟩
  have answers := script.answers Config.default.schema.diffPaths
  have hread : (t.view []).read "./CHANGELOG.md" = .ok "## v1.0.0\n" := by decide +kernel
  obtain ⟨t', ht'⟩ := Files.Tree.exists_insertLine? hread "### Schema Notes"
  obtain ⟨h, -, -⟩ := runGate_repair t [] "." .default noPipeline script.repository answers hline
  obtain ⟨version, c, remedy, fails, asks, h⟩ := h _ hgate (.inr ⟨_, rfl⟩)
  cases asks
  obtain ⟨-, -, -, hpolicy⟩ := h t' ht'
  obtain ⟨range, hok⟩ := hpolicy _ rfl
  obtain ⟨hc, -, -⟩ := fails.remedy_of_isBreach answers (.inr ⟨_, rfl⟩)
  obtain rfl := fails.version_eq hc hv
  exact ⟨hgate, hv, t', range, ht', hok⟩

open History in
/-- A repository that fails with a breach of its own: the file that is asked for is created, and the
gate fails as before, at the same check. And the library is cut off by a path with the character NUL:
the release notes that are asked for are created, and the gate gives no answer any more. -/
theorem runGate_handedOn :
    let t := renamedFile.tree
    let breach : Failure := .linkage (.missingFile "LICENSE")
    let repo : Change.Repository := { hasRevision := fun _ => true, diff := fun _ _ => .error breach }
    let licensed := t.put ["LICENSE".toList] (.file [])
    let notes : Files.Place :=
      ["docs".toList, "release-notes".toList, "RELEASE_NOTES_v1.0.0.md".toList]
    let bare : Files.Tree := ⟨t.entries.filter fun entry => entry.1 != notes⟩
    let noted := bare.put notes (.file [])
    let library := openRepository .library renamedFile "."
    (breach.remedy? = some (.create "LICENSE") ∧ t.Creates licensed [] "./LICENSE" ∧
      (runGate (t.view []) "." .default noPipeline repo = .error breach ∧
        FailsAt (t.view []) "." .default noPipeline repo "1.0.0" .changes breach) ∧
      runGate (licensed.view []) "." .default noPipeline repo = .error breach ∧
        FailsAt (licensed.view []) "." .default noPipeline repo "1.0.0" .changes breach) ∧
    runGate (bare.view []) "." (libraryConfig ["\x00"]) noPipeline library =
        .error (.linkage (.missingReleaseNotes "docs/release-notes/RELEASE_NOTES_v1.0.0.md")) ∧
      bare.Creates noted [] "./docs/release-notes/RELEASE_NOTES_v1.0.0.md" ∧
      gateAborts (noted.view []) "." (libraryConfig ["\x00"]) noPipeline library = true := by
  intro t breach repo licensed notes bare noted library
  have handedOn {files : Files.View}
      (release : IsRelease files "." Config.default.paths "1.0.0") :
      runGate files "." .default noPipeline repo = .error breach ∧
        FailsAt files "." .default noPipeline repo "1.0.0" .changes breach := by
    have range : Change.resolve? noPipeline repo = some lastCommit := rfl
    have fails : FailsAt files "." .default noPipeline repo "1.0.0" .changes breach :=
      failsAt_changes (List.forall_mem_nil _) release range rfl rfl
    exact ⟨runGate_eq_error_iff.2 ⟨_, _, fails⟩, fails⟩
  have release : IsRelease (licensed.view []) "." Config.default.paths "1.0.0" :=
    isRelease_iff.2 ⟨readVersion_eq_ok_iff.1 (by decide +kernel),
      Release.checkLinkage_eq_ok_iff.1 (by decide +kernel)⟩
  exact ⟨⟨rfl, Files.Tree.creates_put (by decide) (by decide +kernel),
      handedOn isRelease_renamedFile, handedOn release⟩,
    by decide +kernel, Files.Tree.creates_put (by decide) (by decide +kernel), by decide +kernel⟩

end ReleaseGate
