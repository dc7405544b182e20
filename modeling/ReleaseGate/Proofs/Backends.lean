import ReleaseGate.Proofs.HistoryAccess
import ReleaseGate.Proofs.Verdict

/-!
# The two backends

The program and the library resolve the same range, but need not show the same changes of it: the
program looks for moved files and takes paths from its directory, the library does neither. The gate
gives the same answer through both exactly if what they show sets the detector off alike
(`gateThrough_system_eq_library_iff`), and a renamed file is enough to separate them.
-/

namespace ReleaseGate

section

variable {ε α β : Type}

theorem map_eq_map_iff {f : α → β} (hf : Function.Injective f) {x y : Except ε α} :
    x.map f = y.map f ↔ x = y := by
  cases x <;> cases y <;> simp [Except.map, hf.eq_iff]

end

/-- Diffs of a range lead to the same schema check exactly if the detector is set off by both or by
neither: a range without signals is not taken for one with documents. -/
theorem checkSchema_eq_iff {files : Files.View} {config : Config} {env : Change.Environment}
    {repo repo' : Change.Repository} (d : Change.Detector) (tag : Release.Tag)
    (a : Release.Artifacts) {range : Change.Range} {diff diff' : String}
    (hr : Change.resolve? env repo = some range) (hr' : Change.resolve? env repo' = some range)
    (hd : repo.diff range config.schema.diffPaths = .ok diff)
    (hd' : repo'.diff range config.schema.diffPaths = .ok diff') :
    checkSchema files config env repo d tag a = checkSchema files config env repo' d tag a ↔
      (d.isAffected diff.toList = true ↔ d.isAffected diff'.toList = true) := by
  rw [checkSchema_of_diff d tag a hr hd, checkSchema_of_diff d tag a hr' hd']
  cases d.isAffected diff.toList <;> cases d.isAffected diff'.toList <;>
    cases Release.requireSchemaNotes files tag a <;> simp [Except.map]

/-- For a release that is in order, histories lead to the same verdict exactly if they lead to the
same schema check. -/
theorem runGate_eq_runGate_iff {files : Files.View} {root : String} {config : Config}
    {env : Change.Environment} {repo repo' : Change.Repository}
    (valid : config.schema.PatternsValid) {version : String}
    (release : IsRelease files root config.paths version) :
    runGate files root config env repo = runGate files root config env repo' ↔
      checkSchema files config env repo config.schema.detector ⟨version⟩
          (.of root config.paths ⟨version⟩) =
        checkSchema files config env repo' config.schema.detector ⟨version⟩
          (.of root config.paths ⟨version⟩) := by
  have hinj : Function.Injective fun s : SchemaOutcome × List Notice =>
      (⟨version, s.1, s.2⟩ : Report) := by
    rintro ⟨s, ns⟩ ⟨t, ms⟩ h
    cases h
    rfl
  rw [runGate_eq_map valid release, runGate_eq_map valid release, map_eq_map_iff hinj]

namespace History

/-- The gate on the working tree of a workspace, with history reached by a backend. -/
def gateThrough (backend : Backend) (w : Workspace) (root : String) (config : Config)
    (env : Change.Environment) : Except Failure Report :=
  runGate (w.tree.view w.cwd) root { config with backend := backend } env
    (openRepository backend w root)

/-- The gate itself does not ask which backend is set. -/
theorem gateThrough_eq (backend : Backend) (w : Workspace) (root : String) (config : Config)
    (env : Change.Environment) :
    gateThrough backend w root config env =
      runGate (w.tree.view w.cwd) root config env (openRepository backend w root) := rfl

/-- The program accepts the paths, and what it shows of two snapshots sets the detector off exactly
if what the library shows does. -/
def SeesAlike (d : Change.Detector) (c : Checkout) (stand : Standpoint) (paths : List String)
    (base head : Snapshot) : Prop :=
  ∃ selected, selection stand paths = .ok selected ∧
    ((∃ change ∈ programChanges c selected base head,
        ShowsMarker d (Style.program c.settings) change) ↔
      ∃ change ∈ libraryChanges paths base head, ShowsMarker d (Style.library c.settings) change)

section

variable {w : Workspace} {root : String} {place : Files.Place} {c : Checkout}
  (hdir : w.directory? root = some place) (hfound : w.discover? root = some c)
  (hids : c.branch.PlainIds) {config : Config} {env : Change.Environment} {range : Change.Range}
  {base head : Snapshot}

include hdir hfound hids

/-- On a range that both resolve, the backends lead to the same schema check exactly where they see
alike. Where the program refuses the paths, it alone leads to a check that is skipped. -/
theorem checkSchema_backends_iff (files : Files.View) (d : Change.Detector) (tag : Release.Tag)
    (a : Release.Artifacts) (hr : Change.resolve? env (libraryRepository c) = some range)
    (hb : c.branch.snapshot? range.base = some base)
    (hh : c.branch.snapshot? range.head = some head) :
    checkSchema files config env (programRepository w root) d tag a =
        checkSchema files config env (libraryRepository c) d tag a ↔
      SeesAlike d c ⟨c.top, place.drop c.top.length⟩ config.schema.diffPaths base head := by
  have hr' : Change.resolve? env (programRepository w root) = some range := by
    rw [resolve?_program hdir hfound hids, hr]
  obtain ⟨_, hlibrary, hl⟩ := exists_diff_library hb hh config.schema.diffPaths d
  cases hs : selection ⟨c.top, place.drop c.top.length⟩ config.schema.diffPaths with
  | error text =>
    have hfail := diff_program_of_error hdir hfound hids hb hh hs
    rw [checkSchema_of_failure d tag a hr' hfail rfl, checkSchema_of_diff d tag a hr hlibrary]
    constructor
    · -- a check that is skipped is none that had a diff
      intro e
      split at e
      · cases hn : Release.requireSchemaNotes files tag a with
        | error => rw [hn] at e; cases e
        | ok => rw [hn] at e; cases e
      · cases e
    · rintro ⟨selected, e, -⟩
      rw [hs] at e
      cases e
  | ok selected =>
    obtain ⟨_, hprogram, hp⟩ := exists_diff_program hdir hfound hids hb hh hs d
    rw [checkSchema_eq_iff d tag a hr' hr hprogram hlibrary, hp, hl]
    constructor
    · exact fun h => ⟨selected, hs, h⟩
    · rintro ⟨selected', e, h⟩
      rw [hs] at e
      cases e
      exact h

/-- **The backends agree exactly where they see alike**: where the documents are not in order
before history is looked at, where no range is found, and where what the program and the library
show of the range sets the detector off by both or by neither. The root is a directory in which both
find the checkout. -/
theorem gateThrough_system_eq_library_iff (config : Config) (env : Change.Environment) :
    gateThrough .system w root config env = gateThrough .library w root config env ↔
      ¬(config.schema.PatternsValid ∧
          ∃ version, IsRelease (w.tree.view w.cwd) root config.paths version) ∨
        Change.resolve? env (libraryRepository c) = none ∨
        ∃ range base head, Change.resolve? env (libraryRepository c) = some range ∧
          c.branch.snapshot? range.base = some base ∧ c.branch.snapshot? range.head = some head ∧
          SeesAlike config.schema.detector c ⟨c.top, place.drop c.top.length⟩
            config.schema.diffPaths base head := by
  have hres : Change.resolve? env (programRepository w root) =
      Change.resolve? env (libraryRepository c) := resolve?_program hdir hfound hids env
  rw [gateThrough_eq, gateThrough_eq, openRepository_library hfound, openRepository]
  by_cases ready : config.schema.PatternsValid ∧
      ∃ version, IsRelease (w.tree.view w.cwd) root config.paths version
  · rw [or_iff_right (not_not_intro ready)]
    obtain ⟨valid, version, release⟩ := ready
    have hinj : Function.Injective fun s : SchemaOutcome × List Notice =>
        (⟨version, s.1, s.2⟩ : Report) := by
      rintro ⟨s, ns⟩ ⟨t, ms⟩ h
      cases h
      rfl
    rw [runGate_eq_map valid release, runGate_eq_map valid release, map_eq_map_iff hinj]
    cases hr : Change.resolve? env (libraryRepository c) with
    | none =>
      rw [hr] at hres
      rw [checkSchema_of_noRange _ _ _ hres, checkSchema_of_noRange _ _ _ hr]
      exact ⟨fun _ => .inl rfl, fun _ => rfl⟩
    | some range =>
      obtain ⟨base, head, hb, hh⟩ := exists_snapshots_of_library hr
      rw [checkSchema_backends_iff hdir hfound hids _ _ _ _ hr hb hh]
      constructor
      · exact fun h => .inr ⟨range, base, head, rfl, hb, hh, h⟩
      · rintro (h | ⟨range', base', head', hrange, hb', hh', h⟩)
        · cases h
        · cases hrange
          cases hb.symm.trans hb'
          cases hh.symm.trans hh'
          exact h
  · exact ⟨fun _ => .inl ready, fun _ => runGate_congr_of_not_release ready env _⟩

end

/-! ### A renamed file -/

/-- A file of a workspace with ASCII text. -/
def asciiFile (path text : String) : Files.Place × Files.Node :=
  (Files.components path.toList, .file (text.toList.map byte))

/-- A file that declares a schema. -/
def schemaFile : Text.Bytes := "const SCHEMA_VERSION\n".toList.map byte

/-- The files before a rename. -/
def beforeRename : Snapshot := ⟨[("src/old.rs", schemaFile)]⟩

/-- The files after it. -/
def afterRename : Snapshot := ⟨[("src/new.rs", schemaFile)]⟩

/-- A history whose last commit is the rename. -/
def renamedHistory : Checkout :=
  { top := [], branch := ⟨[⟨"1", beforeRename⟩, ⟨"2", afterRename⟩], []⟩, settings := .default }

/-- A release with that history. -/
def renamedFile : Workspace :=
  { tree := ⟨[([historyDir], .directory), (["docs".toList], .directory),
      (["docs".toList, "release-notes".toList], .directory),
      asciiFile "Cargo.toml" "version = \"1.0.0\"\n", asciiFile "CHANGELOG.md" "## v1.0.0\n",
      asciiFile "docs/release-notes/README.md" "[v1.0.0](RELEASE_NOTES_v1.0.0.md)\n",
      asciiFile "docs/release-notes/RELEASE_NOTES_v1.0.0.md" "Notes\n"]⟩
    cwd := []
    checkout := some renamedHistory }

/-- The program shows the rename and no content. -/
theorem programChanges_renamedHistory :
    ∃ selected, selection ⟨[], []⟩ Config.default.schema.diffPaths = .ok selected ∧
      programChanges renamedHistory selected beforeRename afterRename =
        [.moved .rename "src/old.rs" "src/new.rs" schemaFile schemaFile fullScore] := by
  have h : ((selection ⟨[], []⟩ Config.default.schema.diffPaths).map fun selected =>
      programChanges renamedHistory selected beforeRename afterRename) =
      .ok [.moved .rename "src/old.rs" "src/new.rs" schemaFile schemaFile fullScore] := by
    decide +kernel
  cases hs : selection ⟨[], []⟩ Config.default.schema.diffPaths with
  | error => rw [hs] at h; cases h
  | ok selected =>
    rw [hs] at h
    exact ⟨selected, rfl, Except.ok.inj h⟩

/-- The library shows a deletion and an addition. -/
theorem libraryChanges_renamedHistory :
    libraryChanges Config.default.schema.diffPaths beforeRename afterRename =
      [.added "src/new.rs" schemaFile, .deleted "src/old.rs" schemaFile] := by
  decide +kernel

theorem showsMarker_added :
    ShowsMarker ⟨[]⟩ (Style.library .default) (.added "src/new.rs" schemaFile) := by
  refine ⟨[], schemaFile, rfl, by decide, by decide, schemaFile, ?_, by decide +kernel⟩
  exact .inr (by decide +kernel)

theorem isRelease_renamedFile :
    IsRelease (renamedFile.tree.view renamedFile.cwd) "." Config.default.paths "1.0.0" :=
  isRelease_iff.2 ⟨readVersion_eq_ok_iff.1 (by decide +kernel),
    Release.checkLinkage_eq_ok_iff.1 (by decide +kernel)⟩

/-- What the two ways show of the rename is not alike. -/
theorem not_seesAlike_renamedHistory :
    ¬SeesAlike Config.default.schema.detector renamedHistory ⟨[], []⟩
      Config.default.schema.diffPaths beforeRename afterRename := by
  rintro ⟨selected, hs, h⟩
  obtain ⟨selected', hs', hprogram⟩ := programChanges_renamedHistory
  cases hs.symm.trans hs'
  rw [hprogram, libraryChanges_renamedHistory] at h
  obtain ⟨change, hc, old, new, e, -⟩ := h.2 ⟨_, List.mem_cons_self, showsMarker_added⟩
  rw [List.mem_singleton.1 hc] at e
  cases e

theorem plainIds_renamedHistory : renamedHistory.branch.PlainIds := by
  refine ⟨fun k hk => ?_, List.forall_mem_nil _⟩
  simp only [renamedHistory, List.mem_cons, List.not_mem_nil, or_false] at hk
  rcases hk with rfl | rfl <;> exact ⟨by decide, by decide⟩

/-- The variables of a run outside of any pipeline. -/
def noPipeline : Change.Environment := ⟨none, none, none, none⟩

theorem discover?_renamedFile : renamedFile.discover? "." = some renamedHistory := rfl

theorem directory?_renamedFile : renamedFile.directory? "." = some [] := rfl

theorem requireSchemaNotes_renamedFile :
    Release.requireSchemaNotes (renamedFile.tree.view renamedFile.cwd) ⟨"1.0.0"⟩
        (.of "." Config.default.paths ⟨"1.0.0"⟩) =
      .error (.policy (.noSchemaNotes "CHANGELOG.md"
        "docs/release-notes/RELEASE_NOTES_v1.0.0.md" "v1.0.0")) := by
  decide +kernel

/-- The range of the last commit. -/
def lastCommit : Change.Range := ⟨"HEAD~1", "HEAD"⟩

theorem snapshot?_lastCommit :
    renamedHistory.branch.snapshot? lastCommit.base = some beforeRename ∧
      renamedHistory.branch.snapshot? lastCommit.head = some afterRename := ⟨rfl, rfl⟩

theorem resolve?_renamedHistory :
    Change.resolve? noPipeline (libraryRepository renamedHistory) = some lastCommit := by
  decide

/-- A renamed file that bears a marker separates the backends. -/
theorem gateThrough_system_ne_library_renamedFile :
    gateThrough .system renamedFile "." .default noPipeline ≠
      gateThrough .library renamedFile "." .default noPipeline := by
  rw [Ne, gateThrough_system_eq_library_iff directory?_renamedFile discover?_renamedFile
    plainIds_renamedHistory, resolve?_renamedHistory]
  rintro (h | h | ⟨range, base, head, e, hb, hh, h⟩)
  · exact h ⟨fun p hp => absurd hp List.not_mem_nil, "1.0.0", isRelease_renamedFile⟩
  · cases h
  · cases e
    cases hb
    cases hh
    exact not_seesAlike_renamedHistory h

/-- The program lets the rename pass, and the library asks for Schema Notes. -/
theorem gateThrough_renamedFile :
    gateThrough .system renamedFile "." .default noPipeline =
        .ok ⟨"1.0.0", .unchanged lastCommit, []⟩ ∧
      gateThrough .library renamedFile "." .default noPipeline =
        .error (.policy (.noSchemaNotes "CHANGELOG.md"
          "docs/release-notes/RELEASE_NOTES_v1.0.0.md" "v1.0.0")) := by
  have valid : Config.default.schema.PatternsValid := fun p hp => absurd hp List.not_mem_nil
  constructor
  · obtain ⟨selected, hs, hc⟩ := programChanges_renamedHistory
    have hr := resolve?_program directory?_renamedFile discover?_renamedFile
      plainIds_renamedHistory noPipeline
    rw [resolve?_renamedHistory] at hr
    obtain ⟨text, hd, hp⟩ := exists_diff_program directory?_renamedFile discover?_renamedFile
      plainIds_renamedHistory snapshot?_lastCommit.1 snapshot?_lastCommit.2 hs ⟨[]⟩
    have quiet : ¬Change.Detector.isAffected ⟨[]⟩ text.toList = true := by
      rw [hp, hc]
      rintro ⟨change, hm, old, new, e, -⟩
      rw [List.mem_singleton.1 hm] at e
      cases e
    rw [gateThrough_eq, openRepository, runGate_eq_map valid isRelease_renamedFile,
      checkSchema_of_diff _ _ _ hr hd]
    show (if Change.Detector.isAffected ⟨[]⟩ text.toList then _ else _ : Except _ _).map _ = _
    rw [if_neg quiet]
    rfl
  · obtain ⟨text, hd, hp⟩ := exists_diff_library snapshot?_lastCommit.1 snapshot?_lastCommit.2
      Config.default.schema.diffPaths ⟨[]⟩
    have loud : Change.Detector.isAffected ⟨[]⟩ text.toList = true := by
      rw [hp, libraryChanges_renamedHistory]
      exact ⟨_, List.mem_cons_self, showsMarker_added⟩
    rw [gateThrough_eq, openRepository_library discover?_renamedFile,
      runGate_eq_map valid isRelease_renamedFile,
      checkSchema_of_diff _ _ _ resolve?_renamedHistory hd]
    show (if Change.Detector.isAffected ⟨[]⟩ text.toList then _ else _ : Except _ _).map _ = _
    rw [if_pos loud, requireSchemaNotes_renamedFile]
    rfl

end History

end ReleaseGate
