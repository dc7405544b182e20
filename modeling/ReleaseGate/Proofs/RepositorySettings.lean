import ReleaseGate.Proofs.Backends
import ReleaseGate.Proofs.SlidChanges

/-!
# The settings of a repository

How far the settings of a repository reach what the program shows of it, and the gate. They reach
the patches between the snapshots that are compared and nothing else (`programDiff_of_sides`).

* Variables on colours, quoting, prefixes, external drivers and text conversion are overridden
  (`Settings.SamePatches.setAll`).
* Indentation moves changes and makes none, so it never reaches the gate.
* The search for moved files does. Two settings lead to the same verdict exactly if what they show
  sets the detector off alike (`gateThrough_withSettings_iff`), and a renamed file is enough to
  separate them (`gateThrough_withSettings_renamedFile`).
-/

namespace ReleaseGate.History

open Change (Range)

/-! ### Overridden variables -/

/-- A variable that the program overrides, or that has no part in a diff without colours, context,
external drivers and text conversion. -/
def IsOverridden (name : String) : Prop :=
  let n := lowerText name
  "color.".toList <+: n.toList ∨
    n ∈ ["core.quotepath", "diff.noprefix", "diff.mnemonicprefix", "diff.external",
      "diff.context"] ∨
    "diff.".toList <+: n.toList ∧
      (".textconv".toList <:+ n.toList ∨ ".command".toList <:+ n.toList)

instance : DecidablePred IsOverridden := fun _ =>
  inferInstanceAs (Decidable (_ ∨ _ ∨ _ ∧ (_ ∨ _)))

namespace Settings

/-- Settings under which the program writes the same patches. -/
structure SamePatches (s t : Settings) : Prop where
  detection : s.detection = t.detection
  byIndent : s.byIndent = t.byIndent
  notes : s.programNotes = t.programNotes

theorem SamePatches.refl (s : Settings) : s.SamePatches s := ⟨rfl, rfl, rfl⟩

theorem SamePatches.symm {s t : Settings} (h : s.SamePatches t) : t.SamePatches s :=
  ⟨h.detection.symm, h.byIndent.symm, h.notes.symm⟩

theorem SamePatches.trans {s t u : Settings} (h : s.SamePatches t) (h' : t.SamePatches u) :
    s.SamePatches u :=
  ⟨h.detection.trans h'.detection, h.byIndent.trans h'.byIndent, h.notes.trans h'.notes⟩

theorem SamePatches.set {s t : Settings} (h : s.SamePatches t) (name value : String) :
    (s.set name value).SamePatches (t.set name value) := by
  unfold Settings.set
  simp only
  split_ifs
  · exact ⟨rfl, h.byIndent, h.notes⟩
  · exact ⟨rfl, h.byIndent, h.notes⟩
  · exact ⟨rfl, h.byIndent, h.notes⟩
  · exact ⟨h.detection, rfl, h.notes⟩
  · exact ⟨h.detection, h.byIndent, h.notes⟩
  · exact ⟨h.detection, h.byIndent, h.notes⟩
  · exact h

theorem samePatches_set_of_isOverridden (s : Settings) {name : String} (h : IsOverridden name)
    (value : String) : (s.set name value).SamePatches s := by
  have hrenames : lowerText name ≠ "diff.renames" := by
    intro e
    unfold IsOverridden at h
    rw [e] at h
    revert h
    decide
  have hindent : lowerText name ≠ "diff.indentheuristic" := by
    intro e
    unfold IsOverridden at h
    rw [e] at h
    revert h
    decide
  simp only [Settings.set, if_neg hrenames, if_neg hindent]
  split_ifs <;> exact ⟨rfl, rfl, rfl⟩

/-- **Overridden variables do not count.** -/
theorem SamePatches.setAll {s t : Settings} (h : s.SamePatches t) (vars : List (String × String)) :
    (s.setAll vars).SamePatches (t.setAll (vars.filter fun v => ¬IsOverridden v.1)) := by
  induction vars generalizing s t with
  | nil => exact h
  | cons v vars ih =>
    by_cases hv : IsOverridden v.1
    · rw [List.filter_cons_of_neg (by simpa using hv)]
      exact ih ((s.samePatches_set_of_isOverridden hv v.2).trans h)
    · rw [List.filter_cons_of_pos (by simpa using hv)]
      exact ih (h.set v.1 v.2)

end Settings

/-! ### The two sides of a diff -/

/-- The workspace with other settings of its repository. -/
def Workspace.withSettings (w : Workspace) (s : Settings) : Workspace :=
  { w with checkout := w.checkout.map fun c => { c with settings := s } }

/-- What the program compares: the files of two snapshots that the paths select. -/
def programSides? (w : Workspace) (root : String) (range : Range) (paths : List String) :
    Option (Snapshot × Snapshot) := do
  let place ← w.directory? root
  let c ← w.checkoutAt? place
  if isOption range.base then none
  else
    let (base, head) ← rangeEnds? c.branch range
    let selected ← (selection ⟨c.top, place.drop c.top.length⟩ paths).toOption
    return (base.restrict selected, head.restrict selected)

/-- The program's patch between two snapshots. -/
def programText (s : Settings) (base head : Snapshot) : String :=
  textOfWhole (Change.patchLines
    ((detectMoves s.detection (changes base head)).map (Style.program s).filePatch))

theorem programText_congr {s t : Settings} (h : s.SamePatches t) (base head : Snapshot) :
    programText s base head = programText t base head := by
  rw [programText, programText, h.detection, Style.program, Style.program, h.byIndent, h.notes]

section

variable {w : Workspace} {root : String} {range : Range} {paths : List String}

theorem checkoutAt?_withSettings (w : Workspace) (s : Settings) (place : Files.Place) :
    (w.withSettings s).checkoutAt? place =
      (w.checkoutAt? place).map fun c => { c with settings := s } := by
  unfold Workspace.checkoutAt? Workspace.withSettings
  cases w.checkout with
  | none => rfl
  | some c =>
    simp only [Option.map_some, Option.filter_some]
    split <;> rfl

theorem programFinds_withSettings (w : Workspace) (s : Settings) (root : String) :
    programFinds (w.withSettings s) root = programFinds w root := by
  funext rev
  have hdir : (w.withSettings s).directory? root = w.directory? root := rfl
  rw [programFinds, programFinds, hdir]
  cases w.directory? root with
  | none => rfl
  | some place =>
    rw [Option.bind_some, Option.bind_some, checkoutAt?_withSettings]
    cases w.checkoutAt? place <;> rfl

/-- **Settings reach the patch and nothing else.** -/
theorem programDiff_of_sides {base head : Snapshot}
    (h : programSides? w root range paths = some (base, head)) (s : Settings) :
    programDiff (w.withSettings s) root range paths = .ok (programText s base head) := by
  have hdir : (w.withSettings s).directory? root = w.directory? root := rfl
  unfold programSides? at h
  obtain ⟨place, hplace, h⟩ := Option.bind_eq_some_iff.1 h
  obtain ⟨c, hc, h⟩ := Option.bind_eq_some_iff.1 h
  split_ifs at h with hoption
  obtain ⟨⟨b, e⟩, hends, h⟩ := Option.bind_eq_some_iff.1 h
  obtain ⟨selected, hselected, h⟩ := Option.bind_eq_some_iff.1 h
  cases h
  rw [programDiff, hdir, hplace]
  simp only [checkoutAt?_withSettings, hc, Option.map_some, if_neg hoption, hends]
  cases hs : selection ⟨c.top, place.drop c.top.length⟩ paths with
  | error text =>
    rw [hs] at hselected
    cases hselected
  | ok found =>
    rw [hs] at hselected
    cases hselected
    rfl

/-- Where nothing is compared, the program says the same under all settings. -/
theorem exists_programDiff_error (h : programSides? w root range paths = none) :
    ∃ text, ∀ s, programDiff (w.withSettings s) root range paths = .error text := by
  have hdir (s : Settings) : (w.withSettings s).directory? root = w.directory? root := rfl
  unfold programSides? at h
  simp only [programDiff, hdir, checkoutAt?_withSettings]
  cases hplace : w.directory? root with
  | none => exact ⟨refusal root range paths (noDirectoryText w root), fun s => rfl⟩
  | some place =>
    cases hc : w.checkoutAt? place with
    | none =>
      exact ⟨refusal root range paths (outsideText range paths), fun s => by
        simp only [hc, Option.map_none]⟩
    | some c =>
      rw [hplace, Option.bind_eq_bind, Option.bind_some, hc, Option.bind_eq_bind,
        Option.bind_some] at h
      simp only [hc, Option.map_some]
      split_ifs at h ⊢ with hoption
      · exact ⟨_, fun s => rfl⟩
      · cases hends : rangeEnds? c.branch range with
        | none => exact ⟨_, fun s => rfl⟩
        | some ends =>
          rw [hends, Option.bind_eq_bind, Option.bind_some] at h
          cases hs : selection ⟨c.top, place.drop c.top.length⟩ paths with
          | error text => exact ⟨text, fun s => rfl⟩
          | ok selected =>
            rw [hs] at h
            cases h

/-- Settings with the same patches lead to the same diffs. -/
theorem programDiff_congr {s t : Settings} (h : s.SamePatches t) (w : Workspace) (root : String)
    (range : Range) (paths : List String) :
    programDiff (w.withSettings s) root range paths =
      programDiff (w.withSettings t) root range paths := by
  cases hsides : programSides? w root range paths with
  | none =>
    obtain ⟨text, htext⟩ := exists_programDiff_error hsides
    rw [htext, htext]
  | some sides =>
    rw [programDiff_of_sides hsides, programDiff_of_sides hsides, programText_congr h]

end

/-! ### Verdicts -/

/-- What is shown of two snapshots, with moved files looked for or not, sets a detector off. -/
def MovesShow (d : Change.Detector) (detection : Detection) (base head : Snapshot) : Prop :=
  ∃ change ∈ detectMoves detection (changes base head),
    ShowsMarker d (Style.program .default) change

theorem isAffected_programText_iff (d : Change.Detector) (s : Settings) (base head : Snapshot) :
    d.isAffected (programText s base head).toList = true ↔ MovesShow d s.detection base head := by
  rw [programText, isAffected_textOfWhole_iff d (keepsLine_program s)]
  simp only [MovesShow, showsMarker_program_iff d s .default]

section

variable {w : Workspace} {root : String} {config : Config} {env : Change.Environment}

theorem resolve?_withSettings (s : Settings) :
    Change.resolve? env (programRepository (w.withSettings s) root) =
      Change.resolve? env (programRepository w root) :=
  Change.resolve?_congr env (programFinds_withSettings w s root)

/-- On a range that is resolved, settings count for the schema check only by what they show. -/
theorem checkSchema_withSettings_iff (files : Files.View) (d : Change.Detector) (tag : Release.Tag)
    (a : Release.Artifacts) (s t : Settings) {range : Range}
    (hr : Change.resolve? env (programRepository w root) = some range) :
    checkSchema files config env (programRepository (w.withSettings s) root) d tag a =
        checkSchema files config env (programRepository (w.withSettings t) root) d tag a ↔
      ∀ base head, programSides? w root range config.schema.diffPaths = some (base, head) →
        (MovesShow d s.detection base head ↔ MovesShow d t.detection base head) := by
  have hs := (resolve?_withSettings s).trans hr
  have ht := (resolve?_withSettings t).trans hr
  cases hsides : programSides? w root range config.schema.diffPaths with
  | none =>
    obtain ⟨text, htext⟩ := exists_programDiff_error hsides
    have fails (u : Settings) : (programRepository (w.withSettings u) root).diff range
        config.schema.diffPaths = .error (.gitCommand text) := by
      simp only [programRepository, htext]
    rw [checkSchema_of_failure d tag a hs (fails s) rfl,
      checkSchema_of_failure d tag a ht (fails t) rfl]
    exact iff_of_true rfl fun base head h => by cases h
  | some sides =>
    obtain ⟨base, head⟩ := sides
    have shows (u : Settings) : (programRepository (w.withSettings u) root).diff range
        config.schema.diffPaths = .ok (programText u base head) := by
      simp only [programRepository, programDiff_of_sides hsides]
    rw [checkSchema_eq_iff d tag a hs ht (shows s) (shows t), isAffected_programText_iff,
      isAffected_programText_iff]
    constructor
    · rintro h _ _ ⟨⟩
      exact h
    · exact fun h => h base head rfl

end

/-- **What settings can do.** Configurations that differ only in overridden variables lead to the
same diffs. Any two settings lead to the same verdict, unless a release is in order, a range is
resolved and compared, and what is shown of it with moved files looked for as one of them says sets
the detector off, and as the other one says does not: how changes are placed does not count. -/
theorem gateThrough_withSettings_iff (w : Workspace) (root : String) (s t : Settings) :
    (∀ vars vars' : List (String × String),
      (vars.filter fun v => ¬IsOverridden v.1) = (vars'.filter fun v => ¬IsOverridden v.1) →
      ∀ range paths,
        (openRepository .system (w.withSettings (s.setAll vars)) root).diff range paths =
          (openRepository .system (w.withSettings (s.setAll vars')) root).diff range paths) ∧
    ∀ config env,
      (gateThrough .system (w.withSettings s) root config env =
          gateThrough .system (w.withSettings t) root config env ↔
        ∀ version range base head, config.schema.PatternsValid →
          IsRelease (w.tree.view w.cwd) root config.paths version →
          Change.resolve? env (openRepository .system w root) = some range →
          programSides? w root range config.schema.diffPaths = some (base, head) →
          (MovesShow config.schema.detector s.detection base head ↔
            MovesShow config.schema.detector t.detection base head)) := by
  constructor
  · intro vars vars' hvars range paths
    have h := (Settings.SamePatches.refl s).setAll vars
    have h' := (Settings.SamePatches.refl s).setAll vars'
    rw [← hvars] at h'
    have same : (s.setAll vars).SamePatches (s.setAll vars') := h.trans h'.symm
    simp only [openRepository, programRepository, programDiff_congr same]
  · intro config env
    by_cases ready : config.schema.PatternsValid ∧
        ∃ version, IsRelease (w.tree.view w.cwd) root config.paths version
    · obtain ⟨valid, version, release⟩ := ready
      have hgate (u : Settings) : gateThrough .system (w.withSettings u) root config env =
          runGate (w.tree.view w.cwd) root config env
            (programRepository (w.withSettings u) root) := rfl
      rw [hgate, hgate, runGate_eq_runGate_iff valid release]
      cases hr : Change.resolve? env (programRepository w root) with
      | none =>
        rw [checkSchema_of_noRange _ _ _ ((resolve?_withSettings s).trans hr),
          checkSchema_of_noRange _ _ _ ((resolve?_withSettings t).trans hr)]
        refine iff_of_true rfl fun _ range _ _ _ _ h => ?_
        rw [openRepository, hr] at h
        cases h
      | some range =>
        rw [checkSchema_withSettings_iff _ _ _ _ s t hr]
        constructor
        · intro h _ range' base head _ _ hrange
          rw [openRepository, hr] at hrange
          cases hrange
          exact h base head
        · exact fun h base head => h version range base head valid release hr
    · refine iff_of_true (runGate_congr_of_not_release ready env _) ?_
      exact fun version _ _ _ valid release => absurd ⟨valid, version, release⟩ ready

/-! ### A renamed file -/

theorem programSides?_renamedFile :
    programSides? renamedFile "." lastCommit Config.default.schema.diffPaths =
      some (beforeRename, afterRename) := by
  decide +kernel

/-- Where moved files are looked for, no content is shown. -/
theorem not_movesShow_renames : ¬MovesShow ⟨[]⟩ .renames beforeRename afterRename := by
  have moved : detectMoves .renames (changes beforeRename afterRename) =
      [.moved .rename "src/old.rs" "src/new.rs" schemaFile schemaFile fullScore] := by
    decide +kernel
  rintro ⟨change, hm, old, new, e, -⟩
  rw [moved] at hm
  rw [List.mem_singleton.1 hm] at e
  cases e

/-- Where they are not, the marker is shown. -/
theorem movesShow_off : MovesShow ⟨[]⟩ .off beforeRename afterRename := by
  have hm :
      .added "src/new.rs" schemaFile ∈ detectMoves .off (changes beforeRename afterRename) := by
    decide +kernel
  refine ⟨_, hm, [], schemaFile, rfl, by decide, by decide, schemaFile, ?_, by decide +kernel⟩
  exact .inr (by decide +kernel)

/-- The settings with which moved files are not looked for. -/
def withoutRenames : Settings := .setAll .default [("diff.renames", "false")]

theorem resolve?_renamedFile :
    Change.resolve? noPipeline (programRepository renamedFile ".") = some lastCommit := by
  decide +kernel

/-- One variable that is not overridden changes the verdict. -/
theorem gateThrough_withSettings_ne_renamedFile :
    gateThrough .system (renamedFile.withSettings withoutRenames) "." .default noPipeline ≠
      gateThrough .system (renamedFile.withSettings .default) "." .default noPipeline := by
  rw [Ne, (gateThrough_withSettings_iff renamedFile "." withoutRenames .default).2]
  intro h
  have valid : Config.default.schema.PatternsValid := fun p hp => absurd hp List.not_mem_nil
  exact not_movesShow_renames ((h "1.0.0" lastCommit beforeRename afterRename valid
    isRelease_renamedFile resolve?_renamedFile programSides?_renamedFile).1 movesShow_off)

/-- With moved files looked for the rename passes; without, the gate asks for Schema Notes. -/
theorem gateThrough_withSettings_renamedFile :
    gateThrough .system (renamedFile.withSettings .default) "." .default noPipeline =
        .ok ⟨"1.0.0", .unchanged lastCommit, []⟩ ∧
      gateThrough .system (renamedFile.withSettings withoutRenames) "." .default noPipeline =
        .error (.policy (.noSchemaNotes "CHANGELOG.md"
          "docs/release-notes/RELEASE_NOTES_v1.0.0.md" "v1.0.0")) := by
  have valid : Config.default.schema.PatternsValid := fun p hp => absurd hp List.not_mem_nil
  have hgate (s : Settings) :
      gateThrough .system (renamedFile.withSettings s) "." .default noPipeline =
        (if Change.Detector.isAffected ⟨[]⟩ (programText s beforeRename afterRename).toList then
            (Release.requireSchemaNotes (renamedFile.tree.view renamedFile.cwd) ⟨"1.0.0"⟩
              (.of "." Config.default.paths ⟨"1.0.0"⟩)).map fun notes =>
                (.documented lastCommit notes, [])
          else .ok (.unchanged lastCommit, []) : Except Failure (SchemaOutcome × List Notice)).map
          fun o => ⟨"1.0.0", o.1, o.2⟩ := by
    have hdiff : (programRepository (renamedFile.withSettings s) ".").diff lastCommit
        Config.default.schema.diffPaths = .ok (programText s beforeRename afterRename) := by
      simp only [programRepository, programDiff_of_sides programSides?_renamedFile]
    rw [← checkSchema_of_diff _ _ _ ((resolve?_withSettings s).trans resolve?_renamedFile) hdiff]
    exact runGate_eq_map valid isRelease_renamedFile
  constructor
  · rw [hgate, if_neg ((isAffected_programText_iff _ _ _ _).not.2 not_movesShow_renames)]
    rfl
  · rw [hgate, if_pos ((isAffected_programText_iff _ _ _ _).2 movesShow_off),
      requireSchemaNotes_renamedFile]
    rfl

end ReleaseGate.History
