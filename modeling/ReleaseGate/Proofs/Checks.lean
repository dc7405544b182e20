import ReleaseGate.Proofs.Verdict

/-!
# The check that fails

The gate runs its checks in a fixed order and ends with the failure of the first one that fails.
This is the other side of the verdict: every step has one lemma that tells when it fails and with
what, and the gate is opened by chaining them.

* `Check` lists the checks in their order;
* `Passes` is what a check asks of a release of some version, and `Objects` how it fails;
* `FailsAt` says that a check is the first one that fails. `runGate_eq_error_iff` is the result:
  the failures of the gate are exactly these.
-/

namespace ReleaseGate

section Steps

variable {ε α β : Type}

theorem bind_eq_error_iff {x : Except ε α} {f : α → Except ε β} {e : ε} :
    x >>= f = .error e ↔ x = .error e ∨ ∃ a, x = .ok a ∧ f a = .error e := by
  cases x <;> simp [bind, Except.bind]

theorem map_eq_error_iff {x : Except ε α} {f : α → β} {e : ε} :
    x.map f = .error e ↔ x = .error e := by
  cases x <;> simp [Except.map]

theorem check_eq_error_iff {c : Prop} [Decidable c] {e e' : ε} {x : Except ε β} :
    (if c then throw e else x) = .error e' ↔ (c ∧ e = e') ∨ (¬c ∧ x = .error e') := by
  split
  · next h => simp [h, throw, throwThe, MonadExceptOf.throw]
  · next h => simp [h]

theorem return_ne_error {a : α} {e : ε} : (pure a : Except ε α) ≠ .error e := nofun

end Steps

/-! ### Steps -/

theorem isConfig_of_detectorOf {config : Config} {f : Failure} (h : detectorOf config = .error f) :
    ∃ fault, f = .config fault := by
  unfold detectorOf at h
  split at h
  · cases h
  · next p _ => exact ⟨.badPattern p, (Except.error.inj h).symm⟩

theorem readVersion_eq_error_iff {files : Files.View} {root manifest : String} {f : Failure} :
    readVersion files root manifest = .error f ↔
      (files.read (Files.join root manifest) = .error .missing ∧
          f = .config (.missingManifest manifest)) ∨
        (∃ cause, files.read (Files.join root manifest) = .error cause ∧ cause ≠ .missing ∧
          f = .io cause) ∨
        ∃ text, files.read (Files.join root manifest) = .ok text ∧
          Release.declaredVersion? text.toList = none ∧ f = .config (.noVersion manifest) := by
  unfold readVersion
  split
  · next h => simp [h, eq_comm]
  · next cause hne h => simp [h, show cause ≠ .missing from hne, eq_comm]
  · next text h =>
    split
    · next hv => simp [h, hv]
    · next hv => simp [h, hv, eq_comm]

theorem isConfig_or_isIo_of_readVersion {files : Files.View} {root manifest : String} {f : Failure}
    (h : readVersion files root manifest = .error f) :
    (∃ fault, f = .config fault) ∨ ∃ cause, f = .io cause := by
  rcases readVersion_eq_error_iff.1 h with ⟨-, rfl⟩ | ⟨cause, -, -, rfl⟩ | ⟨text, -, -, rfl⟩
  · exact .inl ⟨_, rfl⟩
  · exact .inr ⟨cause, rfl⟩
  · exact .inl ⟨_, rfl⟩

namespace Release

variable {files : Files.View} {tag : Tag} {a : Artifacts} {f : Failure}

theorem readArtifact_eq_error_iff {path : String} :
    readArtifact files a path = .error f ↔
      (files.read (a.resolve path) = .error .missing ∧ f = .linkage (.missingFile path)) ∨
        ∃ cause, files.read (a.resolve path) = .error cause ∧ cause ≠ .missing ∧ f = .io cause := by
  unfold readArtifact
  split
  · next h => simp [h]
  · next h => simp [h, eq_comm]
  · next cause hne h => simp [h, show cause ≠ .missing from hne, eq_comm]

theorem isMissing_or_isIo_of_readArtifact {path : String}
    (h : readArtifact files a path = .error f) :
    f = .linkage (.missingFile path) ∨ ∃ cause, f = .io cause := by
  rcases readArtifact_eq_error_iff.1 h with ⟨-, rfl⟩ | ⟨cause, -, -, rfl⟩
  · exact .inl rfl
  · exact .inr ⟨cause, rfl⟩

theorem checkLinkage_eq_error_iff :
    checkLinkage files tag a = .error f ↔
      readArtifact files a a.changelog = .error f ∨
      ∃ changelog, files.read (a.resolve a.changelog) = .ok changelog ∧
        ((hasReleaseHeading tag.name.toList changelog.toList = false ∧
            f = .linkage (.missingChangelogHeading a.changelog tag.name)) ∨
          (hasReleaseHeading tag.name.toList changelog.toList = true ∧
            (readArtifact files a a.releaseIndex = .error f ∨
            ∃ index, files.read (a.resolve a.releaseIndex) = .ok index ∧
              ((¬tag.indexLink.toList <:+: index.toList ∧
                  f = .linkage (.missingIndexLink a.releaseIndex tag.indexLink)) ∨
                (tag.indexLink.toList <:+: index.toList ∧
                  files.isFile (a.resolve a.releaseNotes) = false ∧
                  f = .linkage (.missingReleaseNotes a.releaseNotes)))))) := by
  unfold checkLinkage
  simp only [bind_eq_error_iff, throw_bind, check_eq_error_iff, readArtifact_eq_ok_iff,
    return_ne_error, Bool.not_eq_true', Bool.not_eq_false, ← Text.occursIn_iff, and_false, or_false,
    Bool.not_eq_true, eq_comm (b := f)]

theorem firstWithNotes_cons_eq_error_iff {p : String} {rest : List String} :
    firstWithNotes files a (p :: rest) = .error f ↔
      readArtifact files a p = .error f ∨
        (LacksNotes files (a.resolve p) ∧ firstWithNotes files a rest = .error f) := by
  simp only [firstWithNotes, bind_eq_error_iff, readArtifact_eq_ok_iff, LacksNotes]
  refine or_congr_right ⟨?_, ?_⟩
  · rintro ⟨text, hr, h⟩
    split at h
    · cases h
    · next hn => exact ⟨⟨text, hr, by simpa using hn⟩, h⟩
  · rintro ⟨⟨text, hr, hn⟩, h⟩
    exact ⟨text, hr, by rw [if_neg (by simp [hn]), h]⟩

theorem requireSchemaNotes_eq_error_iff :
    requireSchemaNotes files tag a = .error f ↔
      readArtifact files a a.changelog = .error f ∨
      (LacksNotes files (a.resolve a.changelog) ∧
        (readArtifact files a a.releaseNotes = .error f ∨
          (LacksNotes files (a.resolve a.releaseNotes) ∧
            f = .policy (.noSchemaNotes a.changelog a.releaseNotes tag.name)))) := by
  have nil : firstWithNotes files a [] ≠ .error f := nofun
  simp only [requireSchemaNotes, bind_eq_error_iff, firstWithNotes_cons_eq_error_iff,
    firstWithNotes_cons_eq_ok_iff, firstWithNotes_nil_eq_ok_iff, nil, and_false, or_false]
  constructor
  · rintro ((h | ⟨hl, h⟩) | ⟨found, ⟨rfl, -⟩ | ⟨hl, ⟨rfl, -⟩ | ⟨hl', rfl⟩⟩, h⟩)
    · exact .inl h
    · exact .inr ⟨hl, .inl h⟩
    · cases h
    · cases h
    · exact .inr ⟨hl, .inr ⟨hl', (Except.error.inj h).symm⟩⟩
  · rintro (h | ⟨hl, h | ⟨hl', rfl⟩⟩)
    · exact .inl (.inl h)
    · exact .inl (.inr ⟨hl, h⟩)
    · exact .inr ⟨none, .inr ⟨hl, .inr ⟨hl', rfl⟩⟩, rfl⟩

end Release

/-! ### The checks in their order -/

/-- The checks of the gate, in their order. -/
inductive Check
  /-- The extra patterns are valid. -/
  | patterns
  /-- The manifest declares a version. -/
  | version
  /-- The changelog can be read. -/
  | changelog
  /-- The changelog has a heading for the tag. -/
  | heading
  /-- The index can be read. -/
  | index
  /-- The index has the link to the release notes. -/
  | link
  /-- The release notes are a regular file. -/
  | releaseNotes
  /-- The diff of the range can be had, or fails by version control. -/
  | changes
  /-- A change with a signal is documented. -/
  | schemaNotes
  deriving DecidableEq, Repr

namespace Check

/-- The place of a check in the order. -/
def place : Check → Nat
  | patterns => 0
  | version => 1
  | changelog => 2
  | heading => 3
  | index => 4
  | link => 5
  | releaseNotes => 6
  | changes => 7
  | schemaNotes => 8

instance : LT Check := ⟨fun a b => a.place < b.place⟩

instance (a b : Check) : Decidable (a < b) := inferInstanceAs (Decidable (a.place < b.place))

theorem lt_iff {a b : Check} : a < b ↔ a.place < b.place := Iff.rfl

theorem place_injective : Function.Injective place := by
  intro a b h
  cases a <;> cases b <;> first | rfl | cases h

theorem lt_trichotomy (a b : Check) : a < b ∨ a = b ∨ b < a := by
  rw [lt_iff, lt_iff, ← place_injective.eq_iff]
  exact Nat.lt_trichotomy a.place b.place

/-- What holds of all checks before one, check by check. -/
theorem forall_lt_iff {c : Check} {P : Check → Prop} :
    (∀ b, b < c → P b) ↔
      (0 < c.place → P patterns) ∧ (1 < c.place → P version) ∧ (2 < c.place → P changelog) ∧
        (3 < c.place → P heading) ∧ (4 < c.place → P index) ∧ (5 < c.place → P link) ∧
        (6 < c.place → P releaseNotes) ∧ (7 < c.place → P changes) ∧
        (8 < c.place → P schemaNotes) := by
  constructor
  · intro h
    exact ⟨h patterns, h version, h changelog, h heading, h index, h link, h releaseNotes,
      h changes, h schemaNotes⟩
  · rintro ⟨h0, h1, h2, h3, h4, h5, h6, h7, h8⟩ b hb
    cases b with
    | patterns => exact h0 hb
    | version => exact h1 hb
    | changelog => exact h2 hb
    | heading => exact h3 hb
    | index => exact h4 hb
    | link => exact h5 hb
    | releaseNotes => exact h6 hb
    | changes => exact h7 hb
    | schemaNotes => exact h8 hb

end Check

section

variable (files : Files.View) (root : String) (config : Config) (env : Change.Environment)
  (repo : Change.Repository)

/-- The changes of the range carry a signal. -/
def Affected : Prop :=
  ∃ range diff, Change.resolve? env repo = some range ∧
    repo.diff range config.schema.diffPaths = .ok diff ∧
    config.schema.detector.isAffected diff.toList = true

/-- What a check asks of a release of a version. -/
def Passes (version : String) (c : Check) : Prop :=
  let a := Release.Artifacts.of root config.paths ⟨version⟩
  match c with
  | .patterns => config.schema.PatternsValid
  | .version => readVersion files root config.paths.manifest = .ok version
  | .changelog => ∃ text, files.read (a.resolve a.changelog) = .ok text
  | .heading => ∃ text, files.read (a.resolve a.changelog) = .ok text ∧
      Release.hasReleaseHeading (Release.Tag.name ⟨version⟩).toList text.toList = true
  | .index => ∃ text, files.read (a.resolve a.releaseIndex) = .ok text
  | .link => ∃ text, files.read (a.resolve a.releaseIndex) = .ok text ∧
      (Release.Tag.indexLink ⟨version⟩).toList <:+: text.toList
  | .releaseNotes => files.isFile (a.resolve a.releaseNotes) = true
  | .changes => ∀ range f, Change.resolve? env repo = some range →
      repo.diff range config.schema.diffPaths = .error f → f.isVersionControl = true
  | .schemaNotes => Affected config env repo →
      ∃ path, Release.requireSchemaNotes files ⟨version⟩ a = .ok path

/-- How a check fails on a release of a version. -/
inductive Objects (version : String) : Check → Failure → Prop
  | badPattern {f} (h : detectorOf config = .error f) : Objects version .patterns f
  | noVersion {f} (h : readVersion files root config.paths.manifest = .error f) :
    Objects version .version f
  | noChangelog {f}
    (h : Release.readArtifact files (.of root config.paths ⟨version⟩) config.paths.changelog =
      .error f) : Objects version .changelog f
  | noHeading {text} (hread : files.read (Files.join root config.paths.changelog) = .ok text)
    (h : Release.hasReleaseHeading (Release.Tag.name ⟨version⟩).toList text.toList = false) :
    Objects version .heading
      (.linkage (.missingChangelogHeading config.paths.changelog (Release.Tag.name ⟨version⟩)))
  | noIndex {f}
    (h : Release.readArtifact files (.of root config.paths ⟨version⟩) config.paths.releaseIndex =
      .error f) : Objects version .index f
  | noLink {text} (hread : files.read (Files.join root config.paths.releaseIndex) = .ok text)
    (h : ¬(Release.Tag.indexLink ⟨version⟩).toList <:+: text.toList) :
    Objects version .link
      (.linkage (.missingIndexLink config.paths.releaseIndex (Release.Tag.indexLink ⟨version⟩)))
  | noReleaseNotes
    (h : files.isFile (Files.join root
      (Release.Artifacts.of root config.paths ⟨version⟩).releaseNotes) = false) :
    Objects version .releaseNotes
      (.linkage (.missingReleaseNotes (Release.Artifacts.of root config.paths ⟨version⟩).releaseNotes))
  | noDiff {range f} (hrange : Change.resolve? env repo = some range)
    (hdiff : repo.diff range config.schema.diffPaths = .error f)
    (h : f.isVersionControl = false) : Objects version .changes f
  | undocumented {f} (haffected : Affected config env repo)
    (h : Release.requireSchemaNotes files ⟨version⟩ (.of root config.paths ⟨version⟩) = .error f) :
    Objects version .schemaNotes f

/-- A check is the first one that fails. -/
def FailsAt (version : String) (c : Check) (f : Failure) : Prop :=
  (∀ b, b < c → Passes files root config env repo version b) ∧
    Objects files root config env repo version c f

end

section

variable {files : Files.View} {root : String} {config : Config} {env : Change.Environment}
  {repo : Change.Repository}

theorem not_affected (hrange : Change.resolve? env repo = none) : ¬Affected config env repo := by
  rintro ⟨range, diff, h, -⟩
  cases hrange.symm.trans h

theorem affected_iff {range : Change.Range} (hrange : Change.resolve? env repo = some range) :
    Affected config env repo ↔
      ∃ diff, repo.diff range config.schema.diffPaths = .ok diff ∧
        config.schema.detector.isAffected diff.toList = true := by
  simp [Affected, hrange]

theorem checkSchema_eq_error_iff {tag : Release.Tag} {a : Release.Artifacts} {f : Failure} :
    checkSchema files config env repo config.schema.detector tag a = .error f ↔
      (∃ range, Change.resolve? env repo = some range ∧
          repo.diff range config.schema.diffPaths = .error f ∧ f.isVersionControl = false) ∨
        (Affected config env repo ∧ Release.requireSchemaNotes files tag a = .error f) := by
  cases hrange : Change.resolve? env repo with
  | none =>
    rw [checkSchema_of_noRange _ tag a hrange]
    simp [not_affected hrange]
  | some range =>
    rw [affected_iff hrange]
    simp only [Option.some.injEq, exists_eq_left']
    cases hdiff : repo.diff range config.schema.diffPaths with
    | error g =>
      by_cases hg : g.isVersionControl = true
      · rw [checkSchema_of_failure _ tag a hrange hdiff hg]
        have hne : ¬(g = f ∧ f.isVersionControl = false) := by
          rintro ⟨rfl, hf⟩
          rw [hg] at hf
          cases hf
        simp [hne]
      · rw [checkSchema_of_error _ tag a hrange hdiff hg]
        have hf : g = f → f.isVersionControl = false := by
          rintro rfl
          simpa using hg
        simpa using hf
    | ok diff =>
      rw [checkSchema_of_diff _ tag a hrange hdiff]
      cases ha : config.schema.detector.isAffected diff.toList with
      | false => simp [ha]
      | true => cases Release.requireSchemaNotes files tag a <;> simp [Except.map, ha]

theorem detectorOf_of_patternsValid (valid : config.schema.PatternsValid) :
    detectorOf config = .ok config.schema.detector :=
  detectorOf_eq_ok_iff.2 (Change.Detector.ofPatterns_eq_ok_iff.2 ⟨valid, rfl⟩)

theorem exists_detectorOf_eq_error (invalid : ¬config.schema.PatternsValid) :
    ∃ f, detectorOf config = .error f := by
  cases hd : detectorOf config with
  | error f => exact ⟨f, rfl⟩
  | ok d =>
    exact absurd (Change.Detector.ofPatterns_eq_ok_iff.1 (detectorOf_eq_ok_iff.1 hd)).1 invalid

/-- The gate fails in the detector, or the version, or the linkage, or the schema check. -/
theorem runGate_eq_error_cases_iff {f : Failure} :
    runGate files root config env repo = .error f ↔
      detectorOf config = .error f ∨
      config.schema.PatternsValid ∧
        (readVersion files root config.paths.manifest = .error f ∨
        ∃ version, readVersion files root config.paths.manifest = .ok version ∧
          (Release.checkLinkage files ⟨version⟩ (.of root config.paths ⟨version⟩) = .error f ∨
            Release.checkLinkage files ⟨version⟩ (.of root config.paths ⟨version⟩) = .ok () ∧
              checkSchema files config env repo config.schema.detector ⟨version⟩
                (.of root config.paths ⟨version⟩) = .error f)) := by
  simp only [runGate, bind_eq_error_iff, return_ne_error, and_false, exists_false, or_false]
  refine or_congr_right ⟨?_, ?_⟩
  · rintro ⟨d, hd, h⟩
    obtain ⟨valid, rfl⟩ := Change.Detector.ofPatterns_eq_ok_iff.1 (detectorOf_eq_ok_iff.1 hd)
    refine ⟨valid, h.imp_right ?_⟩
    rintro ⟨version, hv, hl | ⟨u, hl, hs⟩⟩
    · exact ⟨version, hv, .inl hl⟩
    · exact ⟨version, hv, .inr ⟨hl, hs⟩⟩
  · rintro ⟨valid, h⟩
    refine ⟨_, detectorOf_of_patternsValid valid, h.imp_right ?_⟩
    rintro ⟨version, hv, hl | ⟨hl, hs⟩⟩
    · exact ⟨version, hv, .inl hl⟩
    · exact ⟨version, hv, .inr ⟨(), hl, hs⟩⟩

/-- A linked release passes every check on its documents. -/
theorem passes_of_isLinked {version : String} (valid : config.schema.PatternsValid)
    (hv : readVersion files root config.paths.manifest = .ok version)
    (h : Release.IsLinked files ⟨version⟩ (.of root config.paths ⟨version⟩)) {b : Check}
    (hb : b < .changes) : Passes files root config env repo version b := by
  obtain ⟨⟨changelog, hc, heading⟩, ⟨index, hi, link⟩, notes⟩ := h
  cases b with
  | patterns => exact valid
  | version => exact hv
  | changelog => exact ⟨changelog, hc⟩
  | heading => exact ⟨changelog, hc, heading⟩
  | index => exact ⟨index, hi⟩
  | link => exact ⟨index, hi, link⟩
  | releaseNotes => exact notes
  | changes => cases Nat.lt_irrefl _ hb
  | schemaNotes => cases Nat.lt_asymm hb (by decide)

/-- Where no check on the documents fails, they are linked. -/
theorem isLinked_of_passes {version : String}
    (h : ∀ b, b < Check.changes → Passes files root config env repo version b) :
    Release.IsLinked files ⟨version⟩ (.of root config.paths ⟨version⟩) :=
  ⟨h .heading (by decide), h .link (by decide), h .releaseNotes (by decide)⟩

variable (env repo) in
/-- A failure of the linkage is one of the gate. -/
theorem runGate_of_linkage_failure {version : String} {f : Failure}
    (valid : config.schema.PatternsValid)
    (hv : readVersion files root config.paths.manifest = .ok version)
    (hl : Release.checkLinkage files ⟨version⟩ (.of root config.paths ⟨version⟩) = .error f) :
    runGate files root config env repo = .error f :=
  runGate_eq_error_cases_iff.2 (.inr ⟨valid, .inr ⟨version, hv, .inl hl⟩⟩)

/-- A failure of the schema check is one of the gate, where the documents are linked. -/
theorem runGate_of_schema_failure {version : String} {f : Failure}
    (h : ∀ b, b < Check.changes → Passes files root config env repo version b)
    (hs : checkSchema files config env repo config.schema.detector ⟨version⟩
      (.of root config.paths ⟨version⟩) = .error f) :
    runGate files root config env repo = .error f := by
  have linked := Release.checkLinkage_eq_ok_iff.2 (isLinked_of_passes h)
  refine runGate_eq_error_cases_iff.2 (.inr ⟨h .patterns (by decide), .inr ⟨version, ?_⟩⟩)
  exact ⟨h .version (by decide), .inr ⟨linked, hs⟩⟩

/-- A failure of the linkage is one of a check between the version and the changes. -/
theorem exists_failsAt_of_checkLinkage {version : String} {f : Failure}
    (valid : config.schema.PatternsValid)
    (hv : readVersion files root config.paths.manifest = .ok version)
    (hl : Release.checkLinkage files ⟨version⟩ (.of root config.paths ⟨version⟩) = .error f) :
    ∃ c, Check.version < c ∧ c < Check.changes ∧
      FailsAt files root config env repo version c f := by
  rcases Release.checkLinkage_eq_error_iff.1 hl with
    hc | ⟨text, hc, ⟨hh, rfl⟩ | ⟨hh, hi | ⟨index, hi, ⟨hk, rfl⟩ | ⟨hk, hn, rfl⟩⟩⟩⟩
  · refine ⟨.changelog, by decide, by decide, Check.forall_lt_iff.2 ?_, .noChangelog hc⟩
    simp [Check.place, Passes, valid, hv]
  · refine ⟨.heading, by decide, by decide, Check.forall_lt_iff.2 ?_, .noHeading hc hh⟩
    simp [Check.place, Passes, valid, hv, hc]
  · refine ⟨.index, by decide, by decide, Check.forall_lt_iff.2 ?_, .noIndex hi⟩
    simp [Check.place, Passes, valid, hv, hc, hh]
  · refine ⟨.link, by decide, by decide, Check.forall_lt_iff.2 ?_, .noLink hi hk⟩
    simp [Check.place, Passes, valid, hv, hc, hh, hi]
  · refine ⟨.releaseNotes, by decide, by decide, Check.forall_lt_iff.2 ?_, .noReleaseNotes hn⟩
    simp [Check.place, Passes, valid, hv, hc, hh, hi, hk]

/-- **The failures of the gate** are those of the first check that fails. -/
theorem runGate_eq_error_iff {f : Failure} :
    runGate files root config env repo = .error f ↔
      ∃ version c, FailsAt files root config env repo version c f := by
  constructor
  · intro h
    rcases runGate_eq_error_cases_iff.1 h with hd | ⟨valid, hv | ⟨version, hv, hl | ⟨hl, hs⟩⟩⟩
    · exact ⟨"", .patterns, nofun, .badPattern hd⟩
    · refine ⟨"", .version, Check.forall_lt_iff.2 ?_, .noVersion hv⟩
      simp [Check.place, Passes, valid]
    · obtain ⟨c, -, -, h⟩ := exists_failsAt_of_checkLinkage valid hv hl
      exact ⟨version, c, h⟩
    · have linked := Release.checkLinkage_eq_ok_iff.1 hl
      rcases checkSchema_eq_error_iff.1 hs with ⟨range, hr, hdiff, hf⟩ | ⟨haffected, h⟩
      · exact ⟨version, .changes, fun b hb => passes_of_isLinked valid hv linked hb,
          .noDiff hr hdiff hf⟩
      · refine ⟨version, .schemaNotes, fun b hb => ?_, .undocumented haffected h⟩
        rcases Check.lt_trichotomy b .changes with hb' | rfl | hb'
        · exact passes_of_isLinked valid hv linked hb'
        · intro range g hr hg
          obtain ⟨diff, hdiff, -⟩ := (affected_iff hr).1 haffected
          cases hdiff.symm.trans hg
        · rw [Check.lt_iff] at hb hb'
          simp only [Check.place] at hb hb'
          omega
  · rintro ⟨version, c, before, h⟩
    have linkage (hc : Check.version < c) :=
      runGate_of_linkage_failure env repo (f := f)
        (before .patterns (Nat.lt_trans (by decide) hc)) (before .version hc)
    cases h with
    | badPattern hd => exact runGate_eq_error_cases_iff.2 (.inl hd)
    | noVersion hv =>
      exact runGate_eq_error_cases_iff.2 (.inr ⟨before .patterns (by decide), .inl hv⟩)
    | noChangelog hc => exact linkage (by decide) (Release.checkLinkage_eq_error_iff.2 (.inl hc))
    | noHeading hc hh =>
      exact linkage (by decide)
        (Release.checkLinkage_eq_error_iff.2 (.inr ⟨_, hc, .inl ⟨hh, rfl⟩⟩))
    | noIndex hi =>
      obtain ⟨text, hc, hh⟩ := before .heading (by decide)
      exact linkage (by decide)
        (Release.checkLinkage_eq_error_iff.2 (.inr ⟨text, hc, .inr ⟨hh, .inl hi⟩⟩))
    | noLink hi hk =>
      obtain ⟨text, hc, hh⟩ := before .heading (by decide)
      exact linkage (by decide)
        (Release.checkLinkage_eq_error_iff.2
          (.inr ⟨text, hc, .inr ⟨hh, .inr ⟨_, hi, .inl ⟨hk, rfl⟩⟩⟩⟩))
    | noReleaseNotes hn =>
      obtain ⟨text, hc, hh⟩ := before .heading (by decide)
      obtain ⟨index, hi, hk⟩ := before .link (by decide)
      exact linkage (by decide)
        (Release.checkLinkage_eq_error_iff.2
          (.inr ⟨text, hc, .inr ⟨hh, .inr ⟨index, hi, .inr ⟨hk, hn, rfl⟩⟩⟩⟩))
    | noDiff hr hdiff hf =>
      exact runGate_of_schema_failure before
        (checkSchema_eq_error_iff.2 (.inl ⟨_, hr, hdiff, hf⟩))
    | undocumented haffected h =>
      exact runGate_of_schema_failure (fun b hb => before b (Nat.lt_trans hb (by decide)))
        (checkSchema_eq_error_iff.2 (.inr ⟨haffected, h⟩))

/-- A check that is passed does not fail. Beyond the version, both have to be about the same one. -/
theorem Objects.not_passes {version version' : String} {c : Check} {f : Failure}
    (h : Objects files root config env repo version c f)
    (hv : Check.version < c → version' = version) :
    ¬Passes files root config env repo version' c := by
  intro hp
  have unread {path : String} {g : Failure}
      (h : Release.readArtifact files (.of root config.paths ⟨version⟩) path = .error g)
      {text : String} (hr : files.read (Files.join root path) = .ok text) : False := by
    cases h.symm.trans (Release.readArtifact_eq_ok_iff.2 hr)
  cases h with
  | badPattern hd => cases hd.symm.trans (detectorOf_of_patternsValid hp)
  | noVersion h => cases h.symm.trans hp
  | noChangelog h =>
    obtain ⟨text, hr⟩ := hp
    exact unread h hr
  | noHeading hr h =>
    cases hv (by decide)
    obtain ⟨text, hr', hh⟩ := hp
    cases hr.symm.trans hr'
    rw [h] at hh
    cases hh
  | noIndex h =>
    obtain ⟨text, hr⟩ := hp
    exact unread h hr
  | noLink hr h =>
    cases hv (by decide)
    obtain ⟨text, hr', hk⟩ := hp
    cases hr.symm.trans hr'
    exact h hk
  | noReleaseNotes h =>
    cases hv (by decide)
    cases h.symm.trans hp
  | noDiff hr hdiff h => cases h.symm.trans (hp _ _ hr hdiff)
  | undocumented haffected h =>
    cases hv (by decide)
    obtain ⟨path, hpath⟩ := hp haffected
    cases h.symm.trans hpath

/-- Where some checks are passed, a later one fails. -/
theorem FailsAt.lt_of_passes {version version' : String} {b c : Check} {f : Failure}
    (h : FailsAt files root config env repo version' c f)
    (hp : ∀ a, ¬b < a → Passes files root config env repo version a) : b < c := by
  refine Decidable.byContradiction fun hc => ?_
  have hpc : Passes files root config env repo version c := hp c hc
  refine h.2.not_passes (fun hv => ?_) hpc
  have hb : ¬b < Check.version := fun hb => hc (Nat.lt_trans hb hv)
  exact Except.ok.inj ((hp .version hb).symm.trans (h.1 .version hv))

end

end ReleaseGate
