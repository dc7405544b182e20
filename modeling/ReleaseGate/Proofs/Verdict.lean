import ReleaseGate.Gate

/-!
# The verdict of the gate

Which releases pass, and what the report of one that passes says. Every step of the gate has one
lemma, which tells when it succeeds and with what; the gate is opened by chaining them, and no
later proof unfolds a step.

* `IsRelease` is what the documents have to say about a version;
* `SchemaCheck` lists the ends of the schema check that are no failure, each with its conclusion
  and its notices;
* `runGate_eq_ok_iff` puts them together, and `runGate_verdict` is the result.
-/

namespace ReleaseGate

section Steps

variable {ε α β : Type}

theorem bind_eq_ok_iff {x : Except ε α} {f : α → Except ε β} {b : β} :
    x >>= f = .ok b ↔ ∃ a, x = .ok a ∧ f a = .ok b := by
  cases x <;> simp [bind, Except.bind]

theorem map_eq_ok_iff {x : Except ε α} {f : α → β} {b : β} :
    x.map f = .ok b ↔ ∃ a, x = .ok a ∧ f a = b := by
  cases x <;> simp [Except.map]

theorem throw_bind {e : ε} {f : α → Except ε β} : (throw e : Except ε α) >>= f = throw e := rfl

/-- A check that fails where a condition holds, before what comes after it. -/
theorem check_eq_ok_iff {c : Prop} [Decidable c] {e : ε} {x : Except ε β} {b : β} :
    (if c then throw e else x) = .ok b ↔ ¬c ∧ x = .ok b := by
  split
  · next h => simp [h, throw, throwThe, MonadExceptOf.throw]
  · next h => simp [h]

theorem return_eq_ok_iff {a b : α} : (pure a : Except ε α) = .ok b ↔ a = b :=
  ⟨Except.ok.inj, congrArg _⟩

end Steps

/-! ### Steps before the schema check -/

/-- Every extra pattern is valid. -/
def SchemaSettings.PatternsValid (s : SchemaSettings) : Prop :=
  ∀ p ∈ s.extraPatterns, Pattern.isValid p.toList = true

theorem Change.Detector.ofPatterns_eq_ok_iff {patterns : List String} {d : Change.Detector} :
    Change.Detector.ofPatterns patterns = .ok d ↔
      (∀ p ∈ patterns, Pattern.isValid p.toList = true) ∧
        d = ⟨patterns.filterMap fun p => Pattern.read? p.toList⟩ := by
  unfold Change.Detector.ofPatterns Change.firstInvalid?
  split
  · next p hp =>
    have hbad := List.find?_some hp
    have hmem := List.mem_of_find?_eq_some hp
    simp only [reduceCtorEq, false_iff, not_and]
    intro hvalid
    rw [hvalid p hmem] at hbad
    cases hbad
  · next hnone =>
    have hvalid : ∀ p ∈ patterns, Pattern.isValid p.toList = true := by
      simpa using List.find?_eq_none.1 hnone
    rw [Except.ok.injEq, eq_comm]
    exact ⟨fun h => ⟨hvalid, h⟩, And.right⟩

theorem detectorOf_eq_ok_iff {config : Config} {d : Change.Detector} :
    detectorOf config = .ok d ↔ Change.Detector.ofPatterns config.schema.extraPatterns = .ok d := by
  unfold detectorOf
  split <;> simp_all

theorem readVersion_eq_ok_iff {files : Files.View} {root manifest version : String} :
    readVersion files root manifest = .ok version ↔
      ∃ text, files.read (Files.join root manifest) = .ok text ∧
        Release.declaredVersion? text.toList = some version.toList := by
  unfold readVersion
  split
  · next h => simp [h]
  · next h => simp [h]
  · next text h =>
    split
    · next v hv =>
      have e : String.ofList v = version ↔ v = version.toList := by
        rw [← String.toList_inj, String.toList_ofList]
      simp [h, hv, e]
    · next hv => simp [h, hv]

namespace Release

theorem readArtifact_eq_ok_iff {files : Files.View} {a : Artifacts} {path text : String} :
    readArtifact files a path = .ok text ↔ files.read (a.resolve path) = .ok text := by
  unfold readArtifact
  split <;> simp_all

theorem Tag.notesFile_eq (version : String) :
    notesFile ⟨version⟩ = "RELEASE_NOTES_v" ++ version ++ ".md" := by
  apply String.toList_injective
  simp [notesFile, name]

theorem Tag.indexLink_eq (version : String) :
    indexLink ⟨version⟩ = "[v" ++ version ++ "](RELEASE_NOTES_v" ++ version ++ ".md)" := by
  apply String.toList_injective
  simp [indexLink, notesFile, name]

/-- A character that is none of a version, nor of the words before it, is none of a heading. -/
theorem Tag.not_mem_changelogHeading {version : String} {c : Char} (hc : c ∉ "## v".toList)
    (h : c ∉ version.toList) : c ∉ (changelogHeading ⟨version⟩).toList := by
  simp only [String.reduceToList, List.mem_cons, List.not_mem_nil, or_false, not_or] at hc
  simp [changelogHeading, name, h, hc]

/-- A character that is none of a version, nor of the words around it, is none of a link. -/
theorem Tag.not_mem_indexLink {version : String} {c : Char}
    (hc : c ∉ "[v](RELEASE_NOTES_v.md)".toList) (h : c ∉ version.toList) :
    c ∉ (indexLink ⟨version⟩).toList := by
  simp only [String.reduceToList, List.mem_cons, List.not_mem_nil, or_false, not_or] at hc
  simp [Tag.indexLink_eq, h, hc]

/-- The documents are linked: the three checks that stand behind a linkage without failure. -/
structure IsLinked (files : Files.View) (tag : Tag) (a : Artifacts) : Prop where
  heading : ∃ text, files.read (a.resolve a.changelog) = .ok text ∧
    hasReleaseHeading tag.name.toList text.toList = true
  link : ∃ text, files.read (a.resolve a.releaseIndex) = .ok text ∧
    tag.indexLink.toList <:+: text.toList
  notes : files.isFile (a.resolve a.releaseNotes) = true

theorem checkLinkage_eq_ok_iff {files : Files.View} {tag : Tag} {a : Artifacts} :
    checkLinkage files tag a = .ok () ↔ IsLinked files tag a := by
  unfold checkLinkage
  simp only [bind_eq_ok_iff, throw_bind, check_eq_ok_iff, readArtifact_eq_ok_iff,
    return_eq_ok_iff, Bool.not_eq_true', Bool.not_eq_false, Text.occursIn_iff, and_true]
  constructor
  · rintro ⟨changelog, hc, heading, index, hi, link, notes⟩
    exact ⟨⟨changelog, hc, heading⟩, ⟨index, hi, link⟩, notes⟩
  · rintro ⟨⟨changelog, hc, heading⟩, ⟨index, hi, link⟩, notes⟩
    exact ⟨changelog, hc, heading, index, hi, link, notes⟩

/-- The file at a path can be read, and it has Schema Notes. -/
def HasNotes (files : Files.View) (path : String) : Prop :=
  ∃ text, files.read path = .ok text ∧ hasSchemaNotes text.toList = true

/-- The file at a path can be read, and it has no Schema Notes. -/
def LacksNotes (files : Files.View) (path : String) : Prop :=
  ∃ text, files.read path = .ok text ∧ hasSchemaNotes text.toList = false

/-- The documents are looked at one by one, and one that cannot be read ends the search. -/
theorem firstWithNotes_cons_eq_ok_iff {files : Files.View} {a : Artifacts} {p : String}
    {rest : List String} {found : Option String} :
    firstWithNotes files a (p :: rest) = .ok found ↔
      (found = some p ∧ HasNotes files (a.resolve p)) ∨
        (LacksNotes files (a.resolve p) ∧ firstWithNotes files a rest = .ok found) := by
  simp only [firstWithNotes, bind_eq_ok_iff, readArtifact_eq_ok_iff, HasNotes, LacksNotes]
  constructor
  · rintro ⟨text, hr, h⟩
    split at h
    · next hn => exact .inl ⟨(return_eq_ok_iff.1 h).symm, text, hr, hn⟩
    · next hn => exact .inr ⟨⟨text, hr, by simpa using hn⟩, h⟩
  · rintro (⟨rfl, text, hr, hn⟩ | ⟨⟨text, hr, hn⟩, h⟩)
    · exact ⟨text, hr, by rw [if_pos hn]; rfl⟩
    · exact ⟨text, hr, by rw [if_neg (by simp [hn]), h]⟩

theorem firstWithNotes_nil_eq_ok_iff {files : Files.View} {a : Artifacts}
    {found : Option String} : firstWithNotes files a [] = .ok found ↔ found = none := by
  simp [firstWithNotes, eq_comm]

theorem requireSchemaNotes_eq_ok_iff {files : Files.View} {tag : Tag} {a : Artifacts}
    {path : String} :
    requireSchemaNotes files tag a = .ok path ↔
      (path = a.changelog ∧ HasNotes files (a.resolve a.changelog)) ∨
        (path = a.releaseNotes ∧ LacksNotes files (a.resolve a.changelog) ∧
          HasNotes files (a.resolve a.releaseNotes)) := by
  simp only [requireSchemaNotes, bind_eq_ok_iff, firstWithNotes_cons_eq_ok_iff,
    firstWithNotes_nil_eq_ok_iff]
  constructor
  · rintro ⟨found, (⟨rfl, hn⟩ | ⟨hl, ⟨rfl, hn⟩ | ⟨-, rfl⟩⟩), h⟩
    · exact .inl ⟨(return_eq_ok_iff.1 h).symm, hn⟩
    · exact .inr ⟨(return_eq_ok_iff.1 h).symm, hl, hn⟩
    · cases h
  · rintro (⟨rfl, hn⟩ | ⟨rfl, hl, hn⟩)
    · exact ⟨some a.changelog, .inl ⟨rfl, hn⟩, rfl⟩
    · exact ⟨some a.releaseNotes, .inr ⟨hl, .inl ⟨rfl, hn⟩⟩, rfl⟩

end Release

/-! ### The schema check -/

/-- How the schema check ends where it does not fail: its conclusion and its notices. -/
inductive SchemaCheck (files : Files.View) (config : Config) (env : Change.Environment)
    (repo : Change.Repository) (d : Change.Detector) (a : Release.Artifacts) :
    SchemaOutcome → List Notice → Prop
  | noRange (hrange : Change.resolve? env repo = none) :
    SchemaCheck files config env repo d a .skipped [.noChangeRange]
  | noDiff {range failure} (hrange : Change.resolve? env repo = some range)
    (hdiff : repo.diff range config.schema.diffPaths = .error failure)
    (hfailure : failure.isVersionControl = true) :
    SchemaCheck files config env repo d a .skipped [.diffUnavailable range.text failure.message]
  | unchanged {range diff} (hrange : Change.resolve? env repo = some range)
    (hdiff : repo.diff range config.schema.diffPaths = .ok diff)
    (hsignal : d.firstSignal? diff.toList = none) :
    SchemaCheck files config env repo d a (.unchanged range) []
  | inChangelog {range diff signal} (hrange : Change.resolve? env repo = some range)
    (hdiff : repo.diff range config.schema.diffPaths = .ok diff)
    (hsignal : d.firstSignal? diff.toList = some signal)
    (hnotes : Release.HasNotes files (a.resolve a.changelog)) :
    SchemaCheck files config env repo d a (.documented range a.changelog) []
  | inReleaseNotes {range diff signal} (hrange : Change.resolve? env repo = some range)
    (hdiff : repo.diff range config.schema.diffPaths = .ok diff)
    (hsignal : d.firstSignal? diff.toList = some signal)
    (hlacks : Release.LacksNotes files (a.resolve a.changelog))
    (hnotes : Release.HasNotes files (a.resolve a.releaseNotes)) :
    SchemaCheck files config env repo d a (.documented range a.releaseNotes) []

section

variable {files : Files.View} {root : String} {config : Config} {env : Change.Environment}
  {repo : Change.Repository}

theorem checkSchema_of_noRange (d : Change.Detector) (tag : Release.Tag) (a : Release.Artifacts)
    (hrange : Change.resolve? env repo = none) :
    checkSchema files config env repo d tag a = .ok (.skipped, [.noChangeRange]) := by
  simp only [checkSchema, hrange]

theorem checkSchema_of_failure (d : Change.Detector) (tag : Release.Tag) (a : Release.Artifacts)
    {range : Change.Range} {failure : Failure} (hrange : Change.resolve? env repo = some range)
    (hdiff : repo.diff range config.schema.diffPaths = .error failure)
    (hfailure : failure.isVersionControl = true) :
    checkSchema files config env repo d tag a =
      .ok (.skipped, [.diffUnavailable range.text failure.message]) := by
  simp only [checkSchema, hrange, hdiff, hfailure, if_true]

/-- A failure of the diff that is none of version control fails the check. -/
theorem checkSchema_of_error (d : Change.Detector) (tag : Release.Tag) (a : Release.Artifacts)
    {range : Change.Range} {failure : Failure} (hrange : Change.resolve? env repo = some range)
    (hdiff : repo.diff range config.schema.diffPaths = .error failure)
    (hfailure : ¬failure.isVersionControl = true) :
    checkSchema files config env repo d tag a = .error failure := by
  simp only [checkSchema, hrange, hdiff, hfailure]
  rfl

/-- Of a diff only one thing counts: whether it sets the detector off. -/
theorem checkSchema_of_diff (d : Change.Detector) (tag : Release.Tag) (a : Release.Artifacts)
    {range : Change.Range} {diff : String} (hrange : Change.resolve? env repo = some range)
    (hdiff : repo.diff range config.schema.diffPaths = .ok diff) :
    checkSchema files config env repo d tag a =
      if d.isAffected diff.toList then
        (Release.requireSchemaNotes files tag a).map fun notes => (.documented range notes, [])
      else .ok (.unchanged range, []) := by
  cases hs : d.firstSignal? diff.toList with
  | none =>
    simp only [checkSchema, hrange, hdiff, hs, Change.Detector.isAffected]
    rfl
  | some signal =>
    simp only [checkSchema, hrange, hdiff, hs, Change.Detector.isAffected]
    cases Release.requireSchemaNotes files tag a <;> rfl

theorem checkSchema_eq_ok_iff {d : Change.Detector} {tag : Release.Tag} {a : Release.Artifacts}
    {schema : SchemaOutcome} {notices : List Notice} :
    checkSchema files config env repo d tag a = .ok (schema, notices) ↔
      SchemaCheck files config env repo d a schema notices := by
  constructor
  · intro h
    cases hrange : Change.resolve? env repo with
    | none =>
      rw [checkSchema_of_noRange d tag a hrange] at h
      cases h
      exact .noRange hrange
    | some range =>
      cases hdiff : repo.diff range config.schema.diffPaths with
      | error failure =>
        by_cases hfailure : failure.isVersionControl = true
        · rw [checkSchema_of_failure d tag a hrange hdiff hfailure] at h
          cases h
          exact .noDiff hrange hdiff hfailure
        · rw [checkSchema_of_error d tag a hrange hdiff hfailure] at h
          cases h
      | ok diff =>
        rw [checkSchema_of_diff d tag a hrange hdiff, Change.Detector.isAffected] at h
        cases hsignal : d.firstSignal? diff.toList with
        | none =>
          rw [hsignal] at h
          cases h
          exact .unchanged hrange hdiff hsignal
        | some signal =>
          rw [hsignal] at h
          obtain ⟨notes, hnotes, h⟩ := map_eq_ok_iff.1 h
          cases h
          rcases Release.requireSchemaNotes_eq_ok_iff.1 hnotes with ⟨rfl, hn⟩ | ⟨rfl, hl, hn⟩
          · exact .inChangelog hrange hdiff hsignal hn
          · exact .inReleaseNotes hrange hdiff hsignal hl hn
  · have documented {range : Change.Range} {diff notes : String} {signal : Change.Signal}
        (hrange : Change.resolve? env repo = some range)
        (hdiff : repo.diff range config.schema.diffPaths = .ok diff)
        (hsignal : d.firstSignal? diff.toList = some signal)
        (hnotes : Release.requireSchemaNotes files tag a = .ok notes) :
        checkSchema files config env repo d tag a = .ok (.documented range notes, []) := by
      rw [checkSchema_of_diff d tag a hrange hdiff, Change.Detector.isAffected, hsignal, hnotes]
      rfl
    intro h
    cases h with
    | noRange hrange => exact checkSchema_of_noRange d tag a hrange
    | noDiff hrange hdiff hfailure => exact checkSchema_of_failure d tag a hrange hdiff hfailure
    | unchanged hrange hdiff hsignal =>
      rw [checkSchema_of_diff d tag a hrange hdiff, Change.Detector.isAffected, hsignal]
      rfl
    | inChangelog hrange hdiff hsignal hn =>
      exact documented hrange hdiff hsignal
        (Release.requireSchemaNotes_eq_ok_iff.2 (.inl ⟨rfl, hn⟩))
    | inReleaseNotes hrange hdiff hsignal hl hn =>
      exact documented hrange hdiff hsignal
        (Release.requireSchemaNotes_eq_ok_iff.2 (.inr ⟨rfl, hl, hn⟩))

/-- The schema check of a version has an end without failure in one of four cases. -/
theorem exists_schemaCheck_iff {d : Change.Detector} {version : String} :
    (∃ schema notices, SchemaCheck files config env repo d (.of root config.paths ⟨version⟩) schema
        notices) ↔
      Change.resolve? env repo = none ∨
        ∃ range, Change.resolve? env repo = some range ∧
          ((∃ failure, repo.diff range config.schema.diffPaths = .error failure ∧
              failure.isVersionControl = true) ∨
            ∃ diff, repo.diff range config.schema.diffPaths = .ok diff ∧
              (d.firstSignal? diff.toList = none ∨
                Release.HasNotes files (Files.join root config.paths.changelog) ∨
                (Release.LacksNotes files (Files.join root config.paths.changelog) ∧
                  Release.HasNotes files (Files.join root
                    (Release.notesPath config.paths.releaseNotesDir
                      ("RELEASE_NOTES_v" ++ version ++ ".md")))))) := by
  rw [← Release.Tag.notesFile_eq]
  constructor
  · rintro ⟨schema, notices, h⟩
    cases h with
    | noRange hrange => exact .inl hrange
    | noDiff hrange hdiff hfailure => exact .inr ⟨_, hrange, .inl ⟨_, hdiff, hfailure⟩⟩
    | unchanged hrange hdiff hsignal => exact .inr ⟨_, hrange, .inr ⟨_, hdiff, .inl hsignal⟩⟩
    | inChangelog hrange hdiff _ hn => exact .inr ⟨_, hrange, .inr ⟨_, hdiff, .inr (.inl hn)⟩⟩
    | inReleaseNotes hrange hdiff _ hl hn =>
      exact .inr ⟨_, hrange, .inr ⟨_, hdiff, .inr (.inr ⟨hl, hn⟩)⟩⟩
  · rintro (hrange | ⟨range, hrange, ⟨failure, hdiff, hfailure⟩ | ⟨diff, hdiff, h⟩⟩)
    · exact ⟨_, _, .noRange hrange⟩
    · exact ⟨_, _, .noDiff hrange hdiff hfailure⟩
    · cases hsignal : d.firstSignal? diff.toList with
      | none => exact ⟨_, _, .unchanged hrange hdiff hsignal⟩
      | some signal =>
        rw [hsignal] at h
        rcases h with h | hn | ⟨hl, hn⟩
        · cases h
        · exact ⟨_, _, .inChangelog hrange hdiff hsignal hn⟩
        · exact ⟨_, _, .inReleaseNotes hrange hdiff hsignal hl hn⟩

/-- Where the diff carries a signal, a schema check without failure ends with documents. -/
theorem SchemaCheck.exists_documented {d : Change.Detector} {a : Release.Artifacts}
    {schema : SchemaOutcome} {notices : List Notice} {range : Change.Range} {diff : String}
    (h : SchemaCheck files config env repo d a schema notices)
    (hrange : Change.resolve? env repo = some range)
    (hdiff : repo.diff range config.schema.diffPaths = .ok diff)
    (hsignal : (d.firstSignal? diff.toList).isSome) :
    ∃ notes, schema = .documented range notes := by
  cases h with
  | noRange hr => cases hrange.symm.trans hr
  | noDiff hr hd =>
    cases hrange.symm.trans hr
    cases hdiff.symm.trans hd
  | unchanged hr hd hn =>
    cases hrange.symm.trans hr
    cases hdiff.symm.trans hd
    rw [hn] at hsignal
    cases hsignal
  | inChangelog hr =>
    cases hrange.symm.trans hr
    exact ⟨_, rfl⟩
  | inReleaseNotes hr =>
    cases hrange.symm.trans hr
    exact ⟨_, rfl⟩

/-! ### The gate -/

/-- The documents below a root show a release of a version. -/
structure IsRelease (files : Files.View) (root : String) (paths : PathSettings)
    (version : String) : Prop where
  declared : ∃ text, files.read (Files.join root paths.manifest) = .ok text ∧
    Release.declaredVersion? text.toList = some version.toList
  heading : ∃ text, files.read (Files.join root paths.changelog) = .ok text ∧
    Release.hasReleaseHeading ("v" ++ version).toList text.toList = true
  link : ∃ text, files.read (Files.join root paths.releaseIndex) = .ok text ∧
    ("[v" ++ version ++ "](RELEASE_NOTES_v" ++ version ++ ".md)").toList <:+: text.toList
  notes : files.isFile (Files.join root
    (Release.notesPath paths.releaseNotesDir ("RELEASE_NOTES_v" ++ version ++ ".md"))) = true

/-- The detector of settings whose patterns are valid. -/
def SchemaSettings.detector (s : SchemaSettings) : Change.Detector :=
  ⟨s.extraPatterns.filterMap fun p => Pattern.read? p.toList⟩

/-- The documents of a release are its manifest and the linked ones. -/
theorem isRelease_iff {paths : PathSettings} {version : String} :
    IsRelease files root paths version ↔
      (∃ text, files.read (Files.join root paths.manifest) = .ok text ∧
        Release.declaredVersion? text.toList = some version.toList) ∧
      Release.IsLinked files ⟨version⟩ (.of root paths ⟨version⟩) := by
  constructor
  · rintro ⟨hd, hh, hl, hn⟩
    exact ⟨hd, hh, by rwa [Release.Tag.indexLink_eq],
      by rwa [Release.Artifacts.of, Release.Tag.notesFile_eq]⟩
  · rintro ⟨hd, hh, hl, hn⟩
    exact ⟨hd, hh, by rwa [Release.Tag.indexLink_eq] at hl,
      by rwa [Release.Artifacts.of, Release.Tag.notesFile_eq] at hn⟩

/-- The gate gives a report exactly if every step before the schema check succeeds and that check
ends as the report says. -/
theorem runGate_eq_ok_iff {r : Report} :
    runGate files root config env repo = .ok r ↔
      config.schema.PatternsValid ∧ IsRelease files root config.paths r.version ∧
        SchemaCheck files config env repo config.schema.detector
          (.of root config.paths r.tag) r.schema r.notices := by
  rw [isRelease_iff]
  constructor
  · intro h
    obtain ⟨d, hd, h⟩ := bind_eq_ok_iff.1 h
    obtain ⟨version, hv, h⟩ := bind_eq_ok_iff.1 h
    obtain ⟨⟨⟩, hl, h⟩ := bind_eq_ok_iff.1 h
    obtain ⟨⟨schema, notices⟩, hs, hr⟩ := bind_eq_ok_iff.1 h
    obtain ⟨valid, rfl⟩ := Change.Detector.ofPatterns_eq_ok_iff.1 (detectorOf_eq_ok_iff.1 hd)
    cases hr
    exact ⟨valid, ⟨readVersion_eq_ok_iff.1 hv, Release.checkLinkage_eq_ok_iff.1 hl⟩,
      checkSchema_eq_ok_iff.1 hs⟩
  · rintro ⟨valid, ⟨hv, hl⟩, hs⟩
    have hd : detectorOf config = .ok config.schema.detector :=
      detectorOf_eq_ok_iff.2 (Change.Detector.ofPatterns_eq_ok_iff.2 ⟨valid, rfl⟩)
    refine bind_eq_ok_iff.2 ⟨_, hd, bind_eq_ok_iff.2 ⟨_, readVersion_eq_ok_iff.2 hv, ?_⟩⟩
    refine bind_eq_ok_iff.2 ⟨_, Release.checkLinkage_eq_ok_iff.2 hl, ?_⟩
    exact bind_eq_ok_iff.2 ⟨_, checkSchema_eq_ok_iff.2 hs, rfl⟩

/-- A release whose documents are in order gets the report that its schema check makes. -/
theorem runGate_eq_map (valid : config.schema.PatternsValid) {version : String}
    (release : IsRelease files root config.paths version) :
    runGate files root config env repo =
      (checkSchema files config env repo config.schema.detector ⟨version⟩
        (.of root config.paths ⟨version⟩)).map fun s => ⟨version, s.1, s.2⟩ := by
  obtain ⟨hv, hl⟩ := isRelease_iff.1 release
  have hd : detectorOf config = .ok config.schema.detector :=
    detectorOf_eq_ok_iff.2 (Change.Detector.ofPatterns_eq_ok_iff.2 ⟨valid, rfl⟩)
  rw [runGate, hd, readVersion_eq_ok_iff.2 hv]
  simp only [bind, Except.bind, Release.checkLinkage_eq_ok_iff.2 hl]
  cases checkSchema files config env repo config.schema.detector ⟨version⟩
    (.of root config.paths ⟨version⟩) <;> rfl

/-- Where the documents are not in order, history is not looked at. -/
theorem runGate_congr_of_not_release
    (h : ¬(config.schema.PatternsValid ∧ ∃ version, IsRelease files root config.paths version))
    (env' : Change.Environment) (repo' : Change.Repository) :
    runGate files root config env repo = runGate files root config env' repo' := by
  unfold runGate
  cases hd : detectorOf config with
  | error => rfl
  | ok d =>
    cases hv : readVersion files root config.paths.manifest with
    | error => rfl
    | ok version =>
      cases hl : Release.checkLinkage files ⟨version⟩ (.of root config.paths ⟨version⟩) with
      | error => simp only [bind, Except.bind, hl]
      | ok u =>
        -- all three steps succeeded, so the documents are in order after all
        have valid := (Change.Detector.ofPatterns_eq_ok_iff.1 (detectorOf_eq_ok_iff.1 hd)).1
        exact absurd ⟨valid, version, isRelease_iff.2
          ⟨readVersion_eq_ok_iff.1 hv, Release.checkLinkage_eq_ok_iff.1 hl⟩⟩ h

end

/-- **The verdict of the gate.** A release passes exactly if every extra pattern is valid, the
documents show a release of some version, and the schema check has nothing to object: there is no
range, or version control cannot tell the changes, or they carry no signal, or they are documented.
The report then names the version, and its schema outcome and notices are those of the case. -/
theorem runGate_verdict (files : Files.View) (root : String) (config : Config)
    (env : Change.Environment) (repo : Change.Repository) :
    ((∃ r, runGate files root config env repo = .ok r) ↔
      config.schema.PatternsValid ∧
      ∃ version, IsRelease files root config.paths version ∧
        (Change.resolve? env repo = none ∨
          ∃ range, Change.resolve? env repo = some range ∧
            ((∃ failure, repo.diff range config.schema.diffPaths = .error failure ∧
                failure.isVersionControl = true) ∨
              ∃ diff, repo.diff range config.schema.diffPaths = .ok diff ∧
                (config.schema.detector.firstSignal? diff.toList = none ∨
                  Release.HasNotes files (Files.join root config.paths.changelog) ∨
                  (Release.LacksNotes files (Files.join root config.paths.changelog) ∧
                    Release.HasNotes files (Files.join root
                      (Release.notesPath config.paths.releaseNotesDir
                        ("RELEASE_NOTES_v" ++ version ++ ".md")))))))) ∧
    ∀ r, runGate files root config env repo = .ok r ↔
      config.schema.PatternsValid ∧ IsRelease files root config.paths r.version ∧
        r.tag.name = "v" ++ r.version ∧
        SchemaCheck files config env repo config.schema.detector
          (.of root config.paths r.tag) r.schema r.notices := by
  refine ⟨?_, fun r => ?_⟩
  · constructor
    · rintro ⟨r, h⟩
      obtain ⟨valid, release, hs⟩ := runGate_eq_ok_iff.1 h
      exact ⟨valid, r.version, release, exists_schemaCheck_iff.1 ⟨_, _, hs⟩⟩
    · rintro ⟨valid, version, release, h⟩
      obtain ⟨schema, notices, hs⟩ := exists_schemaCheck_iff.2 h
      exact ⟨⟨version, schema, notices⟩, runGate_eq_ok_iff.2 ⟨valid, release, hs⟩⟩
  · rw [runGate_eq_ok_iff]
    exact ⟨fun ⟨hp, hr, hs⟩ => ⟨hp, hr, rfl, hs⟩, fun ⟨hp, hr, _, hs⟩ => ⟨hp, hr, hs⟩⟩

end ReleaseGate
