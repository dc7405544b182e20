import ReleaseGate.Proofs.Verdict

/-!
# What the gate sees of the files

Of a document the gate does not keep its text, only an answer to a question about it: which version
it declares, whether a heading or a link stands in it, whether it has Schema Notes. Two views of a
file system that give the same answers (`SeenAlike`) are the same to the gate (`runGate_congr`).
-/

namespace ReleaseGate

namespace Files.View

variable {γ : Type}

/-- What `g` tells of the file at a path, or why the file could not be read. -/
def ask (v : View) (g : List Char → γ) (path : String) : Except ReadFailure γ :=
  (v.read path).map fun text => g text.toList

variable {v v' : View} {g : List Char → γ} {path : String}

theorem ask_of_read_eq (h : v.read path = v'.read path) : v.ask g path = v'.ask g path := by
  rw [ask, ask, h]

/-- The same is told of both files, or neither can be read, for the same reason. -/
theorem read_of_ask_eq (h : v.ask g path = v'.ask g path) :
    (∃ cause, v.read path = .error cause ∧ v'.read path = .error cause) ∨
      ∃ s s', v.read path = .ok s ∧ v'.read path = .ok s' ∧ g s.toList = g s'.toList := by
  unfold ask at h
  cases hr : v.read path with
  | error cause =>
    cases hr' : v'.read path with
    | error cause' =>
      rw [hr, hr'] at h
      cases h
      exact .inl ⟨cause, rfl, rfl⟩
    | ok s' =>
      rw [hr, hr'] at h
      cases h
  | ok s =>
    cases hr' : v'.read path with
    | error cause' =>
      rw [hr, hr'] at h
      cases h
    | ok s' =>
      rw [hr, hr'] at h
      exact .inr ⟨s, s', rfl, rfl, Except.ok.inj h⟩

end Files.View

/-! ### The documents of a tag -/

namespace Release

/-- Two views in which the documents of a tag show the same. -/
structure SeenAlike (files files' : Files.View) (tag : Tag) (a : Artifacts) : Prop where
  heading : files.ask (hasReleaseHeading tag.name.toList) (a.resolve a.changelog) =
    files'.ask (hasReleaseHeading tag.name.toList) (a.resolve a.changelog)
  link : files.ask (Text.occursIn tag.indexLink.toList) (a.resolve a.releaseIndex) =
    files'.ask (Text.occursIn tag.indexLink.toList) (a.resolve a.releaseIndex)
  releaseNotes : files.isFile (a.resolve a.releaseNotes) = files'.isFile (a.resolve a.releaseNotes)
  schemaNotes : ∀ path ∈ [a.changelog, a.releaseNotes],
    files.ask hasSchemaNotes (a.resolve path) = files'.ask hasSchemaNotes (a.resolve path)

variable {files files' : Files.View} {tag : Tag} {a : Artifacts}

/-- A document is read with the same failure, or with texts of which the same is told. -/
theorem readArtifact_of_ask_eq {γ : Type} {g : List Char → γ} {path : String}
    (h : files.ask g (a.resolve path) = files'.ask g (a.resolve path)) :
    (∃ f, readArtifact files a path = .error f ∧ readArtifact files' a path = .error f) ∨
      ∃ s s', readArtifact files a path = .ok s ∧ readArtifact files' a path = .ok s' ∧
        g s.toList = g s'.toList := by
  rcases Files.View.read_of_ask_eq h with ⟨cause, hr, hr'⟩ | ⟨s, s', hr, hr', hg⟩
  · left
    simp only [readArtifact, hr, hr']
    cases cause <;> exact ⟨_, rfl, rfl⟩
  · exact .inr ⟨s, s', readArtifact_eq_ok_iff.2 hr, readArtifact_eq_ok_iff.2 hr', hg⟩

/-- The linkage keeps three answers: of the changelog, of the index, and of the release notes. -/
theorem checkLinkage_congr
    (heading : files.ask (hasReleaseHeading tag.name.toList) (a.resolve a.changelog) =
      files'.ask (hasReleaseHeading tag.name.toList) (a.resolve a.changelog))
    (link : files.ask (Text.occursIn tag.indexLink.toList) (a.resolve a.releaseIndex) =
      files'.ask (Text.occursIn tag.indexLink.toList) (a.resolve a.releaseIndex))
    (releaseNotes : files.isFile (a.resolve a.releaseNotes) =
      files'.isFile (a.resolve a.releaseNotes)) :
    checkLinkage files tag a = checkLinkage files' tag a := by
  unfold checkLinkage
  rcases readArtifact_of_ask_eq heading with ⟨f, hr, hr'⟩ | ⟨s, s', hr, hr', hg⟩
  · rw [hr, hr']
    rfl
  rcases readArtifact_of_ask_eq link with ⟨f, hi, hi'⟩ | ⟨i, i', hi, hi', hl⟩
  · simp only [hr, hr', hi, hi', bind, Except.bind, hg]
  · simp only [hr, hr', hi, hi', bind, Except.bind, hg, hl, releaseNotes]

theorem firstWithNotes_congr {paths : List String}
    (h : ∀ path ∈ paths,
      files.ask hasSchemaNotes (a.resolve path) = files'.ask hasSchemaNotes (a.resolve path)) :
    firstWithNotes files a paths = firstWithNotes files' a paths := by
  induction paths with
  | nil => rfl
  | cons path paths ih =>
    obtain ⟨hp, hps⟩ := List.forall_mem_cons.1 h
    unfold firstWithNotes
    rw [ih hps]
    rcases readArtifact_of_ask_eq hp with ⟨f, hr, hr'⟩ | ⟨s, s', hr, hr', hg⟩
    · rw [hr, hr']
    · simp only [hr, hr', bind, Except.bind, hg]

theorem requireSchemaNotes_congr (h : SeenAlike files files' tag a) :
    requireSchemaNotes files tag a = requireSchemaNotes files' tag a := by
  unfold requireSchemaNotes
  rw [firstWithNotes_congr h.schemaNotes]

end Release

/-! ### The gate -/

/-- The paths that the gate reads from: three are settled, and the version tells the fourth. -/
def gatePaths (files : Files.View) (root : String) (paths : PathSettings) : List String :=
  let documents :=
    match readVersion files root paths.manifest with
    | .ok version => [(Release.Artifacts.of root paths ⟨version⟩).releaseNotes]
    | .error _ => []
  ([paths.manifest, paths.changelog, paths.releaseIndex] ++ documents).map (Files.join root)

theorem releaseNotes_mem_gatePaths {files : Files.View} {root version : String}
    {paths : PathSettings} (h : readVersion files root paths.manifest = .ok version) :
    Files.join root (Release.Artifacts.of root paths ⟨version⟩).releaseNotes ∈
      gatePaths files root paths := by
  simp [gatePaths, h]

theorem readVersion_congr {files files' : Files.View} {root manifest : String}
    (h : files.ask Release.declaredVersion? (Files.join root manifest) =
      files'.ask Release.declaredVersion? (Files.join root manifest)) :
    readVersion files root manifest = readVersion files' root manifest := by
  unfold readVersion
  rcases Files.View.read_of_ask_eq h with ⟨cause, hr, hr'⟩ | ⟨s, s', hr, hr', hg⟩
  · rw [hr, hr']
  · simp only [hr, hr', hg]

/-- Two views that show the gate the same. -/
structure SeenAlike (files files' : Files.View) (root : String) (paths : PathSettings) : Prop where
  manifest : files.ask Release.declaredVersion? (Files.join root paths.manifest) =
    files'.ask Release.declaredVersion? (Files.join root paths.manifest)
  documents : ∀ version, readVersion files root paths.manifest = .ok version →
    Release.SeenAlike files files' ⟨version⟩ (.of root paths ⟨version⟩)

/-- Views with the same answers about the paths of a run show the gate the same. -/
theorem seenAlike_of_gatePaths {files files' : Files.View} {root : String} {paths : PathSettings}
    (h : ∀ path ∈ gatePaths files root paths,
      files.read path = files'.read path ∧ files.isFile path = files'.isFile path) :
    SeenAlike files files' root paths := by
  have read {path : String} (hp : path ∈ gatePaths files root paths) {γ : Type}
      (g : List Char → γ) : files.ask g path = files'.ask g path :=
    Files.View.ask_of_read_eq (h path hp).1
  have changelog : Files.join root paths.changelog ∈ gatePaths files root paths := by
    simp [gatePaths]
  have index : Files.join root paths.releaseIndex ∈ gatePaths files root paths := by
    simp [gatePaths]
  constructor
  case manifest => exact read (by simp [gatePaths]) _
  case documents =>
    intro version hv
    have notes := releaseNotes_mem_gatePaths hv
    constructor
    case heading => exact read changelog _
    case link => exact read index _
    case releaseNotes => exact (h _ notes).2
    case schemaNotes =>
      intro path hp
      rcases (List.mem_cons.1 hp).imp_right List.mem_singleton.1 with rfl | rfl
      · exact read changelog _
      · exact read notes _

/-- **The gate gives the same answer on views that show it the same.** -/
theorem runGate_congr {files files' : Files.View} {root : String} {config : Config}
    (env : Change.Environment) (repo : Change.Repository)
    (h : SeenAlike files files' root config.paths) :
    runGate files root config env repo = runGate files' root config env repo := by
  unfold runGate
  rw [← readVersion_congr h.manifest]
  cases detectorOf config with
  | error f => rfl
  | ok detector =>
    cases hv : readVersion files root config.paths.manifest with
    | error f => rfl
    | ok version =>
      have documents := h.documents version hv
      have linkage := Release.checkLinkage_congr documents.heading documents.link
        documents.releaseNotes
      simp only [bind, Except.bind, linkage, checkSchema,
        Release.requireSchemaNotes_congr documents]

end ReleaseGate
