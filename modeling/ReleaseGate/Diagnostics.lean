import ReleaseGate.Gate
import ReleaseGate.Release.Semver

/-!
# Diagnostics

What a run tells of its own steps, in the order in which they are taken, where a variable asks for
that. Diagnostics stand on the error stream before the lines about the release. Which of them a
filter lets through, and how they are written, is up to their subscriber. Of its own texts only one is
known here: what it says of a directive that starts with a character that no directive starts with
(`refusals`).
-/

namespace ReleaseGate

/-- A step of a run. -/
inductive Diagnostic
  /-- The library found no history; the program is asked instead. -/
  | libraryUnavailable
  /-- The version is no semantic one, and is taken as it is written. -/
  | verbatimVersion (version : String)
  | linked (tag : String)
  /-- A strategy found a range. -/
  | resolved (strategy : String) (range : Change.Range)
  /-- No strategy found a range. -/
  | unresolved
  | diffUnavailable (range : Change.Range) (reason : String)
  /-- A schema marker changed. -/
  | signal (signal : Change.Signal)
  deriving DecidableEq, Repr

/-- The names of the strategies, in their order. -/
def strategyNames : List String := ["pull_request", "push", "parent_of_head"]

/-- What is told of the search for a range. -/
def rangeDiagnostic (env : Change.Environment) (repo : Change.Repository) : Diagnostic :=
  let found := (strategyNames.zip Change.strategies).findSome? fun (name, strategy) =>
    (strategy env repo).map (Diagnostic.resolved name)
  found.getD .unresolved

/-- What is told of the diff of a range. -/
def diffDiagnostics (config : Config) (repo : Change.Repository) (detector : Change.Detector)
    (range : Change.Range) : List Diagnostic :=
  match repo.diff range config.schema.diffPaths with
  | .error failure =>
    if failure.isVersionControl then [.diffUnavailable range failure.message] else []
  | .ok diff =>
    match detector.firstSignal? diff.toList with
    | some s => [.signal s]
    | none => []

/-- What is told of the schema check. -/
def schemaDiagnostics (config : Config) (env : Change.Environment) (repo : Change.Repository)
    (detector : Change.Detector) : List Diagnostic :=
  rangeDiagnostic env repo ::
    match Change.resolve? env repo with
    | none => []
    | some range =>
      if repo.aborts range config.schema.diffPaths then []
      else diffDiagnostics config repo detector range

/-- What a run of the gate tells. -/
def gateDiagnostics (files : Files.View) (root : String) (config : Config)
    (env : Change.Environment) (repo : Change.Repository) : List Diagnostic :=
  match detectorOf config, readVersion files root config.paths.manifest with
  | .ok detector, .ok version =>
    let tag : Release.Tag := ⟨version⟩
    let verbatim : List Diagnostic :=
      if (Release.Semver.parse? version.toList).isSome then [] else [.verbatimVersion version]
    match Release.checkLinkage files tag (.of root config.paths tag) with
    | .ok () => verbatim ++ .linked tag.name :: schemaDiagnostics config env repo detector
    | .error _ => verbatim
  | _, _ => []

/-- Whether a directive of a filter can start with a character, as far as it is ASCII. -/
def opensDirective (c : Char) : Bool :=
  c.isAlphanum || "[-:_".toList.contains c || c.toNat ≥ 128

/-- What the subscriber says of a directive before anything is told, if it refuses it. -/
def refusal? (directive : List Char) : Option String :=
  if directive = [] || (Text.dropSpace directive).head?.any opensDirective then none
  else some ("ignoring `" ++ String.ofList directive ++ "`: invalid filter directive\n")

/-- What the subscriber says of a filter. -/
def refusals (filter : String) : String :=
  String.join ((filter.toList.splitOn ',').filterMap refusal?)

/-- A text of whole lines. -/
def IsWholeLines (text : String) : Prop := text = "" ∨ ∃ lines, text = lines ++ "\n"

theorem IsWholeLines.append {s t : String} (hs : IsWholeLines s) (ht : IsWholeLines t) :
    IsWholeLines (s ++ t) := by
  rcases ht with rfl | ⟨lines, rfl⟩
  · rwa [String.append_empty]
  · exact .inr ⟨s ++ lines, (String.append_assoc ..).symm⟩

theorem IsWholeLines.join {ts : List String} (h : ∀ t ∈ ts, IsWholeLines t) :
    IsWholeLines (String.join ts) := by
  induction ts with
  | nil => exact .inl rfl
  | cons t ts ih =>
    rw [List.forall_mem_cons] at h
    rw [String.join_cons]
    exact h.1.append (ih h.2)

theorem isWholeLines_refusals (filter : String) : IsWholeLines (refusals filter) := by
  refine .join fun text h => ?_
  obtain ⟨directive, -, hrefused⟩ := List.mem_filterMap.1 h
  unfold refusal? at hrefused
  split at hrefused
  · cases hrefused
  · have close : "`: invalid filter directive\n" = "`: invalid filter directive" ++ "\n" := rfl
    rw [← Option.some.inj hrefused, close, ← String.append_assoc]
    exact .inr ⟨_, rfl⟩

/-- The words of those parts of the program that are not its own. -/
structure Console where
  /-- What the subscriber writes, given the filter and what it is told. -/
  log : String → List Diagnostic → String
  /-- The subscriber writes line by line. -/
  log_lines : ∀ filter steps, IsWholeLines (log filter steps)
  /-- What the readers of patterns and of documents say. -/
  wording : Wording
  /-- What is written where the program is cut off. -/
  abortText : String

/-- Few words: a subscriber that says only what it refuses. -/
def Console.brief : Console where
  log filter _ := refusals filter
  log_lines filter _ := isWholeLines_refusals filter
  wording := .brief
  abortText := ""

end ReleaseGate
