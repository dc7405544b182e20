import ReleaseGate.Proofs.RangeCases

/-!
# What a range is told by

A strategy proposes a range from the variables of the pipeline alone, and the repository is asked
only whether both of its ends exist (`strategy_eq_some_iff`).

* So a range is told by the variables of its event (`SameForEvent.resolve?_eq`) and by the existence
  of the revisions that may be its ends (`resolve?_congr_of_revisions`).
* A repository that knows more revisions resolves by the same strategy or by one that is tried
  earlier (`exists_winner?_le`): more history never loses a range, but it may change it.
-/

namespace ReleaseGate.Change

variable {env env' : Environment} {repo repo' : Repository} {range : Range} {s : Strategy}

/-! ### Proposals -/

/-- A repository in which every revision exists. -/
def completeRepository : Repository where
  hasRevision _ := true
  diff _ _ := .ok ""

/-- The range that a strategy proposes: the one that it finds where every revision exists. -/
def Strategy.proposal? (s : Strategy) (env : Environment) : Option Range := s env completeRepository

theorem verified?_eq_some_iff_complete {base head : String} :
    verified? repo base head = some range ↔
      verified? completeRepository base head = some range ∧ repo.Knows range := by
  rw [verified?_eq_some_iff_knows, verified?_eq_some_iff_knows]
  exact ⟨fun ⟨e, known⟩ => ⟨⟨e, rfl, rfl⟩, known⟩, fun ⟨⟨e, _⟩, known⟩ => ⟨e, known⟩⟩

/-- **A repository is asked only about the ends of what a strategy proposes.** -/
theorem strategy_eq_some_iff (hs : s ∈ strategies) :
    s env repo = some range ↔ s.proposal? env = some range ∧ repo.Knows range := by
  simp only [strategies, List.mem_cons, List.not_mem_nil, or_false] at hs
  unfold Strategy.proposal?
  rcases hs with rfl | rfl | rfl
  · unfold pullRequest
    split_ifs
    · split
      · exact verified?_eq_some_iff_complete
      · simp
    · simp
  · unfold push
    split_ifs
    · split
      · split_ifs
        · simp
        · exact verified?_eq_some_iff_complete
      · simp
    · simp
  · exact verified?_eq_some_iff_complete

/-! ### Variables -/

/-- Environments with the same event, and the same revisions in the variables of that event. -/
structure Environment.SameForEvent (env env' : Environment) : Prop where
  eventName : env.eventName = env'.eventName
  headSha : env.headSha = env'.headSha
  baseSha : env.eventName = some "pull_request" → env.baseSha = env'.baseSha
  beforeSha : env.eventName = some "push" → env.beforeSha = env'.beforeSha

/-- The event is one that comes with revisions. -/
def Environment.HasRevisions (env : Environment) : Prop :=
  env.eventName = some "pull_request" ∨ env.eventName = some "push"

/-- **Only the variables of the event count.** -/
theorem Environment.SameForEvent.resolve?_eq (same : env.SameForEvent env') (repo : Repository) :
    resolve? env repo = resolve? env' repo := by
  have pull : pullRequest env repo = pullRequest env' repo := by
    unfold pullRequest
    rw [← same.eventName]
    split_ifs with event
    · rw [same.headSha, same.baseSha event]
    · rfl
  have push : push env repo = push env' repo := by
    unfold Change.push
    rw [← same.eventName]
    split_ifs with event
    · rw [same.headSha, same.beforeSha event]
    · rfl
  rw [resolve?_eq_or, resolve?_eq_or, pull, push]
  rfl

/-- Without such an event there is only the last commit. -/
theorem resolve?_of_not_hasRevisions (h : ¬env.HasRevisions) (repo : Repository) :
    resolve? env repo = verified? repo "HEAD~1" "HEAD" := by
  obtain ⟨noPull, noPush⟩ := not_or.1 h
  rw [resolve?_eq_or, pullRequest, push, if_neg noPull, if_neg noPush]
  rfl

/-! ### Revisions -/

/-- The revisions that the variables of the event name. -/
def Environment.revisions (env : Environment) : List String :=
  if env.eventName = some "pull_request" then env.baseSha.toList ++ env.headSha.toList
  else if env.eventName = some "push" then env.beforeSha.toList ++ env.headSha.toList
  else []

/-- The revisions that a repository may be asked about. -/
def Environment.candidates (env : Environment) : List String :=
  "HEAD" :: "HEAD~1" :: env.revisions

/-- The ends of a proposal are among them. -/
theorem mem_candidates_of_proposal? (hs : s ∈ strategies) (h : s.proposal? env = some range) :
    range.base ∈ env.candidates ∧ range.head ∈ env.candidates := by
  simp only [strategies, List.mem_cons, List.not_mem_nil, or_false] at hs
  unfold Strategy.proposal? at h
  rcases hs with rfl | rfl | rfl
  · unfold pullRequest at h
    split at h
    · next event =>
      split at h
      · next base head hb hh =>
        obtain ⟨rfl, -⟩ := verified?_eq_some_iff_knows.1 h
        simp [Environment.candidates, Environment.revisions, event, hb, hh]
      · cases h
    · cases h
  · unfold push at h
    split at h
    · next event =>
      split at h
      · next before head hb hh =>
        split at h
        · cases h
        · obtain ⟨rfl, -⟩ := verified?_eq_some_iff_knows.1 h
          simp [Environment.candidates, Environment.revisions, event, hb, hh]
      · cases h
    · cases h
  · obtain ⟨rfl, -⟩ := verified?_eq_some_iff_knows.1 h
    simp [Environment.candidates]

/-- **Only the revisions of the event count**, and those of the last commit. -/
theorem resolve?_congr_of_revisions
    (same : ∀ rev ∈ env.candidates, repo.hasRevision rev = repo'.hasRevision rev) :
    resolve? env repo = resolve? env repo' := by
  have alike {s : Strategy} (hs : s ∈ strategies) : s env repo = s env repo' := by
    ext range
    rw [strategy_eq_some_iff hs, strategy_eq_some_iff hs]
    refine and_congr_right fun proposed => ?_
    obtain ⟨hb, hh⟩ := mem_candidates_of_proposal? hs proposed
    constructor
    · exact fun known => ⟨same _ hb ▸ known.base, same _ hh ▸ known.head⟩
    · exact fun known => ⟨(same _ hb).symm ▸ known.base, (same _ hh).symm ▸ known.head⟩
  rw [resolve?_eq_or, resolve?_eq_or, alike (s := pullRequest) (by simp [strategies]),
    alike (s := push) (by simp [strategies]), alike (s := parentOfHead) (by simp [strategies])]

/-! ### More history -/

/-- Every revision of one repository exists in the other. -/
def Repository.KnownIn (repo repo' : Repository) : Prop :=
  ∀ rev, repo.hasRevision rev = true → repo'.hasRevision rev = true

theorem Repository.KnownIn.knows (more : repo.KnownIn repo') (known : repo.Knows range) :
    repo'.Knows range :=
  ⟨more _ known.base, more _ known.head⟩

/-- What a strategy finds, it finds again when more is known. -/
theorem Repository.KnownIn.strategy (more : repo.KnownIn repo') (hs : s ∈ strategies)
    (h : s env repo = some range) : s env repo' = some range :=
  have ⟨proposed, known⟩ := (strategy_eq_some_iff hs).1 h
  (strategy_eq_some_iff hs).2 ⟨proposed, more.knows known⟩

/-- The index of the strategy that finds the range: the first one that finds any. -/
def winner? (env : Environment) (repo : Repository) : Option Nat :=
  strategies.findIdx? fun s => (s env repo).isSome

/-- The range is the one that this strategy finds. -/
theorem resolve?_eq_some_iff_winner? :
    resolve? env repo = some range ↔
      ∃ i s, winner? env repo = some i ∧ strategies[i]? = some s ∧ s env repo = some range := by
  have tried (ss : List Strategy) : ss.findSome? (fun s => s env repo) = some range ↔
      ∃ i s, ss.findIdx? (fun s => (s env repo).isSome) = some i ∧ ss[i]? = some s ∧
        s env repo = some range := by
    induction ss with
    | nil => simp
    | cons s ss ih =>
      rw [List.findSome?_cons, List.findIdx?_cons]
      cases found : s env repo with
      | some r => simp [found]
      | none => simp [ih]
  exact tried strategies

/-- **More history wins no later.** And where the same strategy wins, the range is the same. -/
theorem Repository.KnownIn.exists_winner?_le (more : repo.KnownIn repo') {i : Nat}
    (h : winner? env repo = some i) :
    ∃ j ≤ i, winner? env repo' = some j ∧ (j = i → resolve? env repo' = resolve? env repo) := by
  have finds (s : Strategy) (hs : s ∈ strategies) (hf : (s env repo).isSome = true) :
      (s env repo').isSome = true := by
    obtain ⟨range, hr⟩ := Option.isSome_iff_exists.1 hf
    rw [more.strategy hs hr]
    rfl
  obtain ⟨j, hj, hwinner⟩ := List.findIdx?_eq_some_le_of_findIdx?_eq_some finds h
  refine ⟨j, hj, hwinner, ?_⟩
  rintro rfl
  obtain ⟨hlt, hsome, -⟩ := List.findIdx?_eq_some_iff_getElem.1 h
  obtain ⟨range, hr⟩ := Option.isSome_iff_exists.1 hsome
  have hs : strategies[j]? = some strategies[j] := List.getElem?_eq_getElem hlt
  rw [resolve?_eq_some_iff_winner?.2 ⟨j, _, h, hs, hr⟩]
  exact resolve?_eq_some_iff_winner?.2
    ⟨j, _, hwinner, hs, more.strategy (List.getElem_mem hlt) hr⟩

/-- **A resolution uses only what it should.**

* Environments with the same event, and the same revisions in the variables of that event, resolve
  alike in every repository. Without a pull request or a push no variable counts.
* Repositories that agree on the last commit, on its parent and on the revisions that the variables
  of the event name resolve alike.
* Where all that a repository knows exists in another one, each strategy finds there what it found.
  So the other one resolves by the same strategy, and then to the same range, or by one that is
  tried earlier, and no range is lost.

A range is always the one that the winning strategy finds. -/
theorem resolve?_of_event :
    ((∀ env env' : Environment, env.SameForEvent env' →
        ∀ repo, resolve? env repo = resolve? env' repo) ∧
      ∀ env env' : Environment, ¬env.HasRevisions → ¬env'.HasRevisions →
        ∀ repo, resolve? env repo = resolve? env' repo) ∧
    (∀ (env : Environment) (repo repo' : Repository),
      (∀ rev ∈ "HEAD" :: "HEAD~1" :: env.revisions,
        repo.hasRevision rev = repo'.hasRevision rev) →
      resolve? env repo = resolve? env repo') ∧
    (∀ (env : Environment) (repo repo' : Repository), repo.KnownIn repo' →
      (∀ s ∈ strategies, ∀ range, s env repo = some range → s env repo' = some range) ∧
      (∀ i, winner? env repo = some i →
        ∃ j ≤ i, winner? env repo' = some j ∧
          (j = i → resolve? env repo' = resolve? env repo)) ∧
      ((resolve? env repo).isSome → (resolve? env repo').isSome)) ∧
    ∀ (env : Environment) (repo : Repository) (range : Range), resolve? env repo = some range ↔
      ∃ i s, winner? env repo = some i ∧ strategies[i]? = some s ∧ s env repo = some range := by
  refine ⟨⟨fun env env' => Environment.SameForEvent.resolve?_eq, ?_⟩,
    fun env repo repo' => resolve?_congr_of_revisions, ?_,
    fun env repo range => resolve?_eq_some_iff_winner?⟩
  · intro env env' h h' repo
    rw [resolve?_of_not_hasRevisions h, resolve?_of_not_hasRevisions h']
  · intro env repo repo' more
    refine ⟨fun s hs range => more.strategy hs, fun i => more.exists_winner?_le, fun found => ?_⟩
    obtain ⟨range, hr⟩ := Option.isSome_iff_exists.1 found
    obtain ⟨s, hs, hfound⟩ := List.exists_of_findSome?_eq_some hr
    exact List.findSome?_isSome_iff.2 ⟨s, hs, by rw [more.strategy hs hfound]; rfl⟩

/-- A push whose older revision is fetched later: the last commit gives way to the pushed range. -/
theorem resolve?_of_event_laterFetch :
    let env : Environment := ⟨some "push", none, some "new", some "old"⟩
    let known := ["HEAD~1", "HEAD", "new"]
    let shallow := Script.repository ⟨known, none, none⟩
    let forked := Script.repository ⟨known ++ ["fork"], none, none⟩
    let full := Script.repository ⟨known ++ ["old"], none, none⟩
    resolve? ⟨some "push", some "fork", some "new", some "old"⟩ forked = resolve? env forked ∧
      resolve? ⟨some "tag", some "fork", some "new", some "old"⟩ full =
        resolve? ⟨none, none, none, none⟩ full ∧
      resolve? env shallow = resolve? env forked ∧
      resolve? env shallow = some ⟨"HEAD~1", "HEAD"⟩ ∧ resolve? env full = some ⟨"old", "new"⟩ ∧
      winner? env shallow = some 2 ∧ (∃ j ≤ 2, winner? env full = some j) ∧
      (resolve? env full).isSome := by
  intro env known shallow forked full
  obtain ⟨⟨sameVariables, noEvent⟩, sameRevisions, more, -⟩ := resolve?_of_event
  have grown : shallow.KnownIn full := by
    intro rev h
    exact List.contains_iff_mem.2 (List.mem_append_left _ (List.contains_iff_mem.1 h))
  obtain ⟨-, wins, kept⟩ := more env shallow full grown
  have last : resolve? env shallow = some ⟨"HEAD~1", "HEAD"⟩ := by decide
  have winner : winner? env shallow = some 2 := by decide
  obtain ⟨j, hj, hwinner, -⟩ := wins 2 winner
  refine ⟨?_, ?_, sameRevisions _ _ _ (by decide), last, by decide, winner, ⟨j, hj, hwinner⟩, ?_⟩
  · exact sameVariables _ _ ⟨rfl, rfl, by decide, fun _ => rfl⟩ _
  · exact noEvent _ _ (not_or.2 ⟨by decide, by decide⟩) (not_or.2 ⟨by decide, by decide⟩) _
  · exact kept (by rw [last]; rfl)

end ReleaseGate.Change
