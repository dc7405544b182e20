import Mathlib.Data.List.TakeWhile
import ReleaseGate.Change.Scripted
import ReleaseGate.Proofs.Ranges

/-!
# The cases of a resolution

Which range the variables of a pipeline and a repository resolve to. There are three cases, and the
first one that applies counts: a pull request with a base, a push with a revision before it, and the
last commit. Each strategy is tied to its case (`pullRequest_eq_some_iff`, `push_eq_some_iff`,
`parentOfHead_eq_some_iff`), and `resolve?_ofLookup_iff` puts them in their order.
-/

namespace ReleaseGate

/-- Trimming leaves nothing exactly of a text that is blank. -/
theorem Text.trim_eq_nil_iff {s : List Char} : trim s = [] ↔ isBlank s = true := by
  rw [trim, List.reverse_eq_nil_iff, List.dropWhile_eq_nil_iff, isBlank, List.all_eq_true]
  constructor
  · intro h c hc
    rw [← List.takeWhile_append_dropWhile (p := isSpace) (l := s), List.mem_append] at hc
    exact hc.elim List.mem_takeWhile_imp fun hc => h c (List.mem_reverse.2 hc)
  · intro h c hc
    exact h c ((List.dropWhile_suffix isSpace).subset (List.mem_reverse.1 hc))

namespace Change

/-- Both ends of a range exist. -/
structure Repository.Knows (repo : Repository) (range : Range) : Prop where
  base : repo.hasRevision range.base = true
  head : repo.hasRevision range.head = true

section

variable (lookup : String → Option String) (repo : Repository)

/-- A variable has a value that is more than white space. It counts as it is, untrimmed. -/
def IsSet (name value : String) : Prop :=
  lookup name = some value ∧ Text.trim value.toList ≠ []

/-- A range from the base of a pull request to its head. -/
structure FromPullRequest (range : Range) : Prop where
  event : lookup "GITHUB_EVENT_NAME" = some "pull_request"
  base : IsSet lookup "GITHUB_BASE_SHA" range.base
  head : IsSet lookup "GITHUB_SHA" range.head
  known : repo.Knows range

/-- A range from the revision before a push to its head. -/
structure FromPush (range : Range) : Prop where
  event : lookup "GITHUB_EVENT_NAME" = some "push"
  before : IsSet lookup "GITHUB_EVENT_BEFORE" range.base
  head : IsSet lookup "GITHUB_SHA" range.head
  /-- The revision before the push is not the one of a new branch. -/
  notNull : ¬∀ c ∈ range.base.toList, c = '0'
  known : repo.Knows range

/-- The range of the last commit. -/
structure FromLastCommit (range : Range) : Prop where
  eq : range = ⟨"HEAD~1", "HEAD"⟩
  known : repo.Knows range

end

section

variable {lookup : String → Option String} {repo : Repository} {range : Range}

theorem present_eq_some_iff {value : Option String} {v : String} :
    present value = some v ↔ value = some v ∧ Text.trim v.toList ≠ [] := by
  rw [present, Option.filter_eq_some_iff, Ne, Text.trim_eq_nil_iff, Bool.not_eq_true',
    Bool.not_eq_true]

theorem IsSet.ne_nil {name value : String} (h : IsSet lookup name value) : value.toList ≠ [] := by
  intro e
  rw [IsSet, e] at h
  exact h.2 rfl

theorem isNullRevision_eq_true_iff {rev : String} :
    isNullRevision rev = true ↔ rev.toList ≠ [] ∧ ∀ c ∈ rev.toList, c = '0' := by
  simp [isNullRevision]

theorem verified?_eq_some_iff_knows {base head : String} :
    verified? repo base head = some range ↔ range = ⟨base, head⟩ ∧ repo.Knows range := by
  rw [verified?_eq_some_iff]
  constructor
  · rintro ⟨hb, hh, rfl⟩
    exact ⟨rfl, hb, hh⟩
  · rintro ⟨rfl, hb, hh⟩
    exact ⟨hb, hh, rfl⟩

/-- The name of an event counts as it is, unless it is blank. -/
theorem eventName_eq_some_iff {name : String} (h : Text.trim name.toList ≠ []) :
    (Environment.ofLookup lookup).eventName = some name ↔
      lookup "GITHUB_EVENT_NAME" = some name :=
  present_eq_some_iff.trans (and_iff_left h)

theorem pullRequest_eq_some_iff :
    pullRequest (.ofLookup lookup) repo = some range ↔ FromPullRequest lookup repo range := by
  have event : (Environment.ofLookup lookup).eventName = some "pull_request" ↔
      lookup "GITHUB_EVENT_NAME" = some "pull_request" := eventName_eq_some_iff (by decide)
  unfold pullRequest
  constructor
  · intro h
    split at h
    · next he =>
      split at h
      · next hb hh =>
        obtain ⟨rfl, known⟩ := verified?_eq_some_iff_knows.1 h
        exact ⟨event.1 he, present_eq_some_iff.1 hb, present_eq_some_iff.1 hh, known⟩
      · cases h
    · cases h
  · rintro ⟨he, hb, hh, known⟩
    have hb : (Environment.ofLookup lookup).baseSha = some range.base := present_eq_some_iff.2 hb
    have hh : (Environment.ofLookup lookup).headSha = some range.head := present_eq_some_iff.2 hh
    rw [if_pos (event.2 he), hb, hh]
    exact verified?_eq_some_iff_knows.2 ⟨rfl, known⟩

theorem push_eq_some_iff :
    push (.ofLookup lookup) repo = some range ↔ FromPush lookup repo range := by
  have event : (Environment.ofLookup lookup).eventName = some "push" ↔
      lookup "GITHUB_EVENT_NAME" = some "push" := eventName_eq_some_iff (by decide)
  unfold push
  constructor
  · intro h
    split at h
    · next he =>
      split at h
      · next before _ hb hh =>
        split at h
        · cases h
        · next hn =>
          obtain ⟨rfl, known⟩ := verified?_eq_some_iff_knows.1 h
          have set : IsSet lookup "GITHUB_EVENT_BEFORE" before := present_eq_some_iff.1 hb
          refine ⟨event.1 he, set, present_eq_some_iff.1 hh, fun zeros => hn ?_, known⟩
          exact isNullRevision_eq_true_iff.2 ⟨set.ne_nil, zeros⟩
      · cases h
    · cases h
  · rintro ⟨he, hb, hh, notNull, known⟩
    have hb : (Environment.ofLookup lookup).beforeSha = some range.base := present_eq_some_iff.2 hb
    have hh : (Environment.ofLookup lookup).headSha = some range.head := present_eq_some_iff.2 hh
    have hn : ¬isNullRevision range.base = true := fun h =>
      notNull (isNullRevision_eq_true_iff.1 h).2
    rw [if_pos (event.2 he), hb, hh]
    simp only [if_neg hn]
    exact verified?_eq_some_iff_knows.2 ⟨rfl, known⟩

theorem parentOfHead_eq_some_iff {env : Environment} :
    parentOfHead env repo = some range ↔ FromLastCommit repo range := by
  rw [parentOfHead, verified?_eq_some_iff_knows]
  exact ⟨fun h => ⟨h.1, h.2⟩, fun h => ⟨h.1, h.2⟩⟩

theorem resolve?_eq_or (env : Environment) (repo : Repository) :
    resolve? env repo =
      (pullRequest env repo).or ((push env repo).or (parentOfHead env repo)) := by
  simp only [resolve?, strategies, List.findSome?_cons, List.findSome?_nil]
  cases pullRequest env repo <;> cases push env repo <;> cases parentOfHead env repo <;> rfl

/-- The first case that applies tells the range. -/
theorem resolve?_ofLookup_eq_some_iff :
    resolve? (.ofLookup lookup) repo = some range ↔
      FromPullRequest lookup repo range ∨
        (∀ r, ¬FromPullRequest lookup repo r) ∧
          (FromPush lookup repo range ∨
            (∀ r, ¬FromPush lookup repo r) ∧ FromLastCommit repo range) := by
  simp only [resolve?_eq_or, Option.or_eq_some_iff, Option.eq_none_iff_forall_ne_some, ne_eq,
    pullRequest_eq_some_iff, push_eq_some_iff, parentOfHead_eq_some_iff]

/-- No environment hides the last commit. -/
theorem resolve?_ne_none_of_lastCommit (env : Environment)
    (known : repo.Knows ⟨"HEAD~1", "HEAD"⟩) : resolve? env repo ≠ none := by
  rw [resolve?_eq_or, parentOfHead_eq_some_iff.2 ⟨rfl, known⟩]
  simp

end

/-- **The cases of a resolution.** The range is that of the first case that applies, a pull request,
a push or the last commit, and there is none where none applies. Whatever the environment, both ends
of a range exist, and where the last commit and its parent exist there is a range. On a push the
base is never the revision that stands for no commit, even where the repository claims to know it. -/
theorem resolve?_ofLookup_iff (lookup : String → Option String) (repo : Repository) :
    (∀ range, resolve? (.ofLookup lookup) repo = some range ↔
      FromPullRequest lookup repo range ∨
        (∀ r, ¬FromPullRequest lookup repo r) ∧
          (FromPush lookup repo range ∨
            (∀ r, ¬FromPush lookup repo r) ∧ FromLastCommit repo range)) ∧
    (resolve? (.ofLookup lookup) repo = none ↔
      (∀ r, ¬FromPullRequest lookup repo r) ∧ (∀ r, ¬FromPush lookup repo r) ∧
        ∀ r, ¬FromLastCommit repo r) ∧
    (∀ (env : Environment) (range : Range), resolve? env repo = some range →
      repo.hasRevision range.base = true ∧ repo.hasRevision range.head = true) ∧
    (∀ range, lookup "GITHUB_EVENT_NAME" = some "push" →
      resolve? (.ofLookup lookup) repo = some range → ¬∀ c ∈ range.base.toList, c = '0') ∧
    (repo.hasRevision "HEAD~1" = true → repo.hasRevision "HEAD" = true →
      ∀ env : Environment, resolve? env repo ≠ none) := by
  refine ⟨fun range => resolve?_ofLookup_eq_some_iff, ?_, fun env range => hasRevision_of_resolve?,
    ?_, fun base head env => resolve?_ne_none_of_lastCommit env ⟨base, head⟩⟩
  · rw [resolve?_eq_or, Option.or_eq_none_iff, Option.or_eq_none_iff]
    simp only [Option.eq_none_iff_forall_ne_some, ne_eq, pullRequest_eq_some_iff, push_eq_some_iff,
      parentOfHead_eq_some_iff]
  · intro range event h
    rcases resolve?_ofLookup_eq_some_iff.1 h with pull | ⟨-, push | ⟨-, last⟩⟩
    · exact absurd (Option.some.inj (event.symm.trans pull.event)) (by decide)
    · exact push.notNull
    · rw [last.eq]
      exact fun zeros => absurd (zeros 'H' (by decide)) (by decide)

/-- A push that makes a branch, in a repository that claims to know the revision before it. -/
theorem resolve?_ofLookup_newBranch :
    let null := "0000000000000000000000000000000000000000"
    let table := [("GITHUB_EVENT_NAME", "push"), ("GITHUB_EVENT_BEFORE", null),
      ("GITHUB_SHA", "HEAD")]
    let lookup := fun name => table.lookup name
    let repo := Script.repository ⟨[null, "HEAD", "HEAD~1"], none, none⟩
    lookup "GITHUB_EVENT_NAME" = some "push" ∧
      resolve? (.ofLookup lookup) repo = some ⟨"HEAD~1", "HEAD"⟩ ∧
      (repo.hasRevision "HEAD~1" = true ∧ repo.hasRevision "HEAD" = true) ∧
      (¬∀ c ∈ "HEAD~1".toList, c = '0') ∧
      ∀ env : Environment, resolve? env repo ≠ none := by
  intro null table lookup repo
  obtain ⟨-, -, known, notNull, found⟩ := resolve?_ofLookup_iff lookup repo
  have resolved : resolve? (.ofLookup lookup) repo = some ⟨"HEAD~1", "HEAD"⟩ := by decide
  exact ⟨rfl, resolved, known _ _ resolved, notNull _ rfl resolved, found (by decide) (by decide)⟩

end Change

end ReleaseGate
