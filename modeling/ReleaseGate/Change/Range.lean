import ReleaseGate.Failure
import ReleaseGate.Text.Space

/-!
# Change ranges

The range of history to look at is told by the environment of a pipeline, and checked against a
repository: only revisions that exist make a range. Three strategies are tried in order: the base
of a pull request, the revision before a push, and the parent of the last commit. To find no range
is an outcome, not a failure.
-/

namespace ReleaseGate.Change

/-- A range of history, from a base, which it does not include, to a head. -/
structure Range where
  base : String
  head : String
  deriving DecidableEq, Repr

/-- A range as it is written. -/
def Range.text (r : Range) : String := r.base ++ ".." ++ r.head

/-- What the checks ask of a repository. -/
structure Repository where
  /-- Whether a revision names a commit. -/
  hasRevision : String → Bool
  /-- The diff of a range, limited to some paths. -/
  diff : Range → List String → Except Failure String
  /-- Whether asking for the diff cuts the program off, so that there is no answer. -/
  aborts : Range → List String → Bool := fun _ _ => false

/-- The variables of a pipeline that tell a range. Blank ones count as not set. -/
structure Environment where
  eventName : Option String
  baseSha : Option String
  headSha : Option String
  beforeSha : Option String
  deriving DecidableEq, Repr

/-- A variable that is set and not blank. -/
def present (value : Option String) : Option String :=
  value.filter fun v => !Text.isBlank v.toList

/-- The environment that a look-up of variables gives. -/
def Environment.ofLookup (lookup : String → Option String) : Environment :=
  { eventName := present (lookup "GITHUB_EVENT_NAME")
    baseSha := present (lookup "GITHUB_BASE_SHA")
    headSha := present (lookup "GITHUB_SHA")
    beforeSha := present (lookup "GITHUB_EVENT_BEFORE") }

/-- Whether a revision is the identifier of no commit: zeros only. -/
def isNullRevision (rev : String) : Bool := rev.toList ≠ [] && rev.toList.all (· == '0')

/-- The range between two revisions that both exist. -/
def verified? (repo : Repository) (base head : String) : Option Range :=
  if repo.hasRevision base && repo.hasRevision head then some ⟨base, head⟩ else none

/-- A way to find a range. -/
abbrev Strategy := Environment → Repository → Option Range

/-- The range of a pull request: from its base to its head. -/
def pullRequest : Strategy := fun env repo =>
  if env.eventName = some "pull_request" then
    match env.baseSha, env.headSha with
    | some base, some head => verified? repo base head
    | _, _ => none
  else none

/-- The range of a push: from the revision before it to its head. The push that makes a branch has
no revision before it. -/
def push : Strategy := fun env repo =>
  if env.eventName = some "push" then
    match env.beforeSha, env.headSha with
    | some before, some head =>
      if isNullRevision before then none else verified? repo before head
    | _, _ => none
  else none

/-- The last commit. -/
def parentOfHead : Strategy := fun _ repo => verified? repo "HEAD~1" "HEAD"

/-- The strategies in the order in which they are tried. -/
def strategies : List Strategy := [pullRequest, push, parentOfHead]

/-- The range that the first successful strategy finds. -/
def resolve? (env : Environment) (repo : Repository) : Option Range :=
  strategies.findSome? fun s => s env repo

end ReleaseGate.Change
