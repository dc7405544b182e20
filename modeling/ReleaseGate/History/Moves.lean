import ReleaseGate.History.Similarity

/-!
# Moved files

A file that is added is often one that was deleted elsewhere. Added files are matched with sources
in three rounds: with sources of the same content; then by file names that stand once among what is
left on either side; and last by similarity, the best pairs first. Where copies are looked for too,
files that were changed are sources as well, and a source can be used more than once.
-/

namespace ReleaseGate.History

open Text (Bytes)

/-- Whether moved files are looked for. -/
inductive Detection
  | off
  | renames
  | copies
  deriving DecidableEq, Repr

/-- A file that a moved one may come from. -/
structure Source where
  path : String
  content : Bytes
  /-- Whether the path is still there. -/
  stays : Bool

/-- A file that was added, by its place among them. -/
structure Destination where
  index : Nat
  path : String
  content : Bytes

/-- A matched pair: the places of the source and the destination in their lists, and their score. -/
structure Match where
  source : Nat
  destination : Nat
  score : Nat
  deriving DecidableEq, Repr

/-- The last component of a path. -/
def fileName (path : String) : List Char :=
  (path.toList.reverse.takeWhile (· != '/')).reverse

/-- Whether a source was used by one of some matches. -/
def isUsed (ms : List Match) (source : Nat) : Bool := ms.any fun m => m.source == source

/-- Whether a destination was matched. -/
def isMatched (ms : List Match) (destination : Nat) : Bool :=
  ms.any fun m => m.destination == destination

/-- The sources with their places. -/
def numbered (sources : List Source) : List (Nat × Source) :=
  sources.zipIdx.map fun (s, i) => (i, s)

/-- Whether a source may be used: it is free, or copies are looked for. -/
def mayUse (detection : Detection) (ms : List Match) (source : Nat) : Bool :=
  detection == .copies || !isUsed ms source

/-! ### Equal contents -/

/-- How many sources of one content are looked at for a destination. -/
def maxAlternatives : Nat := 100

/-- The merit of a source with the same content: to be free, and to have the same file name. -/
def merit (ms : List Match) (d : Destination) (i : Nat) (s : Source) : Nat :=
  (if s.stays || isUsed ms i then 0 else 1) + (if fileName s.path = fileName d.path then 1 else 0)

/-- The first of the best by a measure. -/
def firstBest {α : Type} (measure : α → Nat) : List α → Option α
  | [] => none
  | a :: as =>
    match firstBest measure as with
    | some b => if measure a < measure b then some b else some a
    | none => some a

/-- The matches with sources of the same content added to others. -/
def matchEqual (detection : Detection) (sources : List Source) :
    List Match → List Destination → List Match
  | ms, [] => ms
  | ms, d :: ds =>
    let alternatives := ((numbered sources).filter fun (i, s) =>
      s.content == d.content && mayUse detection ms i).take maxAlternatives
    match firstBest (fun (i, s) => merit ms d i s) alternatives with
    | some (i, _) => matchEqual detection sources (⟨i, d.index, fullScore⟩ :: ms) ds
    | none => matchEqual detection sources ms ds

/-! ### Equal names -/

/-- The least score of a pair. -/
def leastScore : Nat := 30000

/-- The least score of a pair that is matched by its file name. -/
def leastNameScore : Nat := 45000

/-- The only element with a property. -/
def onlyOne? {α : Type} (p : α → Bool) (as : List α) : Option α :=
  match as.filter p with
  | [a] => some a
  | _ => none

/-- The matches by file names that stand once on either side added to others. -/
def matchNames (sources : List Source) (ds : List Destination) (ms : List Match) : List Match :=
  let free := (numbered sources).filter fun (i, _) => !isUsed ms i
  let left := ds.filter fun d => !isMatched ms d.index
  free.foldl (fun found (i, s) =>
    let name := fileName s.path
    match onlyOne? (fun (_, s') => fileName s'.path == name) free,
        onlyOne? (fun d => fileName d.path == name) left with
    | some _, some d =>
      let score := similarity leastNameScore s.content d.content
      if leastNameScore ≤ score then ⟨i, d.index, score⟩ :: found else found
    | _, _ => found) ms

/-! ### Similar contents -/

/-- A candidate for a destination. -/
structure Candidate where
  pair : Match
  /-- Whether the file names are equal. -/
  sameName : Bool

/-- Whether the first candidate is better than the second: by score, then by name. -/
def Candidate.better (a b : Candidate) : Bool :=
  b.pair.score < a.pair.score || (a.pair.score == b.pair.score && a.sameName && !b.sameName)

/-- How many candidates are kept for a destination. -/
def maxCandidates : Nat := 4

/-- The place of the first of the worst candidates. -/
def worstIndex (cs : List Candidate) : Nat :=
  (cs.zipIdx.foldl (fun (worst : Option (Candidate × Nat)) c =>
    match worst with
    | some w => if w.1.better c.1 then some c else some w
    | none => some c) none).elim 0 (·.2)

/-- Keep a candidate, instead of the worst one where there are enough. -/
def keepCandidate (cs : List Candidate) (c : Candidate) : List Candidate :=
  if cs.length < maxCandidates then cs ++ [c]
  else
    let i := worstIndex cs
    match cs[i]? with
    | some w => if c.better w then cs.set i c else cs
    | none => cs

/-- The candidates for a destination. -/
def candidatesFor (sources : List (Nat × Source)) (d : Destination) : List Candidate :=
  (sources.map fun (i, s) =>
    ⟨⟨i, d.index, similarity leastScore s.content d.content⟩,
      fileName s.path == fileName d.path⟩).foldl keepCandidate []

/-- Take the candidates in order, passing over what is matched already. -/
def takeCandidates (allowed : List Match → Nat → Bool) (cs : List Candidate) (ms : List Match) :
    List Match :=
  cs.foldl (fun ms c =>
    if isMatched ms c.pair.destination || !allowed ms c.pair.source then ms else c.pair :: ms) ms

/-- The matches by similarity added to others. -/
def matchSimilar (detection : Detection) (sources : List Source) (ds : List Destination)
    (ms : List Match) : List Match :=
  let usable := (numbered sources).filter fun (i, _) => mayUse detection ms i
  let left := ds.filter fun d => !isMatched ms d.index
  let candidates := ((left.flatMap (candidatesFor usable)).mergeSort fun a b => !b.better a).filter
    fun c => leastScore ≤ c.pair.score
  let stays (i : Nat) : Bool := (sources[i]?).any Source.stays
  let ms := takeCandidates (fun ms i => !isUsed ms i && !stays i) candidates ms
  if detection == .copies then takeCandidates (fun _ _ => true) candidates ms else ms

/-! ### Changes with moves -/

/-- The sources among changes. -/
def sourcesOf (detection : Detection) (cs : List FileChange) : List Source :=
  cs.filterMap fun
    | .deleted path content => some ⟨path, content, false⟩
    | .modified path old _ => if detection == .copies then some ⟨path, old, true⟩ else none
    | _ => none

/-- The destinations among changes. -/
def destinationsOf (cs : List FileChange) : List Destination :=
  (cs.filterMap fun
    | .added path content => some (path, content)
    | _ => none).zipIdx.map fun ((path, content), i) => ⟨i, path, content⟩

/-- The matches among changes. -/
def matchesAmong (detection : Detection) (cs : List FileChange) : List Match :=
  let sources := sourcesOf detection cs
  let ds := destinationsOf cs
  let ms := matchEqual detection sources [] ds
  let ms := if detection == .renames then matchNames sources ds ms else ms
  matchSimilar detection sources ds ms

/-- Changes in which matched files are moved ones, at the place of their destination. A source that
is gone is renamed by its last use; the uses before that, and all uses of one that stays, are
copies. `seen` counts the destinations before. -/
def withMatches (sources : List Source) (ms : List Match) : (seen : Nat) → List FileChange →
    List FileChange
  | _, [] => []
  | seen, .added path content :: cs =>
    let change :=
      match ms.find? fun m => m.destination == seen with
      | none => .added path content
      | some m =>
        match sources[m.source]? with
        | none => .added path content
        | some s =>
          let usedLater := ms.any fun m' => m'.source == m.source && seen < m'.destination
          .moved (if s.stays || usedLater then .copy else .rename) s.path path s.content content
            m.score
    change :: withMatches sources ms (seen + 1) cs
  | seen, .deleted path content :: cs =>
    let used := ms.any fun m => (sources[m.source]?).any fun s => s.path == path
    if used then withMatches sources ms seen cs
    else .deleted path content :: withMatches sources ms seen cs
  | seen, c :: cs => c :: withMatches sources ms seen cs

/-- Changes with the moved files found. -/
def detectMoves (detection : Detection) (cs : List FileChange) : List FileChange :=
  if detection == .off then cs else withMatches (sourcesOf detection cs) (matchesAmong detection cs) 0 cs

end ReleaseGate.History
