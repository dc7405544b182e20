import ReleaseGate.History.Snapshot

/-!
# Revisions

A branch, which is a line of commits, and the names of its commits: `HEAD`, a commit's identifier, and
either followed by steps to parents: `~n` for the n-th one, `^` for one step, `^0` for none. Other
revisions, such as names of branches and tags and short identifiers, are given with the branch.
-/

namespace ReleaseGate.History

/-- A commit: its identifier and its files. -/
structure Commit where
  id : String
  snapshot : Snapshot

/-- A line of commits, the oldest first. -/
structure Branch where
  commits : List Commit
  /-- Other revisions, each with the place of its commit. -/
  others : List (String × Nat)

/-- Read a number at the front; no digit is no number. -/
def takeCount (s : List Char) : Option Nat × List Char :=
  let ds := s.takeWhile fun c => '0' ≤ c && c ≤ '9'
  let rest := s.dropWhile fun c => '0' ≤ c && c ≤ '9'
  (if ds = [] then none else some (ds.foldl (fun n d => 10 * n + (d.toNat - '0'.toNat)) 0), rest)

/-- The steps to parents that suffixes ask for. No commit of a branch has a second parent.
`fuel` bounds the number of suffixes. -/
def stepsBack : (fuel : Nat) → List Char → Option Nat
  | _, [] => some 0
  | 0, _ :: _ => none
  | fuel + 1, '~' :: s =>
    match takeCount s with
    | (n, rest) => (stepsBack fuel rest).map (n.getD 1 + ·)
  | fuel + 1, '^' :: s =>
    match s with
    | '\x7b' :: '\x7d' :: rest => stepsBack fuel rest
    | '\x7b' :: 'c' :: 'o' :: 'm' :: 'm' :: 'i' :: 't' :: '\x7d' :: rest => stepsBack fuel rest
    | _ =>
      match takeCount s with
      | (none, rest) => (stepsBack fuel rest).map (1 + ·)
      | (some 0, rest) => stepsBack fuel rest
      | (some 1, rest) => (stepsBack fuel rest).map (1 + ·)
      | (some _, _) => none
  | _ + 1, _ :: _ => none

namespace Branch

/-- No commits. -/
def empty : Branch := ⟨[], []⟩

/-- The place, among the commits, of the one that a name without suffixes stands for. -/
def indexOf? (b : Branch) (name : List Char) : Option Nat :=
  if name = "HEAD".toList then
    if b.commits = [] then none else some (b.commits.length - 1)
  else b.commits.findIdx? fun c => c.id.toList = name

/-- The place of the commit that a name with steps to parents stands for. -/
def stepsFrom? (b : Branch) (rev : String) : Option Nat :=
  let cs := rev.toList
  let name := cs.takeWhile fun c => c != '~' && c != '^'
  let suffix := cs.dropWhile fun c => c != '~' && c != '^'
  match b.indexOf? name, stepsBack suffix.length suffix with
  | some i, some n => if n ≤ i then some (i - n) else none
  | _, _ => none

/-- The place of the commit that some other revision stands for. -/
def other? (b : Branch) (rev : String) : Option Nat :=
  (b.others.lookup rev).filter (· < b.commits.length)

/-- The place of the commit that a revision stands for. -/
def resolve? (b : Branch) (rev : String) : Option Nat := (b.stepsFrom? rev).or (b.other? rev)

/-- The files of the commit that a revision stands for. -/
def snapshot? (b : Branch) (rev : String) : Option Snapshot :=
  match b.resolve? rev with
  | some i => (b.commits[i]?).map Commit.snapshot
  | none => none

/-- The files of the last commit. -/
def lastSnapshot (b : Branch) : Snapshot :=
  match b.commits.getLast? with
  | some c => c.snapshot
  | none => .empty

/-- The branch with one more commit. -/
def commit (b : Branch) (c : Commit) : Branch := { b with commits := b.commits ++ [c] }

end Branch

end ReleaseGate.History
