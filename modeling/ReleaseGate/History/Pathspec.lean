import ReleaseGate.Files.Tree
import ReleaseGate.History.Glob
import ReleaseGate.Text.Search

/-!
# Pathspecs

How the version-control program reads the paths that limit a diff. A path is relative to the
directory that the program runs in, is normalised, and selects a file or all files of a directory;
one with special bytes is a glob as well. Words behind a colon change that: they tie the path to
the top of the repository, take all bytes literally, let stars stay within a component, let case not
count, or exclude what is selected. An invalid path is refused with a text.
-/

namespace ReleaseGate.History

open Text (Bytes)

/-- What words behind a colon ask for. -/
structure Magic where
  fromTop : Bool
  literal : Bool
  glob : Bool
  icase : Bool
  exclude : Bool
  deriving DecidableEq, Repr

namespace Magic

/-- Nothing asked for. -/
def none : Magic := ⟨false, false, false, false, false⟩

/-- The magic with that of a word. -/
def addWord? (m : Magic) (word : List Char) : Option Magic :=
  if word = "top".toList then some { m with fromTop := true }
  else if word = "literal".toList then some { m with literal := true }
  else if word = "glob".toList then some { m with glob := true }
  else if word = "icase".toList then some { m with icase := true }
  else if word = "exclude".toList then some { m with exclude := true }
  else Option.none

/-- The magic with that of a sign. -/
def addSign? (m : Magic) (sign : Char) : Option Magic :=
  if sign = '/' then some { m with fromTop := true }
  else if sign = '!' ∨ sign = '^' then some { m with exclude := true }
  else Option.none

end Magic

/-- The signs that stand for magic behind a colon, known ones or not. -/
def isMagicSign (c : Char) : Bool := "!\"#%&',-/:;<=>@_\x60~^".toList.contains c

/-- The magic of words in brackets and what follows the closing one; `s` starts behind the opening
one and `spec` is the whole pathspec. `fuel` bounds the number of words. -/
def wordMagic (spec : String) : (fuel : Nat) → Magic → List Char → Except String (Magic × List Char)
  | 0, m, s => .ok (m, s)
  | fuel + 1, m, s =>
    match s with
    | [] => .error ("fatal: Missing ')' at the end of pathspec magic in '" ++ spec ++ "'")
    | ')' :: rest => .ok (m, rest)
    | _ =>
      let word := s.takeWhile fun c => c != ',' && c != ')'
      let rest := s.dropWhile fun c => c != ',' && c != ')'
      let rest := match rest with
        | ',' :: t => t
        | t => t
      if word = [] then wordMagic spec fuel m rest
      else
        match m.addWord? word with
        | some m => wordMagic spec fuel m rest
        | none =>
          .error ("fatal: Invalid pathspec magic '" ++ String.ofList word ++ "' in '" ++ spec ++ "'")

/-- The magic of signs and what follows them; a colon ends the signs. -/
def signMagic (spec : String) : Magic → List Char → Except String (Magic × List Char)
  | m, [] => .ok (m, [])
  | m, c :: s =>
    if c = ':' then .ok (m, s)
    else if isMagicSign c then
      match m.addSign? c with
      | some m => signMagic spec m s
      | none =>
        .error ("fatal: Unimplemented pathspec magic '" ++ String.singleton c ++ "' in '" ++ spec ++ "'")
    else .ok (m, c :: s)

/-- The magic of a pathspec and the path after it. -/
def magicOf (spec : String) : Except String (Magic × List Char) :=
  match spec.toList with
  | ':' :: '(' :: s => wordMagic spec (s.length + 1) .none s
  | ':' :: s => signMagic spec .none s
  | s => .ok (.none, s)

/-- Walk through the pieces of a path, with the components so far, the last one first. Going up from
the top leads nowhere. -/
def walkUp : (above : List (List Char)) → List (List Char) → Option (List (List Char))
  | above, [] => some above
  | above, p :: ps =>
    if p = [] ∨ p = ['.'] then walkUp above ps
    else if p = ['.', '.'] then
      match above with
      | [] => none
      | _ :: above => walkUp above ps
    else walkUp (p :: above) ps

/-- Components as a path. -/
def joinComponents : List (List Char) → List Char
  | [] => []
  | [c] => c
  | c :: cs => c ++ '/' :: joinComponents cs

/-- A path relative to the top without empty pieces and without steps up; a slash at its end stays.
Nothing if it leads out of the repository. -/
def normalise? (path : List Char) : Option (List Char) :=
  let ps := Files.pieces path
  match walkUp [] ps with
  | none => none
  | some [] => some []
  | some above =>
    let joined := joinComponents above.reverse
    match ps.getLast? with
    | some last =>
      if last = [] ∨ last = ['.'] ∨ last = ['.', '.'] then some (joined ++ ['/']) else some joined
    | none => some joined

/-- A pathspec that was read: its magic, its path from the top of the repository, and the length of
the part of it that no glob covers. -/
structure Pathspec where
  magic : Magic
  path : Bytes
  /-- How many bytes at the front come from the directory that the program runs in. -/
  base : Nat
  plain : Nat

/-- Where a program runs: the top of the repository, and the names from there to its directory. -/
structure Standpoint where
  top : Files.Place
  below : List Files.Name

/-- A place as a path. -/
def placePath (place : Files.Place) : String := "/" ++ String.ofList (joinComponents place)

/-- The path of a pathspec from the top of the repository. -/
def pathFromTop? (stand : Standpoint) (m : Magic) (path : List Char) : Option (List Char) :=
  if m.fromTop then some path
  else if path.head? = some '/' then
    match normalise? path with
    | none => none
    | some inner =>
      let top := joinComponents stand.top
      if inner = top then some []
      else if stand.top = [] then some inner
      else Text.stripStart? (top ++ ['/']) inner
  else normalise? (stand.below.flatMap (· ++ ['/']) ++ path)

/-- Read a pathspec. -/
def Pathspec.read (stand : Standpoint) (spec : String) : Except String Pathspec := do
  let (m, path) ← magicOf spec
  if m.literal && m.glob then
    throw ("fatal: " ++ spec ++ ": 'literal' and 'glob' are incompatible")
  match pathFromTop? stand m path with
  | none =>
    throw ("fatal: " ++ spec ++ ": '" ++ String.ofList path ++ "' is outside repository at '" ++
      placePath stand.top ++ "'")
  | some fromTop =>
    let bytes := Text.Utf8.encode (String.ofList fromTop)
    let below := Text.Utf8.encode (String.ofList (stand.below.flatMap (· ++ ['/'])))
    let base := if m.fromTop || path.head? == some '/' then 0
      else ((bytes.zip below).takeWhile fun (x, y) => x == y).length
    let plain := if m.literal then bytes.length
      else max base ((bytes.takeWhile fun b => !isGlobSpecial b).length)
    return ⟨m, bytes, base, plain⟩

/-- Whether two byte sequences are equal, apart from case where it does not count; it always counts
in the first `base` bytes. -/
def equalBytes (icase : Bool) (base : Nat) (a b : Bytes) : Bool :=
  a.take base == b.take base &&
    (if icase then (a.drop base).map lowerByte == (b.drop base).map lowerByte
     else a.drop base == b.drop base)

/-- Whether a file is at a path or, as a directory, below it. A slash at the end of the path asks
for a directory, and the empty path is the top. -/
def isAtOrBelow (icase : Bool) (base : Nat) (path file : Bytes) : Bool :=
  equalBytes icase base path (file.take path.length) &&
    (path.isEmpty || path.getLast? == some slash ||
      (match file[path.length]? with
        | none => true
        | some b => b == slash))

/-- Whether a pathspec, exclusion apart, selects a file. -/
def Pathspec.selects (p : Pathspec) (file : Bytes) : Bool :=
  isAtOrBelow p.magic.icase p.base p.path file ||
    (p.plain < p.path.length &&
      equalBytes p.magic.icase p.base (p.path.take p.plain) (file.take p.plain) &&
      globMatches ⟨p.magic.glob, p.magic.icase⟩ (p.path.drop p.plain) (file.drop p.plain))

/-- Whether pathspecs select a file: one of them does, and none excludes it. Where all of them
exclude, all other files are selected. -/
def selectedBy (ps : List Pathspec) (file : Bytes) : Bool :=
  let (excluding, including) := ps.partition fun p => p.magic.exclude
  (including.isEmpty || including.any fun p => p.selects file) &&
    !excluding.any fun p => p.selects file

/-- The text for an empty path. -/
def emptyPathspec : String :=
  "fatal: empty string is not a valid pathspec. please use . instead if you meant to match all paths"

/-- What is said of a path with the character NUL in it: the program cannot be given one. -/
def nulText : String := "cannot run git diff: nul byte found in provided data"

/-- The selection of files that paths ask for; no path at all selects every file. -/
def selection (stand : Standpoint) (paths : List String) : Except String (String → Bool) :=
  if paths.any Files.hasNul then .error nulText
  else if paths.contains "" then .error emptyPathspec
  else do
    let ps ← paths.mapM (Pathspec.read stand)
    return fun file => selectedBy ps (Text.Utf8.encode file)

end ReleaseGate.History
