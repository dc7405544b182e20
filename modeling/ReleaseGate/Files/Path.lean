/-!
# Paths

Paths are texts with `/` between their components. `join` sets a path below another; nothing is
normalised.
-/

namespace ReleaseGate.Files

/-- Whether a path starts at the root of the file system. -/
def isAbsolute (path : String) : Bool := path.toList.head? == some '/'

/-- `path` seen from `base`: an absolute path stays itself, and any other is set behind `base`
with one `/` between, unless `base` is empty or ends in one. -/
def join (base path : String) : String :=
  if isAbsolute path then path
  else if base.toList.getLast? == some '/' || base.toList == [] then base ++ path
  else base ++ "/" ++ path

/-- The text without the characters `/` at its end. -/
def dropTrailingSlashes (path : List Char) : List Char :=
  (path.reverse.dropWhile (· == '/')).reverse

/-- The pieces of a path between the characters `/`. -/
def pieces : List Char → List (List Char)
  | [] => [[]]
  | c :: s =>
    if c = '/' then [] :: pieces s
    else
      match pieces s with
      | [] => [[c]]
      | l :: ls => (c :: l) :: ls

/-- Whether a text holds the character NUL. No call of the system takes such a text. -/
def hasNul (s : String) : Bool := s.toList.contains '\x00'

theorem pieces_ne_nil (s : List Char) : pieces s ≠ [] := by
  cases s with
  | nil => exact List.cons_ne_nil _ _
  | cons c s =>
    unfold pieces
    split
    · exact List.cons_ne_nil _ _
    · split <;> exact List.cons_ne_nil _ _

/-- A `/` parts a path. -/
theorem pieces_append (s r : List Char) : pieces (s ++ '/' :: r) = pieces s ++ pieces r := by
  induction s with
  | nil => rfl
  | cons c s ih =>
    rw [List.cons_append, pieces, pieces, ih]
    split
    · rfl
    · cases hs : pieces s with
      | nil => exact absurd hs (pieces_ne_nil s)
      | cons l ls => rfl

/-- The components of a path: its pieces that are not empty. -/
def components (path : List Char) : List (List Char) := (pieces path).filter (· ≠ [])

/-- Whether a path can only name a directory because a `/` stands at its end. -/
def endsInSlash (path : List Char) : Bool := path.getLast? == some '/'

end ReleaseGate.Files
