import ReleaseGate.Change.Marker
import ReleaseGate.Text.Lines

/-!
# Signals in a diff

A signal is the first added or removed line of a diff that carries a marker. Lines are read in
order with one bit of memory: whether the line stands in a hunk. A line starting with `diff `
leaves the hunk, one starting with `@@` enters one, and outside hunks the file headers `---` and
`+++` are passed over. Inside a hunk no line is a header, whatever its text starts with. Reading is
compositional (`firstSignalAmong_append`).
-/

namespace ReleaseGate.Change

/-- The first line of a diff that carries a marker, counted from one. -/
structure Signal where
  lineNumber : Nat
  line : List Char
  deriving DecidableEq, Repr

/-- A line that starts the diff of a file. -/
def opensFile (line : List Char) : Bool := Text.startsWith "diff ".toList line

/-- A line that starts a hunk. -/
def opensHunk (line : List Char) : Bool := Text.startsWith "@@".toList line

/-- A line that names the old or the new file, where no hunk is open. -/
def namesFile (line : List Char) : Bool :=
  Text.startsWith "+++".toList line || Text.startsWith "---".toList line

/-- The content of an added or removed line. -/
def changedContent? : List Char → Option (List Char)
  | c :: rest => if c = '+' || c = '-' then some rest else none
  | [] => none

/-- Whether a line is read inside a hunk, given whether the one before was. -/
def hunkAfter (inHunk : Bool) (line : List Char) : Bool :=
  if opensFile line then false else if opensHunk line then true else inHunk

/-- Whether a line carries a signal. -/
def Detector.signals (d : Detector) (inHunk : Bool) (line : List Char) : Bool :=
  if opensFile line || opensHunk line then false
  else if !inHunk && namesFile line then false
  else
    match changedContent? line with
    | some content => d.isMarker content
    | none => false

/-- The first signal among lines of which `seen` were passed. -/
def Detector.firstSignalAmong (d : Detector) : (inHunk : Bool) → (seen : Nat) →
    List (List Char) → Option Signal
  | _, _, [] => none
  | inHunk, seen, l :: ls =>
    if d.signals inHunk l then some ⟨seen + 1, l⟩
    else d.firstSignalAmong (hunkAfter inHunk l) (seen + 1) ls

/-- Two stretches of lines are read one after the other: the second one from where the first one
left the reader. -/
theorem Detector.firstSignalAmong_append (d : Detector) (inHunk : Bool) (seen : Nat)
    (ls ms : List (List Char)) :
    d.firstSignalAmong inHunk seen (ls ++ ms) =
      (d.firstSignalAmong inHunk seen ls).or
        (d.firstSignalAmong (ls.foldl hunkAfter inHunk) (seen + ls.length) ms) := by
  induction ls generalizing inHunk seen with
  | nil => simp [firstSignalAmong]
  | cons l ls ih =>
    by_cases h : d.signals inHunk l = true
    · simp [firstSignalAmong, h]
    · simp [firstSignalAmong, h, ih, Nat.add_assoc, Nat.add_comm 1]

/-- The first signal of a diff. -/
def Detector.firstSignal? (d : Detector) (diff : List Char) : Option Signal :=
  d.firstSignalAmong false 0 (Text.lines diff)

/-- Whether a diff touches a schema. -/
def Detector.isAffected (d : Detector) (diff : List Char) : Bool := (d.firstSignal? diff).isSome

end ReleaseGate.Change
