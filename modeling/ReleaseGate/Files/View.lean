import ReleaseGate.Files.Path

/-!
# Views of a file system

What the checks ask of a file system: the text of the file at a path, and whether a path names a
regular file. A view answers for the paths as they are written.
-/

namespace ReleaseGate.Files

/-- Why a file could not be read. -/
inductive ReadFailure
  /-- Nothing is there. -/
  | missing
  | isDirectory
  /-- The path goes through something that is not a directory. -/
  | notDirectory
  | nameTooLong
  /-- The file's bytes are not UTF-8. -/
  | notText
  /-- The path holds the character NUL. -/
  | nulInPath
  deriving DecidableEq, Repr

/-- What went wrong. -/
def ReadFailure.reason : ReadFailure → String
  | .missing => "No such file or directory"
  | .isDirectory => "Is a directory"
  | .notDirectory => "Not a directory"
  | .nameTooLong => "File name too long"
  | .notText => "stream did not contain valid UTF-8"
  | .nulInPath => "file name contained an unexpected NUL byte"

/-- The number by which the system knows a failure that it reports. -/
def ReadFailure.systemCode? : ReadFailure → Option Nat
  | .missing => some 2
  | .isDirectory => some 21
  | .notDirectory => some 20
  | .nameTooLong => some 36
  | .notText | .nulInPath => none

/-- The wording of a failure. -/
def ReadFailure.message (f : ReadFailure) : String :=
  match f.systemCode? with
  | some code => f.reason ++ " (os error " ++ toString code ++ ")"
  | none => f.reason

/-- What can be asked of a file system. -/
structure View where
  /-- The text of the file at a path. -/
  read : String → Except ReadFailure String
  /-- Whether a path names a regular file. -/
  isFile : String → Bool
  /-- Whether a path names anything. -/
  occupied : String → Bool

end ReleaseGate.Files
