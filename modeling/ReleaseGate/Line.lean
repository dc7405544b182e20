import ReleaseGate.Notice

/-!
# Lines of output

The three kinds of lines that are printed, each behind the same mark, and their colours.
-/

namespace ReleaseGate

/-- The mark at the start of every line. -/
def lineMark : String := "[release-readiness]"

/-- A line of output. -/
inductive Line
  /-- The release is ready, under this tag. -/
  | success (tag : String)
  | info (text : String)
  | error (text : String)
  deriving DecidableEq, Repr

namespace Line

/-- A line as text. -/
def text : Line → String
  | success tag => lineMark ++ " OK (version " ++ tag ++ ")"
  | info message => lineMark ++ " INFO: " ++ message
  | error message => lineMark ++ " ERROR: " ++ message

/-- The colour of a line as a terminal is told it. -/
def colour : Line → String
  | success _ => "32"
  | info _ => "33"
  | error _ => "31"

/-- A line as it is printed, in colour where that is asked for. -/
def print (coloured : Bool) (l : Line) : String :=
  if coloured then "\x1b[" ++ l.colour ++ "m" ++ l.text ++ "\x1b[0m\n" else l.text ++ "\n"

/-- The line of a notice. -/
def ofNotice (n : Notice) : Line := info n.text

end Line

end ReleaseGate
