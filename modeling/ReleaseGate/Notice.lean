/-!
# Notices

What kept the schema check from looking at history. A notice is information: it never fails a
release.
-/

namespace ReleaseGate

/-- Why the schema check was skipped. -/
inductive Notice
  /-- There is no range of changes to look at. -/
  | noChangeRange
  /-- The diff of a range could not be had. -/
  | diffUnavailable (range reason : String)
  deriving DecidableEq, Repr

/-- The wording of a notice. -/
def Notice.text : Notice → String
  | noChangeRange => "no diff range available; skipping schema-change gate"
  | diffUnavailable range reason =>
    "failed to inspect git diff for " ++ range ++ " (" ++ reason ++ "); skipping schema-change gate"

end ReleaseGate
