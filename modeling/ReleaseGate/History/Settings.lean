import ReleaseGate.History.Moves
import ReleaseGate.History.QuotedPath

/-!
# Settings and styles

Settings of a repository that reach a patch, and the two styles in which patches are written: the
program's, which overrides the variables on the marks before paths, and the library's, which of the
variables below knows no others. A repository has further variables that reach patches, on other
ways to compare lines and on the order and the number of files; with those, nothing is said here.
-/

namespace ReleaseGate.History

/-- Settings of a repository: what is set by variables that are known here, and what patches note. -/
structure Settings where
  detection : Detection
  /-- Whether changes are placed by the indentation around them. -/
  byIndent : Bool
  /-- Whether paths stand in patches without marks before them. -/
  noMarks : Bool
  /-- Whether the marks tell what is compared. -/
  tellingMarks : Bool
  /-- What the program's patches note. -/
  programNotes : Annotations
  /-- What the library's patches note. -/
  libraryNotes : Annotations

/-- A text in lower case, as far as it is ASCII. -/
def lowerText (s : String) : String := String.ofList (s.toList.map Char.toLower)

/-- Whether a variable is switched on. -/
def isOn (value : String) : Bool :=
  let v := lowerText value
  !(v == "" || v == "false" || v == "no" || v == "off" || v == "0")

namespace Settings

/-- The usual settings, with patches that note nothing. -/
def default : Settings := ⟨.renames, true, false, false, .none, .none⟩

/-- The settings with one variable set. Names do not depend on case. -/
def set (s : Settings) (name value : String) : Settings :=
  let n := lowerText name
  if n = "diff.renames" then
    let v := lowerText value
    { s with detection :=
        if v = "copies" ∨ v = "copy" then .copies else if isOn value then .renames else .off }
  else if n = "diff.indentheuristic" then { s with byIndent := isOn value }
  else if n = "diff.noprefix" then { s with noMarks := isOn value }
  else if n = "diff.mnemonicprefix" then { s with tellingMarks := isOn value }
  else s

/-- The settings with some variables set. -/
def setAll (s : Settings) (vars : List (String × String)) : Settings :=
  vars.foldl (fun s v => s.set v.1 v.2) s

end Settings

/-- How the program writes patches under some settings. -/
def Style.program (settings : Settings) : Style where
  byIndent := settings.byIndent
  dropsCommonEnd := true
  oldMark := "a/"
  newMark := "b/"
  quote := quotePath isSpecial
  tabAfterBlank := true
  namesEmpty := false
  annotations := settings.programNotes

/-- The names of the library: quoted for bytes that are not printable ASCII, and for an exclamation
mark at the front. -/
def libraryQuote (path : String) : String :=
  if path.toList.head? = some '!' && quotePath isSpecialOrForeign path = path then
    "\"" ++ path ++ "\""
  else quotePath isSpecialOrForeign path

/-- How the library writes patches under some settings. -/
def Style.library (settings : Settings) : Style where
  byIndent := false
  dropsCommonEnd := false
  oldMark := if settings.noMarks then "" else if settings.tellingMarks then "c/" else "a/"
  newMark := if settings.noMarks then "" else if settings.tellingMarks then "c/" else "b/"
  quote := libraryQuote
  tabAfterBlank := false
  namesEmpty := true
  annotations := settings.libraryNotes

end ReleaseGate.History
