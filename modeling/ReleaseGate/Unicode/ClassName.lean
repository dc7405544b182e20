import ReleaseGate.Unicode.Age
import ReleaseGate.Unicode.Boundary
import ReleaseGate.Unicode.Script

/-!
# Classes by name

The classes of characters that a pattern may name: binary properties, general categories with
their groups, scripts, and the values of a few other properties. A name is read without regard to
case, blanks, hyphens, underscores and a leading `is`.
-/

namespace ReleaseGate.Unicode

/-- A group of general categories, under its names. -/
structure CategoryGroup where
  names : List String
  members : List Category

/-- The general categories and their groups. -/
def categoryGroups : List CategoryGroup :=
  [⟨["c", "other"], [.cc, .cf, .co]⟩,
   ⟨["cc", "control", "cntrl"], [.cc]⟩,
   ⟨["cf", "format"], [.cf]⟩,
   ⟨["co", "privateuse"], [.co]⟩,
   ⟨["l", "letter"], [.lu, .ll, .lt, .lm, .lo]⟩,
   ⟨["lc", "casedletter"], [.lu, .ll, .lt]⟩,
   ⟨["lu", "uppercaseletter"], [.lu]⟩,
   ⟨["ll", "lowercaseletter"], [.ll]⟩,
   ⟨["lt", "titlecaseletter"], [.lt]⟩,
   ⟨["lm", "modifierletter"], [.lm]⟩,
   ⟨["lo", "otherletter"], [.lo]⟩,
   ⟨["m", "mark", "combiningmark"], [.mn, .mc, .me]⟩,
   ⟨["mn", "nonspacingmark"], [.mn]⟩,
   ⟨["mc", "spacingmark"], [.mc]⟩,
   ⟨["me", "enclosingmark"], [.me]⟩,
   ⟨["n", "number"], [.nd, .nl, .no]⟩,
   ⟨["nd", "decimalnumber", "digit"], [.nd]⟩,
   ⟨["nl", "letternumber"], [.nl]⟩,
   ⟨["no", "othernumber"], [.no]⟩,
   ⟨["p", "punctuation", "punct"], [.pc, .pd, .ps, .pe, .pi, .pf, .po]⟩,
   ⟨["pc", "connectorpunctuation"], [.pc]⟩,
   ⟨["pd", "dashpunctuation"], [.pd]⟩,
   ⟨["ps", "openpunctuation"], [.ps]⟩,
   ⟨["pe", "closepunctuation"], [.pe]⟩,
   ⟨["pi", "initialpunctuation"], [.pi]⟩,
   ⟨["pf", "finalpunctuation"], [.pf]⟩,
   ⟨["po", "otherpunctuation"], [.po]⟩,
   ⟨["s", "symbol"], [.sm, .sc, .sk, .so]⟩,
   ⟨["sm", "mathsymbol"], [.sm]⟩,
   ⟨["sc", "currencysymbol"], [.sc]⟩,
   ⟨["sk", "modifiersymbol"], [.sk]⟩,
   ⟨["so", "othersymbol"], [.so]⟩,
   ⟨["z", "separator"], [.zs, .zl, .zp]⟩,
   ⟨["zs", "spaceseparator"], [.zs]⟩,
   ⟨["zl", "lineseparator"], [.zl]⟩,
   ⟨["zp", "paragraphseparator"], [.zp]⟩]

/-- The name without case, blanks, hyphens, underscores, characters outside ASCII and a leading
`is`. What is left of `isc` stays whole: it is a name of its own. -/
def normalName (name : List Char) : String :=
  let isName := (name.take 2).map Char.toLower == ['i', 's']
  let kept := (if isName then name.drop 2 else name).filter fun c =>
    isAscii c && c != ' ' && c != '_' && c != '-'
  let word := String.ofList (kept.map Char.toLower)
  if isName && word == "c" then "isc" else word

/-- The class of a general category or group of categories by its normal name. -/
def category? (name : String) : Option (Char → Bool) :=
  if name == "any" then some fun _ => true
  else if name == "ascii" then some isAscii
  else if name == "assigned" then some isAssigned
  else if name == "cn" || name == "unassigned" then some fun c => !isAssigned c
  else
    (categoryGroups.find? (·.names.contains name)).map fun g =>
      if g.names.contains "c" then fun c => inCategories g.members c || !isAssigned c
      else inCategories g.members

/-- The class of a binary property by its normal name. -/
def binaryProperty? (name : String) : Option (Char → Bool) :=
  match derivedProperties.find? (·.names.contains name) with
  | some p => some p.holds
  | none => (tabledProperties.find? (·.names.contains name)).map (·.ranges.mem)

/-- The class that a lone name stands for: a binary property, a general category or a script. -/
def namedClass? (name : List Char) : Option (Char → Bool) :=
  let word := normalName name
  if word == "cf" || word == "sc" || word == "lc" then category? word
  else
    match binaryProperty? word with
    | some p => some p
    | none =>
      match category? word with
      | some p => some p
      | none => (script? word).map (·.ranges.mem)

/-- The class that a name with a value stands for: of a general category, of a script or of the
characters that are written in it, of the boundaries in texts, or of an age. -/
def valuedClass? (name value : List Char) : Option (Char → Bool) :=
  let value := normalName value
  match normalName name with
  | "gc" | "generalcategory" | "category" => category? value
  | "sc" | "script" => (script? value).map (·.ranges.mem)
  | "scx" | "scriptextensions" => (script? value).map Script.extends
  | "age" => knownSince? value
  | "gcb" | "graphemeclusterbreak" => boundaryClass? graphemeClasses value
  | "wb" | "wordbreak" => boundaryClass? wordClasses value
  | "sb" | "sentencebreak" => boundaryClass? sentenceClasses value
  | _ => none

end ReleaseGate.Unicode
