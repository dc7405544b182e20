/-!
# Arguments

What the arguments of the command line ask for: a run, with an optional root and an optional
configuration file, or the version, or help. Arguments are read from left to right; the first one
that asks for something else, or that is wrong, decides.

* `Argument.ofText` says what a single argument is;
* `Command.ofArguments` reads all of them.
-/

namespace ReleaseGate.CommandLine

/-- The options that take a value. -/
inductive Key
  | root
  | config
  deriving DecidableEq, Repr

/-- The options of a run. -/
structure Options where
  root : Option String
  config : Option String
  deriving DecidableEq, Repr

/-- No options. -/
def Options.none : Options := ⟨Option.none, Option.none⟩

/-- The options with one more; an option is given once, and its value is not empty. -/
def Options.set? (o : Options) (key : Key) (value : String) : Option Options :=
  if value = "" then Option.none
  else
    match key with
    | .root => if o.root.isSome then Option.none else some { o with root := some value }
    | .config => if o.config.isSome then Option.none else some { o with config := some value }

/-- What a single argument is. -/
inductive Argument
  /-- An option, with the value if one is attached to it. -/
  | option (key : Key) (attached : Option String)
  | version
  | help
  /-- Two hyphens: no options follow. -/
  | endOfOptions
  /-- An unknown option, or an argument that is no option. -/
  | unknown
  deriving DecidableEq, Repr

/-- A long option, without its hyphens, with the value after an equals sign. -/
def Argument.ofLong (s : List Char) : Argument :=
  let name := s.takeWhile (· != '=')
  let attached : Option String :=
    match s.dropWhile (· != '=') with
    | [] => none
    | _ :: value => some (String.ofList value)
  if name = "root".toList then .option .root attached
  else if name = "config".toList then .option .config attached
  else if name = "version".toList && attached.isNone then .version
  else if name = "help".toList && attached.isNone then .help
  else .unknown

/-- A short option, without its hyphen, with the value behind it; an equals sign may stand
between. -/
def Argument.ofShort : List Char → Argument
  | 'c' :: [] => .option .config none
  | 'c' :: '=' :: value => .option .config (some (String.ofList value))
  | 'c' :: value => .option .config (some (String.ofList value))
  | 'V' :: _ => .version
  | 'h' :: _ => .help
  | _ => .unknown

/-- What an argument is. -/
def Argument.ofText (s : String) : Argument :=
  match s.toList with
  | ['-', '-'] => .endOfOptions
  | '-' :: '-' :: long => .ofLong long
  | '-' :: short => .ofShort short
  | _ => .unknown

/-- Whether an argument can be the value of the option before it: it starts with no hyphen, or is
one. -/
def isValue (s : String) : Bool := s == "-" || s.toList.head? != some '-'

/-- What the arguments ask for. -/
inductive Command
  | run (options : Options)
  | version
  | help
  /-- The arguments are wrong. -/
  | misuse
  deriving DecidableEq, Repr

/-- Read arguments, after options that were given already. -/
def Command.read (o : Options) : List String → Command
  | [] => .run o
  | arg :: rest =>
    match Argument.ofText arg with
    | .unknown => .misuse
    | .version => .version
    | .help => .help
    | .endOfOptions => if rest = [] then .run o else .misuse
    | .option key (some value) =>
      match o.set? key value with
      | some o => read o rest
      | none => .misuse
    | .option key none =>
      match rest with
      | [] => .misuse
      | value :: rest =>
        if isValue value then
          match o.set? key value with
          | some o => read o rest
          | none => .misuse
        else .misuse

/-- What the arguments ask for. -/
def Command.ofArguments (args : List String) : Command := .read .none args

end ReleaseGate.CommandLine
