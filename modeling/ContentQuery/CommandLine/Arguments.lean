/-!
# Command line arguments

There are two commands, `query` and `shape`, with long options only. An option takes the next
argument or what follows an equals sign; it may be given once. Two hyphens end the options, and
nothing may follow them. Arguments are understood from left to right, so whichever of a mistake and a
request for help or for the version comes first decides.
-/

namespace ContentQuery.CommandLine

inductive Command where
  /-- Answers the request on standard input from the nodes of a file. -/
  | query (schema nodes : String) (config : Option String)
  /-- Shows the filter shape of a type. -/
  | shape (schema typeName : String)
  deriving DecidableEq, Repr

/-- What the arguments ask for. -/
inductive Invocation where
  | run (command : Command)
  | version
  | help
  /-- The arguments are not understood. -/
  | usage
  deriving DecidableEq, Repr

/-- An option that a command takes. -/
structure OptionRule where
  name : String
  /-- The value is the name of a file, which is never empty. -/
  isFile : Bool

/-- Options by name with their values. -/
abbrev Options := List (String × String)

/-- An argument that stands for itself; one hyphen alone does so too. -/
def isValue (arg : String) : Bool := arg == "-" || !arg.startsWith "-"

/-- The name and the attached value of a long option. -/
def splitOption? (arg : String) : Option (String × Option String) :=
  match arg.toList with
  | '-' :: '-' :: rest =>
    let name := String.ofList (rest.takeWhile (· != '='))
    match rest.dropWhile (· != '=') with
    | _ :: value => some (name, some (String.ofList value))
    | [] => some (name, none)
  | _ => none

/-- The argument asks for help: by its long name, or by the first letter after one hyphen. -/
def asksHelp (arg : String) : Bool := arg == "--help" || arg.startsWith "-h"

def asksVersion (arg : String) : Bool := arg == "--version" || arg.startsWith "-V"

/-- How reading the options of a command ends. -/
inductive Reading where
  | options (values : Options)
  | help
  | refused

/-- Reads options until the arguments end. -/
def readOptions (rules : List OptionRule) : Options → List String → Reading
  | seen, [] => .options seen
  | seen, arg :: rest =>
    if asksHelp arg then .help
    else if arg == "--" then if rest.isEmpty then .options seen else .refused
    else match splitOption? arg with
      | none => .refused
      | some (name, attached) =>
        match rules.find? (·.name == name) with
        | none => .refused
        | some rule =>
          let accepts (value : String) : Bool :=
            !(seen.any (·.1 == name)) && !(rule.isFile && value.isEmpty)
          match attached, rest with
          | some value, rest =>
            if accepts value then readOptions rules (seen ++ [(name, value)]) rest else .refused
          | none, value :: rest =>
            if isValue value && accepts value then readOptions rules (seen ++ [(name, value)]) rest
            else .refused
          | none, [] => .refused

def queryRules : List OptionRule := [⟨"schema", true⟩, ⟨"nodes", true⟩, ⟨"config", true⟩]

def shapeRules : List OptionRule := [⟨"schema", true⟩, ⟨"type", false⟩]

def readQuery (args : List String) : Invocation :=
  match readOptions queryRules [] args with
  | .help => .help
  | .refused => .usage
  | .options values =>
    match values.lookup "schema", values.lookup "nodes" with
    | some schema, some nodes => .run (.query schema nodes (values.lookup "config"))
    | _, _ => .usage

def readShape (args : List String) : Invocation :=
  match readOptions shapeRules [] args with
  | .help => .help
  | .refused => .usage
  | .options values =>
    match values.lookup "schema", values.lookup "type" with
    | some schema, some typeName => .run (.shape schema typeName)
    | _, _ => .usage

/-- Help may be asked for on one command, itself included. -/
def readHelp : List String → Invocation
  | [] => .help
  | [command] => if ["query", "shape", "help"].contains command then .help else .usage
  | _ => .usage

/-- Reads the arguments. -/
def Invocation.ofArgs : List String → Invocation
  | [] => .usage
  | "query" :: rest => readQuery rest
  | "shape" :: rest => readShape rest
  | "help" :: rest => readHelp rest
  | arg :: _ => if asksVersion arg then .version else if asksHelp arg then .help else .usage

end ContentQuery.CommandLine
