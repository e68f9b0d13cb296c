import ContentQuery.CommandLine.Arguments
import ContentQuery.CommandLine.Directory
import ContentQuery.Engine.Basic
import ContentQuery.Schema.Document

/-!
# Running a command

A command reads its files, runs once and writes one line. What goes wrong before a query runs shows
on standard error alone; what goes wrong with the request or in the engine shows on both outputs.
-/

namespace ContentQuery.CommandLine

inductive CommandError where
  | schema (e : SchemaError)
  | nodesUnreadable (file cause : String)
  | nodesText
  | node (e : NodeError)
  | config (e : ConfigError)
  | emptyInput
  | inputText
  | request (mismatch : Json.Mismatch)
  | engine (e : EngineError)
  /-- A resolver paused, and nobody is there to go on with the query. -/
  | paused

namespace CommandError

def code : CommandError → String
  | .schema _ | .nodesUnreadable .. | .nodesText | .node _ | .config _ => "NQ_CLI_INPUT_ERROR"
  | .emptyInput | .inputText | .paused => "NQ_CLI_IO_ERROR"
  | .request _ => "NQ_CLI_INVALID_REQUEST"
  | .engine e => e.code

def message : CommandError → String
  | .schema e => e.report
  | .nodesUnreadable file cause => "Failed to read nodes " ++ file ++ ": " ++ cause
  | .nodesText => "Invalid nodes JSON: the text is not a JSON array"
  | .node e => e.report
  | .config e => e.report
  | .emptyInput => "Empty input"
  | .inputText => "JSON error: the text is not JSON"
  | .request mismatch => "Invalid query request: " ++ mismatch.message
  | .engine e => e.report
  | .paused => "the query did not finish"

/-- The line on standard error. -/
def line (e : CommandError) : String := e.code ++ ": " ++ e.message ++ "\n"

end CommandError

/-- What a run leaves behind. -/
structure Outcome where
  exit : Nat
  stdout : String
  stderr : String
  deriving DecidableEq, Repr

namespace Outcome

def answer (data : Json) : Outcome :=
  ⟨0, (Json.object [("status", .string "ok"), ("data", data)]).compact ++ "\n", ""⟩

/-- A failure that only standard error shows. -/
def failed (e : CommandError) : Outcome := ⟨1, "", e.line⟩

/-- A failure that both outputs show. -/
def refused (e : CommandError) : Outcome :=
  let envelope := Json.object [
    ("status", .string "error"), ("code", .string e.code), ("message", .string e.message)]
  ⟨1, envelope.compact ++ "\n", e.line⟩

end Outcome

/-! ## Files -/

def loadRegistry (files : Files) (file : String) : Except CommandError Registry :=
  match files file with
  | .error cause => .error (.schema (.malformed file (.unreadable cause)))
  | .ok text => ((Schema.parse file text).bind Schema.build).mapError .schema

/-- The nodes of a file, a JSON array. The stamps of stored nodes are given by the store. -/
def loadNodes (files : Files) (file : String) : Except CommandError NodeStore := do
  let text ← (files file).mapError (.nodesUnreadable file)
  match Json.parse? text with
  | some (.array items) =>
    let nodes ← items.mapM fun v => (Node.ofJson 0 v).mapError CommandError.node
    return .ofList nodes
  | _ => throw .nodesText

def loadConfig (files : Files) : Option String → Except CommandError Config
  | none => .ok {}
  | some file =>
    match files file with
    | .error cause => .error (.config (.unreadable file cause))
    | .ok text => (Config.parse text).mapError .config

def loadEngine (files : Files) (schema nodes : String) (config : Option String) :
    Except CommandError Engine := do
  let registry ← loadRegistry files schema
  let store ← loadNodes files nodes
  let config ← loadConfig files config
  return .start registry store config none

/-! ## Requests -/

/-- Reads the request, which may span lines. -/
def readRequest (input : String) : Except CommandError Json :=
  if (Text.trim input.toList).isEmpty then .error .emptyInput
  else match Json.parse? input with
    | some v => .ok v
    | none => .error .inputText

/-- The queried type, and whether only the first node is asked for. -/
structure Header where
  typeName : String := ""
  firstOnly : Bool := false

def Header.reader : Json.RecordReader Header where
  name := "QueryRequest"
  required := 1
  members := [
    ("type", fun h v => return { h with typeName := ← Json.asString v }),
    ("firstOnly", fun h v => return { h with firstOnly := ← Json.asBool v })]

/-- Reads a query from a request. -/
def queryOf (request : Json) : Except CommandError Query :=
  match Header.reader.read {} request with
  | .error mismatch => .error (.request mismatch)
  | .ok h =>
    match QueryArgs.ofJson request with
    | .error e => .error (.engine (.rejected e))
    | .ok args => .ok { typeName := h.typeName, args, firstOnly := h.firstOnly }

/-- Answers a request. -/
def answerRequest (engine : Engine) (request : Json) : Except CommandError Answer := do
  let q ← queryOf request
  match (engine.poll .caller q .fresh).2 with
  | .finished (.ok answer) => return answer
  | .finished (.error e) => throw (.engine e)
  | _ => throw .paused

/-! ## Commands -/

def runQuery (files : Files) (input schema nodes : String) (config : Option String) : Outcome :=
  match loadEngine files schema nodes config with
  | .error e => .failed e
  | .ok engine =>
    match readRequest input with
    | .error e => .failed e
    | .ok request =>
      match answerRequest engine request with
      | .error e => .refused e
      | .ok answer => .answer answer.toJson

def runShape (files : Files) (schema typeName : String) : Outcome :=
  match loadRegistry files schema with
  | .error e => .failed e
  | .ok registry =>
    match (Shape.derive registry [] typeName).2 with
    | .error e => .failed (.engine (.schema e))
    | .ok shape => .answer shape.toJson

def Command.run (files : Files) (input : String) : Command → Outcome
  | .query schema nodes config => runQuery files input schema nodes config
  | .shape schema typeName => runShape files schema typeName

/-- The files that a command reads. -/
def Command.files : Command → List String
  | .query schema nodes config => [schema, nodes] ++ config.toList
  | .shape schema _ => [schema]

def versionText : String := "nodequery 0.1.0\n"

def usageText : String :=
  "Usage: nodequery query --schema <FILE> --nodes <FILE> [--config <FILE>]\n" ++
  "       nodequery shape --schema <FILE> --type <NAME>\n"

/-- What the program does, given its arguments, its files and its standard input. -/
def Invocation.outcome (files : Files) (input : String) : Invocation → Outcome
  | .run command => command.run files input
  | .version => ⟨0, versionText, ""⟩
  | .help => ⟨0, usageText, ""⟩
  | .usage => ⟨2, "", usageText⟩

end ContentQuery.CommandLine
