import ContentQuery.Json.Decode
import ContentQuery.Json.Parser
import ContentQuery.Severity

/-!
# Engine configuration

Every setting has a default. A configuration names only settings that exist, each once.
-/

namespace ContentQuery

structure Config where
  /-- Number of uses from which on a path is indexed. -/
  indexThreshold : Nat := 5
  /-- Number of entries that an index may hold. -/
  maxIndexEntries : Nat := 1000000
  /-- Whole batches of snapshots are cached from the start. -/
  production : Bool := false
  nodeCache : Bool := true
  batchCache : Bool := true
  deriving DecidableEq, Repr, Inhabited

inductive ConfigError where
  | invalidText (detail : String)
  | unreadable (file cause : String)
  | zeroThreshold
  | zeroEntries

namespace ConfigError

def code : ConfigError → String := fun _ => "NQ_CONFIG_ERROR"

def severity : ConfigError → Severity := fun _ => .reject

def message : ConfigError → String
  | .invalidText detail => "Invalid config JSON: " ++ detail
  | .unreadable file cause => "Failed to read config " ++ file ++ ": " ++ cause
  | .zeroThreshold => "index_threshold must be > 0"
  | .zeroEntries => "max_index_entries must be > 0"

def report (e : ConfigError) : String := ContentQuery.report e.severity e.code e.message

end ConfigError

namespace Config

def reader : Json.RecordReader Config where
  name := "EngineConfig"
  required := 0
  members := [
    ("index_threshold", fun c v => return { c with indexThreshold := ← Json.asCount "u64" v }),
    ("max_index_entries", fun c v => return { c with maxIndexEntries := ← Json.asCount "usize" v }),
    ("production", fun c v => return { c with production := ← Json.asBool v }),
    ("node_cache_enabled", fun c v => return { c with nodeCache := ← Json.asBool v }),
    ("query_cache_enabled", fun c v => return { c with batchCache := ← Json.asBool v })]

/-- A member that is no setting. -/
def unknownMember? (v : Json) : Option String :=
  (v.members.find? fun m => (reader.members.lookup m.1).isNone).map Prod.fst

def check (c : Config) : Except ConfigError Config :=
  if c.indexThreshold = 0 then .error .zeroThreshold
  else if c.maxIndexEntries = 0 then .error .zeroEntries
  else .ok c

/-- Reads a configuration from its text. -/
def parse (text : String) : Except ConfigError Config :=
  match Json.written? text with
  | none => .error (.invalidText "the text is not JSON")
  | some v =>
    match unknownMember? v with
    | some name => .error (.invalidText ("unknown field `" ++ name ++ "`"))
    | none =>
      match reader.readWritten {} v with
      | .ok c => c.check
      | .error e => .error (.invalidText e.message)

def toJson (c : Config) : Json := .object [
  ("index_threshold", .ofNat c.indexThreshold),
  ("max_index_entries", .ofNat c.maxIndexEntries),
  ("production", .bool c.production),
  ("node_cache_enabled", .bool c.nodeCache),
  ("query_cache_enabled", .bool c.batchCache)]

end Config

end ContentQuery
