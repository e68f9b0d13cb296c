import ContentQuery.Json.Printer
import ContentQuery.Text.Quoted

/-!
# Reading typed data out of JSON values

A record is written as an object, or as an array of its members in their declared order. `Mismatch`
names what can be wrong with it. Members of an object are looked at in written order, so the first
one that does not fit is the one reported; a missing member is reported only when all that are there
fit.
-/

namespace ContentQuery.Json

/-- Why a value does not have the form asked for. -/
inductive Mismatch where
  | wrongType (found : Json) (expected : String)
  | wrongValue (found : Json) (expected : String)
  | missingMember (name : String)
  | repeatedMember (name : String)
  | tooShort (length : Nat) (record : String) (members : Nat)
  | tooLong (length : Nat)
  | noVariant (choice : String)

/-- A value as a message names it: scalars with their text, containers by kind. -/
def describe : Json → String
  | .null => "null"
  | .bool b => if b then "boolean `true`" else "boolean `false`"
  | .number (.int i) => "integer `" ++ toString i ++ "`"
  | .number (.float x) => "floating point `" ++ x.text ++ "`"
  | .string s => "string " ++ Text.quoted s
  | .array _ => "sequence"
  | .object _ => "map"

def Mismatch.message : Mismatch → String
  | .wrongType found expected => "invalid type: " ++ found.describe ++ ", expected " ++ expected
  | .wrongValue found expected => "invalid value: " ++ found.describe ++ ", expected " ++ expected
  | .missingMember name => "missing field `" ++ name ++ "`"
  | .repeatedMember name => "duplicate field `" ++ name ++ "`"
  | .tooShort n record members =>
    "invalid length " ++ toString n ++ ", expected struct " ++ record ++ " with " ++
      toString members ++ " elements"
  | .tooLong n => "invalid length " ++ toString n ++ ", expected fewer elements in array"
  | .noVariant choice => "data did not match any variant of untagged enum " ++ choice

abbrev Decoded := Except Mismatch

def asString : Json → Decoded String
  | .string s => .ok s
  | v => .error (.wrongType v "a string")

def asBool : Json → Decoded Bool
  | .bool b => .ok b
  | v => .error (.wrongType v "a boolean")

/-- A count that fits an unsigned 64-bit word, called by the name of that word's type. -/
def asCount (name : String) : Json → Decoded Nat
  | .number (.int i) =>
    if 0 ≤ i then .ok i.toNat else .error (.wrongValue (.number (.int i)) name)
  | v => .error (.wrongType v name)

/-- Null stands for nothing. -/
def optional (read : Json → Decoded α) : Json → Decoded (Option α)
  | .null => .ok none
  | v => (read v).map some

/-- A string or an array of strings. -/
def oneOrMany (choice : String) : Json → Decoded (List String)
  | .string s => .ok [s]
  | .array items =>
    match items.mapM string? with
    | some texts => .ok texts
    | none => .error (.noVariant choice)
  | _ => .error (.noVariant choice)

/-- How the members of a record `σ` are read, in declared order: the name of each and what its value
does to the record. -/
structure RecordReader (σ : Type) where
  name : String
  members : List (String × (σ → Json → Decoded σ))
  /-- Members that have no default, as many as come first. -/
  required : Nat

namespace RecordReader

variable {σ : Type}

/-- Reads the members of an object in written order. Unknown ones are passed over. -/
def ofMembers (r : RecordReader σ) : List (String × Json) → σ → Decoded σ
  | [], s => .ok s
  | (k, v) :: rest, s =>
    match r.members.lookup k with
    | none => ofMembers r rest s
    | some read =>
      match read s v with
      | .ok s' => ofMembers r rest s'
      | .error e => .error e

/-- Reads the items of an array as the members in declared order. -/
def ofItems : List (String × (σ → Json → Decoded σ)) → List Json → σ → Decoded σ
  | (_, read) :: members, v :: items, s =>
    match read s v with
    | .ok s' => ofItems members items s'
    | .error e => .error e
  | _, _, s => .ok s

/-- Reads a record, starting from its defaults. -/
def read (r : RecordReader σ) (start : σ) : Json → Decoded σ
  | .object members => do
    let s ← r.ofMembers members start
    match (r.members.take r.required).find? fun m => !(members.any (·.1 == m.1)) with
    | some m => .error (.missingMember m.1)
    | none => .ok s
  | .array items => do
    let s ← ofItems r.members items start
    if items.length < r.required then .error (.tooShort items.length r.name r.members.length)
    else if items.length > r.members.length then .error (.tooLong items.length)
    else .ok s
  | v => .error (.wrongType v ("struct " ++ r.name))

/-- The first member of the record that is written a second time, given the names written before. -/
def repeated? (r : RecordReader σ) : List String → List (String × Json) → Option String
  | _, [] => none
  | before, (k, _) :: rest =>
    if (r.members.lookup k).isNone then repeated? r before rest
    else if before.contains k then some k
    else repeated? r (k :: before) rest

/-- Like `read`, for a value as written in a text: a member of the record may be written only
once. -/
def readWritten (r : RecordReader σ) (start : σ) (v : Json) : Decoded σ :=
  match r.repeated? [] v.members with
  | some name => .error (.repeatedMember name)
  | none => r.read start v

end RecordReader

end ContentQuery.Json
