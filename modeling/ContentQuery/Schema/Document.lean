import ContentQuery.Schema.Definition
import ContentQuery.Json.Decode
import ContentQuery.Json.Outline

/-!
# Schemas written as JSON

A definition document has two lists, `enums` and `types`; the fields of a type are an object from
names to declared types, or to records with a declared type and default arguments. Resolvers cannot
be written and are attached afterwards.
-/

namespace ContentQuery

open Json (Decoded Mismatch RecordReader)

namespace Schema.Document

/-- An array, its items read one by one. -/
def listOf (read : Json → Decoded α) : Json → Decoded (List α)
  | .array items => items.mapM read
  | v => .error (.wrongType v "a sequence")

def objectOf : Json → Decoded Json.Object
  | .object members => .ok members
  | v => .error (.wrongType v "a map")

def enumReader : RecordReader EnumType where
  name := "EnumType"
  members := [
    ("name", fun e v => do return { e with name := ← Json.asString v }),
    ("values", fun e v => do return { e with values := ← listOf Json.asString v })]
  required := 2

/-- A type as written: its fields are not yet read. -/
structure WrittenType where
  name : String
  isNode : Bool
  fields : Json.Object

def typeReader : RecordReader WrittenType where
  name := "TypeDefinition"
  members := [
    ("name", fun t v => do return { t with name := ← Json.asString v }),
    ("node", fun t v => do return { t with isNode := ← Json.asBool v }),
    ("fields", fun t v => do return { t with fields := ← objectOf v })]
  required := 1

structure WrittenSchema where
  enums : List EnumType
  types : List WrittenType

def schemaReader : RecordReader WrittenSchema where
  name := "TypeDefinitions"
  members := [
    ("enums", fun s v => do
      return { s with enums := ← listOf (enumReader.readWritten ⟨"", []⟩) v }),
    ("types", fun s v => do
      return { s with types := ← listOf (typeReader.readWritten ⟨"", false, []⟩) v })]
  required := 0

/-- What a document is made of. Members with other names are passed over. -/
def outline : Json.Outline :=
  .record [
    ("enums", .list (.record [("name", .whole), ("values", .whole)])),
    ("types", .list (.record [("name", .whole), ("node", .whole), ("fields", .whole)]))]

/-- A field is written as its declared type or as a record; a record is an object here, never an
array. -/
def field? (name : String) : Json → Option FieldDefinition
  | .string declared => some (.plain name declared)
  | .object members =>
    match Json.Object.get? "type" members with
    | some (.string declared) =>
      match Json.Object.get? "defaultArgs" members with
      | none => some (.plain name declared)
      | some (.object args) => some ⟨name, declared, none, args⟩
      | some _ => none
    | _ => none
  | _ => none

def noField : Mismatch := .noVariant "FieldSpec"

/-- Fields of a type, in written order. -/
def fieldsOf (origin typeName : String) (fields : Json.Object) :
    Except SchemaError (List FieldDefinition) :=
  fields.mapM fun (name, v) =>
    match field? name v with
    | some f => .ok f
    | none => .error (.malformed origin (.invalidField typeName name noField.message))

def typeOf (origin : String) (t : WrittenType) : Except SchemaError TypeDefinition := do
  let fields ← fieldsOf origin t.name (Json.Object.ofList (Json.tidyMembers t.fields))
  return ⟨t.name, t.isNode, fields⟩

end Schema.Document

/-- Reads a definition document; `origin` names it in errors. -/
def Schema.parse (origin text : String) : Except SchemaError Schema :=
  let invalid detail := Except.error (SchemaError.malformed origin (.invalidText detail))
  match Json.writtenAs? Document.outline text with
  | none => invalid "the text is not JSON"
  | some v =>
    match Document.schemaReader.readWritten ⟨[], []⟩ v with
    | .error e => invalid e.message
    | .ok written => do
      let types ← written.types.mapM (Document.typeOf origin)
      return ⟨types, written.enums, []⟩

/-- Where a document that is not in a file comes from. -/
def Schema.inMemory : String := "<in-memory>"

end ContentQuery
