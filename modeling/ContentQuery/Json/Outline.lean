import ContentQuery.Json.Parser

/-!
# Reading JSON text by an outline

A reader that knows what records a text is made of looks at their members only. The value of any other
member is passed over: it has to be JSON text, but it may be nested without a bound and hold numbers
and strings without a value. `Json.writtenAs?` leaves null in its place.
-/

namespace ContentQuery.Json

open Token

/-- What is known of a value before it is read. -/
inductive Outline where
  /-- The value is read in full. -/
  | whole
  /-- A record with these members, written as an object, or as an array of them in this order. -/
  | record (members : List (String × Outline))
  | list (item : Outline)

/-! ## Passing over -/

/-- What may come next in a value that is passed over. -/
inductive Awaited where
  | value
  /-- A value, or the end of an array just opened. -/
  | valueOrEnd
  | key
  /-- A key, or the end of an object just opened. -/
  | keyOrEnd
  | colon
  /-- What follows a value. -/
  | more

/-- An array or an object that is open. -/
inductive Enclosing where
  | array
  | object

/-- The tokens after a value, given what is open in it, innermost first. -/
def pass? : List Enclosing → Awaited → List Token → Option (List Token)
  | [], .more, rest => some rest
  | .array :: opened, .more, .comma :: rest => pass? (.array :: opened) .value rest
  | .object :: opened, .more, .comma :: rest => pass? (.object :: opened) .key rest
  | .array :: opened, .more, .closeBracket :: rest => pass? opened .more rest
  | .object :: opened, .more, .closeBrace :: rest => pass? opened .more rest
  | _, .more, _ => none
  | .array :: opened, .valueOrEnd, .closeBracket :: rest => pass? opened .more rest
  | .object :: opened, .keyOrEnd, .closeBrace :: rest => pass? opened .more rest
  | opened, .colon, .colon :: rest => pass? opened .value rest
  | _, .colon, _ => none
  | opened, .key, .string _ :: rest | opened, .key, .brokenString :: rest
  | opened, .keyOrEnd, .string _ :: rest | opened, .keyOrEnd, .brokenString :: rest =>
    pass? opened .colon rest
  | _, .key, _ | _, .keyOrEnd, _ => none
  | opened, .value, t :: rest | opened, .valueOrEnd, t :: rest =>
    match t with
    | .openBracket => pass? (.array :: opened) .valueOrEnd rest
    | .openBrace => pass? (.object :: opened) .keyOrEnd rest
    | .null | .bool _ | .number _ | .string _ | .hugeNumber | .brokenString =>
      pass? opened .more rest
    | .closeBracket | .closeBrace | .comma | .colon => none
  | _, .value, [] | _, .valueOrEnd, [] => none

/-! ## Reading -/

mutual

/-- One value and the tokens after it. As for `value?`, `room` is the number of levels that may still
be opened and the fuel bounds the number of steps. -/
def valueAs? : Nat → Outline → Nat → List Token → Option (Json × List Token)
  | 0, _, _, _ => none
  | fuel + 1, outline, room, tokens =>
    match outline, room, tokens with
    | .record _, _ + 1, .openBrace :: .closeBrace :: rest => some (.object [], rest)
    | .record members, room + 1, .openBrace :: rest => membersAs? fuel members room [] rest
    | .record _, _ + 1, .openBracket :: .closeBracket :: rest => some (.array [], rest)
    | .record members, room + 1, .openBracket :: rest =>
      itemsAs? fuel (members.map Prod.snd) .whole room [] rest
    | .list _, _ + 1, .openBracket :: .closeBracket :: rest => some (.array [], rest)
    | .list item, room + 1, .openBracket :: rest => itemsAs? fuel [] item room [] rest
    | _, room, tokens => value? fuel room tokens

/-- The items of an array from one item on, the first of them by outlines of their own; those before
come in reverse. -/
def itemsAs? : Nat → List Outline → Outline → Nat → List Json → List Token →
    Option (Json × List Token)
  | 0, _, _, _, _, _ => none
  | fuel + 1, first, item, room, acc, tokens =>
    match valueAs? fuel (first.headD item) room tokens with
    | some (v, .comma :: rest) => itemsAs? fuel first.tail item room (v :: acc) rest
    | some (v, .closeBracket :: rest) => some (.array (v :: acc).reverse, rest)
    | _ => none

/-- The members of a record from one member on; those before come in reverse. -/
def membersAs? : Nat → List (String × Outline) → Nat → List (String × Json) → List Token →
    Option (Json × List Token)
  | 0, _, _, _, _ => none
  | fuel + 1, members, room, acc, tokens =>
    match tokens with
    | .string k :: .colon :: rest =>
      let read := match members.lookup k with
        | some outline => valueAs? fuel outline room rest
        | none => (pass? [] .value rest).map fun rest => (.null, rest)
      match read with
      | some (v, .comma :: rest) => membersAs? fuel members room ((k, v) :: acc) rest
      | some (v, .closeBrace :: rest) => some (.object ((k, v) :: acc).reverse, rest)
      | _ => none
    | _ => none

end

/-- The value that a text writes, as far as an outline knows it. -/
def writtenAs? (outline : Outline) (text : String) : Option Json :=
  match Token.ofString? text with
  | none => none
  | some tokens =>
    match valueAs? (2 * tokens.length + 3) outline maxDepth tokens with
    | some (v, []) => some v
    | _ => none

end ContentQuery.Json
