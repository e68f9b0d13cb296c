import ContentQuery.Json.Token

/-!
# Reading JSON text

`Json.written?` keeps every member that is written, repeated keys included; `Json.parse?` then keeps
one member a key. Values nest at most 127 levels deep.
-/

namespace ContentQuery.Json

open Token

/-- Levels of arrays and objects that a text may open inside one another. -/
def maxDepth : Nat := 127

mutual

/-- One value and the tokens after it. `room` is the number of levels that may still be opened; the
fuel bounds the number of steps. -/
def value? : Nat → Nat → List Token → Option (Json × List Token)
  | 0, _, _ => none
  | fuel + 1, room, tokens =>
    match tokens with
    | .null :: rest => some (.null, rest)
    | .bool b :: rest => some (.bool b, rest)
    | .number n :: rest => some (.number n, rest)
    | .string s :: rest => some (.string s, rest)
    | .openBracket :: rest =>
      match room, rest with
      | 0, _ => none
      | _ + 1, .closeBracket :: rest => some (.array [], rest)
      | room + 1, rest => items? fuel room [] rest
    | .openBrace :: rest =>
      match room, rest with
      | 0, _ => none
      | _ + 1, .closeBrace :: rest => some (.object [], rest)
      | room + 1, rest => members? fuel room [] rest
    | _ => none

/-- The items of an array from one item on; those before come in reverse. -/
def items? : Nat → Nat → List Json → List Token → Option (Json × List Token)
  | 0, _, _, _ => none
  | fuel + 1, room, acc, tokens =>
    match value? fuel room tokens with
    | some (v, .comma :: rest) => items? fuel room (v :: acc) rest
    | some (v, .closeBracket :: rest) => some (.array (v :: acc).reverse, rest)
    | _ => none

/-- The members of an object from one member on; those before come in reverse. -/
def members? : Nat → Nat → List (String × Json) → List Token → Option (Json × List Token)
  | 0, _, _, _ => none
  | fuel + 1, room, acc, tokens =>
    match tokens with
    | .string k :: .colon :: rest =>
      match value? fuel room rest with
      | some (v, .comma :: rest) => members? fuel room ((k, v) :: acc) rest
      | some (v, .closeBrace :: rest) => some (.object ((k, v) :: acc).reverse, rest)
      | _ => none
    | _ => none

end

/-- The value that a text writes, with every member as written. -/
def written? (text : String) : Option Json :=
  match Token.ofString? text with
  | none => none
  | some tokens =>
    match value? (2 * tokens.length + 2) maxDepth tokens with
    | some (v, []) => some v
    | _ => none

mutual

/-- Keeps one member a key in every object: the first position and the last value. -/
def tidy : Json → Json
  | .array items => .array (tidyItems items)
  | .object members => .object (Object.ofList (tidyMembers members))
  | v => v

def tidyItems : List Json → List Json
  | [] => []
  | v :: rest => tidy v :: tidyItems rest

def tidyMembers : List (String × Json) → List (String × Json)
  | [] => []
  | (k, v) :: rest => (k, tidy v) :: tidyMembers rest

end

/-- The value that a text writes; none when the text is no JSON text. -/
def parse? (text : String) : Option Json := (written? text).map tidy

end ContentQuery.Json
