import ContentQuery.Pattern.Regex.Basic
import ContentQuery.Text.Word
import ContentQuery.Text.Unicode.Script
import ContentQuery.Text.Unicode.ScriptExtension
import ContentQuery.Text.Unicode.Folding
import ContentQuery.Text.Unicode.Age
import ContentQuery.Text.Unicode.GraphemeBreak
import ContentQuery.Text.Unicode.WordBreak
import ContentQuery.Text.Unicode.SentenceBreak

/-!
# Named character classes

Classes named by a letter (`\d`, `\s`, `\w`), by a name in brackets (`[:alpha:]`), or by a Unicode
category, script, age, break or property (`\p{Greek}`, `\p{age=3.0}`); and case folding of classes.
-/

namespace ContentQuery.Regex.Class

open Text.Unicode (categories scripts scriptExtensions properties ages graphemeBreaks wordBreaks
  sentenceBreaks foldingGroups tableSet)
open Text (asciiWord wordChars)

/-- Adds every character that differs from one of the set only in case. -/
def foldCase (s : CharSet) : CharSet :=
  CharSet.normal (s ++ (foldingGroups ()).flatMap fun group =>
    if group.any s.hasPoint then group.map fun n => ⟨n, n⟩ else [])

/-- Adds the other case of every ASCII letter of the set. -/
def foldAsciiCase (s : CharSet) : CharSet :=
  CharSet.normal (s ++ (List.range 26).flatMap fun i =>
    let upper := 65 + i
    let lower := 97 + i
    if s.hasPoint upper || s.hasPoint lower then [⟨upper, upper⟩, ⟨lower, lower⟩] else [])

/-! ## Letters -/

def decimalDigits (unicode : Bool) : CharSet :=
  if unicode then tableSet categories ["nd"] else [⟨48, 57⟩]

def spaces (unicode : Bool) : CharSet :=
  if unicode then tableSet properties ["wspace"] else [⟨9, 13⟩, ⟨32, 32⟩]

/-! ## Names in brackets -/

def bracketed? (name : String) : Option CharSet :=
  match name with
  | "alnum" => some [⟨48, 57⟩, ⟨65, 90⟩, ⟨97, 122⟩]
  | "alpha" => some [⟨65, 90⟩, ⟨97, 122⟩]
  | "ascii" => some [⟨0, 127⟩]
  | "blank" => some [⟨9, 9⟩, ⟨32, 32⟩]
  | "cntrl" => some [⟨0, 31⟩, ⟨127, 127⟩]
  | "digit" => some [⟨48, 57⟩]
  | "graph" => some [⟨33, 126⟩]
  | "lower" => some [⟨97, 122⟩]
  | "print" => some [⟨32, 126⟩]
  | "punct" => some [⟨33, 47⟩, ⟨58, 64⟩, ⟨91, 96⟩, ⟨123, 126⟩]
  | "space" => some [⟨9, 13⟩, ⟨32, 32⟩]
  | "upper" => some [⟨65, 90⟩]
  | "word" => some asciiWord
  | "xdigit" => some [⟨48, 57⟩, ⟨65, 70⟩, ⟨97, 102⟩]
  | _ => none

/-! ## Unicode names -/

/-- A name in lower case without blanks, hyphens, underscores and characters outside ASCII. A
leading `is` is left out, except where only the name of a comment property would remain. -/
def normalName (name : String) : String :=
  let strip (cs : List Char) : List Char :=
    (cs.filter fun c => c != ' ' && c != '_' && c != '-' && c.toNat < 128).map Char.toLower
  match name.toList with
  | a :: b :: rest =>
    if (a == 'i' || a == 'I') && (b == 's' || b == 'S') then
      let body := strip rest
      if body == ['c'] then "isc" else String.ofList body
    else String.ofList (strip (a :: b :: rest))
  | cs => String.ofList (strip cs)

/-- The categories that a group of categories joins. -/
def categoryGroup? (name : String) : Option (List String) :=
  match name with
  | "c" | "other" => some ["cc", "cf", "cn", "co"]
  | "l" | "letter" => some ["lu", "ll", "lt", "lm", "lo"]
  | "lc" | "casedletter" => some ["lu", "ll", "lt"]
  | "m" | "mark" | "combiningmark" => some ["mn", "mc", "me"]
  | "n" | "number" => some ["nd", "nl", "no"]
  | "p" | "punctuation" | "punct" => some ["pc", "pd", "ps", "pe", "pi", "pf", "po"]
  | "s" | "symbol" => some ["sm", "sc", "sk", "so"]
  | "z" | "separator" => some ["zs", "zl", "zp"]
  | _ => none

/-- The entry of a table with a name. -/
def entry? (table : List (List String × String)) (name : String) : Option CharSet :=
  (table.find? fun e => e.1.contains name).map fun e => CharSet.ofText e.2

def category? (name : String) : Option CharSet :=
  if name == "any" then some CharSet.all
  else if name == "ascii" then some [⟨0, 127⟩]
  else if name == "assigned" then some (tableSet categories ["cn"]).complement
  else match categoryGroup? name with
    | some members => some (tableSet categories members)
    | none => entry? categories name

/-- The code points assigned up to an edition of the character set, that edition included. -/
def aged? (edition : String) : Option CharSet :=
  (ages.findIdx? fun e => e.1.contains edition).map fun i =>
    CharSet.normal ((ages.take (i + 1)).flatMap fun e => CharSet.ofText e.2)

/-- The class that a name alone stands for: a property, a category or a script. -/
def named? (name : String) : Option CharSet :=
  let n := normalName name
  -- three short names mean categories although properties have them too
  let property := if n == "cf" || n == "sc" || n == "lc" then none else entry? properties n
  property <|> category? n <|> entry? scripts n

/-- The class of a property with a value. -/
def valued? (property value : String) : Option CharSet :=
  let v := normalName value
  match normalName property with
  | "gc" | "generalcategory" => category? v
  | "sc" | "script" => entry? scripts v
  | "scx" | "scriptextensions" => entry? scriptExtensions v
  | "age" => aged? v
  | "gcb" | "graphemeclusterbreak" => entry? graphemeBreaks v
  | "wb" | "wordbreak" => entry? wordBreaks v
  | "sb" | "sentencebreak" => entry? sentenceBreaks v
  | _ => none

end ContentQuery.Regex.Class
