import ContentQuery.Json.Decimal
import ContentQuery.Pattern.Glob
import ContentQuery.Pattern.Regex.Parser

/-!
# Pattern operands

A filter may test a value against a regular expression, written `/pattern/flags` or bare, or against
a glob. Both see the value as a text; a list is the texts of its items with commas between them.
-/

namespace ContentQuery

/-- Why a value is no pattern. -/
inductive PatternFault where
  | regexNotString
  | unsupportedFlag (flag : Char)
  | invalidRegex (pattern : String)
  | globNotString
  | invalidGlob (error : GlobError)

def PatternFault.message : PatternFault → String
  | .regexNotString => "regex operand must be a string"
  | .unsupportedFlag flag => "unsupported regex flag '" ++ String.singleton flag ++ "'"
  | .invalidRegex pattern => "invalid regex: " ++ pattern
  | .globNotString => "glob operand must be a string"
  | .invalidGlob error => "invalid glob: " ++ error.message

mutual

/-- The text that a value is matched as. Objects have none, nor have lists that hold one. -/
def Json.patternText? : Json → Option String
  | .null => some "null"
  | .bool b => some (if b then "true" else "false")
  | .number n => some n.text
  | .string s => some s
  | .array items => (Json.patternTexts? items).map (String.intercalate ",")
  | .object _ => none

def Json.patternTexts? : List Json → Option (List String)
  | [] => some []
  | v :: rest =>
    match v.patternText?, Json.patternTexts? rest with
    | some text, some texts => some (text :: texts)
    | _, _ => none

end

structure RegexPattern where
  /-- The operand as written. -/
  source : String
  regex : Regex

namespace RegexPattern

/-- What stands before and after the last slash. -/
def splitLastSlash? (cs : List Char) : Option (List Char × List Char) :=
  let flags := (cs.reverse.takeWhile (· != '/')).reverse
  if flags.length < cs.length then some (cs.take (cs.length - flags.length - 1), flags) else none

/-- The pattern and the flags of an operand. Without slashes around it all of it is pattern. -/
def parts (source : String) : List Char × List Char :=
  match source.toList with
  | '/' :: rest => (splitLastSlash? rest).getD ('/' :: rest, [])
  | cs => (cs, [])

/-- Sets a flag. Matching is only ever tested, so a global match is nothing special. -/
def setFlag (f : Regex.Flags) : Char → Except PatternFault Regex.Flags
  | 'i' => .ok { f with ignoreCase := true }
  | 'm' => .ok { f with multiLine := true }
  | 's' => .ok { f with dotMatchesAll := true }
  | 'x' => .ok { f with verbose := true }
  | 'u' => .ok { f with unicode := true }
  | 'g' => .ok f
  | c => .error (.unsupportedFlag c)

def ofJson : Json → Except PatternFault RegexPattern
  | .string source => do
    let (pattern, flags) := parts source
    let f ← flags.foldlM setFlag {}
    let text := String.ofList pattern
    match Regex.parse? f text with
    | some regex => return { source, regex }
    | none => .error (.invalidRegex text)
  | _ => .error .regexNotString

def isMatch (p : RegexPattern) (v : Json) : Bool :=
  match v.patternText? with
  | some text => p.regex.isMatch text
  | none => false

end RegexPattern

structure GlobPattern where
  /-- The operand as written. -/
  source : String
  glob : Glob

namespace GlobPattern

def ofJson : Json → Except PatternFault GlobPattern
  | .string source =>
    match Glob.parse source with
    | .ok glob => .ok { source, glob }
    | .error e => .error (.invalidGlob e)
  | _ => .error .globNotString

def isMatch (p : GlobPattern) (v : Json) : Bool :=
  match v.patternText? with
  | some text => p.glob.isMatch text
  | none => false

end GlobPattern

end ContentQuery
