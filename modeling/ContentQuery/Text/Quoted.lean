import ContentQuery.Text.Unicode.Invisible

/-!
# Quoted text in messages

A text quoted in a message shows what a reader could not see: quotes, backslashes and the common
control characters are escaped by a letter, and every other invisible character by its number.
-/

namespace ContentQuery.Text

/-- The character cannot be seen by itself. -/
def isInvisible (c : Char) : Bool := (CharSet.ofText Unicode.invisibleText).has c

def hexText (n : Nat) : List Char := Nat.toDigits 16 n

def quoteChar (c : Char) : List Char :=
  if c = '"' then ['\\', '"']
  else if c = '\\' then ['\\', '\\']
  else if c = '\n' then ['\\', 'n']
  else if c = '\r' then ['\\', 'r']
  else if c = '\t' then ['\\', 't']
  else if c.toNat = 0 then ['\\', '0']
  else if 32 ≤ c.toNat && c.toNat < 127 then [c]
  else if isInvisible c then
    ['\\', 'u', '\x7b'] ++ hexText c.toNat ++ ['\x7d']
  else [c]

def quoted (s : String) : String := String.ofList ('"' :: s.toList.flatMap quoteChar ++ ['"'])

end ContentQuery.Text
