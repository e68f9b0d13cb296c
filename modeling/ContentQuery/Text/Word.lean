import ContentQuery.Text.Unicode.Category
import ContentQuery.Text.Unicode.Property

/-!
# Word characters

The characters that words are made of, in ASCII and in Unicode: letters and other alphabetic
characters, marks, decimal digits, connectors, and the two joiners.
-/

namespace ContentQuery.Text

/-- Code points of the entries of a table that have one of the given names. -/
def Unicode.tableSet (table : List (List String × String)) (wanted : List String) : CharSet :=
  CharSet.normal <| table.flatMap fun (names, ranges) =>
    if names.any wanted.contains then CharSet.ofText ranges else []

def asciiWord : CharSet := [⟨48, 57⟩, ⟨65, 90⟩, ⟨95, 95⟩, ⟨97, 122⟩]

def unicodeWord (_ : Unit) : CharSet :=
  CharSet.union (Unicode.tableSet Unicode.properties ["alpha", "joinc"])
    (Unicode.tableSet Unicode.categories ["mn", "mc", "me", "nd", "pc"])

def wordChars (unicode : Bool) : CharSet := if unicode then unicodeWord () else asciiWord

end ContentQuery.Text
