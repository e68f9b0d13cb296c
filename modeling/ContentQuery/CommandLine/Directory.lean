/-!
# Paths

A path is followed from the working directory, or from the root if it starts with a slash, one name
after another. `Files.ofList` answers what is read at a path when only the given files exist, beside
the directories that they stand in and those above the working directory.
-/

namespace ContentQuery.CommandLine

/-- What a file holds, or why it cannot be read. -/
abbrev Files := String → Except String String

/-- Why nothing can be read at a path. -/
inductive PathFault where
  | missing
  | denied
  | notDirectory
  | isDirectory
  | nameTooLong
  deriving DecidableEq, Repr

namespace PathFault

/-- The number that the system gives the fault. -/
def number : PathFault → Nat
  | .missing => 2
  | .denied => 13
  | .notDirectory => 20
  | .isDirectory => 21
  | .nameTooLong => 36

def words : PathFault → String
  | .missing => "No such file or directory"
  | .denied => "Permission denied"
  | .notDirectory => "Not a directory"
  | .isDirectory => "Is a directory"
  | .nameTooLong => "File name too long"

def message (fault : PathFault) : String :=
  fault.words ++ " (os error " ++ toString fault.number ++ ")"

def ofNumber? (n : Nat) : Option PathFault :=
  [missing, denied, notDirectory, isDirectory, nameTooLong].find? (·.number == n)

end PathFault

/-- Names that lead to a place, the last one first. The first is `/` for the root and `.` for the
working directory, and `..` leads above that. -/
abbrev Place := List String

/-- The directory above. There is none above the root. -/
def Place.parent (here : Place) : Place :=
  if here == ["/"] then here
  else if here.all fun name => name == "." || name == ".." then ".." :: here
  else here.tail

/-- Bytes that a name and a whole path may take. -/
def maxNameBytes : Nat := 255

def maxPathBytes : Nat := 4095

/-- Reads the file to which names lead from a place. -/
def follow (files : List (Place × String)) : Place → List String → Except PathFault String
  | _, [] => .error .isDirectory
  | here, name :: rest =>
    if name == "" || name == "." then follow files here rest
    else if name == ".." then follow files here.parent rest
    else if name.utf8ByteSize > maxNameBytes then .error .nameTooLong
    else
      let next := name :: here
      match files.lookup next with
      | some text => if rest.isEmpty then .ok text else .error .notDirectory
      | none =>
        if files.any fun file => next.isSuffixOf file.1 then follow files next rest
        else .error .missing

/-- Where a path starts, and the names that it goes on with. -/
def splitPath (path : String) : Place × List String :=
  let names := path.splitOn "/"
  if path.startsWith "/" then (["/"], names) else (["."], names)

/-- The place of a file given by its path. -/
def Place.ofPath (path : String) : Place :=
  let (start, names) := splitPath path
  (names.filter fun name => name != "" && name != ".").reverse ++ start

def Files.ofList (files : List (String × String)) : Files := fun path =>
  let placed := files.map fun (file, text) => (Place.ofPath file, text)
  let (start, names) := splitPath path
  if path.isEmpty then .error PathFault.missing.message
  else if path.utf8ByteSize > maxPathBytes then .error PathFault.nameTooLong.message
  else (follow placed start names).mapError PathFault.message

end ContentQuery.CommandLine
