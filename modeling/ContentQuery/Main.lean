import ContentQuery.CommandLine.Run

/-!
# The program

Reads the files that the command line names and standard input, and writes what comes of it.
-/

open ContentQuery.CommandLine

/-- The number of a system error, which may be reported with a minus sign in a 32-bit word. -/
def errorNumber (code : UInt32) : Nat :=
  if code.toNat < 0x80000000 then code.toNat else 0x100000000 - code.toNat

/-- Why a file cannot be read, in the words of the system. -/
def readFailure (e : IO.Error) : String :=
  let numbered (code : UInt32) : String :=
    match PathFault.ofNumber? (errorNumber code) with
    | some fault => fault.message
    | none => toString e
  match e with
  | .noFileOrDirectory _ code _ | .permissionDenied _ code _ | .inappropriateType _ code _
  | .invalidArgument _ code _ => numbered code
  | e => toString e

/-- What a file holds, or why it cannot be read. -/
def readFileText (file : String) : IO (Except String String) := do
  try
    return .ok (← IO.FS.readFile ⟨file⟩)
  catch e =>
    return .error (readFailure e)

def main (args : List String) : IO UInt32 := do
  let invocation := Invocation.ofArgs args
  let (names, readsInput) := match invocation with
    | .run (.query schema nodes config) => ((Command.query schema nodes config).files, true)
    | .run command => (command.files, false)
    | _ => ([], false)
  let contents ← names.mapM fun file => return (file, ← readFileText file)
  let input ← if readsInput then (← IO.getStdin).readToEnd else pure ""
  let files : Files := fun file => (contents.lookup file).getD (.error "No such file")
  let outcome := invocation.outcome files input
  (← IO.getStdout).putStr outcome.stdout
  (← IO.getStderr).putStr outcome.stderr
  return outcome.exit.toUInt32
