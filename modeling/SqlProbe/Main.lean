import SqlProbe.Invocation

/-!
# The program

The outer layer: it takes the arguments, fetches the file they name, prints the
report and returns the exit code. What is printed and returned is computed
elsewhere. No database client is linked here, so that every query is answered
with a connection failure.
-/

namespace SqlProbe

namespace Program

/-- The failure that an error of the system amounts to. -/
def failureOf : IO.Error → ReadFailure
  | .noFileOrDirectory .. => .notFound
  | .inappropriateType .. => .isDirectory
  | e => .other (toString e)

/-- What is found under the name of a file. -/
def fetch (name : RawText) : IO (Except ReadFailure RawText) := do
  try
    let bytes ← IO.FS.readBinFile name.readable
    pure (.ok (.ofBytes bytes.toList))
  catch e => pure (.error (failureOf e))

/-- What is found under the name of the file that the arguments name. -/
def fetchNamed (args : List RawText) : IO (Except ReadFailure RawText) :=
  match Arguments.parse args with
  | .ok a =>
    match a.file with
    | some name => fetch name
    | none => pure (.error .notFound)
  | .error _ => pure (.error .notFound)

/-- The answer to every query. -/
def noClient (_ : Connection) (_ : String) : Reply :=
  .error (.connection "no database client is available")

/-- Runs a check and returns its exit code. -/
def run (args : List String) : IO UInt32 := do
  let args := args.map RawText.ofString
  let content ← fetchNamed args
  let invocation := Invocation.ofArguments args fun _ => content
  IO.print (invocation.text noClient)
  return UInt32.ofNat (invocation.exitCode noClient)

end Program

end SqlProbe

/-- The program. -/
def main (args : List String) : IO UInt32 := SqlProbe.Program.run args
