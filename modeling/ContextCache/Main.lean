import ContextCache.CommandLine.Program

/-!
Contract: the program around the command line.

Owns:
- reading the environment and the clock, printing, and writing the report's file.

Does not own: anything that is printed or written.
-/

namespace ContextCache

open CommandLine

/-- The environment variables of the settings, read once. -/
def readEnvironment : IO (String → Option String) := do
  let values ← Setting.all.mapM fun setting => do
    return (setting.variableName, ← IO.getEnv setting.variableName)
  return fun name => (values.lookup name).join

def faultNumber : IO.Error → Nat × String
  | .noFileOrDirectory _ code details => (code.toNat, details)
  | .inappropriateType _ code details => (code.toNat, details)
  | .permissionDenied _ code details => (code.toNat, details)
  | .invalidArgument _ code details => (code.toNat, details)
  | .resourceExhausted _ code details => (code.toNat, details)
  | .otherError code details => (code.toNat, details)
  | error => (0, toString error)

/-- What the operating system said about a file that could not be written. -/
def describeFault (error : IO.Error) : FileFault :=
  let (code, details) := faultNumber error
  (FileFault.ofCode? code).getD ⟨code, "Other", details⟩

def failWith (error : ProgramError) : IO UInt32 := do
  IO.eprintln error.line
  return 1

/-- Prints a report, or saves it under a name. -/
def emit (output : Option String) (body : String) : IO UInt32 := do
  match output with
  | none =>
    IO.println body
    return 0
  | some path =>
    match ← (IO.FS.writeFile path (body ++ "\n")).toBaseIO with
    | .ok () =>
      IO.eprintln (savedLine path)
      return 0
    | .error error => failWith (.file (describeFault error))

def runCommand (invocation : Invocation) : IO UInt32 := do
  let lookup ← readEnvironment
  let performance := invocation.command.perform lookup
  performance.notes.forM fun note => IO.eprintln note
  let started ← IO.monoNanosNow
  match performance.report () with
  | .error error => failWith error
  | .ok report =>
    let finished ← IO.monoNanosNow
    emit invocation.output (report ((finished - started) / 1000)).text

end ContextCache

/-- The program. Arguments that cannot be used end it with exit code 2. -/
def main (arguments : List String) : IO UInt32 := do
  match ContextCache.CommandLine.Invocation.ofArguments arguments with
  | .error .helpWanted => return 0
  | .error .unusable =>
    IO.eprintln "unusable arguments"
    return 2
  | .ok invocation => ContextCache.runCommand invocation
