import ContextCache.CommandLine.Arguments
import ContextCache.CommandLine.Destination
import ContextCache.CommandLine.Seed

/-!
Contract: what a command line does.

A command notes what it is about to do, then makes a report. The report is
printed, or saved under the name that was given. A program that fails ends with
one line that names its error.

Owns:
- the notes, the report and the errors of each command;
- the outcome of a program that starts in an empty folder.

Does not own: where a path leads, and the clock.
-/

namespace ContextCache.CommandLine

/-- How a program fails after its arguments have been read. -/
inductive ProgramError where
  | seed (fault : Text.NaturalFault)
  | trial (error : Trial.Error)
  | file (fault : FileFault)
deriving DecidableEq, Repr

/-- What a command leads to: its notes, and then its report, which is worked out when
it is asked for. The report awaits the time, in microseconds, that this took. -/
structure Performance where
  notes : List String
  report : Unit → Except ProgramError (Nat → Document)

structure Outcome where
  exitCode : Nat
  stdout : String
  stderr : String
  files : List (String × String)
deriving DecidableEq, Repr

def naturalFaultName : Text.NaturalFault → String
  | .empty => "Empty"
  | .invalidDigit => "InvalidDigit"
  | .overflow => "PosOverflow"

def ProgramError.debugText : ProgramError → String
  | seed fault => "ParseIntError \x7b kind: " ++ naturalFaultName fault ++ " \x7d"
  | trial error => error.debugText
  | file fault =>
    "Os \x7b code: " ++ toString fault.code ++ ", kind: " ++ fault.kind ++ ", message: " ++
      Text.quoted fault.message ++ " \x7d"

def ProgramError.line (error : ProgramError) : String :=
  "Error: " ++ error.debugText

def savedLine (path : String) : String :=
  "Wrote report to " ++ path

/-- The configuration report: what is in force, and the defaults. -/
def configReport (lookup : String → Option String) : Document :=
  .record
    [("effective", (Config.effective lookup).document),
      ("defaults", Config.standard.document)]

/-- Runs a command in an environment. A churn has its own defaults, and a seed that
cannot be read ends it before its note. -/
def Command.perform (lookup : String → Option String) : Command → Performance
  | .converge parameters =>
    { notes :=
        ["Racing " ++ toString parameters.threads ++ " threads over " ++
          toString parameters.rounds ++ " rounds"]
      report := fun _ =>
        match Trial.Converge.run (Config.effective lookup) parameters with
        | .error error => .error (.trial error)
        | .ok report => .ok report.document }
  | .churn rawSeed operations definitions tuning =>
    match readSeed rawSeed with
    | .error fault => { notes := [], report := fun _ => .error (.seed fault) }
    | .ok seed =>
      { notes :=
          ["Churning " ++ toString operations ++ " ops over " ++ toString definitions ++
            " definitions (seed " ++ rawSeed ++ ")"]
        report := fun _ =>
          match Trial.Churn.run { seed, operations, definitions, config := tuning } with
          | .error error => .error (.trial error)
          | .ok report => .ok fun _ => report.document }
  | .config => { notes := [], report := fun _ => .ok fun _ => configReport lookup }

def joinLines (lines : List String) : String :=
  String.join (lines.map fun line => line ++ "\n")

/-- What is seen of a performance in an empty folder. -/
def Performance.outcome (performance : Performance) (output : Option String)
    (elapsedMicroseconds : Nat) : Outcome :=
  let failure (error : ProgramError) : Outcome :=
    { exitCode := 1
      stdout := ""
      stderr := joinLines (performance.notes ++ [error.line])
      files := [] }
  match performance.report () with
  | .error error => failure error
  | .ok report =>
    let body := (report elapsedMicroseconds).text ++ "\n"
    let success (printed saved : String) (files : List (String × String)) : Outcome :=
      { exitCode := 0, stdout := printed, stderr := joinLines performance.notes ++ saved, files }
    match output with
    | none => success body "" []
    | some path =>
      let saved := joinLines [savedLine path]
      match destination path with
      | .error fault => failure (.file fault)
      | .ok (.file name) => success "" saved [(name, body)]
      | .ok .elsewhere => success "" saved []
      | .ok .output => success body saved []
      | .ok .errors => success "" (body ++ saved) []

/-- What is seen of a program that is run with arguments in an environment and an
empty folder, by a clock that stands still. -/
def runInEmptyFolder (lookup : String → Option String) (arguments : List String) : Outcome :=
  match Invocation.ofArguments arguments with
  | .error .helpWanted => { exitCode := 0, stdout := "", stderr := "", files := [] }
  | .error .unusable => { exitCode := 2, stdout := "", stderr := "", files := [] }
  | .ok invocation => (invocation.command.perform lookup).outcome invocation.output 0

end ContextCache.CommandLine
