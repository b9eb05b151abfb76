import ContextCache.Config
import ContextCache.Text.Natural
import ContextCache.Trial.Churn
import ContextCache.Trial.Converge

/-!
Contract: the arguments of the command line.

A command is followed by options. An option has a value, which is the next
argument or is attached to the option by an equals sign; each option may be given
once. A value of its own may be a single hyphen but not begin with one.

Owns:
- commands, options, their values and defaults;
- the refusal of arguments that are none of these.

Does not own: what a command does, and the reading of seeds.
-/

namespace ContextCache.CommandLine

inductive Flag where
  | threads
  | rounds
  | spin
  | seed
  | operations
  | definitions
  | initialEntries
  | probeLimit
  | loadLimit
  | maxEntries
  | output
deriving DecidableEq, Repr

inductive Value where
  | number (value : Nat)
  | text (value : String)
deriving DecidableEq, Repr

inductive Refusal where
  | helpWanted
  | unusable
deriving DecidableEq, Repr

inductive Command where
  | converge (parameters : Trial.Converge.Parameters)
  | churn (seed : String) (operations definitions : Nat) (config : Config)
  | config
deriving Repr

/-- A command, and the file for its report if one is named. -/
structure Invocation where
  command : Command
  output : Option String
deriving Repr

namespace Flag

def name : Flag → String
  | threads => "--threads"
  | rounds => "--rounds"
  | spin => "--spin"
  | seed => "--seed"
  | operations => "--ops"
  | definitions => "--definitions"
  | initialEntries => "--initial-entries"
  | probeLimit => "--probe-limit"
  | loadLimit => "--load-limit"
  | maxEntries => "--max-entries"
  | output => "--output"

/-- Reads a natural number that may also be written as a negative zero. -/
def readSigned (limit : Nat) : List Char → Option Nat
  | '-' :: digits =>
    match digits, Text.readDigits 10 0 0 digits with
    | _ :: _, .ok value => some value
    | _, _ => none
  | text => (Text.readNatural 10 limit text).toOption

/-- Reads an option's value. A seed may be any text here, and a file's name any but
the empty one. -/
def read? (flag : Flag) (value : String) : Option Value :=
  match flag with
  | seed => some (.text value)
  | output => if value.isEmpty then none else some (.text value)
  | spin => (readSigned (UInt32.size - 1) value.toList).map .number
  | loadLimit => (readSigned 255 value.toList).map .number
  | _ => (Text.readNatural 10 maxSize value.toList).toOption.map .number

end Flag

/-- The options of a command that have been read so far, the one that still waits
for its value, and whether the mark behind all options has been met. -/
structure Scan where
  given : List (Flag × Value)
  waiting : Option Flag
  ended : Bool
deriving Repr

namespace Scan

def start : Scan :=
  { given := [], waiting := none, ended := false }

/-- Takes a value for an option that has none yet. -/
def accept (scan : Scan) (flag : Flag) (value : String) : Except Refusal Scan :=
  if (scan.given.lookup flag).isSome then
    .error .unusable
  else
    match flag.read? value with
    | some read => .ok { scan with given := (flag, read) :: scan.given, waiting := none }
    | none => .error .unusable

def splitAttached (argument : String) : String × Option String :=
  let name := argument.toList.takeWhile fun character => character != '='
  match argument.toList.dropWhile fun character => character != '=' with
  | _ :: value => (String.ofList name, some (String.ofList value))
  | [] => (argument, none)

/-- Whether an argument is taken for an option where a value is expected. -/
def looksLikeOption (argument : String) : Bool :=
  match argument.toList with
  | '-' :: _ :: _ => true
  | _ => false

/-- Reads an argument at which an option may begin. -/
def openOption (scan : Scan) (flags : List Flag) (argument : String) : Except Refusal Scan :=
  if argument = "--" then
    .ok { scan with ended := true }
  else if argument = "--help" ∨ argument = "-h" then
    .error .helpWanted
  else
    let (name, attached) := splitAttached argument
    match flags.find? fun flag => flag.name == name, attached with
    | some flag, some value => scan.accept flag value
    | some flag, none => .ok { scan with waiting := some flag }
    | none, _ => .error .unusable

def next (flags : List Flag) (scan : Scan) (argument : String) : Except Refusal Scan :=
  if scan.ended then
    .error .unusable
  else
    match scan.waiting with
    | some flag =>
      if looksLikeOption argument then .error .unusable else scan.accept flag argument
    | none => scan.openOption flags argument

/-- Reads all arguments behind a command; no option may be left without a value. -/
def all (flags : List Flag) (arguments : List String) : Except Refusal Scan :=
  match arguments.foldlM (next flags) start with
  | .error refusal => .error refusal
  | .ok scan => if scan.waiting.isSome then .error .unusable else .ok scan

def number (scan : Scan) (flag : Flag) (default : Nat) : Nat :=
  match scan.given.lookup flag with
  | some (.number value) => value
  | _ => default

def text? (scan : Scan) (flag : Flag) : Option String :=
  match scan.given.lookup flag with
  | some (.text value) => some value
  | _ => none

end Scan

/-- The seed of a churn for which none is given. -/
def defaultSeed : String := "0xDEAD_BEEF"

def readConverge (arguments : List String) : Except Refusal Invocation :=
  match Scan.all [.threads, .rounds, .spin, .output] arguments with
  | .error refusal => .error refusal
  | .ok scan =>
    let defaults : Trial.Converge.Parameters := {}
    .ok
      { command :=
          .converge
            { threads := scan.number .threads defaults.threads
              rounds := scan.number .rounds defaults.rounds
              spin := scan.number .spin defaults.spin }
        output := scan.text? .output }

def readChurn (arguments : List String) : Except Refusal Invocation :=
  match Scan.all [.seed, .operations, .definitions, .initialEntries, .probeLimit, .loadLimit,
      .maxEntries, .output] arguments with
  | .error refusal => .error refusal
  | .ok scan =>
    let defaults : Trial.Churn.Parameters := {}
    .ok
      { command :=
          .churn ((scan.text? .seed).getD defaultSeed)
            (scan.number .operations defaults.operations)
            (scan.number .definitions defaults.definitions)
            { initialEntries := scan.number .initialEntries defaults.config.initialEntries
              probeLimit := scan.number .probeLimit defaults.config.probeLimit
              loadPercent := scan.number .loadLimit defaults.config.loadPercent
              maxEntries := scan.number .maxEntries defaults.config.maxEntries }
        output := scan.text? .output }

def readConfig (arguments : List String) : Except Refusal Invocation :=
  match Scan.all [.output] arguments with
  | .error refusal => .error refusal
  | .ok scan => .ok { command := .config, output := scan.text? .output }

def Invocation.ofArguments : List String → Except Refusal Invocation
  | "converge" :: arguments => readConverge arguments
  | "churn" :: arguments => readChurn arguments
  | "config" :: arguments => readConfig arguments
  | ["help"] => .error .helpWanted
  | ["help", command] =>
    if command ∈ ["converge", "churn", "config", "help"] then .error .helpWanted
    else .error .unusable
  | "--help" :: _ => .error .helpWanted
  | "-h" :: _ => .error .helpWanted
  | _ => .error .unusable

end ContextCache.CommandLine
