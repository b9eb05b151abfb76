import ContextCache.Environment
import ContextCache.Table.Snapshot

/-!
Contract: how a trial fails.

Owns:
- the faults that a trial can find in a cache, and its other errors;
- their wording, and the form in which a program reports the error it ends with.

Does not own: when a fault is found.
-/

namespace ContextCache.Trial

/-- What a trial saw that a sound cache never shows. -/
inductive Fault where
  | wrongValue (definition : Nat) (expected got : UInt64)
  | unboundRead (definition : Nat) (got : UInt64)
  | unanswered (definition : Nat)
  | snapshot (fault : SnapshotFault)
  | bindingCount (bindings expected : Nat)
  | differentValues
  | leakedPromise
deriving DecidableEq, Repr

/-- A parameter that leaves a trial nothing to do. -/
inductive ParameterFault where
  | noDefinitions
  | noReaders
deriving DecidableEq, Repr

/-- Why a trial gives no report. -/
inductive Error where
  | config (error : ConfigError)
  | parameter (fault : ParameterFault)
  | invariant (step : Nat) (fault : Fault)
deriving DecidableEq, Repr

def hexadecimal (word : UInt64) : String :=
  "0x" ++ String.ofList (Nat.toDigits 16 word.toNat)

def Fault.message : Fault → String
  | wrongValue definition expected got =>
    "definition " ++ toString definition ++ ": expected " ++ hexadecimal expected ++
      ", got " ++ hexadecimal got
  | unboundRead definition got =>
    "definition " ++ toString definition ++ ": unbound read returned " ++ hexadecimal got
  | unanswered definition => "definition " ++ toString definition ++ ": read without an answer"
  | snapshot fault => fault.message
  | bindingCount bindings expected =>
    toString bindings ++ " bindings in the map, model expects " ++ toString expected
  | differentValues => "readers observed different values"
  | leakedPromise => "promise leaked into the cache array"

def ParameterFault.message : ParameterFault → String
  | noDefinitions => "at least one definition is required"
  | noReaders => "threads and rounds must be non-zero"

def Error.message : Error → String
  | config error => "configuration: " ++ error.message
  | parameter fault => "invalid parameter: " ++ fault.message
  | invariant step fault =>
    "invariant violated after " ++ toString step ++ " steps: " ++ fault.message

end ContextCache.Trial

namespace ContextCache

def ConfigError.kind : ConfigError → String
  | notPowerOfTwo _ _ => "NotPowerOfTwo"
  | probeLimit _ _ => "ProbeLimit"
  | loadLimit _ => "LoadLimit"
  | maxBelowInitial _ _ => "MaxBelowInitial"
  | maxTooLarge _ => "MaxTooLarge"
  | unreadable _ _ => "Parse"

/-- A configuration error with its parts named, for the end of a program. -/
def ConfigError.debugText (error : ConfigError) : String :=
  error.kind ++
    match error with
    | .notPowerOfTwo setting value =>
      " \x7b name: " ++ Text.quoted setting.name ++ ", value: " ++ toString value ++ " \x7d"
    | .probeLimit value max =>
      " \x7b value: " ++ toString value ++ ", max: " ++ toString max ++ " \x7d"
    | .loadLimit percent => "(" ++ toString percent ++ ")"
    | .maxBelowInitial initial max =>
      " \x7b initial: " ++ toString initial ++ ", max: " ++ toString max ++ " \x7d"
    | .maxTooLarge max => "(" ++ toString max ++ ")"
    | .unreadable setting raw =>
      " \x7b name: " ++ Text.quoted setting.variableName ++ ", raw: " ++ Text.quoted raw ++
        " \x7d"

def Trial.Error.kind : Trial.Error → String
  | .config _ => "Config"
  | .parameter _ => "Parameter"
  | .invariant _ _ => "Invariant"

def Trial.Error.debugText (error : Trial.Error) : String :=
  error.kind ++
    match error with
    | .config error => "(" ++ error.debugText ++ ")"
    | .parameter fault => "(" ++ Text.quoted fault.message ++ ")"
    | .invariant step fault =>
      " \x7b step: " ++ toString step ++ ", detail: " ++ Text.quoted fault.message ++ " \x7d"

end ContextCache
