import ContextCache.Config
import ContextCache.Holdings

/-!
Contract: the language of scenarios.

A scenario is a list of steps on contexts, definitions and shared values. Each
definition carries a script, which says call by call what its computation does:
steps of the same kind, and then an ending. Everything is named by its place in
the order of creation.

Owns:
- steps, calls, endings and the ways to name things.

Does not own: what steps do.
-/

namespace ContextCache.Scenario

/-- A context by its index, or the one that the surrounding computation is for. -/
inductive ContextName where
  | listed (index : Int)
  | surrounding
deriving DecidableEq, Repr

/-- How a call ends after its steps. -/
inductive Ending where
  /-- with an error -/
  | fail (message : String)
  /-- with a panic -/
  | panic (message : String)
  /-- with a given value -/
  | value (value : Datum)
  /-- with the data of the context that is computed for -/
  | contextData
  /-- with a number plus the values of definitions in the same context -/
  | sum (definitions : List Int) (plus : Int)
  /-- with a number that tells the call apart from all others -/
  | count
deriving Repr

mutual

inductive Step where
  | context (config : Option Config) (data : Datum)
  | definition (script : List Call) (home length : Nat)
  | definitions (count : Nat) (script : List Call) (home length : Nat)
  | allocate (value : Datum)
  | get (definition : Int) (context : ContextName) (save : Bool)
  | remove (definition : Int) (context : ContextName)
  | put (definition : Int) (context : ContextName) (source : Source)
  | state (context : ContextName)
  | snapshot (context : ContextName)
  | data (context : ContextName)
  | unwrap (context : ContextName)
  | info (definition : Int)
  | dropDefinition (definition : Int)
  | dropContext (context : ContextName)
  | debug (definition : Int) (context : ContextName)
  | metrics

inductive Call where
  | mk (steps : List Step) (ending : Ending)

end

def Call.steps : Call → List Step
  | mk steps _ => steps

def Call.ending : Call → Ending
  | mk _ ending => ending

/-- The call with a given number: a script that has run out repeats its last call,
and an empty one counts. -/
def scriptedCall (script : List Call) (number : Nat) : Call :=
  match script[min number (script.length - 1)]? with
  | some call => call
  | none => .mk [] .count

end ContextCache.Scenario
