import ContextCache.Reader
import ContextCache.Scenario.Script

/-!
Contract: the state of a running scenario.

Definitions and contexts are listed when they are created and stay in the list
when they are dropped, only marked as no longer listed. A read holds on to its
definition and its context: a dropped definition lives until the last read that
uses it has returned.

Owns:
- the lists, the contents of allocations, the log, and the names of things;
- holding on to what a read uses.

Does not own: what steps do.
-/

namespace ContextCache.Scenario

/-- What a scenario knows about a definition of its own. -/
structure DefinitionCard where
  key : DefinitionKey
  script : List Call
  listed : Bool
  calls : Nat

/-- What a scenario knows about a context. An index whose configuration was
rejected has no context and is never listed. -/
structure ContextCard where
  key : ContextKey
  data : Datum
  listed : Bool
deriving Repr

/-- A definition and a context, by their indices, that a read is using. -/
structure Use where
  definition : Nat
  context : Nat
deriving DecidableEq, Repr

inductive Missing where
  | noContext
  | noDefinition
  | contextNotAvailable
deriving DecidableEq, Repr

/-- A created definition: its index, its identity and its hash. -/
structure Created where
  index : Nat
  identity : Nat
  hash : UInt32
deriving DecidableEq, Repr

structure View where
  boundDefinitions : Nat
  capacity : Nat
  load : Nat
  loadLimit : Nat
  slots : Option String
deriving DecidableEq, Repr

inductive Reply where
  | nothing
  | value (value : Datum) (allocation : Allocation)
  | failed (failure : Failure)
deriving Repr

inductive Result where
  | missing (what : Missing)
  | rejected (error : ConfigError)
  | index (index : Nat)
  | created (definition : Created)
  | createdAll (definitions : List Created)
  | accessed (reply : Reply) (generation : Nat) (view : View)
  | viewed (view : View)
  | inspected (snapshot : Snapshot)
  | data (data : Datum) (config : Config)
  | unwrapped (data : Datum)
  | info (generation : Nat) (hash : UInt32) (identity calls : Nat)
  | dropped (wasListed : Bool)
  | debugTexts (context : String) (definition : Option String)
  | metrics (metrics : Metrics)
deriving Repr

/-- One line of the log: a finished step, and the number of computations that were
running around it. -/
structure Line where
  depth : Nat
  step : Step
  result : Result

/-- The state that a scenario keeps besides its world. -/
structure Ledger where
  definitions : Array DefinitionCard
  contexts : Array ContextCard
  holdings : Holdings
  uses : List Use
  calls : Nat
  showsSlots : Bool
  lines : Array Line

abbrev Session := Running Ledger

def Missing.message : Missing → String
  | noContext => "no context"
  | noDefinition => "no definition"
  | contextNotAvailable => "context not available"

namespace Ledger

def initial (showsSlots : Bool) : Ledger :=
  { definitions := #[]
    contexts := #[]
    holdings := Holdings.empty
    uses := []
    calls := 0
    showsSlots
    lines := #[] }

def allocate (ledger : Ledger) (value : Datum) : Allocation × Ledger :=
  let (allocation, holdings) := ledger.holdings.allocate value
  (allocation, { ledger with holdings })

def definition? (ledger : Ledger) (index : Int) : Option (Nat × DefinitionCard) :=
  match elementAt? ledger.definitions index with
  | some card => if card.listed then some (index.toNat, card) else none
  | none => none

/-- The card of a listed context, or of the surrounding one, listed or not. -/
def context? (ledger : Ledger) (surrounding : Option Nat) :
    ContextName → Option (Nat × ContextCard)
  | .listed index =>
    match elementAt? ledger.contexts index with
    | some card => if card.listed then some (index.toNat, card) else none
    | none => none
  | .surrounding =>
    surrounding.bind fun index => (ledger.contexts[index]?).map fun card => (index, card)

def source (ledger : Ledger) : Source → Allocation × Ledger
  | .fresh value => ledger.allocate value
  | .shared index otherwise =>
    match ledger.holdings.shared? index with
    | some allocation => (allocation, ledger)
    | none => ledger.allocate otherwise

/-- Counts a call of a definition and returns the call's number. -/
def countCall (ledger : Ledger) (index : Nat) : Nat × Ledger :=
  let number := ((ledger.definitions[index]?).map DefinitionCard.calls).getD 0
  (number,
    { ledger with
      definitions :=
        ledger.definitions.modify index fun card => { card with calls := card.calls + 1 }
      calls := ledger.calls + 1 })

def unlistDefinition (ledger : Ledger) (index : Nat) : Ledger :=
  { ledger with
    definitions := ledger.definitions.modify index fun card => { card with listed := false } }

def unlistContext (ledger : Ledger) (index : Nat) : Ledger :=
  { ledger with
    contexts := ledger.contexts.modify index fun card => { card with listed := false } }

def usesDefinition (ledger : Ledger) (index : Nat) : Bool :=
  ledger.uses.any fun use => use.definition == index

def usesContext (ledger : Ledger) (index : Nat) : Bool :=
  ledger.uses.any fun use => use.context == index

end Ledger

namespace Session

def withLedger (session : Session) (change : Ledger → Ledger) : Session :=
  { session with own := change session.own }

def hold (session : Session) (use : Use) : Session :=
  session.withLedger fun ledger => { ledger with uses := use :: ledger.uses }

/-- Drops a definition for good once it is neither listed nor used. -/
def buryDefinition (session : Session) (index : Nat) : Session :=
  match session.own.definitions[index]? with
  | none => session
  | some card =>
    if card.listed || session.own.usesDefinition index then session
    else { session with world := session.world.dropDefinition card.key }

def letGo (session : Session) (use : Use) : Session :=
  (session.withLedger fun ledger => { ledger with uses := ledger.uses.erase use }).buryDefinition
    use.definition

def view (session : Session) (key : ContextKey) : View :=
  let snapshot := session.world.snapshot key
  { boundDefinitions := (session.world.context key).boundDefinitions
    capacity := snapshot.capacity
    load := snapshot.load
    loadLimit := snapshot.loadLimit
    slots := if session.own.showsSlots then some snapshot.text else none }

def log (session : Session) (line : Line) : Session :=
  session.withLedger fun ledger => { ledger with lines := ledger.lines.push line }

end Session

end ContextCache.Scenario
