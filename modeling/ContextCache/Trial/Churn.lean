import ContextCache.Document
import ContextCache.Reader
import ContextCache.Trial.Error
import ContextCache.Trial.Random

/-!
Contract: random traffic on one context, checked against a plain model.

A pool of definitions is read, removed and put in one context in an order that a
seed decides. The model remembers for each definition the value that must be
bound, if any. Every read is compared with it, and after every step the table is
audited and the bindings are counted.

Owns:
- the parameters, the step, the checks and the report of a churn.

Does not own: the audit of a table, and the generator.
-/

namespace ContextCache.Trial.Churn

structure Parameters where
  seed : UInt64 := 0xdeadbeef
  operations : Nat := 10000
  definitions : Nat := 64
  config : Config :=
    { initialEntries := 8, probeLimit := 3, loadPercent := 67, maxEntries := 256 }
deriving DecidableEq, Repr, Inhabited

/-- Marks the values that were put and not computed. -/
def putTag : UInt64 := 0x8000000000000000

/-- The values by their allocations, and how often each definition computed. -/
structure Heap where
  values : Array UInt64
  calls : Array Nat
deriving Repr

namespace Heap

def create (definitions : Nat) : Heap :=
  ⟨#[], Array.replicate definitions 0⟩

def allocate (heap : Heap) (value : UInt64) : Allocation × Heap :=
  (⟨heap.values.size⟩, { heap with values := heap.values.push value })

def value (heap : Heap) (allocation : Allocation) : UInt64 :=
  heap.values.getD allocation.serial 0

/-- The value of a definition's computation: the definition's place in the pool in
the upper half, and the number of its earlier computations in the lower. -/
def compute (heap : Heap) (definition : Nat) : Allocation × Heap :=
  let earlier := heap.calls.getD definition 0
  { heap with calls := heap.calls.modify definition (· + 1) }.allocate
    ((UInt64.ofNat definition <<< 32) ||| UInt64.ofNat earlier)

def computations (heap : Heap) : Nat :=
  heap.calls.foldl (· + ·) 0

end Heap

/-- A churn between two steps. -/
structure State where
  running : Running Heap
  random : Random
  model : Array (Option UInt64)
  gets : Nat
  removes : Nat
  puts : Nat
  peakLoad : Nat

/-- The pool of definitions and the context that a churn works on. -/
structure Setup where
  definitions : Array DefinitionKey
  context : ContextKey
deriving Repr

structure Report where
  parameters : Parameters
  gets : Nat
  removes : Nat
  puts : Nat
  computations : Nat
  finalCapacity : Nat
  peakLoad : Nat
  boundDefinitions : Nat
  metrics : Metrics
deriving DecidableEq, Repr

def Setup.place (setup : Setup) (definition : Nat) : Place :=
  ⟨setup.definitions.getD definition 0, setup.context⟩

/-- The computation of a definition of the pool, which never fails. -/
def computation (definition : Nat) : Computation Heap := fun running =>
  let (allocation, heap) := running.own.compute definition
  (.ok allocation, { running with own := heap })

namespace State

def remove (setup : Setup) (definition : Nat) (state : State) : State :=
  { state with
    running :=
      { state.running with world := state.running.world.remove (setup.place definition) }
    model := state.model.setIfInBounds definition none
    removes := state.removes + 1 }

def put (setup : Setup) (definition : Nat) (value : UInt64) (state : State) : State :=
  let (allocation, heap) := state.running.own.allocate value
  { state with
    running := ⟨state.running.world.put (setup.place definition) allocation, heap⟩
    model := state.model.setIfInBounds definition (some value)
    puts := state.puts + 1 }

/-- Compares a read with what the model holds for the definition. An unbound
definition has to give a value that it computed itself. -/
def compare (definition : Nat) (expected : Option UInt64) (got : UInt64) : Except Fault Unit :=
  match expected with
  | some expected =>
    if expected ≠ got then .error (.wrongValue definition expected got) else .ok ()
  | none =>
    if got &&& putTag ≠ 0 ∨ (got >>> 32).toNat ≠ definition then
      .error (.unboundRead definition got)
    else
      .ok ()

def get (setup : Setup) (definition : Nat) (state : State) : Except Fault State :=
  match state.running.read (computation definition) 1 (setup.place definition) with
  | (.ok allocation, running) =>
    let got := running.own.value allocation
    match compare definition (state.model.getD definition none) got with
    | .error fault => .error fault
    | .ok () =>
      .ok { state with
        running
        model := state.model.setIfInBounds definition (some got)
        gets := state.gets + 1 }
  | (.error _, _) => .error (.unanswered definition)

/-- One access that the generator decides: two draws, for the definition and for
what is done with it. -/
def access (setup : Setup) (step : Nat) (state : State) : Except Fault State :=
  let (definition, random) := state.random.below (UInt64.ofNat setup.definitions.size)
  let (choice, random) := random.below 8
  let definition := (definition.getD 0).toNat
  let drawn := { state with random }
  if choice = some 0 then
    .ok (drawn.remove setup definition)
  else if choice = some 1 then
    .ok (drawn.put setup definition (putTag ||| UInt64.ofNat step))
  else
    drawn.get setup definition

def expectedBindings (state : State) : Nat :=
  state.model.foldl (fun count value => if value.isSome then count + 1 else count) 0

/-- The checks after a step, and the greatest load seen so far. -/
def inspect (setup : Setup) (state : State) : Except Fault State :=
  let snapshot := state.running.world.snapshot setup.context
  match snapshot.audit with
  | .error fault => .error (.snapshot fault)
  | .ok () =>
    let bindings := (state.running.world.context setup.context).boundDefinitions
    if bindings ≠ state.expectedBindings then
      .error (.bindingCount bindings state.expectedBindings)
    else
      .ok { state with peakLoad := max state.peakLoad snapshot.load }

def advance (setup : Setup) (step : Nat) (state : State) : Except Fault State :=
  (state.access setup step).bind (inspect setup)

def runSteps (setup : Setup) : Nat → Nat → State → Except Error State
  | 0, _, state => .ok state
  | remaining + 1, step, state =>
    ((state.advance setup step).mapError (Error.invariant step)).bind
      (runSteps setup remaining (step + 1))

end State

/-- Adds a new definition to a pool. -/
def enlargePool (pool : Array DefinitionKey × World) : Array DefinitionKey × World :=
  let (key, world) := pool.2.withRegistry Registry.define
  (pool.1.push key, world)

def createPool (count : Nat) (world : World) : Array DefinitionKey × World :=
  Nat.repeat enlargePool count (#[], world)

def State.report (parameters : Parameters) (before : Metrics) (setup : Setup) (state : State) :
    Report :=
  let world := state.running.world
  { parameters
    gets := state.gets
    removes := state.removes
    puts := state.puts
    computations := state.running.own.computations
    finalCapacity := (world.snapshot setup.context).capacity
    peakLoad := state.peakLoad
    boundDefinitions := (world.context setup.context).boundDefinitions
    metrics := world.metrics.since before }

def runIn (world : World) (parameters : Parameters) : Except Error Report :=
  match parameters.config.validate with
  | .error error => .error (.config error)
  | .ok () =>
    if parameters.definitions = 0 then
      .error (.parameter .noDefinitions)
    else
      let (definitions, pooled) := createPool parameters.definitions world
      match pooled.addContext parameters.config with
      | .error error => .error (.config error)
      | .ok (context, prepared) =>
        let setup : Setup := { definitions, context }
        let start : State :=
          { running := ⟨prepared, Heap.create parameters.definitions⟩
            random := Random.ofSeed parameters.seed
            model := Array.replicate parameters.definitions none
            gets := 0
            removes := 0
            puts := 0
            peakLoad := 0 }
        match start.runSteps setup parameters.operations 0 with
        | .error error => .error error
        | .ok state => .ok (state.report parameters world.metrics setup)

def run (parameters : Parameters) : Except Error Report :=
  runIn World.initial parameters

def Report.document (report : Report) : Document :=
  .record
    [("seed", .number report.parameters.seed.toNat),
      ("ops", .number report.parameters.operations),
      ("gets", .number report.gets),
      ("removes", .number report.removes),
      ("puts", .number report.puts),
      ("computations", .number report.computations),
      ("final_capacity", .number report.finalCapacity),
      ("peak_load", .number report.peakLoad),
      ("bound_definitions", .number report.boundDefinitions),
      ("config", report.parameters.config.document),
      ("metrics", report.metrics.document)]

end ContextCache.Trial.Churn
