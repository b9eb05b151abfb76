import ContextCache.Document
import ContextCache.Reader
import ContextCache.Trial.Error

/-!
Contract: first reads of one value by several readers.

Each round creates a definition and a context. All readers read the value, and
then it is read once more; all must have been given the same allocation. Readers
take their turns one after the other, which is one of the orders in which they
may come.

Owns:
- the parameters, a round and the report of such a trial.

Does not own: other interleavings of the readers, and the clock.
-/

namespace ContextCache.Trial.Converge

/-- What the trial is run with. `spin` is the busy work in each computation, which
makes races likelier and shows in no report. -/
structure Parameters where
  threads : Nat := 8
  rounds : Nat := 100
  spin : Nat := 1000
deriving DecidableEq, Repr, Inhabited

structure Report where
  threads : Nat
  rounds : Nat
  computations : Nat
  maxComputationsInRound : Nat
  contendedRounds : Nat
  metrics : Metrics
deriving DecidableEq, Repr

/-- A trial between two rounds. -/
structure State where
  world : World
  allocations : Nat
  computations : Nat
  maxComputationsInRound : Nat
  contendedRounds : Nat

/-- A round's readers share the allocations made so far and the number of
computations in the round. -/
structure Round where
  allocations : Nat
  calls : Nat
deriving DecidableEq, Repr

/-- The computation of a round: it allocates one value and never fails. -/
def computation : Computation Round := fun running =>
  (.ok ⟨running.own.allocations⟩,
    { running with own := ⟨running.own.allocations + 1, running.own.calls + 1⟩ })

/-- One read. A round's value is never superseded, so a reader computes at most
once. -/
def readOnce (place : Place) (running : Running Round) :
    Option Allocation × Running Round :=
  let (answer, read) := running.read computation 1 place
  (answer.toOption, read)

/-- Lets `readers` readers read, and returns what they were given. -/
def readAll (place : Place) :
    Nat → Running Round → List (Option Allocation) × Running Round
  | 0, running => ([], running)
  | readers + 1, running =>
    let (answer, read) := readOnce place running
    let (others, finished) := readAll place readers read
    (answer :: others, finished)

def State.round (config : Config) (threads step : Nat) (state : State) : Except Error State :=
  let (definition, defined) := state.world.withRegistry Registry.define
  match defined.addContext config with
  | .error error => .error (.config error)
  | .ok (context, prepared) =>
    let place : Place := { definition, context }
    let (seen, read) := readAll place threads ⟨prepared, ⟨state.allocations, 0⟩⟩
    let (winner, finished) := readOnce place read
    if !seen.all (· == winner) then
      .error (.invariant step .differentValues)
    else if (finished.world.snapshot context).containsPromise then
      .error (.invariant step .leakedPromise)
    else
      let calls := finished.own.calls
      .ok
        { world := finished.world.dropDefinition definition
          allocations := finished.own.allocations
          computations := state.computations + calls
          maxComputationsInRound := max state.maxComputationsInRound calls
          contendedRounds := state.contendedRounds + if 1 < calls then 1 else 0 }

def State.runRounds (config : Config) (threads : Nat) : Nat → Nat → State → Except Error State
  | 0, _, state => .ok state
  | remaining + 1, step, state =>
    match state.round config threads step with
    | .error error => .error error
    | .ok finished => finished.runRounds config threads remaining (step + 1)

/-- Runs the trial in a world whose contexts have a given configuration. -/
def runIn (world : World) (config : Config) (parameters : Parameters) : Except Error Report :=
  if parameters.threads = 0 ∨ parameters.rounds = 0 then
    .error (.parameter .noReaders)
  else
    let start : State :=
      { world
        allocations := 0
        computations := 0
        maxComputationsInRound := 0
        contendedRounds := 0 }
    match start.runRounds config parameters.threads parameters.rounds 0 with
    | .error error => .error error
    | .ok state =>
      .ok
        { threads := parameters.threads
          rounds := parameters.rounds
          computations := state.computations
          maxComputationsInRound := state.maxComputationsInRound
          contendedRounds := state.contendedRounds
          metrics := state.world.metrics.since world.metrics }

def run (config : Config) (parameters : Parameters) : Except Error Report :=
  runIn World.initial config parameters

/-- A trial's report as a document, with the time that the trial took. -/
def Report.document (report : Report) (elapsedMicroseconds : Nat) : Document :=
  .record
    [("threads", .number report.threads),
      ("rounds", .number report.rounds),
      ("computations", .number report.computations),
      ("max_computations_in_round", .number report.maxComputationsInRound),
      ("contended_rounds", .number report.contendedRounds),
      ("elapsed_us", .number elapsedMicroseconds),
      ("metrics", report.metrics.document)]

end ContextCache.Trial.Converge
