import ContextCache.World

/-!
Contract: reading a definition's value in a context.

A read first looks into the context's table. If that does not answer, it turns to
the store, which gives the bound value or the duty to compute one. Nothing is
open while a computation runs, so the computation may itself read, remove and put
values, also the very one that it computes. When it ends, its value is published
if its promise is still bound, and otherwise thrown away and the read starts over.
A failure retracts the promise and is passed on unchanged. So does a read that has
used up its attempts: giving up is one more way to fail.

Owns:
- the steps between which a computation runs, and the loop around them.

Does not own: what a computation does.
-/

namespace ContextCache

/-- How a read or a computation ends without a value: with an error or a panic of
a computation, or because its values kept coming too late until the attempts of
the read were used up. -/
inductive Failure where
  | error (message : String)
  | panic (message : String)
  | abandoned
deriving DecidableEq, Repr

/-- Where a read stands: it has its answer, or it has to compute under a promise. -/
inductive ReadStep where
  | answered (allocation : Allocation)
  | compute (promise : Entry)
deriving DecidableEq, Repr

namespace World

/-- Looks into the context's table. A value found behind its home slot is moved
there. -/
def lookup (world : World) (place : Place) : Option Allocation × World :=
  match world.store? place.context with
  | none => (none, world)
  | some store =>
    let hash := world.registry.hash place.definition
    let token := world.registry.current place.definition
    match store.table.probeHome hash token with
    | some allocation => (some allocation, world.count .homeHits)
    | none =>
      match store.table.probeBackup store.config.probeLimit hash token with
      | none => (none, world)
      | some (_, allocation) =>
        let (moved, promoted) := (world.count .backupHits).withStore place.context fun opened =>
          opened.promote place.definition store.table.capacity
        (some allocation, if moved then promoted.count .relocations else promoted)

/-- Starts an entry in the context's store. An entry with a value answers the read,
and an entry without one has to be computed. -/
def startEntry (world : World) (place : Place) : ReadStep × World :=
  let (entry, started) := world.withStore place.context fun opened =>
    opened.start place.definition
  match entry.value? with
  | some allocation => (.answered allocation, started)
  | none => (.compute entry, started.count .computations)

/-- The steps of a read up to its answer or its first computation. -/
def beginRead (world : World) (place : Place) : ReadStep × World :=
  match world.lookup place with
  | (some allocation, found) => (.answered allocation, found)
  | (none, missed) => (missed.count .mapLookups).startEntry place

/-- Takes back the promise of a computation that failed. -/
def retract (world : World) (place : Place) (promise : Entry) : World :=
  ((world.count .computeFailures).withStore place.context fun opened =>
    opened.finish place.definition promise).2

/-- Publishes the value of a computation, and starts over if its promise has been
superseded. -/
def publish (world : World) (place : Place) (promise : Entry) (allocation : Allocation) :
    ReadStep × World :=
  let (committed, finished) := world.withStore place.context fun opened =>
    let (candidate, minted) := opened.mint fun serial => promise.fulfil serial allocation
    minted.finish place.definition candidate
  match committed with
  | some _ => (.answered allocation, finished)
  | none => (finished.count .publishRetries).startEntry place

end World

/-- A world and the state that the program running in it keeps for itself. -/
structure Running (ρ : Type) where
  world : World
  own : ρ

/-- What a computation does: it runs on, and ends with an allocation or a failure. A
read is a computation too, so reads nest. -/
abbrev Computation (ρ : Type) := Running ρ → Except Failure Allocation × Running ρ

namespace Running

variable {ρ : Type}

/-- Takes back a promise and passes a failure on. -/
def fail (running : Running ρ) (place : Place) (promise : Entry) (failure : Failure) :
    Except Failure Allocation × Running ρ :=
  (.error failure, { running with world := running.world.retract place promise })

/-- Computes under a promise and concludes, and again as long as the value comes
too late, at most `attempts` times. -/
def settle (computation : Computation ρ) (place : Place) : Nat → Entry → Computation ρ
  | 0, promise, running => running.fail place promise .abandoned
  | attempts + 1, promise, running =>
    match computation running with
    | (.error failure, computed) => computed.fail place promise failure
    | (.ok allocation, computed) =>
      match computed.world.publish place promise allocation with
      | (.answered answer, world) => (.ok answer, { computed with world })
      | (.compute next, world) =>
        settle computation place attempts next { computed with world }

/-- Reads a definition's value in a context, computing at most `attempts` times. -/
def read (computation : Computation ρ) (attempts : Nat) (place : Place) : Computation ρ :=
  fun running =>
    match running.world.beginRead place with
    | (.answered answer, world) => (.ok answer, { running with world })
    | (.compute promise, world) =>
      settle computation place attempts promise { running with world }

end Running

end ContextCache
