import ContextCache.Reader

/-!
Contract: whatever a computation may do.

A routine is a finite tree of errands and reads. An errand is one call of the library that
runs no computation: it removes or puts a value, or creates, drops, holds or releases
something. Each read brings along what its own computation does, which is again a routine.
A routine keeps a state of its own, which it may change and go by at any time, and goes on
with the outcome of each errand and read. It does not inspect contexts: that changes nothing,
and a promise would show in it. Besides, it is counted how often each definition has computed.

Owns:
- errands, routines and how they run;
- routines that leave a place alone.

Does not own: what a routine does to the read that it runs in.
-/

set_option autoImplicit false

namespace ContextCache

/-- One call of the library that runs no computation. -/
inductive Errand where
  | remove (place : Place)
  | put (place : Place) (allocation : Allocation)
  | define
  | drop (key : DefinitionKey)
  | hold (key : DefinitionKey)
  | release (key : DefinitionKey)
  | addContext (config : Config)

/-- Runs an errand, and returns the key of what it has created. -/
def Errand.run : Errand → World → Option Nat × World
  | .remove place, world => (none, world.remove place)
  | .put place allocation, world => (none, world.put place allocation)
  | .define, world => (world.withRegistry Registry.define).map some id
  | .drop key, world => world.withRegistry fun registry => (none, registry.drop key)
  | .hold key, world => world.withRegistry fun registry => (none, registry.hold key)
  | .release key, world => world.withRegistry fun registry => (none, registry.release key)
  | .addContext config, world =>
    match world.addContext config with
    | .ok (key, added) => (some key, added)
    | .error _ => (none, world)

/-- The errand neither works on the place nor drops its definition. -/
def Errand.Avoids (place : Place) : Errand → Prop
  | .remove worked => worked ≠ place
  | .put worked _ => worked ≠ place
  | .drop key => key ≠ place.definition
  | _ => True

/-- What a program keeps for itself: how often each definition has computed, and a state. -/
structure Progress (ρ : Type) where
  calls : DefinitionKey → Nat
  own : ρ

/-- Counts a computation of a definition. -/
def Progress.call {ρ : Type} (progress : Progress ρ) (key : DefinitionKey) : Progress ρ :=
  { progress with
    calls := fun other =>
      if other = key then progress.calls other + 1 else progress.calls other }

/-- What a computation does before it ends. `attempts` bounds how often a read computes. -/
inductive Routine (ρ : Type) where
  | finish (result : Except Failure Allocation)
  | note (change : ρ → ρ) (next : Routine ρ)
  | errand (chosen : Errand) (next : Option Nat → ρ → Routine ρ)
  | get (place : Place) (attempts : Nat) (body : ρ → Routine ρ)
      (next : Except Failure Allocation → ρ → Routine ρ)

namespace Routine

variable {ρ : Type}

/-- Runs a routine. -/
def run : Routine ρ → Computation (Progress ρ)
  | .finish result, running => (result, running)
  | .note change next, running =>
    next.run { running with own := { running.own with own := change running.own.own } }
  | .errand chosen next, running =>
    let (created, world) := chosen.run running.world
    (next created running.own.own).run { running with world }
  | .get place attempts body next, running =>
    let computation := fun begun =>
      (body begun.own.own).run { begun with own := begun.own.call place.definition }
    let (result, reached) := Running.read computation attempts place running
    (next result reached.own.own).run reached

/-- The routine as the computation of a definition. -/
def compute (key : DefinitionKey) (routine : Routine ρ) : Computation (Progress ρ) :=
  fun begun => routine.run { begun with own := begun.own.call key }

/-- A read runs the routine that it brings along as a computation of its definition. -/
theorem run_get (place : Place) (attempts : Nat) (body : ρ → Routine ρ)
    (next : Except Failure Allocation → ρ → Routine ρ) (running : Running (Progress ρ)) :
    (get place attempts body next).run running =
      let ended := Running.read (fun begun => (body begun.own.own).compute place.definition begun)
        attempts place running
      (next ended.1 ended.2.own.own).run ended.2 :=
  rfl

/-- Neither the routine nor any computation in it works on the place or drops its
definition. -/
def Avoids (place : Place) : Routine ρ → Prop
  | .finish _ => True
  | .note _ next => next.Avoids place
  | .errand chosen next => chosen.Avoids place ∧ ∀ created own, (next created own).Avoids place
  | .get worked _ body next =>
    worked ≠ place ∧ (∀ own, (body own).Avoids place) ∧
      ∀ result own, (next result own).Avoids place

end Routine

end ContextCache
