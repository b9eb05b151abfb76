import ContextCache.Reader

/-!
Contract: programs that read, remove and put, and two machines that run them.

A task is a finite tree. Each read in it brings along what its computation does, which is
again a task, and how the program goes on with the result. Computations may look at
everything that has been observed so far, so they may count, and behave differently each
time. One machine runs tasks on contexts with tables and generations. The other one keeps a
plain map from places to cells and nothing else.

Owns:
- tasks, observations and what it takes to run them;
- the machine on contexts and the machine on plain cells.

Does not own: that the two machines cannot be told apart.
-/

set_option autoImplicit false

namespace ContextCache

/-- What a program observes. -/
inductive Observation where
  | began (place : Place)
  | got (place : Place) (result : Except Failure Allocation)
  | removed (place : Place)
  | put (place : Place) (allocation : Allocation)

/-- All observations so far, the latest first. -/
abbrev Log := List Observation

/-- What a computation does before it ends. `attempts` bounds how often a read computes. -/
inductive Task where
  | finish (result : Except Failure Allocation)
  | get (place : Place) (attempts : Nat) (body : Log → Task)
      (next : Except Failure Allocation → Task)
  | remove (place : Place) (next : Task)
  | put (place : Place) (allocation : Allocation) (next : Task)

/-- What it takes to run tasks. -/
structure Machine (σ : Type) where
  log : σ → Log
  note : Observation → σ → σ
  get : (σ → Except Failure Allocation × σ) → Nat → Place → σ → Except Failure Allocation × σ
  remove : Place → σ → σ
  put : Place → Allocation → σ → σ

namespace Task

/-- Runs a task. -/
def run {σ : Type} (machine : Machine σ) : Task → σ → Except Failure Allocation × σ
  | .finish result, state => (result, state)
  | .get place attempts body next, state =>
    let computation := fun begun =>
      let noted := machine.note (.began place) begun
      (body (machine.log noted)).run machine noted
    let (result, reached) := machine.get computation attempts place state
    (next result).run machine (machine.note (.got place result) reached)
  | .remove place next, state =>
    next.run machine (machine.note (.removed place) (machine.remove place state))
  | .put place allocation next, state =>
    next.run machine (machine.note (.put place allocation) (machine.put place allocation state))

/-- The task works on these places only, and so do its computations. -/
def Within (places : Place → Prop) : Task → Prop
  | .finish _ => True
  | .get place _ body next =>
    places place ∧ (∀ log, (body log).Within places) ∧ ∀ result, (next result).Within places
  | .remove place next => places place ∧ next.Within places
  | .put place _ next => places place ∧ next.Within places

end Task

/-! ### The machine on contexts -/

namespace Running

/-- Tasks run on a world. -/
def machine : Machine (Running Log) where
  log := Running.own
  note := fun observation running => { running with own := observation :: running.own }
  get := Running.read
  remove := fun place running => { running with world := running.world.remove place }
  put := fun place allocation running =>
    { running with world := running.world.put place allocation }

end Running

/-! ### The machine on plain cells -/

/-- What a place may be. -/
inductive Cell where
  | unbound
  | pending
  | bound (allocation : Allocation)
deriving DecidableEq, Repr

/-- A map from places to cells, and what has been observed. -/
structure Plain where
  cells : Place → Cell
  own : Log

namespace Plain

def set (plain : Plain) (place : Place) (cell : Cell) : Plain :=
  { plain with cells := fun other => if other = place then cell else plain.cells other }

/-- A failed computation gives its place up, unless somebody else has settled it. -/
def withdraw (plain : Plain) (place : Place) : Plain :=
  if plain.cells place = .pending then plain.set place .unbound else plain

/-- The bound value, or else a pending place. -/
def enter (plain : Plain) (place : Place) : Option Allocation × Plain :=
  match plain.cells place with
  | .bound allocation => (some allocation, plain)
  | _ => (none, plain.set place .pending)

/-- Computes until a value comes while the place is still pending, or a value has been bound
by somebody else. -/
def settle (computation : Plain → Except Failure Allocation × Plain) (place : Place) :
    Nat → Plain → Except Failure Allocation × Plain
  | 0, plain => (.error .abandoned, plain.withdraw place)
  | attempts + 1, plain =>
    match computation plain with
    | (.error failure, computed) => (.error failure, computed.withdraw place)
    | (.ok allocation, computed) =>
      if computed.cells place = .pending then
        (.ok allocation, computed.set place (.bound allocation))
      else
        match computed.enter place with
        | (some answer, entered) => (.ok answer, entered)
        | (none, entered) => settle computation place attempts entered

def get (computation : Plain → Except Failure Allocation × Plain) (attempts : Nat)
    (place : Place) (plain : Plain) : Except Failure Allocation × Plain :=
  match plain.enter place with
  | (some answer, entered) => (.ok answer, entered)
  | (none, entered) => settle computation place attempts entered

/-- Only a bound value is removed. -/
def remove (plain : Plain) (place : Place) : Plain :=
  match plain.cells place with
  | .bound _ => plain.set place .unbound
  | _ => plain

/-- Tasks run on plain cells. -/
def machine : Machine Plain where
  log := Plain.own
  note := fun observation plain => { plain with own := observation :: plain.own }
  get := Plain.get
  remove := fun place plain => plain.remove place
  put := fun place allocation plain => plain.set place (.bound allocation)

end Plain

end ContextCache
