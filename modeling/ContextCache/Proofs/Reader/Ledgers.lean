import ContextCache.Proofs.Reader.Pieces
import ContextCache.Proofs.Reader.Routines

/-!
Contract: a ledger kept beside a running program.

The counters of a program are words that many calls add to. To say what they amount to, every
call is entered into a ledger when it is made, together with what it has found, and so is the
begin of every computation and every value that is accepted. The ledger is kept by the side:
nothing in the program or in its contexts depends on it, and with the ledger forgotten the
program runs as it does without.

Owns:
- the items of a ledger, and what calls that may invalidate find at their place;
- reads and routines that keep a ledger;
- that keeping a ledger changes nothing else.

Does not own: what the ledger of a run adds up to.
-/

set_option autoImplicit false

namespace ContextCache

/-- What a call finds at its place. -/
structure Finding where
  defined : Bool
  binding : Option Entry
  current : Token

namespace Finding

/-- A computed or put value is bound there. -/
def isValue (finding : Finding) : Bool :=
  finding.binding.any fun bound => !bound.isPromise

/-- This very allocation is bound there, under the definition's current generation. -/
def isAlready (finding : Finding) (allocation : Allocation) : Bool :=
  finding.binding.any fun bound => bound.holds allocation && bound.hasTag finding.current

end Finding

/-- What a ledger lists. -/
inductive Item where
  | got (place : Place)
  | began (place : Place)
  | committed (place : Place)
  | removed (place : Place) (finding : Finding)
  | put (place : Place) (allocation : Allocation) (finding : Finding)

/-- All that has been entered so far, the latest first. -/
abbrev Ledger := List Item

namespace Item

@[simp] def isGet : Item → Bool
  | got _ => true
  | _ => false

@[simp] def isBegun : Item → Bool
  | began _ => true
  | _ => false

@[simp] def isCommit : Item → Bool
  | committed _ => true
  | _ => false

/-- A removal that found a value. -/
@[simp] def isEffectiveRemoval : Item → Bool
  | removed _ finding => finding.isValue
  | _ => false

/-- A removal that found a value of the definition, in whatever context, or a put that found
it bound or promised and was not the put of what is bound already. Only the calls of a
definition that exists are meant: there are no other ones. -/
@[simp] def supersedes (key : DefinitionKey) : Item → Bool
  | removed place finding => place.definition == key && finding.defined && finding.isValue
  | put place allocation finding =>
    place.definition == key && finding.defined && finding.binding.isSome &&
      !finding.isAlready allocation
  | _ => false

end Item

namespace World

def finding (world : World) (place : Place) : Finding where
  defined := place.definition < world.registry.definitions.size
  binding := world.binding? place
  current := world.registry.current place.definition

/-- Whether the value of a computation is accepted: its promise is still bound. -/
def accepts (world : World) (place : Place) (promise : Entry) (allocation : Allocation) : Bool :=
  (world.withStore place.context fun opened =>
    let (candidate, minted) := opened.mint fun serial => promise.fulfil serial allocation
    minted.finish place.definition candidate).1.isSome

end World

/-- A program's own state with a ledger beside it. -/
structure Kept (ρ : Type) where
  ledger : Ledger
  own : ρ

namespace Running

variable {ρ : Type}

/-- Leaves the ledger out. -/
def forget (running : Running (Kept ρ)) : Running ρ :=
  ⟨running.world, running.own.own⟩

def enlist (running : Running (Kept ρ)) (item : Item) : Running (Kept ρ) :=
  { running with own := { running.own with ledger := item :: running.own.ledger } }

/-- Computes under a promise and concludes, and enters what comes of it. -/
def settleKept (computation : Computation (Kept ρ)) (place : Place) :
    Nat → Entry → Computation (Kept ρ)
  | 0, promise, running => running.fail place promise .abandoned
  | attempts + 1, promise, running =>
    match computation running with
    | (.error failure, computed) => computed.fail place promise failure
    | (.ok allocation, computed) =>
      match computed.world.publish place promise allocation with
      | (.answered answer, world) =>
        let answered := { computed with world }
        (.ok answer,
          if computed.world.accepts place promise allocation then
            answered.enlist (.committed place)
          else answered)
      | (.compute next, world) =>
        settleKept computation place attempts next
          ({ computed with world : Running (Kept ρ) }.enlist (.began place))

/-- Reads a definition's value, and enters the call and the begin of its computation. -/
def readKept (computation : Computation (Kept ρ)) (attempts : Nat) (place : Place) :
    Computation (Kept ρ) :=
  fun running =>
    let called := running.enlist (.got place)
    match running.world.beginRead place with
    | (.answered answer, world) => (.ok answer, { called with world })
    | (.compute promise, world) =>
      settleKept computation place attempts promise
        ({ called with world : Running (Kept ρ) }.enlist (.began place))

end Running

/-- What is entered for an errand. -/
def Errand.item? (world : World) : Errand → Option Item
  | .remove place => some (.removed place (world.finding place))
  | .put place allocation => some (.put place allocation (world.finding place))
  | _ => none

/-- Runs a routine and keeps a ledger. -/
def Routine.keep {ρ : Type} : Routine ρ → Computation (Kept (Progress ρ))
  | .finish result, running => (result, running)
  | .note change next, running =>
    next.keep
      { running with
        own :=
          { running.own with
            own := { running.own.own with own := change running.own.own.own } } }
  | .errand chosen next, running =>
    let (created, world) := chosen.run running.world
    let done := { running with world }
    let entered := ((chosen.item? running.world).map done.enlist).getD done
    (next created running.own.own.own).keep entered
  | .get place attempts body next, running =>
    let computation := fun begun : Running (Kept (Progress ρ)) =>
      (body begun.own.own.own).keep
        { begun with
          own := { begun.own with own := begun.own.own.call place.definition } }
    let (result, reached) := Running.readKept computation attempts place running
    (next result reached.own.own.own).keep reached

/-! ### The ledger is kept by the side -/

namespace Running

variable {ρ : Type} {kept : Computation (Kept ρ)} {plain : Computation ρ}

/-- With the ledger left out the first computation is the second one. -/
def Forgets (kept : Computation (Kept ρ)) (plain : Computation ρ) : Prop :=
  ∀ running, ((kept running).1, (kept running).2.forget) = plain running.forget

theorem forgets_settle (forgets : Forgets kept plain) (place : Place) (attempts : Nat) :
    ∀ promise, Forgets (settleKept kept place attempts promise)
      (settle plain place attempts promise) := by
  induction attempts with
  | zero => exact fun promise running => rfl
  | succ attempts inductionHypothesis =>
      intro promise running
      unfold settleKept settle
      rw [← forgets running]
      generalize kept running = result
      obtain ⟨result, computed⟩ := result
      cases result with
      | error failure => rfl
      | ok allocation =>
          dsimp only [forget]
          generalize computed.world.publish place promise allocation = published
          obtain ⟨step, world⟩ := published
          cases step with
          | answered answer =>
              dsimp only
              split <;> rfl
          | compute next =>
              exact inductionHypothesis next
                ({ computed with world : Running (Kept ρ) }.enlist (.began place))

theorem forgets_read (forgets : Forgets kept plain) (attempts : Nat) (place : Place) :
    Forgets (readKept kept attempts place) (read plain attempts place) := by
  intro running
  unfold readKept read
  dsimp only [forget]
  generalize running.world.beginRead place = begun
  obtain ⟨step, world⟩ := begun
  cases step with
  | answered answer => rfl
  | compute promise =>
      exact forgets_settle forgets place attempts promise
        ({ running.enlist (.got place) with world : Running (Kept ρ) }.enlist (.began place))

end Running

/-- A routine runs the same with and without a ledger. -/
theorem Routine.forgets_keep {ρ : Type} (routine : Routine ρ) :
    Running.Forgets routine.keep routine.run := by
  induction routine with
  | finish result => exact fun running => rfl
  | note change next inductionHypothesis => exact fun running => inductionHypothesis _
  | errand chosen next inductionHypothesis =>
      intro running
      unfold Routine.keep Routine.run
      dsimp only
      rw [inductionHypothesis]
      cases chosen <;> rfl
  | get place attempts body next bodyHypothesis nextHypothesis =>
      intro running
      let computation := fun begun : Running (Kept (Progress ρ)) =>
        (body begun.own.own.own).keep
          { begun with
            own := { begun.own with own := begun.own.own.call place.definition } }
      have forgets : Running.Forgets computation fun begun =>
          (body begun.own.own).run { begun with own := begun.own.call place.definition } :=
        fun begun => bodyHypothesis _ _
      have same := Running.forgets_read forgets attempts place running
      unfold Routine.keep Routine.run
      dsimp only
      rw [nextHypothesis, ← same]
      rfl

end ContextCache
