import ContextCache.Proofs.Reader.Pieces
import ContextCache.Proofs.Store.Edits

/-!
Contract: many readers at once, each in the loop of its own read.

A reader looks into the table, starts, computes while nothing is open, and commits or
retracts; if its value comes too late it starts again. Any number of readers do this in any
order, and in between anything else may happen to the world: values are removed and put, in
these contexts and in others, and definitions and contexts come and go. A read inside a
computation is a reader of its own, so nesting is one of the orders.

Owns:
- where a reader may stand, and what it does there;
- crowds, their steps and runs, and the crowds that can come about;
- that every definition that is being read exists, and every crowd's world can come about.

Does not own: what follows for the promises and values that readers hand in.
-/

set_option autoImplicit false

namespace ContextCache

/-- A reader, by number. -/
abbrev ReaderKey := Nat

/-- Where a reader stands. -/
inductive Stage where
  | idle
  /-- the table did not answer, or the last value came too late -/
  | missed (place : Place)
  | computing (place : Place) (token : Token)
  | answered (place : Place) (allocation : Allocation)
deriving DecidableEq, Repr

/-- The place that is being read. -/
def Stage.place? : Stage → Option Place
  | missed place => some place
  | computing place _ => some place
  | _ => none

/-- What a reader does in one step. -/
inductive Action where
  /-- the table answers its lookup -/
  | found (allocation : Allocation)
  /-- its lookup finds nothing -/
  | missed
  /-- the bound value answers its start -/
  | answered (allocation : Allocation)
  /-- it starts and begins to compute under the token's promise -/
  | began (token : Token)
  /-- it hands in its value, which is accepted -/
  | committed (allocation : Allocation)
  /-- it hands in its value, which comes too late -/
  | discarded (allocation : Allocation)
  /-- its computation fails, and it hands in its promise -/
  | failed (token : Token)
  /-- it goes away with its answer -/
  | returned
deriving DecidableEq, Repr

/-- What happens to a crowd. -/
inductive Happening where
  | read (reader : ReaderKey) (place : Place) (action : Action)
  | other (event : Event)
deriving DecidableEq, Repr

/-- The reader that moves. -/
def Happening.reader? : Happening → Option ReaderKey
  | read reader _ _ => some reader
  | other _ => none

/-- The steps of the protocol that readers take, and nobody else. -/
def Operation.isOfRead : Operation → Bool
  | .start => true
  | .commit _ _ => true
  | .retract _ => true
  | _ => false

def Event.isOfRead : Event → Bool
  | .operated _ operation _ => operation.isOfRead
  | .passed => false

/-! ### What a reader learns from its steps -/

namespace World

variable {world : World} {place : Place} {token : Token} {allocation : Allocation} {entry : Entry}

theorem Sound.start_answered (sound : world.Sound) (usable : world.Usable place)
    (started : (world.operate place .start).1 = .started entry)
    (carries : entry.value? = some allocation) :
    world.value? place = some allocation ∧
      (world.operate place .start).2.value? place = some allocation := by
  have effect := sound.effect_operate usable .start
  rw [started] at effect
  cases effect with
  | promised => cases carries
  | answered held registry bound =>
      exact ⟨held.trans carries, (OpenStore.value?_of_binding? bound).trans carries⟩

theorem Sound.start_promised (sound : world.Sound) (usable : world.Usable place)
    (started : (world.operate place .start).1 = .started (.promise token)) :
    world.value? place = none ∧ token = world.registry.current place.definition ∧
      (world.operate place .start).2.binding? place = some (.promise token) := by
  have effect := sound.effect_operate usable .start
  rw [started] at effect
  cases effect with
  | promised vacant registry bound => exact ⟨vacant, rfl, bound⟩

theorem Sound.commit_accepted (sound : world.Sound) (usable : world.Usable place)
    (accepted : (world.operate place (.commit token allocation)).1 = .finished (some entry)) :
    world.binding? place = some (.promise token) ∧
      (world.operate place (.commit token allocation)).2.value? place = some allocation := by
  have effect := sound.effect_operate usable (.commit token allocation)
  rw [accepted] at effect
  cases effect with
  | committed promised registry bound => exact ⟨promised, OpenStore.value?_of_binding? bound⟩

theorem Sound.commit_refused (sound : world.Sound) (usable : world.Usable place)
    (refused : (world.operate place (.commit token allocation)).1 = .finished none) :
    world.binding? place ≠ some (.promise token) ∧
      (world.operate place (.commit token allocation)).2.binding? place =
        world.binding? place := by
  have effect := sound.effect_operate usable (.commit token allocation)
  rw [refused] at effect
  cases effect with
  | discarded superseded registry same =>
      exact ⟨superseded, congrArg (fun store => store.binding? place.definition) same⟩

end World

/-- A world and its readers. -/
structure Crowd where
  world : World
  stage : ReaderKey → Stage

namespace Crowd

/-- Nobody reads, and nothing has happened yet. -/
def initial : Crowd :=
  { world := World.initial, stage := fun _ => .idle }

/-- One reader has moved, and the world with it. -/
def move (crowd : Crowd) (reader : ReaderKey) (world : World) (stage : Stage) : Crowd :=
  { world, stage := fun other => if other = reader then stage else crowd.stage other }

/-- What can happen to a crowd. A lookup holds nothing fast, so it may miss whatever the
table holds. A definition is not dropped as long as somebody reads it. -/
inductive Step (crowd : Crowd) : Happening → Crowd → Prop where
  | found {reader : ReaderKey} {place : Place} {allocation : Allocation}
      (free : crowd.stage reader = .idle) (usable : crowd.world.Usable place)
      (answers : (crowd.world.openStore place.context).answer? place.definition =
        some allocation) :
      Step crowd (.read reader place (.found allocation))
        (crowd.move reader crowd.world (.answered place allocation))
  | missed {reader : ReaderKey} {place : Place} (free : crowd.stage reader = .idle)
      (usable : crowd.world.Usable place) :
      Step crowd (.read reader place .missed) (crowd.move reader crowd.world (.missed place))
  | answered {reader : ReaderKey} {place : Place} {entry : Entry} {allocation : Allocation}
      (waits : crowd.stage reader = .missed place)
      (started : (crowd.world.operate place .start).1 = .started entry)
      (carries : entry.value? = some allocation) :
      Step crowd (.read reader place (.answered allocation))
        (crowd.move reader (crowd.world.operate place .start).2 (.answered place allocation))
  | began {reader : ReaderKey} {place : Place} {token : Token}
      (waits : crowd.stage reader = .missed place)
      (started : (crowd.world.operate place .start).1 = .started (.promise token)) :
      Step crowd (.read reader place (.began token))
        (crowd.move reader (crowd.world.operate place .start).2 (.computing place token))
  | committed {reader : ReaderKey} {place : Place} {token : Token} {allocation : Allocation}
      {entry : Entry} (computes : crowd.stage reader = .computing place token)
      (accepted : (crowd.world.operate place (.commit token allocation)).1 =
        .finished (some entry)) :
      Step crowd (.read reader place (.committed allocation))
        (crowd.move reader (crowd.world.operate place (.commit token allocation)).2
          (.answered place allocation))
  | discarded {reader : ReaderKey} {place : Place} {token : Token} {allocation : Allocation}
      (computes : crowd.stage reader = .computing place token)
      (refused : (crowd.world.operate place (.commit token allocation)).1 = .finished none) :
      Step crowd (.read reader place (.discarded allocation))
        (crowd.move reader (crowd.world.operate place (.commit token allocation)).2
          (.missed place))
  | failed {reader : ReaderKey} {place : Place} {token : Token}
      (computes : crowd.stage reader = .computing place token) :
      Step crowd (.read reader place (.failed token))
        (crowd.move reader (crowd.world.operate place (.retract token)).2 .idle)
  | returned {reader : ReaderKey} {place : Place} {allocation : Allocation}
      (holds : crowd.stage reader = .answered place allocation) :
      Step crowd (.read reader place .returned) (crowd.move reader crowd.world .idle)
  | other {event : Event} {after : World} (step : World.Step crowd.world event after)
      (unread : event.isOfRead = false)
      (kept : ∀ reader place, (crowd.stage reader).place? = some place →
        after.registry.isAlive place.definition = true) :
      Step crowd (.other event) { crowd with world := after }

/-- A run, with the latest happening first. -/
inductive Run (start : Crowd) : List Happening → Crowd → Prop where
  | here : Run start [] start
  | next {happenings : List Happening} {happening : Happening} {before after : Crowd}
      (run : Run start happenings before) (step : Step before happening after) :
      Run start (happening :: happenings) after

/-- A crowd that can come about. -/
inductive Reachable : Crowd → Prop where
  | initial : Reachable Crowd.initial
  | next {happening : Happening} {before after : Crowd} (reachable : Reachable before)
      (step : Step before happening after) : Reachable after

theorem Reachable.run {start after : Crowd} {happenings : List Happening}
    (reachable : Reachable start) (run : Run start happenings after) : Reachable after := by
  induction run with
  | here => exact reachable
  | next _ step inductionHypothesis => exact inductionHypothesis.next step

/-- One run goes on where another one has ended. -/
theorem Run.trans {first second third : Crowd} {earlier later : List Happening}
    (before : Run first earlier second) (after : Run second later third) :
    Run first (later ++ earlier) third := by
  induction after with
  | here => exact before
  | next _ step inductionHypothesis => exact inductionHypothesis.next step

variable {crowd after : Crowd} {reader other : ReaderKey} {place : Place} {token : Token}
  {happening : Happening} {happenings : List Happening}

/-! ### Stages -/

@[simp] theorem world_move (crowd : Crowd) (reader : ReaderKey) (world : World) (stage : Stage) :
    (crowd.move reader world stage).world = world :=
  rfl

@[simp] theorem stage_move_self (crowd : Crowd) (reader : ReaderKey) (world : World)
    (stage : Stage) : (crowd.move reader world stage).stage reader = stage :=
  if_pos rfl

theorem stage_move_ne (crowd : Crowd) {reader other : ReaderKey} (differs : other ≠ reader)
    (world : World) (stage : Stage) :
    (crowd.move reader world stage).stage other = crowd.stage other :=
  if_neg differs

theorem move_move (crowd : Crowd) (reader : ReaderKey) (first second : World)
    (before after : Stage) :
    (crowd.move reader first before).move reader second after = crowd.move reader second after := by
  unfold move
  congr 1
  funext other
  dsimp only
  split <;> rfl

/-- A reader that stands where it stood has not moved. -/
theorem move_stage {stage : Stage} (stands : crowd.stage reader = stage) (world : World) :
    crowd.move reader world stage = { crowd with world } := by
  unfold move
  congr 1
  funext other
  split
  · next same => rw [same, stands]
  · rfl

/-- A reader stands where it stood until it moves itself. -/
theorem Step.stage_eq (step : Step crowd happening after)
    (elsewhere : happening.reader? ≠ some reader) : after.stage reader = crowd.stage reader := by
  have differs : ∀ {mover : ReaderKey}, some mover ≠ some reader → reader ≠ mover :=
    fun moves same => moves (congrArg some same.symm)
  cases step with
  | other step unread kept => rfl
  | _ => exact stage_move_ne crowd (differs elsewhere) _ _

theorem Run.stage_eq {start : Crowd} (run : Run start happenings after)
    (elsewhere : ∀ happening ∈ happenings, happening.reader? ≠ some reader) :
    after.stage reader = start.stage reader := by
  induction run with
  | here => rfl
  | next _ step inductionHypothesis =>
      rw [step.stage_eq (elsewhere _ (List.mem_cons_self ..))]
      exact inductionHypothesis fun other earlier =>
        elsewhere other (List.mem_cons_of_mem _ earlier)

/-! ### The world of a crowd -/

/-- The world can come about, and whatever is being read can be worked on. -/
structure Sound (crowd : Crowd) : Prop where
  reachable : World.Reachable crowd.world
  usable : ∀ reader place, (crowd.stage reader).place? = some place → crowd.world.Usable place

theorem Sound.usable_missed (sound : crowd.Sound) (waits : crowd.stage reader = .missed place) :
    crowd.world.Usable place :=
  sound.usable reader place (by rw [waits]; rfl)

theorem Sound.usable_computing (sound : crowd.Sound)
    (computes : crowd.stage reader = .computing place token) : crowd.world.Usable place :=
  sound.usable reader place (by rw [computes]; rfl)

theorem sound_initial : Crowd.initial.Sound :=
  ⟨.initial, fun _ _ reads => by cases reads⟩

theorem Sound.move {world : World} {stage : Stage} (sound : crowd.Sound)
    (reachable : World.Reachable world)
    (kept : ∀ place, crowd.world.Usable place → world.Usable place)
    (own : ∀ place, stage.place? = some place → crowd.world.Usable place) :
    (crowd.move reader world stage).Sound := by
  refine ⟨reachable, ?_⟩
  intro other place reads
  by_cases same : other = reader
  · rw [same, stage_move_self] at reads
    exact kept place (own place reads)
  · rw [stage_move_ne crowd same] at reads
    exact kept place (sound.usable other place reads)

theorem Sound.operate {stage : Stage} (sound : crowd.Sound) (usable : crowd.world.Usable place)
    (operation : Operation) (own : ∀ other, stage.place? = some other → other = place) :
    (crowd.move reader (crowd.world.operate place operation).2 stage).Sound :=
  have moves := sound.reachable.moves usable operation
  sound.move moves.reachable moves.usable fun other reads => own other reads ▸ usable

theorem Sound.step (sound : crowd.Sound) (step : Step crowd happening after) : after.Sound := by
  have stays : ∀ place, crowd.world.Usable place → crowd.world.Usable place := fun _ => id
  cases step with
  | found free usable answers =>
      exact sound.move sound.reachable stays fun _ reads => by cases reads
  | missed free usable =>
      exact sound.move sound.reachable stays fun _ reads => Option.some.inj reads ▸ usable
  | answered waits started carries =>
      exact sound.operate (sound.usable_missed waits) .start fun _ reads => by cases reads
  | began waits started =>
      exact sound.operate (sound.usable_missed waits) .start
        fun _ reads => (Option.some.inj reads).symm
  | committed computes accepted =>
      exact sound.operate (sound.usable_computing computes) _ fun _ reads => by cases reads
  | discarded computes refused =>
      exact sound.operate (sound.usable_computing computes) _
        fun _ reads => (Option.some.inj reads).symm
  | failed computes =>
      exact sound.operate (sound.usable_computing computes) _ fun _ reads => by cases reads
  | returned holds => exact sound.move sound.reachable stays fun _ reads => by cases reads
  | other step unread kept =>
      refine ⟨sound.reachable.next step, fun reader place reads => ⟨kept reader place reads, ?_⟩⟩
      exact Nat.lt_of_lt_of_le (sound.usable reader place reads).listed (World.contexts_step step)

theorem Sound.run (sound : crowd.Sound) (run : Run crowd happenings after) : after.Sound := by
  induction run with
  | here => exact sound
  | next _ step inductionHypothesis => exact inductionHypothesis.step step

/-- Every crowd that can come about is sound. -/
theorem Reachable.sound (reachable : Reachable crowd) : crowd.Sound := by
  induction reachable with
  | initial => exact sound_initial
  | next _ step inductionHypothesis => exact inductionHypothesis.step step

/-- A reader's step leaves the world alone or takes one step at the reader's place. -/
theorem Step.read_world {action : Action} (step : Step crowd (.read reader place action) after)
    (sound : crowd.Sound) :
    after.world = crowd.world ∨ ∃ operation, crowd.world.Usable place ∧
      operation.mayInvalidate = false ∧ after.world = (crowd.world.operate place operation).2 := by
  cases step with
  | found | missed | returned => exact Or.inl rfl
  | answered waits => exact Or.inr ⟨.start, sound.usable_missed waits, rfl, rfl⟩
  | began waits => exact Or.inr ⟨.start, sound.usable_missed waits, rfl, rfl⟩
  | @committed _ _ token allocation _ computes =>
      exact Or.inr ⟨.commit token allocation, sound.usable_computing computes, rfl, rfl⟩
  | @discarded _ _ token allocation computes =>
      exact Or.inr ⟨.commit token allocation, sound.usable_computing computes, rfl, rfl⟩
  | @failed _ _ token computes =>
      exact Or.inr ⟨.retract token, sound.usable_computing computes, rfl, rfl⟩

/-- Whatever happens, registries only move on and contexts only come. -/
theorem Step.leads (step : Step crowd happening after) (sound : crowd.Sound) :
    crowd.world.registry.Leads after.world.registry ∧
      crowd.world.contexts.size ≤ after.world.contexts.size := by
  have world := sound.reachable.sound
  cases happening with
  | other event =>
      cases step with
      | other step => exact ⟨world.leads_step step, World.contexts_step step⟩
  | read reader place action =>
      rcases step.read_world sound with same | ⟨operation, usable, -, same⟩
      · rw [same]
        exact ⟨Registry.Leads.refl _, Nat.le_refl _⟩
      · rw [same]
        have spares := world.spares_operate usable operation
        exact ⟨spares.leads, Nat.le_of_eq spares.contexts.symm⟩

theorem Step.known (step : Step crowd happening after) (sound : crowd.Sound)
    (known : crowd.world.Known place) : after.world.Known place :=
  ⟨Nat.lt_of_lt_of_le known.defined (step.leads sound).1.size,
    Nat.lt_of_lt_of_le known.listed (step.leads sound).2⟩

/-- A place that can be worked on after a step could be before. -/
theorem Step.usable_before (step : Step crowd happening after) (sound : crowd.Sound)
    (known : crowd.world.Known place)
    (alive : after.world.registry.isAlive place.definition = true) : crowd.world.Usable place :=
  ⟨(step.leads sound).1.alive place.definition known.defined alive, known.listed⟩

theorem Run.known {start : Crowd} (run : Run start happenings after) (sound : start.Sound)
    (known : start.world.Known place) : after.world.Known place := by
  induction run with
  | here => exact known
  | next run step inductionHypothesis => exact step.known (sound.run run) inductionHypothesis

/-- Anybody may work on a place while others read. -/
theorem Sound.step_operate (sound : crowd.Sound) (usable : crowd.world.Usable place)
    {operation : Operation} {outcome : Outcome} (unread : operation.isOfRead = false)
    (returns : (crowd.world.operate place operation).1 = outcome) :
    Step crowd (.other (.operated place operation outcome))
      { crowd with world := (crowd.world.operate place operation).2 } := by
  subst returns
  have moves := sound.reachable.moves usable operation
  exact .other (.operated operation usable) unread fun reader other reads =>
    (moves.usable other (sound.usable reader other reads)).alive

/-! ### A small crowd -/

/-- Nobody has read anything in the small world. -/
def small : Crowd :=
  { world := World.small, stage := fun _ => .idle }

theorem reachable_small : Reachable small := by
  have nobody : ∀ (after : World) reader place, (Crowd.initial.stage reader).place? = some place →
      after.registry.isAlive place.definition = true := by
    intro after reader place reads
    cases reads
  have defined : Reachable
      { Crowd.initial with world := (World.initial.withRegistry Registry.define).2 } :=
    .next .initial (.other .defined rfl (nobody _))
  have accepted : (World.initial.withRegistry Registry.define).2.addContext World.smallConfig =
      .ok (0, World.small) := rfl
  exact defined.next (.other (.contextAdded accepted) rfl (nobody _))

/-- The first reader has looked into the table. -/
def smallMissed : Crowd :=
  small.move 0 World.small (.missed ⟨0, 0⟩)

theorem reachable_smallMissed : Reachable smallMissed :=
  reachable_small.next (.missed rfl World.usable_small)

/-- The first reader has begun to compute. -/
def smallBegun : Crowd :=
  smallMissed.move 0 (World.small.operate ⟨0, 0⟩ .start).2 (.computing ⟨0, 0⟩ ⟨0, 0⟩)

theorem began_smallBegun : Step smallMissed (.read 0 ⟨0, 0⟩ (.began ⟨0, 0⟩)) smallBegun :=
  .began (stage_move_self small 0 World.small (.missed ⟨0, 0⟩)) (by decide)

theorem reachable_smallBegun : Reachable smallBegun :=
  reachable_smallMissed.next began_smallBegun

end Crowd

end ContextCache
