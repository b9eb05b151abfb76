import ContextCache.Proofs.Reader.Homecoming
import ContextCache.Proofs.Reader.Routines
import ContextCache.Proofs.Store.Alarms
import ContextCache.Proofs.World.Spread

/-!
Contract: no alarm is ever raised.

A careful run of a program makes every step a careful one, also those of the computations in
it. A program refers to the definitions and contexts that it works on, so they exist; as
routines have numbers instead of references, a careful run stops where a routine works on
something that does not exist, or drops a definition that is being read. It stops for no
other reason, and where it does not stop it is the plain run.

Owns:
- the careful pieces of reads, errands and routines;
- that they raise no alarm in a world that can come about.

Does not own: what is checked in a step, which is the table's and the store's.
-/

set_option autoImplicit false

namespace ContextCache

/-! ### Careful pieces -/

namespace World

def carefulOpenStore (world : World) (key : ContextKey) : Except Alarm OpenStore :=
  match world.store? key with
  | some store => .ok { shared := world.shared, store }
  | none => do
    let store ← Store.carefulCreate (world.context key).config
    return { shared := world.shared, store }

def carefulWithStore {α : Type} (world : World) (key : ContextKey)
    (work : OpenStore → Except Alarm (α × OpenStore)) : Except Alarm (α × World) := do
  let opened ← world.carefulOpenStore key
  let (result, worked) ← work opened
  return (result, world.closeStore key worked)

def carefulOperate (world : World) (place : Place) (operation : Operation) :
    Except Alarm (Outcome × World) :=
  world.carefulWithStore place.context fun opened =>
    opened.carefulOperate place.definition operation

def carefulLookup (world : World) (place : Place) : Except Alarm (Option Allocation × World) :=
  match world.store? place.context with
  | none => .ok (none, world)
  | some store =>
    let hash := world.registry.hash place.definition
    let token := world.registry.current place.definition
    match store.table.probeHome hash token with
    | some allocation => .ok (some allocation, world.count .homeHits)
    | none => do
      match ← store.table.carefulProbeBackup store.config.probeLimit hash token with
      | none => return (none, world)
      | some (_, allocation) =>
        let (moved, promoted) ← (world.count .backupHits).carefulWithStore place.context
          fun opened => opened.carefulPromote place.definition store.table.capacity
        return (some allocation, if moved then promoted.count .relocations else promoted)

def carefulStartEntry (world : World) (place : Place) : Except Alarm (ReadStep × World) := do
  let (entry, started) ← world.carefulWithStore place.context fun opened =>
    opened.carefulHandOut place.definition
  match entry.value? with
  | some allocation => return (.answered allocation, started)
  | none => return (.compute entry, started.count .computations)

def carefulBeginRead (world : World) (place : Place) : Except Alarm (ReadStep × World) := do
  match ← world.carefulLookup place with
  | (some allocation, found) => return (.answered allocation, found)
  | (none, missed) => (missed.count .mapLookups).carefulStartEntry place

def carefulRetract (world : World) (place : Place) (promise : Entry) : Except Alarm World :=
  Prod.snd <$> (world.count .computeFailures).carefulWithStore place.context fun opened =>
    opened.carefulFinish place.definition promise

def carefulPublish (world : World) (place : Place) (promise : Entry) (allocation : Allocation) :
    Except Alarm (ReadStep × World) := do
  let (committed, finished) ← world.carefulWithStore place.context fun opened =>
    let (candidate, minted) := opened.mint fun serial => promise.fulfil serial allocation
    minted.carefulFinish place.definition candidate
  match committed with
  | some _ => return (.answered allocation, finished)
  | none => (finished.count .publishRetries).carefulStartEntry place

def carefulRemove (world : World) (place : Place) : Except Alarm World :=
  match world.store? place.context with
  | none => .ok world
  | some _ => Prod.snd <$> world.carefulWithStore place.context fun opened =>
    opened.carefulRemove place.definition

def carefulPut (world : World) (place : Place) (allocation : Allocation) : Except Alarm World :=
  Prod.snd <$> world.carefulWithStore place.context fun opened =>
    opened.carefulChange place.definition allocation

end World

/-! ### Careful runs -/

def Errand.carefulRun : Errand → World → Except Alarm (Option Nat × World)
  | .remove place, world => do
    Alarm.dangling.unless (world.Usable place)
    let removed ← world.carefulRemove place
    return (none, removed)
  | .put place allocation, world => do
    Alarm.dangling.unless (world.Usable place)
    let changed ← world.carefulPut place allocation
    return (none, changed)
  | chosen, world => .ok (chosen.run world)

abbrev CarefulComputation (ρ : Type) :=
  Running ρ → Except Alarm (Except Failure Allocation × Running ρ)

namespace Running

variable {ρ : Type}

def carefulFail (running : Running ρ) (place : Place) (promise : Entry) (failure : Failure) :
    Except Alarm (Except Failure Allocation × Running ρ) := do
  let world ← running.world.carefulRetract place promise
  return (.error failure, { running with world })

/-- The definition must not have been dropped while it was computed. -/
def carefulSettle (computation : CarefulComputation ρ) (place : Place) :
    Nat → Entry → CarefulComputation ρ
  | 0, promise, running => running.carefulFail place promise .abandoned
  | attempts + 1, promise, running => do
    let (result, computed) ← computation running
    Alarm.dangling.unless (computed.world.Usable place)
    match result with
    | .error failure => computed.carefulFail place promise failure
    | .ok allocation =>
      match ← computed.world.carefulPublish place promise allocation with
      | (.answered answer, world) => return (.ok answer, { computed with world })
      | (.compute next, world) =>
        carefulSettle computation place attempts next { computed with world }

def carefulRead (computation : CarefulComputation ρ) (attempts : Nat) (place : Place) :
    CarefulComputation ρ :=
  fun running => do
    Alarm.dangling.unless (running.world.Usable place)
    match ← running.world.carefulBeginRead place with
    | (.answered answer, world) => return (.ok answer, { running with world })
    | (.compute promise, world) =>
      carefulSettle computation place attempts promise { running with world }

end Running

def Routine.carefulRun {ρ : Type} : Routine ρ → CarefulComputation (Progress ρ)
  | .finish result, running => .ok (result, running)
  | .note change next, running =>
    next.carefulRun { running with own := { running.own with own := change running.own.own } }
  | .errand chosen next, running => do
    let (created, world) ← chosen.carefulRun running.world
    (next created running.own.own).carefulRun { running with world }
  | .get place attempts body next, running => do
    let computation := fun begun =>
      (body begun.own.own).carefulRun { begun with own := begun.own.call place.definition }
    let (result, reached) ← Running.carefulRead computation attempts place running
    (next result reached.own.own).carefulRun reached

/-! ### Pieces raise no alarm -/

namespace World

variable {world : World} {place : Place} {key : ContextKey} {token : Token}

theorem Reachable.secure (reachable : Reachable world) (key : ContextKey) :
    (world.openStore key).Secure where
  measured := reachable.measured.store key
  unbroken := (reachable.sound key).unbroken
  shelved := (reachable.sound key).shelved
  hashes := fun definition => reachable.drawn.hash_le_mask definition

theorem Reachable.carefulOpenStore_eq (reachable : Reachable world) (key : ContextKey) :
    world.carefulOpenStore key = .ok (world.openStore key) := by
  have valid : (world.context key).config.Valid := by
    rw [← reachable.measured.config key]
    exact (reachable.sound key).valid
  unfold carefulOpenStore store? openStore
  dsimp only
  cases (world.context key).store with
  | some store => rfl
  | none =>
      dsimp only
      rw [Store.carefulCreate_eq valid]
      rfl

theorem Reachable.carefulWithStore_eq {α : Type} {careful : OpenStore → Except Alarm (α × OpenStore)}
    (reachable : Reachable world) (work : OpenStore → α × OpenStore)
    (agrees : careful (world.openStore key) = .ok (work (world.openStore key))) :
    world.carefulWithStore key careful = .ok (world.withStore key work) := by
  rw [carefulWithStore, reachable.carefulOpenStore_eq key]
  show (careful (world.openStore key) >>= _) = _
  rw [agrees]
  rfl

theorem Reachable.carefulOperate_eq (reachable : Reachable world) (usable : world.Usable place)
    (operation : Operation) :
    world.carefulOperate place operation = .ok (world.operate place operation) :=
  reachable.carefulWithStore_eq (fun opened => opened.operate place.definition operation)
    ((reachable.secure place.context).carefulOperate_eq (reachable.sound place.context)
      usable.alive operation)

theorem Reachable.carefulLookup_eq (reachable : Reachable world) (place : Place) :
    world.carefulLookup place = .ok (world.lookup place) := by
  unfold carefulLookup lookup
  cases found : world.store? place.context with
  | none => rfl
  | some store =>
      have secure := reachable.secure place.context
      have window : store.table.home (world.registry.hash place.definition) +
          store.config.probeLimit < positionLimit := by
        rw [← store?_eq_openStore found]
        exact secure.window_lt place.definition
      dsimp only
      cases store.table.probeHome (world.registry.hash place.definition)
        (world.registry.current place.definition) with
      | some allocation => rfl
      | none =>
          dsimp only
          rw [Table.carefulProbeBackup_eq _ window]
          cases store.table.probeBackup store.config.probeLimit
            (world.registry.hash place.definition) (world.registry.current place.definition) with
          | none => rfl
          | some answer =>
              have counted := reachable.count .backupHits
              dsimp only
              rw [counted.carefulWithStore_eq
                (fun opened => opened.promote place.definition store.table.capacity)
                ((counted.secure place.context).carefulPromote_eq place.definition _)]
              rfl

theorem Reachable.carefulStartEntry_eq (reachable : Reachable world) (usable : world.Usable place) :
    world.carefulStartEntry place = .ok (world.startEntry place) := by
  have handsOut := (reachable.secure place.context).carefulHandOut_eq
    (reachable.sound place.context) usable.alive
  unfold carefulStartEntry startEntry
  rw [reachable.carefulWithStore_eq (fun opened => opened.start place.definition) handsOut]
  generalize world.withStore place.context (fun opened => opened.start place.definition) = started
  obtain ⟨entry, started⟩ := started
  show (match entry.value? with | some _ => _ | none => _) = Except.ok (match entry.value? with
    | some _ => _
    | none => _)
  cases entry.value? with
  | some allocation => rfl
  | none => rfl

theorem Reachable.carefulBeginRead_eq (reachable : Reachable world) (usable : world.Usable place) :
    world.carefulBeginRead place = .ok (world.beginRead place) := by
  obtain ⟨works, -⟩ := lookup_works (reachable.serves usable)
  unfold carefulBeginRead beginRead
  rw [reachable.carefulLookup_eq place]
  generalize world.lookup place = looked at works
  obtain ⟨answer, found⟩ := looked
  cases answer with
  | some allocation => rfl
  | none =>
      have missed := works.counted .mapLookups
      exact (missed.reachable reachable usable).carefulStartEntry_eq
        (missed.serves (reachable.serves usable)).usable

theorem Reachable.carefulRetract_eq (reachable : Reachable world) (place : Place)
    (promise : Entry) : world.carefulRetract place promise = .ok (world.retract place promise) :=
  have counted := reachable.count .computeFailures
  Alarm.map_eq_ok Prod.snd (counted.carefulWithStore_eq
    (fun opened => opened.finish place.definition promise)
    ((counted.secure place.context).carefulFinish_eq place.definition promise))

theorem Reachable.carefulPublish_eq (reachable : Reachable world) (usable : world.Usable place)
    (token : Token) (allocation : Allocation) :
    world.carefulPublish place (.promise token) allocation =
      .ok (world.publish place (.promise token) allocation) := by
  have works : Works place world (world.operate place (.commit token allocation)).2 :=
    Works.rests.operated (.commit token allocation)
  have refused := works.counted .publishRetries
  have commits : world.carefulWithStore place.context (fun opened =>
      opened.carefulCommit place.definition token allocation) = .ok (world.withStore place.context
        fun opened => opened.commit place.definition token allocation) :=
    reachable.carefulWithStore_eq _
      ((reachable.secure place.context).carefulCommit_eq place.definition token allocation)
  rw [publish_eq]
  show (world.carefulWithStore place.context (fun opened =>
    opened.carefulCommit place.definition token allocation) >>= _) = _
  rw [commits]
  show (match ((world.openStore place.context).commit place.definition token allocation).1 with
    | some _ => _
    | none => _) = _
  cases ((world.openStore place.context).commit place.definition token allocation).1 with
  | some entry => rfl
  | none =>
      exact (refused.reachable reachable usable).carefulStartEntry_eq
        (refused.serves (reachable.serves usable)).usable

theorem Reachable.carefulRemove_eq (reachable : Reachable world) (place : Place) :
    world.carefulRemove place = .ok (world.remove place) := by
  unfold carefulRemove remove
  cases world.store? place.context with
  | none => rfl
  | some store =>
      exact Alarm.map_eq_ok Prod.snd (reachable.carefulWithStore_eq
        (fun opened => opened.remove place.definition)
        ((reachable.secure place.context).carefulRemove_eq place.definition))

theorem Reachable.carefulPut_eq (reachable : Reachable world) (place : Place)
    (allocation : Allocation) : world.carefulPut place allocation = .ok (world.put place allocation) :=
  Alarm.map_eq_ok Prod.snd (reachable.carefulWithStore_eq
    (fun opened => opened.change place.definition allocation)
    ((reachable.secure place.context).carefulChange_eq place.definition allocation))

end World

/-! ### Runs raise no alarm -/

/-- The careful work has stopped at something that does not exist, or it is the plain work and
has led to a world that can come about. -/
inductive Watches {α : Type} (left : α → World) (plain : α) : Except Alarm α → Prop where
  | dangles : Watches left plain (.error .dangling)
  | agrees (reachable : World.Reachable (left plain)) : Watches left plain (.ok plain)

section

variable {α β : Type} {left : α → World} {reached : β → World} {plain : α} {whole : β}
  {careful : Except Alarm α}

/-- What goes on carefully after careful work. -/
theorem Watches.bind {next : α → Except Alarm β} (watches : Watches left plain careful)
    (continues : World.Reachable (left plain) → Watches reached whole (next plain)) :
    Watches reached whole (careful >>= next) := by
  cases watches with
  | dangles => exact .dangles
  | agrees reachable => exact continues reachable

/-- What goes on carefully in a place that must exist. -/
theorem watches_existing {world : World} {place : Place} {next : Unit → Except Alarm β}
    (continues : world.Usable place → Watches reached whole (next ())) :
    Watches reached whole (Alarm.dangling.unless (world.Usable place) >>= next) := by
  by_cases usable : world.Usable place
  · rw [Alarm.unless_of_holds usable]
    exact continues usable
  · rw [Alarm.unless_of_not usable]
    exact .dangles

end

theorem Errand.watches {world : World} (reachable : World.Reachable world) (chosen : Errand) :
    Watches Prod.snd (chosen.run world) (chosen.carefulRun world) := by
  cases chosen with
  | remove place =>
      refine watches_existing fun usable => ?_
      rw [reachable.carefulRemove_eq place]
      exact .agrees ((World.works_remove world place).reachable reachable usable)
  | put place allocation =>
      refine watches_existing fun usable => ?_
      rw [reachable.carefulPut_eq place allocation]
      exact .agrees ((World.works_put world place allocation).reachable reachable usable)
  | define => exact .agrees (reachable.next .defined)
  | drop key => exact .agrees (reachable.next (.dropped key))
  | hold key => exact .agrees (reachable.next (.held key))
  | release key => exact .agrees (reachable.next (.released key))
  | addContext config =>
      refine .agrees ?_
      unfold run
      dsimp only
      cases accepted : world.addContext config with
      | error error => exact reachable
      | ok added => exact reachable.next (.contextAdded accepted)

variable {ρ : Type} {computation : Computation ρ} {careful : CarefulComputation ρ}
  {running : Running ρ} {place : Place}

/-- The careful computation watches the plain one, wherever it begins. -/
def Guards (careful : CarefulComputation ρ) (computation : Computation ρ) : Prop :=
  ∀ running : Running ρ, World.Reachable running.world →
    Watches (fun ended => ended.2.world) (computation running) (careful running)

theorem Running.watches_fail (reachable : World.Reachable running.world)
    (usable : running.world.Usable place) (token : Token) (failure : Failure) :
    Watches (fun ended => ended.2.world) (running.fail place (.promise token) failure)
      (running.carefulFail place (.promise token) failure) := by
  unfold carefulFail
  rw [reachable.carefulRetract_eq place]
  exact .agrees ((World.works_retract running.world place token).reachable reachable usable)

theorem Guards.settle (guards : Guards careful computation) (place : Place) (attempts : Nat) :
    ∀ (token : Token) (running : Running ρ), World.Reachable running.world →
      running.world.Usable place →
      Watches (fun ended => ended.2.world)
        (Running.settle computation place attempts (.promise token) running)
        (Running.carefulSettle careful place attempts (.promise token) running) := by
  induction attempts with
  | zero => exact fun token running reachable usable => Running.watches_fail reachable usable token _
  | succ attempts inductionHypothesis =>
      intro token running reachable usable
      unfold Running.settle Running.carefulSettle
      refine (guards running reachable).bind fun reached => ?_
      generalize computation running = ended at reached
      obtain ⟨result, computed⟩ := ended
      refine watches_existing fun still => ?_
      cases result with
      | error failure => exact Running.watches_fail reached still token failure
      | ok allocation =>
          have arrives := World.Reachable.arrives_publish reached still token allocation
          dsimp only
          rw [World.Reachable.carefulPublish_eq reached still]
          generalize computed.world.publish place (.promise token) allocation = published at arrives
          cases arrives with
          | home works => exact .agrees (works.reachable reached still)
          | computes works =>
              exact inductionHypothesis _ _ (works.reachable reached still)
                (works.serves (reached.serves still)).usable

theorem Guards.read (guards : Guards careful computation) (attempts : Nat) (place : Place) :
    Guards (Running.carefulRead careful attempts place)
      (Running.read computation attempts place) := by
  intro running reachable
  unfold Running.read Running.carefulRead
  refine watches_existing fun usable => ?_
  have arrives := reachable.arrives_beginRead usable
  rw [reachable.carefulBeginRead_eq usable]
  generalize running.world.beginRead place = begun at arrives
  cases arrives with
  | home works => exact .agrees (works.reachable reachable usable)
  | computes works =>
      exact guards.settle place attempts _ _ (works.reachable reachable usable)
        (works.serves (reachable.serves usable)).usable

/-- A careful routine watches the plain one, and so do all computations in it. -/
theorem Routine.guards (routine : Routine ρ) : Guards routine.carefulRun routine.run := by
  induction routine with
  | finish result => exact fun _ reachable => .agrees reachable
  | note change next inductionHypothesis =>
      exact fun running reachable => inductionHypothesis _ reachable
  | errand chosen next inductionHypothesis =>
      intro running reachable
      unfold run carefulRun
      exact (chosen.watches reachable).bind fun reached => inductionHypothesis _ _ _ reached
  | get place attempts body next bodyHypothesis nextHypothesis =>
      intro running reachable
      have computes : Guards
          (fun begun : Running (Progress ρ) =>
            (body begun.own.own).carefulRun { begun with own := begun.own.call place.definition })
          (fun begun => (body begun.own.own).compute place.definition begun) :=
        fun begun reachable => bodyHypothesis _ _ reachable
      rw [run_get]
      unfold carefulRun
      exact (computes.read attempts place running reachable).bind fun reached =>
        nextHypothesis _ _ _ reached

namespace World

variable {world : World}

/-- No alarm is ever raised. In every world that can come about a careful step of the protocol
is the plain one, an entry that is bound and is no promise carries a value, and a careful
routine is the plain one, with every computation in it and whatever else it creates and drops,
unless it works on something that does not exist. -/
theorem no_alarm_is_raised (reachable : Reachable world) :
    (∀ place, world.Usable place → ∀ operation,
      world.carefulOperate place operation = .ok (world.operate place operation)) ∧
    (∀ place entry, world.binding? place = some entry → entry.isPromise = false →
      entry.value?.isSome = true) ∧
    ∀ (ρ : Type) (routine : Routine ρ) (own : Progress ρ),
      routine.carefulRun ⟨world, own⟩ = .error .dangling ∨
        routine.carefulRun ⟨world, own⟩ = .ok (routine.run ⟨world, own⟩) := by
  refine ⟨fun place usable => reachable.carefulOperate_eq usable, ?_, ?_⟩
  · intro place entry bound minted
    cases (reachable.sound place.context).bindable place.definition entry bound with
    | promise => cases minted
    | value => rfl
  · intro ρ routine own
    have watches := routine.guards ⟨world, own⟩ reachable
    generalize routine.carefulRun ⟨world, own⟩ = ended at watches
    cases watches with
    | dangles => exact Or.inl rfl
    | agrees => exact Or.inr rfl

/-- Forgets a value and computes it again, which creates a definition, and drops it all. -/
def renewal : Routine Unit :=
  .errand (.remove ⟨0, 0⟩) fun _ _ =>
    .get ⟨0, 0⟩ 2
      (fun _ => .errand .define fun _ _ => .get ⟨1, 0⟩ 1 (fun _ => .finish (.ok ⟨8⟩)) fun _ _ =>
        .finish (.ok ⟨9⟩))
      fun result _ => .errand (.drop 0) fun _ _ => .errand (.drop 1) fun _ _ => .finish result

/-- In the small world the renewal works on nothing but what exists. -/
theorem no_alarm_is_raised_smallComputed :
    smallComputed.carefulOperate ⟨0, 0⟩ .remove = .ok (smallComputed.operate ⟨0, 0⟩ .remove) ∧
      (∃ entry, smallComputed.binding? ⟨0, 0⟩ = some entry ∧ entry.value?.isSome = true) ∧
      renewal.carefulRun ⟨smallComputed, ⟨fun _ => 0, ()⟩⟩ =
        .ok (renewal.run ⟨smallComputed, ⟨fun _ => 0, ()⟩⟩) := by
  obtain ⟨steps, values, routines⟩ := no_alarm_is_raised reachable_smallComputed
  refine ⟨steps ⟨0, 0⟩ ⟨by decide, by decide⟩ .remove, ⟨_, rfl, values ⟨0, 0⟩ _ rfl (by decide)⟩,
    (routines Unit renewal ⟨fun _ => 0, ()⟩).resolve_left fun dangles => ?_⟩
  have ends : (renewal.carefulRun ⟨smallComputed, ⟨fun _ => 0, ()⟩⟩).isOk = true := by
    decide +kernel
  rw [dangles] at ends
  cases ends

end World

end ContextCache
