import ContextCache.Proofs.Reader.Homecoming
import ContextCache.Proofs.World.FullSweeps
import ContextCache.Proofs.World.SingleSlots

/-!
Contract: one live slot for each definition, until a read repeats an insertion.

A read inserts after its own lookup has found nothing, a commit finds its definition promised,
and a put ends a generation first. So all of them insert into a table without live entries of
the definition. Only a read whose value comes too late starts over without looking: if the place
has got a value from somebody else meanwhile, and that value has been pushed out of its home
slot, then it gets a second slot.

Owns:
- live slots of worlds and of their snapshots;
- what each piece of a read does to them, and programs made of pieces that do not repeat;
- nested reads whose computations leave alone what is being computed.

Does not own: what the insertion of one store does.
-/

set_option autoImplicit false

namespace ContextCache

namespace World

variable {world before after : World} {place : Place} {token : Token} {allocation : Allocation}

/-- In every context a live slot holds the entry that its definition is bound to. -/
def Faithful (world : World) : Prop :=
  ∀ context, (world.openStore context).Faithful

/-- In no context a definition has two live slots. -/
def Single (world : World) : Prop :=
  ∀ context, (world.openStore context).Single

theorem Reachable.faithful (reachable : Reachable world) : world.Faithful := by
  induction reachable with
  | initial => exact fun _ => OpenStore.faithful_create _ _
  | next before step faithful =>
      refine before.sound.step_every step OpenStore.Faithful.advance
        (fun _ shared => OpenStore.faithful_create _ shared) ?_ faithful
      intro place operation _ _ usable
      have arranged := before.arranged usable operation
      rw [openStore_operate usable] at arranged ⊢
      exact arranged.faithful (before.sound place.context) (faithful place.context)
        (OpenStore.spares_operate _ _ operation)

/-! ### Steps -/

theorem single_initial : World.initial.Single :=
  fun _ => OpenStore.single_create Config.valid_standard _

theorem Single.count (single : world.Single) (counter : Counter) : (world.count counter).Single :=
  single

theorem Single.passed (single : world.Single) (sound : world.Sound)
    (step : Step world .passed after) : after.Single :=
  sound.step_every step OpenStore.Single.advance OpenStore.single_create nofun single

/-- A step keeps live slots single if it does in the store that it works on. -/
theorem Single.operate (single : world.Single) (sound : world.Sound)
    (usable : world.Usable place) {operation : Operation}
    (here : ((world.operate place operation).2.openStore place.context).Single) :
    (world.operate place operation).2.Single := by
  refine sound.step_every (.operated operation usable) OpenStore.Single.advance
    OpenStore.single_create ?_ single
  intro worked taken _ same _
  cases same
  exact here

/-- Steps keep live slots single, except for a start whose definition has one. -/
theorem Reachable.single_operate (reachable : Reachable world) (single : world.Single)
    (usable : world.Usable place) {operation : Operation}
    (fresh : operation = .start → (world.openStore place.context).store.table.liveSlotsOf
      world.registry place.definition = 0) : (world.operate place operation).2.Single :=
  single.operate reachable.sound usable
    ((reachable.arranged usable operation).single (reachable.sound place.context)
      (reachable.sound.spares_operate usable operation).leads (single place.context) fresh)

theorem Reachable.single_start_iff (reachable : Reachable world) (single : world.Single)
    (usable : world.Usable place) :
    (world.operate place .start).2.Single ↔
      ¬ (world.openStore place.context).Behind place.definition := by
  have started : ((world.operate place .start).2.openStore place.context).Single ↔
      ¬ (world.openStore place.context).Behind place.definition := by
    rw [openStore_operate usable]
    exact (reachable.sound place.context).single_start_iff (reachable.forgetful place.context)
      (reachable.faithful place.context) (single place.context) usable.alive
  exact ⟨fun still => started.mp (still place.context),
    fun fresh => single.operate reachable.sound usable (started.mpr fresh)⟩

/-! ### Pieces of a read -/

theorem single_startEntry_iff :
    (world.startEntry place).2.Single ↔ (world.operate place .start).2.Single := by
  rw [startEntry_eq]
  split <;> exact Iff.rfl

/-- A lookup keeps live slots single, and misses only what has none. -/
theorem Reachable.single_lookup (reachable : Reachable world) (single : world.Single)
    (usable : world.Usable place) :
    (world.lookup place).2.Single ∧ ((world.lookup place).1 = none →
      (world.lookup place).2 = world ∧ (world.openStore place.context).store.table.liveSlotsOf
        world.registry place.definition = 0) := by
  have looked := looked world place
  generalize world.lookup place = found at looked ⊢
  cases looked with
  | missed nothing =>
      have none := (reachable.sound place.context).liveSlotsOf_of_missed nothing
      exact ⟨single, fun _ => ⟨rfl, none⟩⟩
  | atHome answered => exact ⟨single, nofun⟩
  | @behind _ searched moved _ answered operated =>
      have promoted :
          ((world.count .backupHits).operate place (.promote searched)).2.Single :=
        (reachable.count .backupHits).single_operate (single.count .backupHits)
          (usable.count .backupHits) nofun
      rw [operated] at promoted
      refine ⟨?_, nofun⟩
      cases moved with
      | true => exact promoted
      | false => exact promoted

/-- What a read does up to its answer or its first computation keeps live slots single. -/
theorem Reachable.single_beginRead (reachable : Reachable world) (single : world.Single)
    (usable : world.Usable place) : (world.beginRead place).2.Single := by
  obtain ⟨found, missed⟩ := reachable.single_lookup single usable
  unfold beginRead
  generalize world.lookup place = looked at found missed ⊢
  obtain ⟨answer, reached⟩ := looked
  cases answer with
  | some allocation => exact found
  | none =>
      obtain ⟨same, none⟩ := missed rfl
      dsimp only at same
      subst same
      rw [single_startEntry_iff]
      exact (reachable.count .mapLookups).single_operate (single.count .mapLookups)
        (usable.count .mapLookups) fun _ => none

/-- A value that is handed in under the token's promise comes too late, and the definition has
a value from elsewhere, which the table holds behind its home slot even after relief. -/
def Repeats (world : World) (place : Place) (token : Token) : Prop :=
  world.binding? place ≠ some (.promise token) ∧
    (world.openStore place.context).Behind place.definition

/-- Handing a value in keeps live slots single exactly if it is no repeat. -/
theorem Reachable.single_publish_iff (reachable : Reachable world) (single : world.Single)
    (usable : world.Usable place) (token : Token) (allocation : Allocation) :
    (world.publish place (.promise token) allocation).2.Single ↔ ¬ world.Repeats place token := by
  have reachableAfter := reachable.operate usable (.commit token allocation)
  have usableAfter := ((reachable.serves usable).operate (.commit token allocation)).usable
  have singleAfter : (world.operate place (.commit token allocation)).2.Single :=
    reachable.single_operate single usable nofun
  have effect := (reachable.serves usable).effect_operate (.commit token allocation)
  rw [publish_eq]
  generalize outcome : (world.operate place (.commit token allocation)).1 = result at effect
  cases effect with
  | committed promised registry bound =>
      have returned :
          ((world.openStore place.context).commit place.definition token allocation).1 = _ :=
        Outcome.finished.inj outcome
      rw [returned]
      exact iff_of_true singleAfter fun repeats => repeats.1 promised
  | discarded superseded registry same =>
      have returned :
          ((world.openStore place.context).commit place.definition token allocation).1 = none :=
        Outcome.finished.inj outcome
      rw [returned]
      dsimp only
      rw [single_startEntry_iff]
      rw [(reachableAfter.count .publishRetries).single_start_iff
        (singleAfter.count .publishRetries) (usableAfter.count .publishRetries)]
      have behind : (((world.operate place (.commit token allocation)).2.count
          .publishRetries).openStore place.context).Behind place.definition ↔
            (world.openStore place.context).Behind place.definition :=
        OpenStore.behind_congr same registry
      rw [behind]
      exact not_congr ⟨fun held => ⟨superseded, held⟩, fun repeats => repeats.2⟩

/-! ### Programs -/

/-- A world that can come about by whole pieces of reads, by removals and puts, and by whatever
else may happen, without a repeat. -/
inductive Solo : World → Prop where
  | initial : Solo World.initial
  | passed {before after : World} (solo : Solo before) (step : Step before .passed after) :
      Solo after
  | begun {world : World} {place : Place} (solo : Solo world) (usable : world.Usable place) :
      Solo (world.beginRead place).2
  | published {world : World} {place : Place} {token : Token} {allocation : Allocation}
      (solo : Solo world) (usable : world.Usable place) (once : ¬ world.Repeats place token) :
      Solo (world.publish place (.promise token) allocation).2
  | retracted {world : World} {place : Place} {token : Token} (solo : Solo world)
      (usable : world.Usable place) : Solo (world.retract place (.promise token))
  | removed {world : World} {place : Place} (solo : Solo world) (usable : world.Usable place) :
      Solo (world.remove place)
  | put {world : World} {place : Place} {allocation : Allocation} (solo : Solo world)
      (usable : world.Usable place) : Solo (world.put place allocation)

theorem Solo.reachable (solo : Solo world) : Reachable world := by
  induction solo with
  | initial => exact .initial
  | passed _ step reachable => exact reachable.next step
  | begun _ usable reachable =>
      exact (reachable.arrives_beginRead usable).works.reachable reachable usable
  | published _ usable _ reachable =>
      exact (reachable.arrives_publish usable _ _).works.reachable reachable usable
  | retracted _ usable reachable =>
      exact (works_retract _ _ _).reachable reachable usable
  | removed _ usable reachable => exact (works_remove _ _).reachable reachable usable
  | put _ usable reachable => exact (works_put _ _ _).reachable reachable usable

/-- Without repeats live slots stay single. -/
theorem Solo.single (solo : Solo world) : world.Single := by
  induction solo with
  | initial => exact single_initial
  | passed solo step single => exact single.passed solo.reachable.sound step
  | begun solo usable single => exact solo.reachable.single_beginRead single usable
  | published solo usable once single =>
      exact (solo.reachable.single_publish_iff single usable _ _).mpr once
  | @retracted world place token solo usable single =>
      rw [retract_eq]
      exact (solo.reachable.count .computeFailures).single_operate
        (single.count .computeFailures) (usable.count .computeFailures) nofun
  | @removed world place solo usable single =>
      cases found : world.store? place.context with
      | none =>
          rw [remove_of_no_store found]
          exact single
      | some store =>
          rw [remove_eq found]
          exact solo.reachable.single_operate single usable nofun
  | @put world place allocation solo usable single =>
      rw [put_eq]
      exact solo.reachable.single_operate single usable nofun

/-- The second world has come from the first one by work on these places, without a repeat. -/
structure Evolves (places : Place → Prop) (before after : World) : Prop where
  solo : Solo after
  usable : ∀ other, before.Usable other → after.Usable other
  binding : ∀ other, ¬ places other → before.Usable other →
    after.binding? other = before.binding? other

variable {places : Place → Prop}

theorem Solo.evolves (solo : Solo world) : Evolves places world world :=
  ⟨solo, fun _ usable => usable, fun _ _ _ => rfl⟩

theorem Evolves.trans {middle : World} (earlier : Evolves places before middle)
    (later : Evolves places middle after) : Evolves places before after where
  solo := later.solo
  usable := fun other usable => later.usable other (earlier.usable other usable)
  binding := fun other outside usable =>
    (later.binding other outside (earlier.usable other usable)).trans
      (earlier.binding other outside usable)

theorem Evolves.mono {more : Place → Prop} (evolves : Evolves places before after)
    (within : ∀ place, places place → more place) : Evolves more before after :=
  ⟨evolves.solo, evolves.usable,
    fun other outside => evolves.binding other fun inside => outside (within other inside)⟩

theorem Works.evolves (works : Works place before after) (inside : places place)
    (solo : Solo after) (reachable : Reachable before) (usable : before.Usable place) :
    Evolves places before after := by
  have moves := works.moves reachable usable
  refine ⟨solo, moves.usable, fun other outside => moves.binding other ?_⟩
  rintro rfl
  exact outside inside

end World

namespace Running

variable {ρ : Type} {places : Place → Prop} {computation : Computation ρ} {place : Place}
  {token : Token}

/-- The computation works on these places only, and does not repeat. -/
def Confines (places : Place → Prop) (computation : Computation ρ) : Prop :=
  ∀ running, World.Solo running.world → (∀ place, places place → running.world.Usable place) →
    World.Evolves places running.world (computation running).2.world

/-- If a computation leaves its place alone, its promise waits for it, so nothing starts over. -/
theorem Confines.settle
    (confines : Confines (fun other => places other ∧ other ≠ place) computation)
    (inside : places place) (running : Running ρ) (solo : World.Solo running.world)
    (usable : ∀ place, places place → running.world.Usable place)
    (promised : running.world.binding? place = some (.promise token)) (attempts : Nat) :
    World.Evolves places running.world
      (settle computation place attempts (.promise token) running).2.world := by
  have fails : ∀ {reached : Running ρ} (failure : Failure), World.Solo reached.world →
      reached.world.Usable place →
        World.Evolves places reached.world (reached.fail place (.promise token) failure).2.world :=
    fun _ solo usable => (World.works_retract _ place token).evolves inside (.retracted solo usable)
      solo.reachable usable
  cases attempts with
  | zero => exact fails _ solo (usable place inside)
  | succ attempts =>
      have computed := confines running solo fun other within => usable other within.1
      have still : (computation running).2.world.binding? place = some (.promise token) :=
        (computed.binding place (fun within => within.2 rfl) (usable place inside)).trans promised
      have usableStill := computed.usable place (usable place inside)
      have evolves : World.Evolves places running.world (computation running).2.world :=
        computed.mono fun _ => And.left
      unfold Running.settle
      generalize computation running = result at still usableStill evolves ⊢
      obtain ⟨result, reached⟩ := result
      cases result with
      | error failure => exact evolves.trans (fails failure evolves.solo usableStill)
      | ok candidate =>
          have reachable := evolves.solo.reachable
          have once : ¬ reached.world.Repeats place token := fun repeats => repeats.1 still
          have published : World.Solo
              (reached.world.publish place (.promise token) candidate).2 :=
            .published evolves.solo usableStill once
          obtain ⟨finished, returns, works, -⟩ :=
            World.publish_promised (reachable.serves usableStill) still candidate
          rw [returns] at published
          dsimp only
          rw [returns]
          exact evolves.trans (works.evolves inside published reachable usableStill)

theorem Confines.read
    (confines : Confines (fun other => places other ∧ other ≠ place) computation)
    (inside : places place) (attempts : Nat) :
    Confines places (Running.read computation attempts place) := by
  intro running solo usable
  have usableHere := usable place inside
  have serves := solo.reachable.serves usableHere
  have begun : World.Solo (running.world.beginRead place).2 := .begun solo usableHere
  unfold Running.read
  cases held : running.world.value? place with
  | some allocation =>
      obtain ⟨found, returns, works, -⟩ := World.beginRead_value serves held
      rw [returns] at begun ⊢
      exact works.evolves inside begun solo.reachable usableHere
  | none =>
      obtain ⟨token, started, returns, works, promised⟩ := World.beginRead_vacant serves held
      rw [returns] at begun ⊢
      have evolves : World.Evolves places running.world started :=
        works.evolves inside begun solo.reachable usableHere
      have settles := confines.settle inside ⟨started, running.own⟩ begun
        (fun other within => evolves.usable other (usable other within)) promised attempts
      exact evolves.trans settles

/-- Going on from another state of the program itself. -/
theorem Confines.following {next : Computation ρ} (confines : Confines places next)
    {before after : World} (evolves : World.Evolves places before after)
    (usable : ∀ place, places place → before.Usable place) (own : ρ) :
    World.Evolves places before (next ⟨after, own⟩).2.world :=
  evolves.trans (confines ⟨after, own⟩ evolves.solo
    fun other within => evolves.usable other (usable other within))

end Running

/-- The task works on these places only, and no computation in it works on a place that is
being computed around it. -/
def Task.Undisturbed (places : Place → Prop) : Task → Prop
  | .finish _ => True
  | .get place _ body next =>
    places place ∧ (∀ log, (body log).Undisturbed fun other => places other ∧ other ≠ place) ∧
      ∀ result, (next result).Undisturbed places
  | .remove place next => places place ∧ next.Undisturbed places
  | .put place _ next => places place ∧ next.Undisturbed places

theorem Running.confines_task (task : Task) {places : Place → Prop}
    (undisturbed : task.Undisturbed places) : Confines places (task.run machine) := by
  induction task generalizing places with
  | finish result => exact fun running solo _ => solo.evolves
  | get place attempts body next bodyHypothesis nextHypothesis =>
      intro running solo usable
      obtain ⟨inside, bodyUndisturbed, nextUndisturbed⟩ := undisturbed
      have computes : Confines (fun other => places other ∧ other ≠ place)
          fun begun : Running Log => (body (machine.note (.began place) begun).own).run machine
            (machine.note (.began place) begun) :=
        fun begun solo usable =>
          bodyHypothesis _ (bodyUndisturbed _) (machine.note (.began place) begun) solo usable
      have read := computes.read inside attempts running solo usable
      exact (nextHypothesis _ (nextUndisturbed _)).following read usable _
  | remove place next inductionHypothesis =>
      intro running solo usable
      have usableHere := usable place undisturbed.1
      have removed : World.Evolves places running.world (running.world.remove place) :=
        (World.works_remove _ _).evolves undisturbed.1 (.removed solo usableHere) solo.reachable
          usableHere
      exact (inductionHypothesis undisturbed.2).following removed usable _
  | put place allocation next inductionHypothesis =>
      intro running solo usable
      have usableHere := usable place undisturbed.1
      have changed : World.Evolves places running.world (running.world.put place allocation) :=
        (World.works_put _ _ _).evolves undisturbed.1 (.put solo usableHere) solo.reachable
          usableHere
      exact (inductionHypothesis undisturbed.2).following changed usable _

/-- Live slots are single until a read repeats an insertion. In every world that can come about
a live slot holds the entry that its definition is bound to. As long as no read has repeated
an insertion, every definition has at most one live slot in each context, so a snapshot counts
at most one for its hash, if no other definition shares it; and handing in a value keeps it so
exactly if it is no repeat. Programs whose computations leave alone what is being computed
around them do not repeat, however their reads nest. -/
theorem live_slots_are_single {world : World} (reachable : World.Reachable world) :
    (∀ context entry token, (world.openStore context).store.table.Holds entry →
      entry.tag? = some token → world.registry.isLive token = true →
        (world.openStore context).store.binding? token.definition = some entry) ∧
    (World.Solo world →
      (∀ context key,
        (world.openStore context).store.table.liveSlotsOf world.registry key ≤ 1 ∧
        ((∀ other, world.registry.isAlive other = true →
            world.registry.hash other = world.registry.hash key → other = key) →
          (world.snapshot context).liveSlotsFor (world.registry.hash key) ≤ 1)) ∧
      (∀ place token allocation, world.Usable place →
        ((world.publish place (.promise token) allocation).2.Single ↔
          ¬ world.Repeats place token)) ∧
      ∀ (task : Task) log, task.Undisturbed world.Usable →
        World.Solo (task.run Running.machine ⟨world, log⟩).2.world) := by
  refine ⟨reachable.faithful, fun solo => ⟨?_, ?_, ?_⟩⟩
  · intro context key
    have single := solo.single context key
    refine ⟨single, fun own => ?_⟩
    cases found : world.store? context with
    | none =>
        rw [World.snapshot_of_no_store found]
        exact Nat.zero_le 1
    | some store =>
        rw [World.openStore_of_store? found] at single
        rw [World.snapshot_of_store? found]
        exact Nat.le_trans (Table.liveSlotsFor_snapshot_le own _ _ _) single
  · exact fun place token allocation usable =>
      reachable.single_publish_iff solo.single usable token allocation
  · intro task log undisturbed
    exact (Running.confines_task task undisturbed ⟨world, log⟩ solo fun _ usable => usable).solo

theorem World.solo_sixDefinitions : Solo sixDefinitions := by
  let define := fun world : World => (world.withRegistry Registry.define).2
  have accepted : (define (define (define (define (define (define World.initial)))))).addContext
      brimful = .ok (0, sixDefinitions) := rfl
  exact ((((((Solo.initial.passed .defined).passed .defined).passed .defined).passed
    .defined).passed .defined).passed .defined).passed (.contextAdded accepted)

theorem World.usable_sixDefinitions :
    ∀ key, key < 6 → sixDefinitions.Usable ⟨key, 0⟩ := by
  have alive : ∀ key, key < 6 → sixDefinitions.registry.isAlive key = true := by decide
  exact fun key below => ⟨alive key below, Nat.one_pos⟩

/-- Definition 0 reads definition 4, whose home is the same slot. -/
def nested : Task :=
  .get ⟨0, 0⟩ 1 (fun _ => .get ⟨4, 0⟩ 1 (fun _ => .finish (.ok ⟨6⟩)) fun _ => .finish (.ok ⟨7⟩))
    .finish

/-- Among the six definitions that leaves one live slot of each of the two. -/
theorem live_slots_are_single_nested :
    let ended := (nested.run Running.machine ⟨World.sixDefinitions, []⟩).2.world
    (ended.openStore 0).store.table.liveSlotsOf ended.registry 0 = 1 ∧
      (ended.openStore 0).store.table.liveSlotsOf ended.registry 4 ≤ 1 := by
  intro ended
  have solo : World.Solo ended :=
    ((live_slots_are_single World.reachable_sixDefinitions).2 World.solo_sixDefinitions).2.2 nested
      [] ⟨World.usable_sixDefinitions 0 (by decide),
        fun _ => ⟨⟨World.usable_sixDefinitions 4 (by decide), by decide⟩, fun _ => trivial,
          fun _ => trivial⟩, fun _ => trivial⟩
  exact ⟨by decide +kernel, (((live_slots_are_single solo.reachable).2 solo).1 0 4).1⟩

/-- Definition 0 puts its own value while it computes, and then reads definition 4. -/
def displaced : Task :=
  .get ⟨0, 0⟩ 2
    (fun _ => .put ⟨0, 0⟩ ⟨5⟩
      (.get ⟨4, 0⟩ 1 (fun _ => .finish (.ok ⟨6⟩)) fun _ => .finish (.ok ⟨7⟩)))
    .finish

/-- The value of definition 4 pushes the one that was put out of its home slot, and the read of
definition 0, which comes too late, inserts it again without looking: two live slots. -/
theorem displaced_value_takes_two_slots :
    let ended := (displaced.run Running.machine ⟨World.sixDefinitions, []⟩).2.world
    World.Reachable ended ∧
      (ended.openStore 0).store.table.liveSlotsOf ended.registry 0 = 2 ∧
      (ended.snapshot 0).liveSlotsFor (ended.registry.hash 0) = 2 := by
  intro ended
  have within : displaced.Within World.sixDefinitions.Usable :=
    ⟨World.usable_sixDefinitions 0 (by decide),
      fun _ => ⟨World.usable_sixDefinitions 0 (by decide),
        World.usable_sixDefinitions 4 (by decide), fun _ => trivial, fun _ => trivial⟩,
      fun _ => trivial⟩
  exact ⟨World.reachable_sixDefinitions.run_task displaced within [], by decide +kernel,
    by decide +kernel⟩

end ContextCache
