import ContextCache.Proofs.Crowd.Promises
import ContextCache.Proofs.Reader.Refinement

/-!
Contract: nested reads are one of the orders in which a crowd may read.

A task runs on a single thread, and each read in it may run further tasks while it computes.
Seen from outside, every nested read is a reader of its own, which comes when the read begins
and has gone when it ends. So whatever holds of crowds holds of nested reads, however deep
they go and however they fail.

Owns:
- the run of a crowd that a task amounts to;
- that no promise is bound when nobody is computing.

Does not own: what tasks return.
-/

set_option autoImplicit false

namespace ContextCache

namespace Crowd

variable {crowd middle after : Crowd} {reader base : ReaderKey} {place : Place} {token : Token}
  {places : Place → Prop}

/-- The first crowd may become the second one, with all that could be worked on still there. -/
structure Unfolds (before after : Crowd) : Prop where
  run : ∃ happenings, Run before happenings after
  usable : ∀ place, before.world.Usable place → after.world.Usable place

theorem Unfolds.refl (crowd : Crowd) : Unfolds crowd crowd :=
  ⟨⟨[], .here⟩, fun _ usable => usable⟩

theorem Unfolds.trans (earlier : Unfolds crowd middle) (later : Unfolds middle after) :
    Unfolds crowd after := by
  obtain ⟨before, runBefore⟩ := earlier.run
  obtain ⟨since, runSince⟩ := later.run
  exact ⟨⟨since ++ before, runBefore.trans runSince⟩,
    fun place usable => later.usable place (earlier.usable place usable)⟩

theorem Unfolds.sound (unfolds : Unfolds crowd after) (sound : crowd.Sound) : after.Sound := by
  obtain ⟨_, run⟩ := unfolds.run
  exact sound.run run

/-! ### Steps -/

theorem unfolds_of_step {happening : Happening} (step : Step crowd happening after)
    (usable : ∀ place, crowd.world.Usable place → after.world.Usable place) :
    Unfolds crowd after :=
  ⟨⟨[happening], .next .here step⟩, usable⟩

theorem Sound.unfolds_count (sound : crowd.Sound) (counter : Counter) :
    Unfolds crowd { crowd with world := crowd.world.count counter } :=
  unfolds_of_step
    (.other (.counted counter) rfl fun reader place reads =>
      (sound.usable reader place reads).alive)
    fun _ usable => usable.count counter

/-- Work that no reader does for its read. -/
theorem Sound.unfolds_operate (sound : crowd.Sound) (usable : crowd.world.Usable place)
    (operation : Operation) (unread : operation.isOfRead = false) :
    Unfolds crowd { crowd with world := (crowd.world.operate place operation).2 } :=
  unfolds_of_step (sound.step_operate usable unread rfl)
    (sound.reachable.moves usable operation).usable

/-- A reader that has its answer goes away. -/
theorem unfolds_returned (crowd : Crowd) (reader : ReaderKey) (place : Place)
    (allocation : Allocation) (world : World) :
    Unfolds (crowd.move reader world (.answered place allocation))
      (crowd.move reader world .idle) := by
  have step := Step.returned (stage_move_self crowd reader world (.answered place allocation))
  rw [move_move] at step
  exact unfolds_of_step step fun _ usable => usable

/-! ### The pieces of a read -/

/-- Moving a value to its home slot is not a reader's work. -/
theorem Sound.unfolds_relocation (sound : crowd.Sound) (usable : crowd.world.Usable place)
    {searched : Nat} {moved : Bool} {promoted : World}
    (operated : (crowd.world.count .backupHits).operate place (.promote searched) =
      (.promoted moved, promoted)) :
    Unfolds crowd
      { crowd with world := if moved then promoted.count .relocations else promoted } := by
  have counted := sound.unfolds_count .backupHits
  have promotes := counted.trans
    ((counted.sound sound).unfolds_operate (counted.usable place usable) (.promote searched) rfl)
  dsimp only at promotes
  rw [operated] at promotes
  cases moved with
  | true => exact promotes.trans ((promotes.sound sound).unfolds_count .relocations)
  | false => exact promotes

/-- A reader comes, is answered by the table, and goes once the table has been tidied up. -/
theorem Sound.unfolds_found {allocation : Allocation} {world : World}
    (usable : crowd.world.Usable place) (free : crowd.stage reader = .idle)
    (answered : (crowd.world.openStore place.context).answer? place.definition = some allocation)
    (tidied : Unfolds (crowd.move reader crowd.world (.answered place allocation))
      (crowd.move reader world (.answered place allocation))) :
    Unfolds crowd { crowd with world } := by
  have found := unfolds_of_step (.found free usable answered) fun _ usable => usable
  have returned := unfolds_returned crowd reader place allocation world
  rw [move_stage free] at returned
  exact (found.trans tidied).trans returned

theorem Sound.unfolds_lookup (sound : crowd.Sound) (usable : crowd.world.Usable place)
    (free : crowd.stage reader = .idle) :
    (∃ allocation world, crowd.world.lookup place = (some allocation, world) ∧
        Unfolds crowd { crowd with world }) ∨
      crowd.world.lookup place = (none, crowd.world) := by
  have stays : ∀ allocation, (crowd.move reader crowd.world (.answered place allocation)).Sound :=
    fun allocation => sound.move sound.reachable (fun _ => id) fun _ reads => by cases reads
  have looked := crowd.world.looked place
  generalize crowd.world.lookup place = looked at looked ⊢
  cases looked with
  | missed => exact Or.inr rfl
  | @atHome allocation answered =>
      have counts := (stays allocation).unfolds_count .homeHits
      exact Or.inl ⟨allocation, _, rfl, unfolds_found usable free answered counts⟩
  | @behind allocation _ _ _ answered operated =>
      have relocates := (stays allocation).unfolds_relocation usable operated
      exact Or.inl ⟨allocation, _, rfl, unfolds_found usable free answered relocates⟩

/-- The crowd may come to where the reader has its answer or computes, as the step says. -/
inductive Proceeds (crowd : Crowd) (reader : ReaderKey) (place : Place) :
    ReadStep × World → Prop where
  | answered {allocation : Allocation} {world : World}
      (unfolds : Unfolds crowd (crowd.move reader world (.answered place allocation))) :
      Proceeds crowd reader place (.answered allocation, world)
  | computes {token : Token} {world : World}
      (unfolds : Unfolds crowd (crowd.move reader world (.computing place token))) :
      Proceeds crowd reader place (.compute (.promise token), world)

/-- A reader that moves and then proceeds has proceeded. -/
theorem Proceeds.following {world : World} {stage : Stage} {result : ReadStep × World}
    (proceeds : (crowd.move reader world stage).Proceeds reader place result)
    (moved : Unfolds crowd (crowd.move reader world stage)) :
    crowd.Proceeds reader place result := by
  cases proceeds with
  | answered unfolds =>
      rw [move_move] at unfolds
      exact .answered (moved.trans unfolds)
  | computes unfolds =>
      rw [move_move] at unfolds
      exact .computes (moved.trans unfolds)

/-- A start answers the reader, or makes it compute under the promise that it takes. -/
theorem Sound.proceeds_startEntry (sound : crowd.Sound)
    (waits : crowd.stage reader = .missed place) :
    crowd.Proceeds reader place (crowd.world.startEntry place) := by
  have usable := sound.usable_missed waits
  have effect := sound.reachable.sound.effect_operate usable .start
  have moves := sound.reachable.moves usable .start
  generalize outcome : (crowd.world.operate place .start).1 = result at effect
  have returned : ∀ entry, result = .started entry →
      ((crowd.world.openStore place.context).start place.definition).1 = entry := by
    rintro entry rfl
    exact Outcome.started.inj outcome
  cases effect with
  | promised =>
      have began := unfolds_of_step (.began waits outcome) moves.usable
      rw [World.startEntry_eq, returned _ rfl]
      exact .computes (began.trans ((began.sound sound).unfolds_count .computations))
  | answered =>
      rw [World.startEntry_eq, returned _ rfl]
      exact .answered (unfolds_of_step (.answered waits outcome rfl) moves.usable)

/-- A value that comes in time answers the reader, which starts over with any other. -/
theorem Sound.proceeds_publish (sound : crowd.Sound)
    (computes : crowd.stage reader = .computing place token) (allocation : Allocation) :
    crowd.Proceeds reader place
      (crowd.world.publish place (.promise token) allocation) := by
  have usable := sound.usable_computing computes
  have effect := sound.reachable.sound.effect_operate usable (.commit token allocation)
  have moves := sound.reachable.moves usable (.commit token allocation)
  generalize outcome : (crowd.world.operate place (.commit token allocation)).1 = result at effect
  have returned : ∀ entry, result = .finished entry →
      ((crowd.world.openStore place.context).commit place.definition token allocation).1 =
        entry := by
    rintro entry rfl
    exact Outcome.finished.inj outcome
  cases effect with
  | committed =>
      rw [World.publish_eq, returned _ rfl]
      exact .answered (unfolds_of_step (.committed computes outcome) moves.usable)
  | discarded =>
      have discarded := unfolds_of_step (.discarded computes outcome) moves.usable
      have counted : Unfolds crowd (crowd.move reader
          ((crowd.world.operate place (.commit token allocation)).2.count .publishRetries)
          (.missed place)) :=
        discarded.trans ((discarded.sound sound).unfolds_count .publishRetries)
      rw [World.publish_eq, returned _ rfl]
      exact ((counted.sound sound).proceeds_startEntry (stage_move_self ..)).following counted

/-- A reader whose computation fails hands its promise in and goes. -/
theorem Sound.unfolds_retract (sound : crowd.Sound)
    (computes : crowd.stage reader = .computing place token) :
    Unfolds crowd (crowd.move reader (crowd.world.retract place (.promise token)) .idle) := by
  have counted := sound.unfolds_count .computeFailures
  have usable := counted.usable place (sound.usable_computing computes)
  have moves := (counted.sound sound).reachable.moves usable (.retract token)
  exact counted.trans (unfolds_of_step (.failed computes) moves.usable)

/-! ### Whole reads -/

/-- The places can be worked on, and no reader from `base` on has come yet. -/
structure Ready (crowd : Crowd) (places : Place → Prop) (base : ReaderKey) : Prop where
  sound : crowd.Sound
  usable : ∀ place, places place → crowd.world.Usable place
  idle : ∀ reader, base ≤ reader → crowd.stage reader = .idle

theorem Ready.unfolds (ready : crowd.Ready places base) (unfolds : Unfolds crowd after)
    (idle : ∀ reader, base ≤ reader → after.stage reader = .idle) : after.Ready places base where
  sound := unfolds.sound ready.sound
  usable := fun place inside => unfolds.usable place (ready.usable place inside)
  idle := idle

/-- The first idle reader comes; those behind it are still idle. -/
theorem Ready.take (ready : crowd.Ready places base) {world : World} {stage : Stage}
    (unfolds : Unfolds crowd (crowd.move base world stage)) :
    (crowd.move base world stage).Ready places (base + 1) where
  sound := unfolds.sound ready.sound
  usable := fun place inside => unfolds.usable place (ready.usable place inside)
  idle := fun reader beyond =>
    (stage_move_ne crowd (Nat.ne_of_gt beyond) _ _).trans
      (ready.idle reader (Nat.le_of_succ_le beyond))

/-- The computation amounts to a run of the crowd in which new readers come and go. -/
def Nests {ρ : Type} (places : Place → Prop) (computation : Computation ρ) : Prop :=
  ∀ crowd base own, crowd.Ready places base →
    Unfolds crowd { crowd with world := (computation ⟨crowd.world, own⟩).2.world }

section Reads

variable {ρ : Type} {computation : Computation ρ}

/-- The loop of a read, from its first promise on. -/
theorem Nests.settle (nests : Nests places computation) (attempts : Nat) :
    ∀ (crowd : Crowd) (token : Token) (own : ρ), crowd.Ready places (base + 1) →
      crowd.stage base = .computing place token →
      Unfolds crowd (crowd.move base
        (Running.settle computation place attempts (.promise token) ⟨crowd.world, own⟩).2.world
        .idle) := by
  induction attempts with
  | zero =>
      intro crowd token own ready computes
      exact ready.sound.unfolds_retract computes
  | succ attempts inductionHypothesis =>
      intro crowd token own ready computes
      -- The readers of the computation come and go behind `base`, which goes on computing.
      have computed := nests crowd (base + 1) own ready
      have sound := computed.sound ready.sound
      unfold Running.settle
      generalize computation ⟨crowd.world, own⟩ = result at computed sound ⊢
      obtain ⟨result, ⟨world, own⟩⟩ := result
      cases result with
      | error failure => exact computed.trans (sound.unfolds_retract computes)
      | ok allocation =>
          dsimp only at computed sound ⊢
          have proceeds := sound.proceeds_publish computes allocation
          generalize World.publish world place (.promise token) allocation = published at proceeds ⊢
          cases proceeds with
          | answered unfolds =>
              exact (computed.trans unfolds).trans (unfolds_returned crowd base place _ _)
          | @computes next world unfolds =>
              have restarted : Unfolds crowd (crowd.move base world (.computing place next)) :=
                computed.trans unfolds
              have readyAgain := ready.unfolds restarted fun reader beyond =>
                (stage_move_ne crowd (Nat.ne_of_gt beyond) _ _).trans (ready.idle reader beyond)
              have settles := inductionHypothesis _ next own readyAgain (stage_move_self ..)
              rw [move_move] at settles
              exact restarted.trans settles

/-- A read whose computation nests does so itself. -/
theorem Nests.read (nests : Nests places computation) (inside : places place) (attempts : Nat) :
    Nests places (Running.read computation attempts place) := by
  intro crowd base own ready
  have usable := ready.usable place inside
  have free := ready.idle base (Nat.le_refl base)
  unfold Running.read World.beginRead
  rcases ready.sound.unfolds_lookup usable free with ⟨allocation, found, returns, unfolds⟩ | misses
  · dsimp only
    rw [returns]
    exact unfolds
  · dsimp only
    rw [misses]
    have came := unfolds_of_step (.missed free usable) fun _ usable => usable
    have missed : Unfolds crowd
        (crowd.move base (crowd.world.count .mapLookups) (.missed place)) :=
      came.trans ((came.sound ready.sound).unfolds_count .mapLookups)
    have proceeds :=
      ((missed.sound ready.sound).proceeds_startEntry (stage_move_self ..)).following missed
    rw [world_move] at proceeds
    dsimp only
    generalize (crowd.world.count .mapLookups).startEntry place = started at proceeds ⊢
    cases proceeds with
    | @answered answer world unfolds =>
        have returned := unfolds_returned crowd base place answer world
        rw [move_stage free] at returned
        exact unfolds.trans returned
    | @computes token world unfolds =>
        have settles := nests.settle attempts _ token own (ready.take unfolds) (stage_move_self ..)
        rw [move_move, move_stage free] at settles
        exact unfolds.trans settles

end Reads

/-! ### Tasks -/

theorem Sound.unfolds_remove (sound : crowd.Sound) (usable : crowd.world.Usable place) :
    Unfolds crowd { crowd with world := crowd.world.remove place } := by
  cases found : crowd.world.store? place.context with
  | none =>
      rw [World.remove_of_no_store found]
      exact Unfolds.refl crowd
  | some store =>
      rw [World.remove_eq found]
      exact sound.unfolds_operate usable .remove rfl

/-- Going on from another state of the program itself. -/
theorem Nests.following {ρ : Type} {next : Computation ρ} (nests : Nests places next)
    (ready : crowd.Ready places base) {world : World} (unfolds : Unfolds crowd { crowd with world })
    (own : ρ) : Unfolds crowd { crowd with world := (next ⟨world, own⟩).2.world } :=
  unfolds.trans (nests { crowd with world } base own (ready.unfolds unfolds ready.idle))

/-- Every task amounts to a run of the crowd. -/
theorem nests_run (task : Task) (within : task.Within places) :
    Nests places (task.run Running.machine) := by
  induction task with
  | finish result =>
      intro crowd base own ready
      exact Unfolds.refl crowd
  | get place attempts body next bodyHypothesis nextHypothesis =>
      intro crowd base own ready
      obtain ⟨inside, bodyWithin, nextWithin⟩ := within
      have computes : Nests places fun begun : Running Log =>
          (body (Running.machine.note (.began place) begun).own).run Running.machine
            (Running.machine.note (.began place) begun) :=
        fun crowd base own ready => bodyHypothesis _ (bodyWithin _) crowd base _ ready
      have reads := computes.read inside attempts crowd base own ready
      exact (nextHypothesis _ (nextWithin _)).following ready reads _
  | remove place next inductionHypothesis =>
      intro crowd base own ready
      have removes := ready.sound.unfolds_remove (ready.usable place within.1)
      exact (inductionHypothesis within.2).following ready removes _
  | put place allocation next inductionHypothesis =>
      intro crowd base own ready
      have puts :=
        ready.sound.unfolds_operate (ready.usable place within.1) (.change allocation) rfl
      exact (inductionHypothesis within.2).following ready puts _

/-- In every crowd that can come about there are readers that have not come yet. -/
theorem Reachable.exists_idle (reachable : Reachable crowd) :
    ∃ base, ∀ reader, base ≤ reader → crowd.stage reader = .idle := by
  induction reachable with
  | initial => exact ⟨0, fun _ _ => rfl⟩
  | @next happening before after _ step inductionHypothesis =>
      obtain ⟨base, idle⟩ := inductionHypothesis
      refine ⟨base + (happening.reader?.getD 0 + 1), fun reader beyond => ?_⟩
      have elsewhere : happening.reader? ≠ some reader := by
        intro moves
        rw [moves, Option.getD_some] at beyond
        exact Nat.not_succ_le_self reader (Nat.le_trans (Nat.le_add_left _ base) beyond)
      rw [step.stage_eq elsewhere]
      exact idle reader (Nat.le_trans (Nat.le_add_right base _) beyond)

/-- Running a task leads to a crowd that can come about, with all readers where they were. -/
theorem Reachable.run_task (reachable : Reachable crowd) (task : Task)
    (within : task.Within crowd.world.Usable) (log : Log) :
    Reachable { crowd with world := (task.run Running.machine ⟨crowd.world, log⟩).2.world } := by
  obtain ⟨base, idle⟩ := reachable.exists_idle
  have ready : crowd.Ready crowd.world.Usable base :=
    ⟨reachable.sound, fun _ usable => usable, idle⟩
  obtain ⟨_, run⟩ := (nests_run task within crowd base log ready).run
  exact reachable.run run

/-! ### No promise is left behind -/

/-- No reader is computing. -/
def AtRest (crowd : Crowd) : Prop :=
  ∀ reader place token, crowd.stage reader ≠ .computing place token

theorem Reachable.no_promise (reachable : Reachable crowd) (atRest : crowd.AtRest)
    (place : Place) (token : Token) : crowd.world.binding? place ≠ some (.promise token) := by
  intro promised
  obtain ⟨reader, computes⟩ := reachable.attended place token promised
  exact atRest reader place token computes

/-- Promises do not dangle. Whenever a place is bound to a promise, some reader is computing
for that place under that very promise. So while nobody is computing no place is bound to a
promise; and a task, in which reads are nested and fail in any way, leaves none behind, but a
crowd that can come about again. -/
theorem promises_are_attended (reachable : Reachable crowd) :
    (∀ place token, crowd.world.binding? place = some (.promise token) →
      ∃ reader, crowd.stage reader = .computing place token) ∧
    (crowd.AtRest → ∀ place token, crowd.world.binding? place ≠ some (.promise token)) ∧
    ∀ (task : Task) (log : Log), task.Within crowd.world.Usable →
      Reachable { crowd with world := (task.run Running.machine ⟨crowd.world, log⟩).2.world } ∧
      (crowd.AtRest → ∀ place token,
        (task.run Running.machine ⟨crowd.world, log⟩).2.world.binding? place ≠
          some (.promise token)) := by
  refine ⟨reachable.attended, reachable.no_promise, ?_⟩
  intro task log within
  have ended := reachable.run_task task within log
  exact ⟨ended, fun atRest => ended.no_promise atRest⟩

/-- A computation that reads its own place, where the inner read fails, and then fails too. -/
def failing : Task :=
  .get ⟨0, 0⟩ 1 (fun _ => .get ⟨0, 0⟩ 1 (fun _ => .finish (.error (.panic "inner")))
    fun _ => .finish (.error (.panic "outer"))) .finish

/-- In the small crowd the bound promise is the first reader's, and nested failures leave no
promise behind. -/
theorem promises_are_attended_small :
    (∃ reader, smallBegun.stage reader = .computing ⟨0, 0⟩ ⟨0, 0⟩) ∧
      (failing.run Running.machine ⟨World.small, []⟩).2.world.binding? ⟨0, 0⟩ ≠
        some (.promise ⟨0, 0⟩) :=
  ⟨(promises_are_attended reachable_smallBegun).1 ⟨0, 0⟩ ⟨0, 0⟩ (by decide),
    ((promises_are_attended reachable_small).2.2 failing []
      ⟨World.usable_small, fun _ => ⟨World.usable_small, fun _ => trivial, fun _ => trivial⟩,
        fun _ => trivial⟩).2 (fun _ _ _ => by simp [small]) ⟨0, 0⟩ ⟨0, 0⟩⟩

end Crowd

end ContextCache
