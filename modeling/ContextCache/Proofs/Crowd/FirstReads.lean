import ContextCache.Proofs.Crowd.Discards
import ContextCache.Proofs.Crowd.Traces

/-!
Contract: what many readers do that read a place for the first time, all at once.

As long as nobody else touches the definition, its generation stays what it is, so all
readers that compute do so under the same promise. Nobody hands it in without a value, so it
is bound until the first value is, and that value stays. So a reader computes at most once:
its value is the one that is bound, or it is thrown away and the reader takes the other one.

Owns:
- what a single reader can have done, step by step;
- that all readers get the same value, which exactly one of them has committed;
- how often is computed, and that nobody is stuck.

Does not own: in which order readers take their steps.
-/

set_option autoImplicit false

namespace ContextCache

namespace World

variable {world after : World} {place worked : Place} {event : Event}

/-! ### Generations -/

theorem generation_operate (world : World) (worked : Place) (operation : Operation)
    {key : DefinitionKey}
    (spared : worked.definition = key → operation.mayInvalidate = false) :
    (world.operate worked operation).2.registry.generation key =
      world.registry.generation key := by
  rcases OpenStore.registry_operate (world.openStore worked.context) worked.definition operation
    with same | ⟨may, bumped⟩
  · exact congrArg (fun registry => registry.generation key) same
  · have differs : key ≠ worked.definition := by
      rintro rfl
      exact absurd (may.symm.trans (spared rfl)) (by decide)
    exact (congrArg (fun registry => registry.generation key) bumped).trans
      (Registry.generation_bump_ne _ differs)

/-- What happens to definitions and contexts ends no generation. -/
theorem Step.generation_passed (step : Step world .passed after) (key : DefinitionKey) :
    after.registry.generation key = world.registry.generation key := by
  cases step with
  | defined => exact Registry.generation_define _ key
  | dropped other => exact Registry.generation_drop _ other key
  | contextAdded accepted =>
      unfold World.addContext at accepted
      split at accepted
      · cases accepted
      · cases accepted
        rfl
  | _ => rfl

/-! ### Lookups -/

theorem Sound.binding?_lookup (sound : world.Sound) (workable : world.Usable worked)
    (usable : world.Usable place) {operation : Operation} (lookup : operation.isLookup = true) :
    (world.operate worked operation).2.binding? place = world.binding? place := by
  by_cases same : place = worked
  · subst same
    have effect := sound.effect_operate workable operation
    generalize (world.operate place operation).1 = outcome at effect
    cases effect with
    | probed same => exact congrArg (fun opened => opened.store.binding? place.definition) same
    | promoted kept => exact kept.binding place.definition usable.alive
    | _ => cases lookup
  · exact (sound.spares_operate workable operation).binding place same usable.alive

end World

namespace Crowd

variable {crowd after : Crowd} {reader : ReaderKey} {readers : Nat} {place : Place}
  {token : Token} {decided : Option Allocation} {allocation : Allocation}
  {happening : Happening} {happenings : List Happening} {stage : Stage} {actions : List Action}

/-! ### One reader -/

/-- How far a reader can have come, and what it has done by then. `decided` is what the place
is bound to. -/
inductive Trace (place : Place) (token : Token) (decided : Option Allocation) :
    Stage → List Action → Prop where
  | idle : Trace place token decided .idle []
  | looked : Trace place token decided (.missed place) [.missed]
  | computing : Trace place token decided (.computing place token) [.began token, .missed]
  | refused {own : Allocation} (late : decided.isSome = true) :
      Trace place token decided (.missed place) [.discarded own, .began token, .missed]
  | found {answer : Allocation} (bound : decided = some answer) :
      Trace place token decided (.answered place answer) [.found answer]
  | given {answer : Allocation} (bound : decided = some answer) :
      Trace place token decided (.answered place answer) [.answered answer, .missed]
  | won {answer : Allocation} (bound : decided = some answer) :
      Trace place token decided (.answered place answer)
        [.committed answer, .began token, .missed]
  | lost {own answer : Allocation} (bound : decided = some answer) :
      Trace place token decided (.answered place answer)
        [.answered answer, .discarded own, .began token, .missed]

theorem Trace.length_le (trace : Trace place token decided stage actions) :
    actions.length ≤ 4 := by
  cases trace <;> simp

theorem Trace.begins_le (trace : Trace place token decided stage actions) :
    actions.countP Action.begins ≤ 1 := by
  cases trace <;> simp [List.countP_cons, Action.begins]

/-- Whoever has its answer has got what is bound, and its computations have ended. -/
theorem Trace.answered (trace : Trace place token decided (.answered place allocation) actions) :
    decided = some allocation ∧ actions.countP Action.begins =
      actions.countP Action.commits + actions.countP Action.discards := by
  cases trace with
  | found bound => exact ⟨bound, rfl⟩
  | given bound => exact ⟨bound, rfl⟩
  | won bound => exact ⟨bound, rfl⟩
  | lost bound => exact ⟨bound, rfl⟩

theorem Trace.idle_actions (trace : Trace place token decided .idle actions) : actions = [] := by
  cases trace
  rfl

theorem Trace.missed_actions {worked : Place}
    (trace : Trace place token decided (.missed worked) actions) :
    actions = [.missed] ∨
      decided.isSome = true ∧ ∃ own, actions = [.discarded own, .began token, .missed] := by
  cases trace with
  | looked => exact Or.inl rfl
  | refused late => exact Or.inr ⟨late, _, rfl⟩

theorem Trace.computing_actions {worked : Place} {own : Token}
    (trace : Trace place token decided (.computing worked own) actions) :
    own = token ∧ actions = [.began token, .missed] := by
  cases trace
  exact ⟨rfl, rfl⟩

/-- When the value is bound everybody is where they were. -/
theorem Trace.decide (trace : Trace place token none stage actions) (allocation : Allocation) :
    Trace place token (some allocation) stage actions := by
  cases trace with
  | idle => exact .idle
  | looked => exact .looked
  | computing => exact .computing
  | refused late => cases late
  | found bound => cases bound
  | given bound => cases bound
  | won bound => cases bound
  | lost bound => cases bound

/-! ### All readers -/

/-- What holds while the first `readers` readers read the place for the first time. -/
structure Converging (place : Place) (token : Token) (readers : Nat)
    (happenings : List Happening) (crowd : Crowd) : Prop where
  current : crowd.world.registry.current place.definition = token
  traces : ∀ reader, reader < readers →
    Trace place token (crowd.world.value? place) (crowd.stage reader) (actionsOf reader happenings)
  promised : ∀ reader, reader < readers → crowd.stage reader = .computing place token →
    crowd.world.value? place = none → crowd.world.binding? place = some (.promise token)
  commits : (actionsAt place happenings).countP Action.commits =
    if (crowd.world.value? place).isSome then 1 else 0

/-- One of the readers moves. -/
theorem Converging.move {world : World} {action : Action}
    (converging : Converging place token readers happenings crowd)
    (current : world.registry.current place.definition = token)
    (stays : crowd.world.value? place = none ∨ world.value? place = crowd.world.value? place)
    (trace : Trace place token (world.value? place) stage (action :: actionsOf reader happenings))
    (promised : world.value? place = none →
      stage = .computing place token ∨ crowd.world.binding? place = some (.promise token) →
        world.binding? place = some (.promise token))
    (commits : (if (world.value? place).isSome then 1 else 0) =
      (if (crowd.world.value? place).isSome then 1 else 0) + if action.commits then 1 else 0) :
    Converging place token readers (.read reader place action :: happenings)
      (crowd.move reader world stage) where
  current := current
  traces := by
    intro other amongToo
    rw [world_move]
    by_cases same : other = reader
    · rw [same, stage_move_self,
        actionsOf_cons_of_some (Happening.actionOf?_read_self reader place action)]
      exact trace
    · rw [stage_move_ne crowd same,
        actionsOf_cons_of_none (Happening.actionOf?_read_ne same place action)]
      have before := converging.traces other amongToo
      rcases stays with vacant | same
      · rw [vacant] at before
        cases held : world.value? place with
        | none => exact before
        | some allocation => exact before.decide allocation
      · rw [same]
        exact before
  promised := by
    intro other amongToo computes vacant
    rw [world_move] at vacant ⊢
    by_cases same : other = reader
    · rw [same, stage_move_self] at computes
      exact promised vacant (Or.inl computes)
    · rw [stage_move_ne crowd same] at computes
      apply promised vacant (Or.inr (converging.promised other amongToo computes ?_))
      rcases stays with vacantBefore | same
      · exact vacantBefore
      · rw [← same]
        exact vacant
  commits := by
    rw [countP_actionsAt_cons, Happening.actionAt?_read_self, Option.any_some, world_move, commits,
      converging.commits]

/-- The reader looks the place up, or starts, and learns the value that is bound. -/
theorem Converging.learn {world : World} {action : Action}
    (converging : Converging place token readers happenings crowd)
    (current : world.registry.current place.definition = token)
    (held : crowd.world.value? place = some allocation)
    (still : world.value? place = some allocation)
    (trace : Trace place token (some allocation) stage (action :: actionsOf reader happenings))
    (commits : action.commits = false) :
    Converging place token readers (.read reader place action :: happenings)
      (crowd.move reader world stage) := by
  apply converging.move current (Or.inr (still.trans held.symm))
  · rw [still]
    exact trace
  · intro vacant
    exact absurd (still.symm.trans vacant) (by simp)
  · rw [still, held, commits]
    rfl

/-- One of the readers takes any of its steps. -/
theorem Converging.read {action : Action}
    (converging : Converging place token readers happenings crowd) (sound : crowd.Sound)
    (step : Step crowd (.read reader place action) after) (among : reader < readers)
    (succeeds : action.succeeds = true) :
    Converging place token readers (.read reader place action :: happenings) after := by
  have world := sound.reachable.sound
  have trace := converging.traces reader among
  have current : ∀ operation, operation.mayInvalidate = false →
      (crowd.world.operate place operation).2.registry.current place.definition = token := by
    intro operation spared
    rw [← converging.current]
    exact congrArg (Token.mk _)
      (World.generation_operate crowd.world place operation fun _ => spared)
  cases step with
  | found free usable answers =>
      have held := (world place.context).value?_of_answer usable.alive answers
      rw [free] at trace
      apply converging.learn converging.current held held ?_ rfl
      rw [trace.idle_actions]
      exact .found rfl
  | missed free usable =>
      rw [free] at trace
      apply converging.move converging.current (Or.inr rfl) ?_ ?_ rfl
      · rw [trace.idle_actions]
        exact .looked
      · intro vacant
        exact fun promised => promised.resolve_left nofun
  | answered waits started carries =>
      obtain ⟨held, still⟩ := world.start_answered (sound.usable_missed waits) started carries
      rw [waits] at trace
      apply converging.learn (current .start rfl) held still ?_ rfl
      rcases trace.missed_actions with first | ⟨-, own, again⟩
      · rw [first]
        exact .given rfl
      · rw [again]
        exact .lost rfl
  | began waits started =>
      obtain ⟨vacant, same, bound⟩ := world.start_promised (sound.usable_missed waits) started
      rw [converging.current] at same
      subst same
      have still : (crowd.world.operate place .start).2.value? place = none :=
        OpenStore.value?_of_binding? bound
      rw [waits] at trace
      apply converging.move (current .start rfl) (Or.inl vacant) ?_ (fun _ _ => bound)
      · rw [still, vacant]
        rfl
      · rcases trace.missed_actions with first | ⟨late, -⟩
        · rw [first]
          exact .computing
        · rw [vacant] at late
          cases late
  | @committed _ _ own allocation _ computes accepted =>
      obtain ⟨promised, still⟩ := world.commit_accepted (sound.usable_computing computes) accepted
      have vacant : crowd.world.value? place = none := OpenStore.value?_of_binding? promised
      rw [computes] at trace
      apply converging.move (current (.commit own allocation) rfl) (Or.inl vacant)
      · rw [still, trace.computing_actions.2]
        exact .won rfl
      · intro vacantStill
        exact absurd (still.symm.trans vacantStill) (by simp)
      · rw [still, vacant]
        rfl
  | @discarded _ _ own allocation computes refused =>
      obtain ⟨superseded, same⟩ := world.commit_refused (sound.usable_computing computes) refused
      have same := World.value?_eq_of_binding? same
      rw [computes] at trace
      obtain ⟨rfl, begun⟩ := trace.computing_actions
      -- The promise is bound until a value is, so a value that is refused finds another one bound.
      have held : crowd.world.value? place ≠ none := fun vacant =>
        superseded (converging.promised reader among computes vacant)
      apply converging.move (current (.commit own allocation) rfl) (Or.inr same)
      · rw [same, begun]
        exact .refused (Option.isSome_iff_ne_none.mpr held)
      · intro vacant
        exact absurd (same.symm.trans vacant) held
      · rw [same]
        rfl
  | failed computes => cases succeeds
  | returned holds => cases succeeds

/-- What happens to other readers and other definitions leaves the place as it is. -/
theorem Converging.elsewhere (converging : Converging place token readers happenings crowd)
    (generation : after.world.registry.generation place.definition =
      crowd.world.registry.generation place.definition)
    (binding : after.world.binding? place = crowd.world.binding? place)
    (stages : ∀ reader, reader < readers → after.stage reader = crowd.stage reader)
    (apart : ∀ reader, reader < readers → happening.actionOf? reader = none)
    (away : happening.actionAt? place = none) :
    Converging place token readers (happening :: happenings) after where
  current := (congrArg (Token.mk _) generation).trans converging.current
  traces := by
    intro reader among
    rw [World.value?_eq_of_binding? binding, stages reader among,
      actionsOf_cons_of_none (apart reader among)]
    exact converging.traces reader among
  promised := by
    intro reader among
    rw [World.value?_eq_of_binding? binding, stages reader among, binding]
    exact converging.promised reader among
  commits := by
    rw [countP_actionsAt_cons, away, World.value?_eq_of_binding? binding]
    exact converging.commits

theorem Converging.other {event : Event} {world : World}
    (converging : Converging place token readers happenings crowd)
    (generation : world.registry.generation place.definition =
      crowd.world.registry.generation place.definition)
    (binding : world.binding? place = crowd.world.binding? place) :
    Converging place token readers (.other event :: happenings) { crowd with world } :=
  converging.elsewhere generation binding (fun _ _ => rfl) (fun _ _ => rfl) rfl

/-- Everything that leaves the place to its readers lets them converge. -/
theorem Converging.step (converging : Converging place token readers happenings crowd)
    (sound : crowd.Sound) (usable : crowd.world.Usable place)
    (step : Step crowd happening after) (leaves : Leaves place readers happening) :
    Converging place token readers (happening :: happenings) after := by
  have world := sound.reachable.sound
  cases leaves with
  | reads among succeeds => exact converging.read sound step among succeeds
  | @readsElsewhere mover worked action apart elsewhere =>
      have differs : worked ≠ place := fun same => elsewhere (congrArg Place.definition same)
      have others : ∀ reader, reader < readers → reader ≠ mover := fun reader among =>
        Nat.ne_of_lt (Nat.lt_of_lt_of_le among apart)
      have kept : after.world.registry.generation place.definition =
            crowd.world.registry.generation place.definition ∧
          after.world.binding? place = crowd.world.binding? place := by
        rcases step.read_world sound with same | ⟨operation, workable, spared, same⟩
        · rw [same]
          exact ⟨rfl, rfl⟩
        · rw [same]
          exact ⟨World.generation_operate _ _ _ fun _ => spared,
            (world.spares_operate workable operation).binding place (Ne.symm differs) usable.alive⟩
      apply converging.elsewhere kept.1 kept.2
      · intro reader among
        exact step.stage_eq fun moves => others reader among (Option.some.inj moves).symm
      · intro reader among
        exact Happening.actionOf?_read_ne (others reader among) worked action
      · exact Happening.actionAt?_read_ne mover differs action
  | @worksElsewhere worked operation _ elsewhere =>
      cases step with
      | other step =>
          cases step with
          | operated _ workable =>
              apply converging.other
              · exact World.generation_operate _ _ _ fun same => absurd same elsewhere
              · apply (world.spares_operate workable operation).binding place ?_ usable.alive
                exact fun same => elsewhere (congrArg Place.definition same).symm
  | @looksUp worked operation _ lookup =>
      cases step with
      | other step =>
          cases step with
          | operated _ workable =>
              have spared : operation.mayInvalidate = false := by
                cases operation <;> first | rfl | cases lookup
              apply converging.other
              · exact World.generation_operate _ _ _ fun _ => spared
              · exact world.binding?_lookup workable usable lookup
  | passed =>
      cases step with
      | other step =>
          apply converging.other
          · exact step.generation_passed _
          · exact world.binding?_step step usable rfl

theorem converging_nil (vacant : crowd.world.value? place = none)
    (idle : ∀ reader, reader < readers → crowd.stage reader = .idle) :
    Converging place (crowd.world.registry.current place.definition) readers [] crowd where
  current := rfl
  traces := by
    intro reader among
    rw [idle reader among]
    exact .idle
  promised := by
    intro reader among computes
    cases (idle reader among).symm.trans computes
  commits := by
    rw [vacant]
    rfl

theorem Run.converging {start : Crowd} (run : Run start happenings after) (sound : start.Sound)
    (known : start.world.Known place) (converging : Converging place token readers [] start)
    (leaves : ∀ happening ∈ happenings, Leaves place readers happening)
    (alive : after.world.registry.isAlive place.definition = true) :
    Converging place token readers happenings after := by
  induction run with
  | here => exact converging
  | @next earlier latest before after run step inductionHypothesis =>
      have usable := step.usable_before (sound.run run) (run.known sound known) alive
      have converged := inductionHypothesis
        (fun happening member => leaves happening (List.mem_cons_of_mem latest member)) usable.alive
      exact converged.step (sound.run run) usable step (leaves latest (List.mem_cons_self ..))

/-! ### Nobody is stuck -/

theorem Sound.can_start (sound : crowd.Sound) (waits : crowd.stage reader = .missed place) :
    ∃ action later, Step crowd (.read reader place action) later ∧ action.succeeds = true := by
  have effect := sound.reachable.sound.effect_operate (sound.usable_missed waits) .start
  generalize started : (crowd.world.operate place .start).1 = outcome at effect
  cases effect with
  | promised => exact ⟨_, _, .began waits started, rfl⟩
  | answered => exact ⟨_, _, .answered waits started rfl, rfl⟩

/-- Whatever a reader has computed, it can hand it in. -/
theorem Sound.can_commit (sound : crowd.Sound)
    (computes : crowd.stage reader = .computing place token) (allocation : Allocation) :
    ∃ action later, Step crowd (.read reader place action) later ∧ action.succeeds = true := by
  have effect := sound.reachable.sound.effect_operate (sound.usable_computing computes)
    (.commit token allocation)
  generalize finished : (crowd.world.operate place (.commit token allocation)).1 = outcome at effect
  cases effect with
  | committed => exact ⟨_, _, .committed computes finished, rfl⟩
  | discarded => exact ⟨_, _, .discarded computes finished, rfl⟩

theorem Converging.progress (converging : Converging place token readers happenings crowd)
    (sound : crowd.Sound) (usable : crowd.world.Usable place) (among : reader < readers) :
    (∃ allocation, crowd.stage reader = .answered place allocation) ∨
      ∃ action later, Step crowd (.read reader place action) later ∧ action.succeeds = true := by
  have trace := converging.traces reader among
  generalize stands : crowd.stage reader = stage at trace
  generalize actionsOf reader happenings = actions at trace
  cases trace with
  | idle => exact Or.inr ⟨_, _, .missed stands usable, rfl⟩
  | looked | refused => exact Or.inr (sound.can_start stands)
  | computing => exact Or.inr (sound.can_commit stands ⟨0⟩)
  | found | given | won | lost => exact Or.inl ⟨_, rfl⟩

/-! ### Convergence -/

/-- When all readers have their answer they have the same one, and what has been computed adds
up. -/
theorem Converging.converged (converging : Converging place token readers happenings crowd)
    (leaves : ∀ happening ∈ happenings, Leaves place readers happening) (nonempty : 0 < readers)
    (answered : ∀ reader, reader < readers →
      ∃ allocation, crowd.stage reader = .answered place allocation) :
    ∃ allocation, crowd.world.value? place = some allocation ∧
      (∀ reader, reader < readers → crowd.stage reader = .answered place allocation) ∧
      (actionsAt place happenings).countP Action.commits = 1 ∧
      (actionsAt place happenings).countP Action.begins =
        (actionsAt place happenings).countP Action.discards + 1 ∧
      (actionsAt place happenings).countP Action.begins ≤ readers := by
  have each : ∀ reader, reader < readers → ∃ allocation,
      crowd.stage reader = .answered place allocation ∧
        crowd.world.value? place = some allocation ∧
        (actionsOf reader happenings).countP Action.begins =
          (actionsOf reader happenings).countP Action.commits +
            (actionsOf reader happenings).countP Action.discards := by
    intro reader among
    obtain ⟨allocation, stands⟩ := answered reader among
    have trace := converging.traces reader among
    rw [stands] at trace
    exact ⟨allocation, stands, trace.answered⟩
  obtain ⟨allocation, -, held, -⟩ := each 0 nonempty
  have commits : (actionsAt place happenings).countP Action.commits = 1 := by
    rw [converging.commits, held]
    rfl
  have balance : (actionsAt place happenings).countP Action.begins =
      (actionsAt place happenings).countP Action.commits +
        (actionsAt place happenings).countP Action.discards := by
    rw [countP_actionsAt leaves, countP_actionsAt leaves, countP_actionsAt leaves,
      ← Finset.sum_add_distrib]
    apply Finset.sum_congr rfl
    intro reader member
    obtain ⟨-, -, -, own⟩ := each reader (Finset.mem_range.mp member)
    exact own
  refine ⟨allocation, held, ?_, commits, ?_, ?_⟩
  · intro reader among
    obtain ⟨other, stands, heldToo, -⟩ := each reader among
    rw [stands, Option.some.inj (heldToo.symm.trans held)]
  · rw [balance, commits, Nat.add_comm]
  · rw [countP_actionsAt leaves]
    have once : ∀ reader ∈ Finset.range readers,
        (actionsOf reader happenings).countP Action.begins ≤ 1 := fun reader member =>
      (converging.traces reader (Finset.mem_range.mp member)).begins_le
    simpa using Finset.sum_le_card_nsmul _ _ _ once

/-- A read of a bound value returns it and does not compute. -/
theorem read_bound {world : World} (reachable : World.Reachable world)
    (usable : world.Usable place) (held : world.value? place = some allocation) {ρ : Type}
    (computation : Computation ρ) (attempts : Nat) (own : ρ) :
    (Running.read computation attempts place ⟨world, own⟩).1 = .ok allocation ∧
      (Running.read computation attempts place ⟨world, own⟩).2.own = own := by
  obtain ⟨begun, returns, -⟩ := World.beginRead_value (reachable.serves usable) held
  unfold Running.read
  rw [returns]
  exact ⟨rfl, rfl⟩

/-- First reads converge. However the steps of the readers of a fresh place are interleaved,
each reader computes at most once and takes at most four steps, and as long as it has no
answer there is a step that it can take. When all have their answer they have the same
allocation, exactly one value has been committed, and there have been as many computations as
discarded values and one more, but no more than readers. A later read returns that allocation
without computing. -/
theorem first_reads_converge {start : Crowd} (reachable : Reachable start)
    (usable : start.world.Usable place) (fresh : start.world.binding? place = none)
    (idle : ∀ reader, reader < readers → start.stage reader = .idle)
    (run : Run start happenings after)
    (leaves : ∀ happening ∈ happenings, Leaves place readers happening)
    (alive : after.world.registry.isAlive place.definition = true) :
    (∀ reader, reader < readers →
      (actionsOf reader happenings).length ≤ 4 ∧
      (actionsOf reader happenings).countP Action.begins ≤ 1 ∧
      ((∃ allocation, after.stage reader = .answered place allocation) ∨
        ∃ action later, Step after (.read reader place action) later ∧ action.succeeds = true)) ∧
    (0 < readers →
      (∀ reader, reader < readers → ∃ allocation, after.stage reader = .answered place allocation) →
        ∃ allocation,
          (∀ reader, reader < readers → after.stage reader = .answered place allocation) ∧
          (actionsAt place happenings).countP Action.commits = 1 ∧
          (actionsAt place happenings).countP Action.begins =
            (actionsAt place happenings).countP Action.discards + 1 ∧
          (actionsAt place happenings).countP Action.begins ≤ readers ∧
          ∀ {ρ : Type} (computation : Computation ρ) (attempts : Nat) (own : ρ),
            (Running.read computation attempts place ⟨after.world, own⟩).1 = .ok allocation ∧
            (Running.read computation attempts place ⟨after.world, own⟩).2.own = own) := by
  have sound := reachable.sound
  have vacant : start.world.value? place = none := OpenStore.value?_of_unbound fresh
  have converging :=
    run.converging sound usable.known (converging_nil vacant idle) leaves alive
  have soundAfter := sound.run run
  have usableAfter : after.world.Usable place :=
    ⟨alive, (run.known sound usable.known).listed⟩
  refine ⟨?_, ?_⟩
  · intro reader among
    have trace := converging.traces reader among
    exact ⟨trace.length_le, trace.begins_le, converging.progress soundAfter usableAfter among⟩
  · intro nonempty answered
    obtain ⟨allocation, held, same, commits, balance, bounded⟩ :=
      converging.converged leaves nonempty answered
    exact ⟨allocation, same, commits, balance, bounded, fun computation attempts own =>
      read_bound soundAfter.reachable usableAfter held computation attempts own⟩

/-- Of two readers in the small crowd the first one commits its value. -/
def smallWon : Crowd :=
  smallJoined.move 0 (smallJoined.world.operate ⟨0, 0⟩ (.commit ⟨0, 0⟩ ⟨7⟩)).2
    (.answered ⟨0, 0⟩ ⟨7⟩)

/-- The second one's value comes too late. -/
def smallLost : Crowd :=
  smallWon.move 1 (smallWon.world.operate ⟨0, 0⟩ (.commit ⟨0, 0⟩ ⟨9⟩)).2 (.missed ⟨0, 0⟩)

/-- It starts over and takes the first one's. -/
def smallConverged : Crowd :=
  smallLost.move 1 (smallLost.world.operate ⟨0, 0⟩ .start).2 (.answered ⟨0, 0⟩ ⟨7⟩)

/-- What has happened to two readers in the small crowd, the latest first. -/
def smallRace : List Happening :=
  [.read 1 ⟨0, 0⟩ (.answered ⟨7⟩), .read 1 ⟨0, 0⟩ (.discarded ⟨9⟩),
    .read 0 ⟨0, 0⟩ (.committed ⟨7⟩), .read 1 ⟨0, 0⟩ (.began ⟨0, 0⟩), .read 1 ⟨0, 0⟩ .missed,
    .read 0 ⟨0, 0⟩ (.began ⟨0, 0⟩), .read 0 ⟨0, 0⟩ .missed]

theorem run_smallRace : Run small smallRace smallConverged := by
  have missed : Step small (.read 0 ⟨0, 0⟩ .missed) smallMissed := .missed rfl World.usable_small
  have accepted : (smallJoined.world.operate ⟨0, 0⟩ (.commit ⟨0, 0⟩ ⟨7⟩)).1 =
      .finished (some (.minted 0 (some ⟨0, 0⟩) (some ⟨7⟩))) := by decide
  have won : Step smallJoined (.read 0 ⟨0, 0⟩ (.committed ⟨7⟩)) smallWon := .committed rfl accepted
  have lost : Step smallWon (.read 1 ⟨0, 0⟩ (.discarded ⟨9⟩)) smallLost :=
    .discarded rfl (by decide)
  have started : (smallLost.world.operate ⟨0, 0⟩ .start).1 =
      .started (.minted 0 (some ⟨0, 0⟩) (some ⟨7⟩)) := by decide
  have answered : Step smallLost (.read 1 ⟨0, 0⟩ (.answered ⟨7⟩)) smallConverged :=
    .answered rfl started rfl
  exact (((((Run.here.next missed).next began_smallBegun).trans run_smallJoined).next won).next
    lost).next answered

theorem leaves_smallRace : ∀ happening ∈ smallRace, Leaves ⟨0, 0⟩ 2 happening := by
  intro happening member
  simp only [smallRace, List.mem_cons, List.not_mem_nil, or_false] at member
  rcases member with rfl | rfl | rfl | rfl | rfl | rfl | rfl <;> exact .reads (by decide) rfl

/-- Both readers have the same value, one of their two computations has been in vain, and a
third read does not compute. -/
theorem first_reads_converge_small :
    ∃ allocation, (∀ reader, reader < 2 →
        smallConverged.stage reader = .answered ⟨0, 0⟩ allocation) ∧
      (actionsAt ⟨0, 0⟩ smallRace).countP Action.begins =
        (actionsAt ⟨0, 0⟩ smallRace).countP Action.discards + 1 ∧
      ∀ (computation : Computation Nat) (own : Nat),
        (Running.read computation 0 ⟨0, 0⟩ ⟨smallConverged.world, own⟩).1 = .ok allocation := by
  have ended : ∀ reader, reader < 2 → smallConverged.stage reader = .answered ⟨0, 0⟩ ⟨7⟩ := by
    decide
  obtain ⟨allocation, same, -, balance, -, later⟩ :=
    (first_reads_converge reachable_small World.usable_small (by decide) (fun _ _ => rfl)
      run_smallRace leaves_smallRace (by decide)).2 (by decide)
      fun reader among => ⟨⟨7⟩, ended reader among⟩
  exact ⟨allocation, same, balance, fun computation own => (later computation 0 own).1⟩

end Crowd

end ContextCache
