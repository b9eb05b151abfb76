import ContextCache.Proofs.World.Tables

/-!
Contract: what clients that know nothing of each other agree on.

Between two invalidations of a place at most one value is ever bound there, and every
answer is that value. A promise that was given out before an invalidation is worthless
after it. Its generation has passed, or a value is bound that no promise displaces until
the generation passes, so it is never bound again.

Owns:
- quiet runs, and the answers that they give;
- superseded promises, and that handing them in does nothing.

Does not own: how often a client tries again.
-/

set_option autoImplicit false

namespace ContextCache

namespace Outcome

/-- The value that is returned. -/
def answer? : Outcome → Option Allocation
  | .probed answer => answer
  | .started entry => entry.value?
  | .finished entry => entry.bind Entry.value?
  | _ => none

/-- A removal or a change that did something. -/
def invalidates : Outcome → Bool
  | .removed effective => effective
  | .changed effective => effective
  | _ => false

/-- A value that was accepted. -/
def commits : Outcome → Bool
  | .finished entry => entry.isSome
  | _ => false

/-- What may be returned while the allocation is bound: no other value, and this one
whenever a read is started. -/
def Confirms (allocation : Allocation) : Outcome → Prop
  | .probed answer => answer = none ∨ answer = some allocation
  | .promoted _ => True
  | .started entry => entry.value? = some allocation
  | .finished entry => entry = none
  | .removed effective => effective = false
  | .changed effective => effective = false

end Outcome

/-- No step of the run invalidates the place. -/
def Quiet (place : Place) (events : List Event) : Prop :=
  ∀ event ∈ events, ∀ outcome, event.outcomeAt? place = some outcome →
    outcome.invalidates = false

/-- How often a value was accepted at the place. -/
def commitsAt (place : Place) (events : List Event) : Nat :=
  events.countP fun event => (event.outcomeAt? place).any Outcome.commits

namespace OpenStore

variable {before after : OpenStore} {key : DefinitionKey} {operation : Operation}
  {outcome : Outcome} {allocation : Allocation} {token : Token}

/-- A step that does not invalidate returns only what is bound and leaves it bound, unless it
binds the first value. -/
theorem Effect.quiet (effect : Effect before after key operation outcome) (sound : before.Sound)
    (alive : before.registry.isAlive key = true) (quiet : outcome.invalidates = false) :
    (after.store.value? key = before.store.value? key ∧ outcome.commits = false ∧
      ∀ answer, outcome.answer? = some answer → before.store.value? key = some answer) ∨
    (before.store.value? key = none ∧ outcome.commits = true ∧
      after.store.value? key = outcome.answer? ∧ outcome.answer?.isSome = true) := by
  cases effect with
  | probed same =>
      subst same
      exact Or.inl ⟨rfl, rfl, fun answer answered => sound.value?_of_answer alive answered⟩
  | promoted kept =>
      have same : after.store.value? key = before.store.value? key :=
        congrArg (fun bound => bound.bind Entry.value?) (kept.binding key alive)
      exact Or.inl ⟨same, rfl, fun _ answered => by cases answered⟩
  | promised vacant registry bound =>
      have still : after.store.value? key = none := value?_of_binding? bound
      exact Or.inl ⟨still.trans vacant.symm, rfl, fun _ answered => by cases answered⟩
  | answered held registry bound =>
      have still := value?_of_binding? bound
      refine Or.inl ⟨still.trans held.symm, rfl, fun answer answered => ?_⟩
      rw [held]
      exact answered
  | committed promised registry bound =>
      exact Or.inr ⟨value?_of_binding? promised, rfl, value?_of_binding? bound, rfl⟩
  | discarded superseded registry same =>
      rw [same]
      exact Or.inl ⟨rfl, rfl, fun _ answered => by cases answered⟩
  | retracted promised registry unbound =>
      have vacant : before.store.value? key = none := value?_of_binding? promised
      have still : after.store.value? key = none := value?_of_unbound unbound
      exact Or.inl ⟨still.trans vacant.symm, rfl, fun _ answered => by cases answered⟩
  | ignored superseded same =>
      subst same
      exact Or.inl ⟨rfl, rfl, fun _ answered => by cases answered⟩
  | removed held unbound advanced => cases quiet
  | absent vacant same =>
      subst same
      exact Or.inl ⟨rfl, rfl, fun _ answered => by cases answered⟩
  | changed unbacked advanced bound => cases quiet
  | unchanged backs same =>
      subst same
      exact Or.inl ⟨rfl, rfl, fun _ answered => by cases answered⟩

/-- While a value is bound, every step that does not invalidate confirms it. -/
theorem Effect.confirms (effect : Effect before after key operation outcome)
    (sound : before.Sound) (alive : before.registry.isAlive key = true)
    (held : before.store.value? key = some allocation) (quiet : outcome.invalidates = false) :
    outcome.Confirms allocation := by
  cases effect with
  | probed same =>
      cases answered : before.answer? key with
      | none => exact Or.inl rfl
      | some answer =>
          right
          rw [← sound.value?_of_answer alive answered]
          exact held
  | promoted kept => trivial
  | promised vacant => exact absurd (vacant.symm.trans held) (by simp)
  | answered carried => exact carried.symm.trans held
  | committed promised =>
      have vacant : before.store.value? key = none := value?_of_binding? promised
      exact absurd (vacant.symm.trans held) (by simp)
  | discarded => rfl
  | retracted => rfl
  | ignored => rfl
  | removed => cases quiet
  | absent => rfl
  | changed => cases quiet
  | unchanged => rfl

end OpenStore

namespace World

variable {world start after : World} {place : Place} {event : Event} {events : List Event}
  {allocation : Allocation}

/-- The value that a place is bound to. -/
def value? (world : World) (place : Place) : Option Allocation :=
  (world.openStore place.context).store.value? place.definition

theorem Sound.value?_step (sound : world.Sound) (step : Step world event after)
    (usable : world.Usable place) (elsewhere : event.outcomeAt? place = none) :
    after.value? place = world.value? place :=
  congrArg (fun bound => bound.bind Entry.value?) (sound.binding?_step step usable elsewhere)

theorem outcomeAt?_operated (place : Place) (operation : Operation) (outcome : Outcome) :
    (Event.operated place operation outcome).outcomeAt? place = some outcome :=
  if_pos rfl

/-! ### A bound value stays -/

/-- A place is bound to the allocation as long as its definition exists. -/
structure Bound (world : World) (place : Place) (allocation : Allocation) : Prop where
  known : world.Known place
  value : world.registry.isAlive place.definition = true → world.value? place = some allocation

theorem Bound.step (bound : world.Bound place allocation) (sound : world.Sound)
    (step : Step world event after)
    (quiet : ∀ outcome, event.outcomeAt? place = some outcome → outcome.invalidates = false) :
    after.Bound place allocation ∧
      ∀ outcome, event.outcomeAt? place = some outcome → outcome.Confirms allocation := by
  rcases step.worked_or_elsewhere place with ⟨operation, usable, rfl, rfl⟩ | elsewhere
  · have held := bound.value usable.alive
    have effect := sound.effect_operate usable operation
    have unchanged := quiet _ (outcomeAt?_operated place operation _)
    refine ⟨⟨bound.known.step sound step, fun _ => ?_⟩, ?_⟩
    · rcases effect.quiet (sound place.context) usable.alive unchanged with ⟨same, -⟩ | ⟨vacant, -⟩
      · exact same.trans held
      · exact absurd (vacant.symm.trans held) (by simp)
    · intro outcome occurred
      rw [outcomeAt?_operated] at occurred
      cases occurred
      exact effect.confirms (sound place.context) usable.alive held unchanged
  · refine ⟨⟨bound.known.step sound step, fun alive => ?_⟩, ?_⟩
    · have usable := bound.known.usable_of_step sound step alive
      exact (sound.value?_step step usable elsewhere).trans (bound.value usable.alive)
    · intro outcome occurred
      rw [elsewhere] at occurred
      cases occurred

theorem quiet_tail (quiet : Quiet place (event :: events)) : Quiet place events :=
  fun other member => quiet other (List.mem_cons_of_mem event member)

theorem Bound.run (bound : start.Bound place allocation) (reachable : Reachable start)
    (run : Run start events after) (quiet : Quiet place events) :
    after.Bound place allocation ∧
      ∀ event ∈ events, ∀ outcome, event.outcomeAt? place = some outcome →
        outcome.Confirms allocation := by
  induction run with
  | here => exact ⟨bound, by simp⟩
  | @next earlier latest before after run step inductionHypothesis =>
      obtain ⟨still, confirmed⟩ := inductionHypothesis (quiet_tail quiet)
      obtain ⟨stillAfter, confirmedLatest⟩ := still.step (reachable.run run).sound step
        (quiet latest (List.mem_cons_self ..))
      refine ⟨stillAfter, ?_⟩
      intro other member
      rcases List.mem_cons.mp member with rfl | before
      · exact confirmedLatest
      · exact confirmed other before

/-! ### At most one value is bound -/

/-- What a run has decided about a place: at most one value, by at most one commit. -/
structure Decided (world : World) (place : Place) (events : List Event)
    (decided : Option Allocation) : Prop where
  known : world.Known place
  value : world.registry.isAlive place.definition = true → world.value? place = decided
  answers : ∀ event ∈ events, ∀ outcome answer, event.outcomeAt? place = some outcome →
    outcome.answer? = some answer → decided = some answer
  commits : commitsAt place events ≤ if decided.isSome then 1 else 0

theorem decided_nil (known : world.Known place) :
    world.Decided place [] (world.value? place) where
  known := known
  value := fun _ => rfl
  answers := by simp
  commits := Nat.zero_le _

theorem commitsAt_cons (place : Place) (event : Event) (events : List Event) :
    commitsAt place (event :: events) =
      commitsAt place events + if (event.outcomeAt? place).any Outcome.commits then 1 else 0 :=
  List.countP_cons

theorem Decided.elsewhere {decided : Option Allocation}
    (history : world.Decided place events decided) (sound : world.Sound)
    (step : Step world event after) (elsewhere : event.outcomeAt? place = none) :
    after.Decided place (event :: events) decided where
  known := history.known.step sound step
  value := by
    intro alive
    have usable := history.known.usable_of_step sound step alive
    exact (sound.value?_step step usable elsewhere).trans (history.value usable.alive)
  answers := by
    intro other member outcome answer occurred
    rcases List.mem_cons.mp member with rfl | earlier
    · rw [elsewhere] at occurred
      cases occurred
    · exact history.answers other earlier outcome answer occurred
  commits := by
    rw [commitsAt_cons, elsewhere]
    exact history.commits

theorem Decided.operate {decided : Option Allocation}
    (history : world.Decided place events decided) (sound : world.Sound)
    (usable : world.Usable place) (operation : Operation)
    (quiet : (world.operate place operation).1.invalidates = false) :
    ∃ next, (world.operate place operation).2.Decided place
      (.operated place operation (world.operate place operation).1 :: events) next := by
  have effect := sound.effect_operate usable operation
  have before := history.value usable.alive
  have known := history.known.step sound (.operated operation usable)
  rcases effect.quiet (sound place.context) usable.alive quiet with
    ⟨same, uncommitted, answered⟩ | ⟨vacant, committed, bound, valued⟩
  · refine ⟨decided, known, fun _ => same.trans before, ?_, ?_⟩
    · intro other member outcome answer occurred
      rcases List.mem_cons.mp member with rfl | earlier
      · rw [outcomeAt?_operated] at occurred
        cases occurred
        exact fun answers => before.symm.trans (answered answer answers)
      · exact history.answers other earlier outcome answer occurred
    · rw [commitsAt_cons, outcomeAt?_operated, Option.any_some, uncommitted]
      exact history.commits
  · have undecided : decided = none := before.symm.trans vacant
    subst undecided
    refine ⟨_, known, fun _ => bound, ?_, ?_⟩
    · intro other member outcome answer occurred
      rcases List.mem_cons.mp member with rfl | earlier
      · rw [outcomeAt?_operated] at occurred
        cases occurred
        exact id
      · exact fun answers =>
          absurd (history.answers other earlier outcome answer occurred answers) (by simp)
    · have none : commitsAt place events ≤ 0 := history.commits
      rw [commitsAt_cons, outcomeAt?_operated, Option.any_some, committed, valued]
      simp only [if_true]
      omega

theorem Run.decided (run : Run start events after) (reachable : Reachable start)
    (known : start.Known place) (quiet : Quiet place events) :
    ∃ decided, after.Decided place events decided := by
  induction run with
  | here => exact ⟨_, decided_nil known⟩
  | @next earlier latest before after run step inductionHypothesis =>
      obtain ⟨decided, history⟩ := inductionHypothesis (quiet_tail quiet)
      have sound := (reachable.run run).sound
      rcases step.worked_or_elsewhere place with ⟨operation, usable, rfl, rfl⟩ | elsewhere
      · exact history.operate sound usable operation
          (quiet _ (List.mem_cons_self ..) _ (outcomeAt?_operated place operation _))
      · exact ⟨decided, history.elsewhere sound step elsewhere⟩

end World

/-! ### Superseded promises -/

namespace OpenStore

variable {before after : OpenStore} {key : DefinitionKey} {operation : Operation}
  {outcome : Outcome} {token : Token}

/-- The promise of the token is not bound, and will never be: its generation has passed, or
will have passed before the value that is bound gives way. -/
structure Superseded (opened : OpenStore) (key : DefinitionKey) (token : Token) : Prop where
  unbound : opened.store.binding? key ≠ some (.promise token)
  passed : (opened.store.value? key).isSome = true ∨
    token.generation < opened.registry.generation key

theorem superseded_of_value {opened : OpenStore} {serial : Nat} {tag : Option Token}
    {allocation : Allocation}
    (bound : opened.store.binding? key = some (.minted serial tag (some allocation))) :
    opened.Superseded key token := by
  constructor
  · rw [bound]
    simp
  · left
    rw [value?_of_binding? bound]
    rfl

theorem Superseded.congr (superseded : before.Superseded key token)
    (same : after.store.binding? key = before.store.binding? key)
    (later : before.registry.generation key ≤ after.registry.generation key) :
    after.Superseded key token := by
  refine ⟨?_, ?_⟩
  · rw [same]
    exact superseded.unbound
  · unfold Store.value?
    rw [same]
    rcases superseded.passed with valued | older
    · exact Or.inl valued
    · exact Or.inr (Nat.lt_of_lt_of_le older later)

/-- An invalidation supersedes every promise that has been given out. -/
theorem Effect.supersedes (effect : Effect before after key operation outcome)
    (invalidates : outcome.invalidates = true)
    (reached : token.generation ≤ before.registry.generation key) :
    after.Superseded key token := by
  cases effect with
  | removed held unbound advanced =>
      refine ⟨?_, Or.inr ?_⟩
      · rw [unbound]
        simp
      · rw [advanced]
        omega
  | changed unbacked advanced bound => exact superseded_of_value bound
  | _ => cases invalidates

/-- No step binds a superseded promise. -/
theorem Effect.superseded (effect : Effect before after key operation outcome)
    (alive : before.registry.isAlive key = true)
    (reached : token.generation ≤ before.registry.generation key)
    (superseded : before.Superseded key token) : after.Superseded key token := by
  -- Where there is no value, the generation of the promise must have passed.
  have older : before.store.value? key = none →
      token.generation < before.registry.generation key := by
    intro vacant
    rcases superseded.passed with valued | older
    · rw [vacant] at valued
      cases valued
    · exact older
  cases effect with
  | probed same => exact same ▸ superseded
  | promoted kept =>
      apply superseded.congr (kept.binding key alive)
      rw [kept.registry]
  | promised vacant registry bound =>
      refine ⟨?_, Or.inr ?_⟩
      · rw [bound]
        intro same
        have generation : before.registry.generation key = token.generation :=
          congrArg Token.generation (Entry.promise.inj (Option.some.inj same))
        have passed := older vacant
        omega
      · rw [registry]
        exact older vacant
  | answered held registry bound => exact superseded_of_value bound
  | committed promised registry bound => exact superseded_of_value bound
  | discarded notBound registry same =>
      apply superseded.congr
      · rw [same]
      · rw [registry]
  | retracted promised registry unbound =>
      refine ⟨?_, Or.inr ?_⟩
      · rw [unbound]
        simp
      · rw [registry]
        exact older (value?_of_binding? promised)
  | ignored notBound same => exact same ▸ superseded
  | removed held unbound advanced =>
      exact (Effect.removed held unbound advanced).supersedes rfl reached
  | absent vacant same => exact same ▸ superseded
  | changed unbacked advanced bound => exact superseded_of_value bound
  | unchanged backs same => exact same ▸ superseded

/-- A value for a superseded promise is not accepted, and the promise cannot be retracted. -/
theorem Effect.finishes_nothing (effect : Effect before after key operation outcome)
    (superseded : before.Superseded key token)
    (finishing : operation = .retract token ∨ ∃ allocation, operation = .commit token allocation) :
    outcome = .finished none ∧ after.registry = before.registry ∧ after.store = before.store := by
  rcases finishing with rfl | ⟨allocation, rfl⟩
  · cases effect with
    | retracted promised => exact absurd promised superseded.unbound
    | ignored notBound same => exact ⟨rfl, congrArg registry same, congrArg store same⟩
  · cases effect with
    | committed promised => exact absurd promised superseded.unbound
    | discarded notBound registry same => exact ⟨rfl, registry, same⟩

end OpenStore

namespace World

variable {world start after : World} {place : Place} {event : Event} {events : List Event}
  {token : Token}

/-- The promise has been superseded at the place, unless the definition is gone. -/
structure Superseded (world : World) (place : Place) (token : Token) : Prop where
  known : world.Known place
  reached : token.generation ≤ world.registry.generation place.definition
  superseded : world.registry.isAlive place.definition = true →
    (world.openStore place.context).Superseded place.definition token

theorem Superseded.step (superseded : world.Superseded place token) (sound : world.Sound)
    (step : Step world event after) : after.Superseded place token where
  known := superseded.known.step sound step
  reached :=
    Nat.le_trans superseded.reached ((sound.leads_step step).generation place.definition)
  superseded := by
    intro alive
    have usable := superseded.known.usable_of_step sound step alive
    have before := superseded.superseded usable.alive
    rcases step.worked_or_elsewhere place with ⟨operation, -, rfl, rfl⟩ | elsewhere
    · exact (sound.effect_operate usable operation).superseded usable.alive superseded.reached
        before
    · exact before.congr (sound.binding?_step step usable elsewhere)
        ((sound.leads_step step).generation place.definition)

theorem Superseded.run (superseded : start.Superseded place token) (reachable : Reachable start)
    (run : Run start events after) : after.Superseded place token := by
  induction run with
  | here => exact superseded
  | next run step inductionHypothesis =>
      exact inductionHypothesis.step (reachable.run run).sound step

/-- A started computation's promise is the current one. -/
theorem Sound.started_promise (sound : world.Sound) (usable : world.Usable place)
    (started : (world.operate place .start).1 = .started (.promise token)) :
    token = world.registry.current place.definition := by
  have effect := sound.effect_operate usable .start
  rw [started] at effect
  cases effect with
  | promised => rfl

theorem Reachable.leads_run (reachable : Reachable start) (run : Run start events after) :
    start.registry.Leads after.registry := by
  induction run with
  | here => exact Registry.Leads.refl _
  | next run step inductionHypothesis =>
      exact inductionHypothesis.trans ((reachable.run run).sound.leads_step step)

theorem Sound.supersedes (sound : world.Sound) (usable : world.Usable place)
    {operation : Operation} (invalidates : (world.operate place operation).1.invalidates = true)
    (reached : token.generation ≤ world.registry.generation place.definition) :
    (world.operate place operation).2.Superseded place token where
  known := usable.known.step sound (.operated operation usable)
  reached := Nat.le_trans reached
    ((sound.spares_operate usable operation).leads.generation place.definition)
  superseded := fun _ => (sound.effect_operate usable operation).supersedes invalidates reached

theorem Sound.finishes_nothing (sound : world.Sound) (usable : world.Usable place)
    (superseded : world.Superseded place token) {operation : Operation}
    (finishing : operation = .retract token ∨ ∃ allocation, operation = .commit token allocation) :
    (world.operate place operation).1 = .finished none ∧
      (world.operate place operation).2.registry = world.registry ∧
      ∀ context, ((world.operate place operation).2.openStore context).store =
        (world.openStore context).store := by
  obtain ⟨nothing, registry, store⟩ := (sound.effect_operate usable operation).finishes_nothing
    (superseded.superseded usable.alive) finishing
  refine ⟨nothing, registry, fun context => ?_⟩
  by_cases same : context = place.context
  · rw [same]
    exact store
  · show ((world.closeStore place.context _).openStore context).store = _
    rw [openStore_closeStore_ne same]

/-! ### Agreement -/

/-- Clients agree, in whatever order their steps come.

A value that is bound is what every later lookup and start at the place returns, and no
other value is accepted there, until an invalidation. A promise that was handed out before
an invalidation finishes nothing after it: nothing is returned, and registry, bindings and
tables stay as they are. Between two invalidations at most one value is accepted, all
answers are the same, and they are what is bound in the end. -/
theorem clients_agree (reachable : Reachable start) (usable : start.Usable place) :
    (∀ allocation events after, start.value? place = some allocation →
      Run start events after → Quiet place events →
        (after.registry.isAlive place.definition = true →
          after.value? place = some allocation) ∧
        ∀ event ∈ events, ∀ outcome, event.outcomeAt? place = some outcome →
          outcome.Confirms allocation) ∧
    (∀ token waiting before operation since latest finishing,
      (start.operate place .start).1 = .started (.promise token) →
      Run (start.operate place .start).2 waiting before → before.Usable place →
      (before.operate place operation).1.invalidates = true →
      Run (before.operate place operation).2 since latest → latest.Usable place →
      (finishing = .retract token ∨ ∃ allocation, finishing = .commit token allocation) →
        (latest.operate place finishing).1 = .finished none ∧
        (latest.operate place finishing).2.registry = latest.registry ∧
        ∀ context, ((latest.operate place finishing).2.openStore context).store =
          (latest.openStore context).store) ∧
    (∀ events after, Run start events after → Quiet place events →
      commitsAt place events ≤ 1 ∧
      ∀ first ∈ events, ∀ second ∈ events, ∀ one other firstAnswer secondAnswer,
        first.outcomeAt? place = some one → one.answer? = some firstAnswer →
        second.outcomeAt? place = some other → other.answer? = some secondAnswer →
          firstAnswer = secondAnswer ∧
          (after.registry.isAlive place.definition = true →
            after.value? place = some firstAnswer)) := by
  refine ⟨?_, ?_, ?_⟩
  · intro allocation events after held run quiet
    have bound : start.Bound place allocation := ⟨usable.known, fun _ => held⟩
    obtain ⟨still, confirmed⟩ := bound.run reachable run quiet
    exact ⟨still.value, confirmed⟩
  · intro token waiting before operation since latest finishing started waited usableBefore
      invalidates passed usableLatest finishes
    have issued := reachable.operate usable .start
    have current := reachable.sound.started_promise usable started
    have reached : token.generation ≤ before.registry.generation place.definition := by
      rw [current]
      exact Nat.le_trans
        ((reachable.sound.spares_operate usable .start).leads.generation place.definition)
        ((issued.leads_run waited).generation place.definition)
    have reachableBefore := issued.run waited
    have invalidated := reachableBefore.operate usableBefore operation
    have superseded :=
      (reachableBefore.sound.supersedes usableBefore invalidates reached).run invalidated passed
    exact (invalidated.run passed).sound.finishes_nothing usableLatest superseded finishes
  · intro events after run quiet
    obtain ⟨decided, history⟩ := run.decided reachable usable.known quiet
    constructor
    · exact Nat.le_trans history.commits (by split <;> decide)
    · intro first firstMember second secondMember one other firstAnswer secondAnswer
        occurred answered occurredToo answeredToo
      have decidedFirst := history.answers first firstMember one firstAnswer occurred answered
      have decidedSecond :=
        history.answers second secondMember other secondAnswer occurredToo answeredToo
      refine ⟨Option.some.inj (decidedFirst.symm.trans decidedSecond), fun alive => ?_⟩
      exact (history.value alive).trans decidedFirst

/-- In the small world a value that is put first makes the computed one come too late. -/
theorem clients_agree_small :
    (((small.operate ⟨0, 0⟩ .start).2.operate ⟨0, 0⟩ (.change ⟨9⟩)).2.operate ⟨0, 0⟩
      (.commit ⟨0, 0⟩ ⟨7⟩)).1 = .finished none :=
  ((clients_agree reachable_small usable_small).2.1 ⟨0, 0⟩ [] _ (.change ⟨9⟩) [] _ _ (by decide)
    .here ⟨by decide, by decide⟩ (by decide) .here ⟨by decide, by decide⟩
    (Or.inr ⟨⟨7⟩, rfl⟩)).1

end World

end ContextCache
