import ContextCache.Proofs.World.Steps

/-!
Contract: runs of a program, whoever takes their steps.

Clients do not appear. They share nothing but the world, so a run is any sequence of
steps, and a step may hand in a promise no matter who got it and when. Definitions and
contexts come, and definitions go, at any time in between.

Owns:
- what can happen to a world, and the worlds that can come about;
- that all of them are sound, and what a run leaves of a place that it does not work on.

Does not own: what one client sees of a run.
-/

set_option autoImplicit false

namespace ContextCache

/-- What is observed when something happens to a world. -/
inductive Event where
  | operated (place : Place) (operation : Operation) (outcome : Outcome)
  | passed
deriving DecidableEq, Repr

/-- The outcome of a step at a place. -/
def Event.outcomeAt? (place : Place) : Event → Option Outcome
  | .operated worked _ outcome => if worked = place then some outcome else none
  | .passed => none

namespace World

/-- What can happen to a world. -/
inductive Step (world : World) : Event → World → Prop where
  | operated {place : Place} (operation : Operation) (usable : world.Usable place) :
      Step world (.operated place operation (world.operate place operation).1)
        (world.operate place operation).2
  | defined : Step world .passed (world.withRegistry Registry.define).2
  | dropped (key : DefinitionKey) : Step world .passed (world.dropDefinition key)
  | held (key : DefinitionKey) :
      Step world .passed (world.withRegistry fun registry => ((), registry.hold key)).2
  | released (key : DefinitionKey) :
      Step world .passed (world.withRegistry fun registry => ((), registry.release key)).2
  | contextAdded {config : Config} {key : ContextKey} {after : World}
      (accepted : world.addContext config = .ok (key, after)) : Step world .passed after
  | counted (counter : Counter) : Step world .passed (world.count counter)

/-- A run, with the latest event first. -/
inductive Run (start : World) : List Event → World → Prop where
  | here : Run start [] start
  | next {events : List Event} {event : Event} {before after : World}
      (run : Run start events before) (step : Step before event after) :
      Run start (event :: events) after

/-- A world that can come about. -/
inductive Reachable : World → Prop where
  | initial : Reachable World.initial
  | next {event : Event} {before after : World} (reachable : Reachable before)
      (step : Step before event after) : Reachable after

theorem Reachable.run {start after : World} {events : List Event} (reachable : Reachable start)
    (run : Run start events after) : Reachable after := by
  induction run with
  | here => exact reachable
  | next _ step inductionHypothesis => exact inductionHypothesis.next step

theorem Reachable.operate {world : World} {place : Place} (reachable : Reachable world)
    (usable : world.Usable place) (operation : Operation) :
    Reachable (world.operate place operation).2 :=
  reachable.next (.operated operation usable)

theorem Reachable.count {world : World} (reachable : Reachable world) (counter : Counter) :
    Reachable (world.count counter) :=
  reachable.next (.counted counter)

/-! ### Soundness -/

theorem sound_initial : World.initial.Sound :=
  fun _ => sound_create Config.valid_standard _

variable {world after : World} {event : Event}

/-- Adding a context leaves the contexts there are, and the new one is fresh. -/
theorem openStore_addContext {config : Config} {key : ContextKey}
    (accepted : world.addContext config = .ok (key, after)) (other : ContextKey) :
    after.openStore other = world.openStore other ∨
      after.openStore other = ⟨world.shared, Store.create config⟩ ∧ world.contexts.size ≤ other := by
  unfold addContext at accepted
  split at accepted
  · cases accepted
  · cases accepted
    unfold openStore context
    rw [Array.getD_eq_getD_getElem?, Array.getD_eq_getD_getElem?, Array.getElem?_push]
    split
    · next new => exact Or.inr ⟨rfl, Nat.le_of_eq new.symm⟩
    · exact Or.inl rfl

theorem addContext_of_valid {config : Config} (world : World) (valid : config.Valid) :
    world.addContext config = .ok (world.contexts.size,
      { world with contexts := world.contexts.push { config, store := none } }) := by
  unfold addContext
  rw [Config.validate_eq_ok_iff.mpr valid]

/-- The new context is listed, and nothing has happened in it yet. -/
theorem fresh_addContext {config : Config} {key : ContextKey}
    (accepted : world.addContext config = .ok (key, after)) :
    key < after.contexts.size ∧ after.context key = ⟨config, none⟩ ∧
      after.shared = world.shared := by
  unfold addContext at accepted
  split at accepted
  · cases accepted
  · cases accepted
    refine ⟨?_, ?_, rfl⟩
    · simp
    · unfold context
      rw [Array.getD_eq_getD_getElem?, Array.getElem?_push_size]
      rfl

theorem valid_of_addContext {config : Config} {key : ContextKey}
    (accepted : world.addContext config = .ok (key, after)) : config.Valid := by
  unfold addContext at accepted
  split at accepted
  · cases accepted
  · next passed => exact Config.validate_eq_ok_iff.mp passed

theorem Sound.addContext {config : Config} {key : ContextKey} (sound : world.Sound)
    (accepted : world.addContext config = .ok (key, after)) : after.Sound := by
  intro other
  rcases openStore_addContext accepted other with same | ⟨fresh, -⟩
  · rw [same]
    exact sound other
  · rw [fresh]
    exact sound_create (valid_of_addContext accepted) world.shared

theorem withRegistry_eq {α : Type} (world : World) (change : Registry → α × Registry) :
    world.withRegistry change =
      ((change world.registry).1,
        { world with shared := { world.shared with registry := (change world.registry).2 } }) :=
  rfl

theorem contexts_withRegistry {α : Type} (world : World) (change : Registry → α × Registry) :
    (world.withRegistry change).2.contexts = world.contexts :=
  rfl

theorem Sound.withRegistry {α : Type} {change : Registry → α × Registry} (sound : world.Sound)
    (leads : world.registry.Leads (change world.registry).2) :
    (world.withRegistry change).2.Sound :=
  sound.advance rfl leads rfl

theorem Sound.step (sound : world.Sound) (step : Step world event after) : after.Sound := by
  cases step with
  | operated operation usable => exact sound.operate usable operation
  | defined => exact sound.withRegistry (Registry.leads_define _)
  | dropped key => exact sound.withRegistry (Registry.leads_drop _ key)
  | held key => exact sound.withRegistry (Registry.leads_of_definitions_eq rfl)
  | released key => exact sound.withRegistry (Registry.leads_of_definitions_eq rfl)
  | contextAdded accepted => exact sound.addContext accepted
  | counted counter => exact sound.advance rfl (Registry.Leads.refl _) rfl

/-- Every world that can come about is sound. -/
theorem Reachable.sound (reachable : Reachable world) : world.Sound := by
  induction reachable with
  | initial => exact sound_initial
  | next _ step inductionHypothesis => exact inductionHypothesis.step step

/-! ### Places that a step does not work on -/

theorem Sound.leads_step (sound : world.Sound) (step : Step world event after) :
    world.registry.Leads after.registry := by
  cases step with
  | operated operation usable => exact (sound.spares_operate usable operation).leads
  | defined => exact Registry.leads_define _
  | dropped key => exact Registry.leads_drop _ key
  | held key => exact Registry.leads_of_definitions_eq rfl
  | released key => exact Registry.leads_of_definitions_eq rfl
  | contextAdded accepted =>
      unfold World.addContext at accepted
      split at accepted
      · cases accepted
      · cases accepted
        exact Registry.Leads.refl _
  | counted counter => exact Registry.Leads.refl _

theorem contexts_step (step : Step world event after) :
    world.contexts.size ≤ after.contexts.size := by
  cases step with
  | operated operation usable => exact Nat.le_of_eq (size_closeStore _ _ _).symm
  | defined => exact Nat.le_of_eq (congrArg Array.size (contexts_withRegistry _ _)).symm
  | contextAdded accepted =>
      unfold World.addContext at accepted
      split at accepted
      · cases accepted
      · cases accepted
        simp
  | _ => exact Nat.le_refl _

/-- A step works on a place, or it does not. -/
theorem Step.worked_or_elsewhere (step : Step world event after) (place : Place) :
    (∃ operation, world.Usable place ∧
      event = .operated place operation (world.operate place operation).1 ∧
      after = (world.operate place operation).2) ∨
    event.outcomeAt? place = none := by
  cases step with
  | @operated worked operation usable =>
      by_cases same : worked = place
      · subst same
        exact Or.inl ⟨operation, usable, rfl, rfl⟩
      · exact Or.inr (if_neg same)
  | _ => exact Or.inr rfl

/-- A definition that still exists is bound to what it was bound to, in every context where
the step did not work on it. -/
theorem Sound.binding?_step (sound : world.Sound) (step : Step world event after) {place : Place}
    (usable : world.Usable place) (elsewhere : event.outcomeAt? place = none) :
    after.binding? place = world.binding? place := by
  cases step with
  | @operated worked operation workable =>
      have differs : place ≠ worked := by
        rintro rfl
        simp [Event.outcomeAt?] at elsewhere
      exact (sound.spares_operate workable operation).binding place differs usable.alive
  | contextAdded accepted =>
      unfold binding?
      rcases openStore_addContext accepted place.context with same | ⟨-, new⟩
      · rw [same]
      · exact absurd usable.listed (Nat.not_lt_of_le new)
  | defined => exact binding?_of_contexts_eq (contexts_withRegistry _ _) place
  | _ => exact binding?_of_contexts_eq rfl place

/-- The definition and the context have been created. -/
structure Known (world : World) (place : Place) : Prop where
  defined : place.definition < world.registry.definitions.size
  listed : place.context < world.contexts.size

theorem Usable.known {place : Place} (usable : world.Usable place) : world.Known place :=
  ⟨Registry.lt_size_of_isAlive usable.alive, usable.listed⟩

theorem Known.step {place : Place} (known : world.Known place) (sound : world.Sound)
    (step : Step world event after) : after.Known place :=
  ⟨Nat.lt_of_lt_of_le known.defined (sound.leads_step step).size,
    Nat.lt_of_lt_of_le known.listed (contexts_step step)⟩

/-- A place that a step leaves usable was usable before. -/
theorem Known.usable_of_step {place : Place} (known : world.Known place) (sound : world.Sound)
    (step : Step world event after) (alive : after.registry.isAlive place.definition = true) :
    world.Usable place :=
  ⟨(sound.leads_step step).alive place.definition known.defined alive, known.listed⟩

/-! ### A small world -/

/-- A table of four slots whose windows are two slots long. -/
def smallConfig : Config :=
  { initialEntries := 4, probeLimit := 2, loadPercent := 50, maxEntries := 8 }

/-- One definition and one context. -/
def small : World :=
  { shared := { Shared.initial with registry := Registry.initial.define.2 }
    contexts := #[{ config := smallConfig, store := none }] }

theorem reachable_small : Reachable small := by
  have accepted : (World.initial.withRegistry Registry.define).2.addContext smallConfig =
      .ok (0, small) := rfl
  exact (Reachable.initial.next .defined).next (.contextAdded accepted)

theorem usable_small : small.Usable ⟨0, 0⟩ :=
  ⟨by decide, by decide⟩

/-- The small world after its definition has been computed. -/
def smallComputed : World :=
  ((small.operate ⟨0, 0⟩ .start).2.operate ⟨0, 0⟩ (.commit ⟨0, 0⟩ ⟨7⟩)).2

theorem reachable_smallComputed : Reachable smallComputed :=
  (reachable_small.operate usable_small .start).operate ⟨by decide, by decide⟩ _

theorem store?_smallComputed :
    smallComputed.store? 0 = some (smallComputed.openStore 0).store :=
  rfl

end World

end ContextCache
