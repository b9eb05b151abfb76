import ContextCache.Proofs.Store.Tables
import ContextCache.Proofs.World.Works

/-!
Contract: an invalidation leaves no old value behind.

When a value is removed or replaced, its definition's generation ends, and one probe window is
swept in the context that it was removed from. Other contexts notice later, when they bring
their own binding up to date, and leave the outdated entry where it is. So a table may hold
entries of many generations of a definition, but only while the definition is bound to a value,
and all of them in one window.

Owns:
- what it takes for a property of stores to be kept by every step;
- that the stores of a running program have forgotten every definition without a value;
- what tables hold of a definition after its invalidation, and what relief leaves of the rest.

Does not own: what each step does to the table.
-/

set_option autoImplicit false

namespace ContextCache

/-- After relief a table holds live entries and tombstones. -/
theorem OpenStore.isLive_of_holds_reduceLoad {opened : OpenStore}
    (measured : opened.store.Measured) {entry : Entry}
    (holds : opened.reduceLoad.store.table.Holds entry) (carries : entry.value?.isSome = true) :
    entry.isLive opened.registry = true := by
  have swept : ∀ held, opened.expunge.sweepAll.store.table.Holds held →
      held.value?.isSome = true → held.isLive opened.registry = true := by
    rintro held ⟨position, found⟩ carried
    by_contra dead
    obtain ⟨rfl, -⟩ := Table.leftover_sweepAll measured.roomy found (Bool.eq_false_iff.mpr dead)
    cases carried
  unfold OpenStore.reduceLoad at holds
  dsimp only at holds
  split at holds
  · exact swept entry holds carries
  · unfold OpenStore.grow at holds
    dsimp only at holds
    split at holds
    · exact swept entry holds carries
    · exact swept entry (Table.holds_regrown holds) carries

namespace World

variable {world after : World} {event : Event} {place : Place}

/-! ### All contexts -/

/-- A step keeps what holds of every context's store, if it holds of fresh stores, changes of
the shared state keep it, and the step brings it about in the store that it works on. -/
theorem Sound.step_every {holds : OpenStore → Prop} (sound : world.Sound)
    (step : Step world event after)
    (shares : ∀ {opened later : OpenStore}, holds opened → opened.Sound →
      later.store = opened.store → opened.registry.Leads later.registry → holds later)
    (creates : ∀ {config : Config}, config.Valid → ∀ shared, holds ⟨shared, Store.create config⟩)
    (operates : ∀ place operation outcome, event = .operated place operation outcome →
      world.Usable place → holds ((world.operate place operation).2.openStore place.context))
    (every : ∀ context, holds (world.openStore context)) (context : ContextKey) :
    holds (after.openStore context) := by
  have leads := sound.leads_step step
  have elsewhere : after.contexts = world.contexts → holds (after.openStore context) := by
    intro contexts
    refine shares (every context) (sound context) ?_ leads
    unfold openStore World.context
    rw [contexts]
  cases step with
  | @operated place operation usable =>
      by_cases same : context = place.context
      · rw [same]
        exact operates place operation _ rfl usable
      · exact shares (every context) (sound context) (store_operate_ne same operation) leads
  | contextAdded accepted =>
      rcases openStore_addContext accepted context with same | ⟨fresh, -⟩
      · rw [same]
        exact every context
      · rw [fresh]
        exact creates (valid_of_addContext accepted) _
  | defined => exact elsewhere (contexts_withRegistry _ _)
  | dropped key => exact elsewhere rfl
  | held key => exact elsewhere rfl
  | released key => exact elsewhere rfl
  | counted counter => exact elsewhere rfl

/-- Every context's store has forgotten the definitions without a value. -/
def Forgetful (world : World) : Prop :=
  ∀ context, (world.openStore context).Forgetful

theorem Forgetful.step (forgetful : world.Forgetful) (sound : world.Sound)
    (step : Step world event after) : after.Forgetful := by
  refine sound.step_every step OpenStore.Forgetful.advance
    (fun _ shared => OpenStore.forgetful_create _ shared) ?_ forgetful
  intro place operation _ _ usable
  rw [openStore_operate usable]
  exact (sound place.context).forgetful_operate (forgetful place.context) usable.alive operation

theorem Reachable.forgetful (reachable : Reachable world) : world.Forgetful := by
  induction reachable with
  | initial => exact fun _ => OpenStore.forgetful_create _ _
  | next before step still => exact still.step before.sound step

theorem Reachable.arranged (reachable : Reachable world) (usable : world.Usable place)
    (operation : Operation) :
    OpenStore.Arranged (world.openStore place.context)
      ((world.operate place operation).2.openStore place.context) place.definition operation
      (world.operate place operation).1 := by
  rw [openStore_operate usable]
  exact (reachable.sound place.context).arranged (reachable.forgetful place.context) usable.alive
    operation

/-! ### Invalidation -/

/-- Invalidation leaves nothing behind. In every world that can come about, a context's table
holds no entry of any generation of an existing definition that is unbound or promised there.
So none is left right after its value has been removed, and right after a value has been put
every entry of the definition belongs to its new generation. And what relief leaves in a table
with a value has a live token, so its generation is current and its definition exists. -/
theorem invalidation_leaves_nothing (reachable : Reachable world) :
    (∀ place, world.Usable place →
      (∀ bound, world.binding? place = some bound → bound.isPromise = true) →
        (world.openStore place.context).store.table.Forgets place.definition) ∧
    (∀ place, world.Usable place → (world.operate place .remove).1 = .removed true →
      ((world.operate place .remove).2.openStore place.context).store.table.Forgets
        place.definition) ∧
    (∀ place allocation, world.Usable place →
      (world.operate place (.change allocation)).1 = .changed true →
        ∀ position entry token,
          ((world.operate place (.change allocation)).2.openStore
            place.context).store.table.slot position = some entry →
          entry.tag? = some token → token.definition = place.definition →
            token = (world.operate place (.change allocation)).2.registry.current
              place.definition) ∧
    (∀ opened : OpenStore, opened.store.Measured → ∀ position entry,
      opened.reduceLoad.store.table.slot position = some entry → entry.value?.isSome = true →
        ∃ token, entry.tag? = some token ∧
          token = opened.registry.current token.definition ∧
          opened.registry.isAlive token.definition = true) := by
  refine ⟨?_, ?_, ?_, ?_⟩
  · intro place usable unvalued
    refine (reachable.forgetful place.context).forgets place.definition usable.alive ?_
    cases bound : (world.openStore place.context).store.binding? place.definition with
    | none => exact OpenStore.value?_of_unbound bound
    | some existing =>
        rw [OpenStore.value?_of_binding? bound]
        cases existing with
        | promise token => rfl
        | tombstone => rfl
        | minted serial tag value => exact nomatch unvalued _ bound
  · intro place usable effective
    have still := ((reachable.serves usable).operate .remove).usable
    refine ((reachable.operate usable .remove).forgetful place.context).forgets place.definition
      still.alive ?_
    have effect := reachable.sound.effect_operate usable .remove
    rw [effective] at effect
    cases effect with
    | removed held unbound advanced => exact OpenStore.value?_of_unbound unbound
  · intro place allocation usable effective position entry token found tagged own
    have arranged := reachable.arranged usable (.change allocation)
    rw [effective] at arranged
    cases arranged with
    | kept unvalued housekept settled => cases unvalued
    | published valued housekept inserted bound earlier =>
        rw [inserted] at found
        rcases Table.holds_add ⟨position, found⟩ with rfl | before
        · cases tagged
          rfl
        · have forgets := earlier.resolve_left nofun
          exact absurd own (forgets entry token before tagged)
  · intro opened measured position entry found carries
    have live := opened.isLive_of_holds_reduceLoad measured ⟨position, found⟩ carries
    unfold Entry.isLive at live
    split at live
    · next token tagged =>
        exact ⟨token, tagged, Registry.eq_current_of_isLive live, Registry.isAlive_of_isLive live⟩
    · cases live

/-- In the small world the removal of the value leaves no entry of its definition, and a put in
its place leaves entries of the second generation only. -/
theorem invalidation_leaves_nothing_small :
    ((smallComputed.operate ⟨0, 0⟩ .remove).2.openStore 0).store.table.Forgets 0 ∧
      ∀ position entry token,
        ((smallComputed.operate ⟨0, 0⟩ (.change ⟨9⟩)).2.openStore 0).store.table.slot position =
          some entry →
        entry.tag? = some token → token.definition = 0 → token.generation = 1 := by
  have leaves := invalidation_leaves_nothing reachable_smallComputed
  refine ⟨leaves.2.1 ⟨0, 0⟩ ⟨by decide, by decide⟩ (by decide), ?_⟩
  intro position entry token found tagged own
  rw [leaves.2.2.1 ⟨0, 0⟩ ⟨9⟩ ⟨by decide, by decide⟩ (by decide) position entry token found
    tagged own]
  decide

end World

end ContextCache
