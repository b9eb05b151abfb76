import ContextCache.Proofs.Store.Limits
import ContextCache.Proofs.World.FullSweeps
import ContextCache.Proofs.World.Invalidation

/-!
Contract: the load limit of every context in a running program.

Fresh stores keep to their limit, every step keeps to it, and what other contexts and the
owners of definitions do meanwhile leaves a store's load alone. So the limit is honoured in
every world that can come about, until a table has the greatest length that its configuration
allows.

Owns:
- the load limit as an invariant of all contexts;
- how much room there is before each insertion.

Does not own: what a single step does to the load.
-/

set_option autoImplicit false

namespace ContextCache

namespace World

variable {world after : World} {event : Event}

/-- Every context's store keeps to its load limit. -/
def Limited (world : World) : Prop :=
  ∀ context, (world.openStore context).store.Limited

theorem Limited.step (limited : world.Limited) (sound : world.Sound) (measured : world.Measured)
    (step : Step world event after) : after.Limited := by
  have shares : ∀ {opened later : OpenStore}, opened.store.Limited → opened.Sound →
      later.store = opened.store → opened.registry.Leads later.registry →
      later.store.Limited := by
    intro opened later still _ same _
    rwa [same]
  refine sound.step_every step shares (fun _ _ => Store.limited_create _) ?_ limited
  intro place operation _ _ usable
  rw [openStore_operate usable]
  exact OpenStore.limited_operate (measured.store place.context) (limited place.context) _ _

theorem Reachable.limited (reachable : Reachable world) : world.Limited := by
  induction reachable with
  | initial => exact fun _ => Store.limited_create _
  | next before step still => exact still.step before.sound before.measured step

/-- Load limits are honoured until the greatest length. In every world that can come about,
for every context whose configuration gives a fresh table a limit of at least one: the load is
at most the limit of the table's length, or the table has the greatest length. And whatever
step is taken there, it makes the load no greater, or it inserts a single entry right after
relief; relief then is at most one sweep of the table and one doubling, and has left room for
one more entry below the limit, or a table of the greatest length. -/
theorem load_limits_are_honoured (reachable : Reachable world) (context : ContextKey) :
    let config := (world.context context).config
    let store := (world.openStore context).store
    1 ≤ config.loadLimitFor config.initialEntries →
      (store.table.load ≤ config.loadLimitFor store.table.capacity ∨
        store.table.capacity = config.maxEntries) ∧
      ∀ definition operation, world.Usable ⟨definition, context⟩ →
        let after := (world.operate ⟨definition, context⟩ operation).2.openStore context
        Store.Eased store after.store ∨
          ∃ (ready : OpenStore) (entry : Entry), Store.Eased store ready.store ∧
            after = ready.publish definition entry ∧
            (Store.Eased ready.store ready.relieve.store ∨
              Store.Doubled ready.store ready.relieve.store) ∧
            (ready.relieve.store.table.load <
                config.loadLimitFor ready.relieve.store.table.capacity ∨
              ready.relieve.store.table.capacity = config.maxEntries) := by
  intro config store positive
  have limited := reachable.limited context
  have measured := reachable.measured.store context
  have configured : store.config = config := reachable.measured.config context
  rw [← configured] at positive ⊢
  refine ⟨?_, ?_⟩
  · rw [← limited.limit]
    exact limited.honoured positive
  · intro definition operation usable
    dsimp only
    rw [openStore_operate usable]
    cases OpenStore.loaded_operate measured definition operation with
    | eased eased => exact Or.inl eased
    | published ready entry eased publishes =>
        right
        have measuredReady := eased.measured measured
        have limitedReady := eased.limited limited
        have sameConfig : ready.relieve.store.config = store.config :=
          (OpenStore.keeps_relieve ready).config.trans eased.config
        refine ⟨ready, entry, eased, publishes,
          (OpenStore.relieve_cases measuredReady).imp_left And.left, ?_⟩
        rw [← eased.config] at positive
        have admits := OpenStore.admits_relieve measuredReady limitedReady positive
        rw [← sameConfig, ← (OpenStore.limited_relieve measuredReady limitedReady).limit]
        exact admits

/-- A table of four slots that is full at its limit is doubled before the next value is put
into it, and then has room to spare. -/
theorem load_limits_are_honoured_brimful :
    (acrossTheEnd.openStore 0).store.table.load = brimful.loadLimitFor 4 ∧
      let after := ((acrossTheEnd.computed ⟨3, 0⟩ ⟨5⟩).openStore 0).store.table
      after.capacity = 8 ∧ (after.load ≤ brimful.loadLimitFor after.capacity ∨
        after.capacity = brimful.maxEntries) := by
  have reachable : Reachable (acrossTheEnd.computed ⟨3, 0⟩ ⟨5⟩) :=
    reachable_acrossTheEnd.computed ⟨by decide +kernel, by decide +kernel⟩ ⟨5⟩
  have config : ((acrossTheEnd.computed ⟨3, 0⟩ ⟨5⟩).context 0).config = brimful := by
    decide +kernel
  have honoured := (load_limits_are_honoured reachable 0 (by rw [config]; decide)).1
  rw [config] at honoured
  exact ⟨by decide +kernel, by decide +kernel, honoured⟩

end World

end ContextCache
