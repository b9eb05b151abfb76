import ContextCache.Proofs.Table.Leftovers
import ContextCache.Proofs.World.Works

/-!
Contract: what relief can rely on after a sweep of the whole table.

The sweep is meant to leave live entries and nothing else, so that the load tells whether they
still fit. It goes on past the table's end for as many slots as a search may, but the last
slots that it frees there may be refilled from slots that it has dealt with before, and in
these a tombstone stays. The load then exceeds the number of live entries by less than the
probe limit, and relief may double a table that had room enough.

Owns:
- what a sweep of the whole table leaves in a store, and when relief doubles its table;
- a program whose table keeps a tombstone and is doubled for it.

Does not own: what becomes of a tombstone later.
-/

set_option autoImplicit false

namespace ContextCache

namespace OpenStore

variable {opened : OpenStore}

theorem table_reduceLoad (opened : OpenStore) :
    opened.reduceLoad.store.table =
      if opened.sweepAll.store.table.load < opened.store.loadLimit then
        opened.sweepAll.store.table
      else opened.expunge.sweepAll.grow.store.table := by
  unfold reduceLoad
  dsimp only
  split
  · next fits => exact (if_pos fits).symm
  · next full => exact (if_neg full).symm

/-- Relief changes the length of a table only if the load after the sweep demands it. -/
theorem loadLimit_le_of_capacity_reduceLoad
    (doubled : opened.reduceLoad.store.table.capacity ≠ opened.store.table.capacity) :
    opened.store.loadLimit ≤ opened.sweepAll.store.table.load := by
  by_contra fits
  rw [table_reduceLoad, if_pos (Nat.lt_of_not_le fits)] at doubled
  exact doubled (Table.capacity_sweep _ _ _ _ _)

/-- The load after a sweep of the whole table: the live entries, and what has been left. -/
theorem load_sweepAll (measured : opened.store.Measured) :
    opened.sweepAll.store.table.load =
      (opened.store.table.liveEntries opened.registry).length +
        opened.sweepAll.store.table.leftovers opened.registry := by
  have counted : opened.sweepAll.store.table.Counted := measured.counted.sweep measured.roomy
  have tidied : Table.Tidied opened.registry opened.store.table opened.sweepAll.store.table :=
    Table.tidied_sweep measured.roomy
  rw [counted, Table.occupied_eq_live_add_leftovers opened.registry, tidied.perm.length_eq]

/-- Full sweeps leave few tombstones. After a sweep of the whole table of any store with a
valid configuration and an exact load, such as every store of a running program, an occupied
slot holds a live entry or one of fewer than `probeLimit` tombstones, which are in the slots
that the sweep passes when it goes round past its own beginning. So the load exceeds the number
of live entries by less than the probe limit, and relief doubles the table only if they come
that close to the load limit. Where no live entry sits across the table's end nothing but live
entries is left, and relief doubles only if they alone reach the limit. -/
theorem full_sweeps_leave_few_tombstones (measured : opened.store.Measured) :
    (∀ position entry, opened.sweepAll.store.table.slot position = some entry →
      entry.isLive opened.registry = true ∨
        entry = .tombstone ∧ ∃ step, step + 1 < opened.store.config.probeLimit ∧
          position ≡ opened.store.config.probeLimit - 1 + step
            [MOD opened.store.table.capacity]) ∧
    (opened.store.table.liveEntries opened.registry).length ≤
      opened.sweepAll.store.table.load ∧
    opened.sweepAll.store.table.load <
      (opened.store.table.liveEntries opened.registry).length + opened.store.config.probeLimit ∧
    (opened.reduceLoad.store.table.capacity ≠ opened.store.table.capacity →
      opened.store.loadLimit <
        (opened.store.table.liveEntries opened.registry).length +
          opened.store.config.probeLimit) ∧
    (opened.store.table.Unwrapped opened.registry →
      (∀ position entry, opened.sweepAll.store.table.slot position = some entry →
        entry.isLive opened.registry = true) ∧
      opened.sweepAll.store.table.load =
        (opened.store.table.liveEntries opened.registry).length ∧
      (opened.reduceLoad.store.table.capacity ≠ opened.store.table.capacity →
        opened.store.loadLimit ≤ (opened.store.table.liveEntries opened.registry).length)) := by
  have load := load_sweepAll measured
  have few : opened.sweepAll.store.table.leftovers opened.registry <
      opened.store.config.probeLimit := Table.leftovers_sweepAll_lt measured.roomy
  refine ⟨?_, by omega, by omega, ?_, ?_⟩
  · intro position entry found
    cases live : entry.isLive opened.registry with
    | true => exact Or.inl rfl
    | false => exact Or.inr (Table.leftover_sweepAll measured.roomy found live)
  · intro doubled
    have limit := loadLimit_le_of_capacity_reduceLoad doubled
    omega
  · intro unwrapped
    have lives : ∀ position entry, opened.sweepAll.store.table.slot position = some entry →
        entry.isLive opened.registry = true := fun position entry found =>
      Table.isLive_of_sweepAll measured.roomy unwrapped ⟨position, found⟩
    have nothing := Table.leftovers_eq_zero lives
    refine ⟨lives, by omega, ?_⟩
    intro doubled
    have limit := loadLimit_le_of_capacity_reduceLoad doubled
    omega

end OpenStore

namespace World

/-- Computes a value from start to commit. -/
def computed (world : World) (place : Place) (allocation : Allocation) : World :=
  ((world.operate place .start).2.operate place
    (.commit (world.registry.current place.definition) allocation)).2

theorem Reachable.computed {world : World} {place : Place} (reachable : Reachable world)
    (usable : world.Usable place) (allocation : Allocation) :
    Reachable (world.computed place allocation) :=
  (reachable.operate usable .start).operate
    ((reachable.serves usable).operate .start).usable _

theorem Reachable.dropped {world : World} (reachable : Reachable world) (key : DefinitionKey) :
    Reachable (world.dropDefinition key) :=
  reachable.next (.dropped key)

/-- A table of four slots, full at its load limit, with windows of two slots. -/
def brimful : Config :=
  { initialEntries := 4, probeLimit := 2, loadPercent := 100, maxEntries := 8 }

/-- Six definitions, whose homes are the slots 0, 3, 2, 1, 0 and 3, and one context. -/
def sixDefinitions : World :=
  { shared :=
      { Shared.initial with
        registry := Registry.initial.define.2.define.2.define.2.define.2.define.2.define.2 }
    contexts := #[{ config := brimful, store := none }] }

theorem reachable_sixDefinitions : Reachable sixDefinitions := by
  let define := fun world : World => (world.withRegistry Registry.define).2
  have accepted : (define (define (define (define (define (define World.initial)))))).addContext
      brimful = .ok (0, sixDefinitions) := rfl
  exact ((((((Reachable.initial.next .defined).next .defined).next .defined).next .defined).next
    .defined).next .defined).next (.contextAdded accepted)

/-- Slot 0 holds the value of definition 1, whose home is slot 3, slot 1 that of definition 0,
whose home is slot 0, slot 2 that of definition 2, and slot 3 one whose definition is gone. -/
def acrossTheEnd : World :=
  ((((((sixDefinitions.computed ⟨0, 0⟩ ⟨0⟩).computed ⟨4, 0⟩ ⟨1⟩).dropDefinition 4).computed
    ⟨1, 0⟩ ⟨2⟩).computed ⟨5, 0⟩ ⟨3⟩).computed ⟨2, 0⟩ ⟨4⟩).dropDefinition 5

theorem reachable_acrossTheEnd : Reachable acrossTheEnd :=
  ((((((reachable_sixDefinitions.computed ⟨by decide, by decide⟩ _).computed
    ⟨by decide, by decide⟩ _).dropped 4).computed ⟨by decide, by decide⟩ _).computed
      ⟨by decide, by decide⟩ _).computed ⟨by decide, by decide⟩ _).dropped 5

/-- There the sweep leaves a load of less than five, and what is not live in slot 1 at most. -/
theorem full_sweeps_leave_few_tombstones_across :
    (acrossTheEnd.openStore 0).sweepAll.store.table.load < 3 + 2 ∧
      ∀ entry, (acrossTheEnd.openStore 0).sweepAll.store.table.slot 0 = some entry →
        entry.isLive acrossTheEnd.registry = true := by
  have few := OpenStore.full_sweeps_leave_few_tombstones
    (reachable_acrossTheEnd.measured.store 0)
  refine ⟨Nat.lt_of_lt_of_le few.2.2.1 (by decide +kernel), ?_⟩
  intro entry found
  rcases few.1 0 entry found with live | ⟨-, step, below, there⟩
  · exact live
  · have window : (acrossTheEnd.openStore 0).store.config.probeLimit = 2 := by decide +kernel
    rw [window] at below
    have zero : step = 0 := by omega
    subst zero
    exact absurd there (by decide +kernel)

/-- With live entries across the end a sweep of the whole table leaves a tombstone: the load
stays four with three live entries, and relief doubles the table although they stay below its
limit. -/
theorem full_sweep_leaves_tombstone :
    ∃ world, Reachable world ∧
      (world.openStore 0).sweepAll.store.table.slot 1 = some .tombstone ∧
      (world.openStore 0).sweepAll.store.table.load = 4 ∧
      ((world.openStore 0).sweepAll.store.table.liveEntries world.registry).length = 3 ∧
      (world.openStore 0).store.loadLimit = 4 ∧
      (world.openStore 0).store.table.capacity = 4 ∧
      (world.openStore 0).reduceLoad.store.table.capacity = 8 :=
  ⟨acrossTheEnd, reachable_acrossTheEnd, by decide +kernel, by decide +kernel, by decide +kernel,
    by decide +kernel, by decide +kernel, by decide +kernel⟩

end World

end ContextCache
