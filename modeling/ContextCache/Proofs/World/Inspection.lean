import ContextCache.Proofs.Store.Edits
import ContextCache.Proofs.World.Tables

/-!
Contract: whoever inspects a context finds a sound table.

A snapshot shows each slot with the state of its entry. Its audit looks for promises, for
live entries outside their windows and for a load that disagrees with the slots. What a
snapshot shows follows from the store that it was taken from, and every store of a running
program passes.

Owns:
- what the audit accepts, and what a snapshot shows of a table;
- that configuration, shape and exact load outlast every step, in every context;
- the soundness of every snapshot, and the bounds on a table's capacity over a run.

Does not own: how far below its capacity the load stays.
-/

set_option autoImplicit false

namespace ContextCache

/-! ### The audit -/

namespace Snapshot

/-- The audit accepts what is not allocated, and what has none of the faults. -/
theorem audit_eq_ok_iff {snapshot : Snapshot} :
    snapshot.audit = .ok () ↔ snapshot.capacity = 0 ∨
      (snapshot.containsPromise = false ∧ snapshot.misplacedSlots = [] ∧
        snapshot.load = snapshot.occupiedSlots ∧ snapshot.load ≤ snapshot.capacity) := by
  unfold audit
  constructor
  · intro accepted
    split at accepted
    · next unallocated => exact Or.inl unallocated
    · split at accepted
      · cases accepted
      · next unpromised =>
          split at accepted
          · cases accepted
          · next placed =>
              split at accepted
              · cases accepted
              · next exact =>
                  refine Or.inr ⟨by simpa using unpromised, by simpa using placed, ?_, ?_⟩ <;> omega
  · rintro (unallocated | ⟨unpromised, placed, exact, within⟩)
    · rw [if_pos unallocated]
    · have agrees :
          ¬ (snapshot.load ≠ snapshot.occupiedSlots ∨ snapshot.capacity < snapshot.load) := by
        omega
      rw [unpromised, placed, if_neg agrees]
      exact ite_self _

end Snapshot

namespace Table

variable {registry : Registry} {table : Table} {loadLimit probeLimit : Nat}

theorem isSome_state_slotView (registry : Registry) (table : Table) (index : Nat) :
    (table.slotView registry index).state.isSome = table.isOccupied index := by
  unfold slotView isOccupied
  cases table.slot index <;> rfl

theorem occupiedSlots_snapshot (registry : Registry) (table : Table) (loadLimit probeLimit : Nat) :
    (table.snapshot registry loadLimit probeLimit).occupiedSlots = table.occupied := by
  rw [occupied_eq_countP]
  unfold Snapshot.occupiedSlots snapshot
  rw [List.countP_map]
  apply List.countP_congr
  intro index _
  rw [Function.comp_apply, isSome_state_slotView]

/-- Only a promise shows as a promise. -/
theorem state_slotView_ne_promise {index : Nat}
    (shelved : ∀ entry, table.Holds entry → entry.Shelved registry) :
    (table.slotView registry index).state ≠ some .promise := by
  unfold slotView
  cases found : table.slot index with
  | none => exact nofun
  | some entry =>
      have unpromised : entry.isPromise = false := by
        cases shelved entry ⟨index, found⟩ <;> rfl
      dsimp only
      unfold Entry.state
      rw [unpromised, if_neg (by decide)]
      split
      · exact nofun
      · split <;> exact nofun

theorem containsPromise_snapshot (shelved : ∀ entry, table.Holds entry → entry.Shelved registry) :
    (table.snapshot registry loadLimit probeLimit).containsPromise = false := by
  unfold Snapshot.containsPromise snapshot
  rw [List.any_map, List.any_eq_false]
  intro index _
  have differs : (table.slotView registry index).state ≠ some .promise :=
    state_slotView_ne_promise shelved
  simpa using differs

/-- A slot that shows as live holds a live entry, and shows its dislocation. -/
theorem slotView_of_isLive {index : Nat} (live : (table.slotView registry index).isLive = true) :
    ∃ entry hash, table.slot index = some entry ∧ entry.isLive registry = true ∧
      entry.hashOf? registry = some hash ∧
      (table.slotView registry index).dislocation = some (table.distance hash index) := by
  unfold SlotView.isLive slotView at live
  unfold slotView
  cases found : table.slot index with
  | none => simp [found] at live
  | some entry =>
      simp only [found, beq_iff_eq, Option.some.injEq] at live
      unfold Entry.state at live
      split at live
      · cases live
      · split at live
        · cases live
        · next hash homed =>
            split at live
            · next entryLive =>
                refine ⟨entry, hash, rfl, entryLive, homed, ?_⟩
                simp [homed, dislocation_eq homed]
            · cases live

theorem misplacedSlots_snapshot (unbroken : table.Unbroken registry probeLimit) :
    (table.snapshot registry loadLimit probeLimit).misplacedSlots = [] := by
  unfold Snapshot.misplacedSlots
  rw [List.map_eq_nil_iff, List.filter_eq_nil_iff]
  intro view member misplaced
  obtain ⟨index, -, rfl⟩ := List.mem_map.mp member
  unfold SlotView.isMisplaced at misplaced
  rw [Bool.and_eq_true] at misplaced
  obtain ⟨entry, hash, found, live, homed, shown⟩ := slotView_of_isLive misplaced.1
  have inside := (unbroken index entry hash found live homed).inside
  have outside := misplaced.2
  rw [shown] at outside
  have beyond : probeLimit ≤ table.distance hash index := of_decide_eq_true outside
  omega

end Table

theorem Store.Measured.load_le_capacity {store : Store} (measured : store.Measured) :
    store.table.load ≤ store.table.capacity := by
  rw [measured.counted]
  exact Table.occupied_le_capacity _

/-- The snapshot of a store with an unbroken, exactly counted table passes the audit. -/
theorem OpenStore.Sound.audit_snapshot {opened : OpenStore} (sound : opened.Sound)
    (measured : opened.store.Measured) :
    (opened.store.table.snapshot opened.registry opened.store.loadLimit
      opened.store.config.probeLimit).audit = .ok () := by
  rw [Snapshot.audit_eq_ok_iff]
  refine Or.inr ⟨Table.containsPromise_snapshot sound.shelved,
    Table.misplacedSlots_snapshot sound.unbroken, ?_, ?_⟩
  · rw [Table.occupiedSlots_snapshot]
    exact measured.counted
  · exact measured.load_le_capacity

namespace World

variable {world start after : World} {place : Place} {event : Event} {events : List Event}

/-! ### All contexts -/

/-- Every context's store is measured, and is laid out as the context says. -/
structure Measured (world : World) : Prop where
  store : ∀ context, (world.openStore context).store.Measured
  config : ∀ context, (world.openStore context).store.config = (world.context context).config

theorem config_closeStore (world : World) (worked other : ContextKey) (opened : OpenStore) :
    ((world.closeStore worked opened).context other).config = (world.context other).config := by
  by_cases same : other = worked
  · subst same
    unfold context closeStore
    simp only [Array.getD_eq_getD_getElem?, Array.getElem?_modify, if_true]
    cases world.contexts[other]? <;> rfl
  · rw [context_closeStore_ne same]

theorem store_operate_ne {context : ContextKey} (differs : context ≠ place.context)
    (operation : Operation) :
    ((world.operate place operation).2.openStore context).store =
      (world.openStore context).store := by
  show ((world.closeStore place.context _).openStore context).store = _
  rw [openStore_closeStore_ne differs]

/-- A step edits the store that it works on, and no other. -/
theorem edited_operate (usable : world.Usable place) (operation : Operation)
    (context : ContextKey) :
    Store.Edited place.definition (world.openStore context).store
      ((world.operate place operation).2.openStore context).store := by
  by_cases same : context = place.context
  · rw [same, openStore_operate usable]
    exact OpenStore.edited_operate _ _ _
  · rw [store_operate_ne same]
    exact .untouched

theorem Measured.of_contexts_eq (measured : world.Measured)
    (contexts : after.contexts = world.contexts) : after.Measured := by
  have same : ∀ key, after.context key = world.context key := by
    intro key
    unfold context
    rw [contexts]
  constructor
  · intro key
    have stored := measured.store key
    unfold openStore at stored ⊢
    rwa [same]
  · intro key
    have configured := measured.config key
    unfold openStore at configured ⊢
    rwa [same]

theorem measured_initial : World.initial.Measured :=
  ⟨fun _ => Store.measured_create Config.valid_standard, fun _ => rfl⟩

theorem context_addContext {config : Config} {key : ContextKey}
    (accepted : world.addContext config = .ok (key, after)) (other : ContextKey) :
    after.context other = world.context other ∨
      after.context other = ⟨config, none⟩ ∧ world.contexts.size ≤ other := by
  unfold addContext at accepted
  split at accepted
  · cases accepted
  · cases accepted
    unfold context
    rw [Array.getD_eq_getD_getElem?, Array.getD_eq_getD_getElem?, Array.getElem?_push]
    split
    · next new => exact Or.inr ⟨rfl, Nat.le_of_eq new.symm⟩
    · exact Or.inl rfl

theorem Measured.step (measured : world.Measured) (step : Step world event after) :
    after.Measured := by
  cases step with
  | @operated place operation usable =>
      constructor
      · intro context
        exact (edited_operate usable operation context).measured (measured.store context)
      · intro context
        have edits := edited_operate usable operation context
        have configured : ((world.operate place operation).2.context context).config =
            (world.context context).config := config_closeStore world place.context context _
        rw [edits.lengthens.1, measured.config context, configured]
  | contextAdded accepted =>
      constructor
      · intro context
        unfold openStore
        rcases context_addContext accepted context with same | ⟨fresh, -⟩
        · rw [same]
          exact measured.store context
        · rw [fresh]
          exact Store.measured_create (valid_of_addContext accepted)
      · intro context
        unfold openStore
        rcases context_addContext accepted context with same | ⟨fresh, -⟩
        · rw [same]
          exact measured.config context
        · rw [fresh]
          rfl
  | defined => exact measured.of_contexts_eq (contexts_withRegistry _ _)
  | dropped key => exact measured.of_contexts_eq rfl
  | held key => exact measured.of_contexts_eq rfl
  | released key => exact measured.of_contexts_eq rfl
  | counted counter => exact measured.of_contexts_eq rfl

theorem Reachable.measured (reachable : Reachable world) : world.Measured := by
  induction reachable with
  | initial => exact measured_initial
  | next _ step inductionHypothesis => exact inductionHypothesis.step step

/-! ### Over a run -/

theorem openStore_of_store? {context : ContextKey} {store : Store}
    (found : world.store? context = some store) :
    world.openStore context = ⟨world.shared, store⟩ := by
  rw [← store?_eq_openStore found]
  rfl

theorem store?_of_unlisted {context : ContextKey} (unlisted : world.contexts.size ≤ context) :
    world.store? context = none := by
  unfold store? World.context
  rw [Array.getD_eq_getD_getElem?, Array.getElem?_eq_none unlisted]
  rfl

theorem store?_of_context_eq {context : ContextKey}
    (same : after.context context = world.context context) :
    after.store? context = world.store? context :=
  congrArg Context.store same

theorem store?_of_contexts_eq (contexts : after.contexts = world.contexts)
    (context : ContextKey) : after.store? context = world.store? context := by
  unfold store? World.context
  rw [contexts]

theorem store?_operate (usable : world.Usable place) (operation : Operation)
    (context : ContextKey) :
    (world.operate place operation).2.store? context =
      if context = place.context then
        some ((world.operate place operation).2.openStore context).store
      else world.store? context := by
  split
  · next same =>
      rw [same, openStore_operate usable]
      exact congrArg Context.store (context_closeStore_self usable.listed _)
  · next differs => exact store?_of_context_eq (context_closeStore_ne differs _)

/-- A context that has a store keeps it, and its table is not shortened. -/
theorem store?_step (step : Step world event after) {context : ContextKey} {store : Store}
    (found : world.store? context = some store) :
    ∃ later, after.store? context = some later ∧ store.table.capacity ≤ later.table.capacity := by
  have still : after.contexts = world.contexts →
      ∃ later, after.store? context = some later ∧
        store.table.capacity ≤ later.table.capacity :=
    fun contexts => ⟨store, (store?_of_contexts_eq contexts context).trans found, Nat.le_refl _⟩
  cases step with
  | @operated place operation usable =>
      have edits := (edited_operate usable operation context).lengthens.2
      rw [store?_eq_openStore found] at edits
      have kept := store?_operate usable operation context
      split at kept
      · exact ⟨_, kept, edits⟩
      · exact ⟨store, kept.trans found, Nat.le_refl _⟩
  | contextAdded accepted =>
      rcases context_addContext accepted context with same | ⟨-, unlisted⟩
      · exact ⟨store, (store?_of_context_eq same).trans found, Nat.le_refl _⟩
      · exact absurd ((store?_of_unlisted unlisted).symm.trans found) (by simp)
  | defined => exact still (contexts_withRegistry _ _)
  | dropped key => exact still rfl
  | held key => exact still rfl
  | released key => exact still rfl
  | counted counter => exact still rfl

theorem Run.store? (run : Run start events after) {context : ContextKey} {store : Store}
    (found : start.store? context = some store) :
    ∃ later, after.store? context = some later ∧ store.table.capacity ≤ later.table.capacity := by
  induction run with
  | here => exact ⟨store, found, Nat.le_refl _⟩
  | next run step inductionHypothesis =>
      obtain ⟨middle, kept, longer⟩ := inductionHypothesis
      obtain ⟨later, keptAfter, longerAfter⟩ := store?_step step kept
      exact ⟨later, keptAfter, Nat.le_trans longer longerAfter⟩

/-! ### Snapshots -/

theorem snapshot_of_store? {context : ContextKey} {store : Store}
    (found : world.store? context = some store) :
    world.snapshot context =
      store.table.snapshot world.registry store.loadLimit store.config.probeLimit := by
  unfold snapshot Context.snapshot
  unfold store? at found
  rw [found]

theorem snapshot_of_no_store {context : ContextKey} (absent : world.store? context = none) :
    world.snapshot context = Snapshot.unallocated (world.context context).config.probeLimit := by
  unfold snapshot Context.snapshot
  unfold store? at absent
  rw [absent]

/-- A context's snapshot passes the audit whatever state the other contexts are in. -/
theorem audit_snapshot_of_sound {context : ContextKey} (sound : (world.openStore context).Sound)
    (measured : (world.openStore context).store.Measured) :
    (world.snapshot context).audit = .ok () := by
  cases found : world.store? context with
  | none =>
      rw [snapshot_of_no_store found]
      rfl
  | some store =>
      rw [openStore_of_store? found] at sound measured
      rw [snapshot_of_store? found]
      exact sound.audit_snapshot measured

theorem load_snapshot_le {context : ContextKey}
    (measured : (world.openStore context).store.Measured) :
    (world.snapshot context).load ≤ (world.snapshot context).capacity := by
  cases found : world.store? context with
  | none =>
      rw [snapshot_of_no_store found]
      exact Nat.le_refl 0
  | some store =>
      rw [openStore_of_store? found] at measured
      rw [snapshot_of_store? found]
      exact measured.load_le_capacity

theorem Reachable.audit_snapshot (reachable : Reachable world) (context : ContextKey) :
    (world.snapshot context).audit = .ok () :=
  audit_snapshot_of_sound (reachable.sound context) (reachable.measured.store context)

/-- Every inspected table is sound, wherever a program has got to. The snapshot of a context
passes the audit: if the context has a table, no slot holds a promise, no live slot lies
outside its window, and the load is the number of occupied slots and within the capacity. The
capacity is the initial one doubled some number of times, is never above the greatest one, and
over a run it is never reduced. -/
theorem inspected_tables_are_sound (reachable : Reachable start) (run : Run start events after)
    (context : ContextKey) :
    (after.snapshot context).audit = .ok () ∧
    (∀ store, after.store? context = some store →
      (after.snapshot context).capacity = store.table.capacity ∧
      (after.snapshot context).containsPromise = false ∧
      (after.snapshot context).misplacedSlots = [] ∧
      (after.snapshot context).load = (after.snapshot context).occupiedSlots ∧
      (after.snapshot context).load ≤ (after.snapshot context).capacity ∧
      (∃ doublings, store.table.capacity =
        (after.context context).config.initialEntries * 2 ^ doublings) ∧
      store.table.capacity ≤ (after.context context).config.maxEntries) ∧
    (∀ earlier, start.store? context = some earlier →
      ∃ later, after.store? context = some later ∧
        earlier.table.capacity ≤ later.table.capacity) := by
  have reached := reachable.run run
  have audited := reached.audit_snapshot context
  refine ⟨audited, ?_, fun earlier found => run.store? found⟩
  intro store found
  have measured := reached.measured.store context
  have configured := reached.measured.config context
  rw [openStore_of_store? found] at measured configured
  have capacity : (after.snapshot context).capacity = store.table.capacity := by
    rw [snapshot_of_store? found]
    rfl
  have allocated : (after.snapshot context).capacity ≠ 0 := by
    rw [capacity]
    exact Nat.ne_of_gt measured.roomy.nonempty
  obtain ⟨unpromised, placed, exact, within⟩ :=
    (Snapshot.audit_eq_ok_iff.mp audited).resolve_left allocated
  refine ⟨capacity, unpromised, placed, exact, within, ?_, ?_⟩
  · rw [← configured]
    exact measured.doubled
  · rw [← configured]
    exact measured.bounded

/-- In the small world the computed value is removed, and what is left is sound. -/
theorem inspected_tables_are_sound_small :
    ((smallComputed.operate ⟨0, 0⟩ .remove).2.snapshot 0).audit = .ok () ∧
      ∃ later, (smallComputed.operate ⟨0, 0⟩ .remove).2.store? 0 = some later ∧
        (smallComputed.openStore 0).store.table.capacity ≤ later.table.capacity :=
  have sound := inspected_tables_are_sound reachable_smallComputed
    (Run.here.next (.operated .remove ⟨by decide, by decide⟩)) 0
  ⟨sound.1, sound.2.2 _ store?_smallComputed⟩

end World

end ContextCache
