import ContextCache.Proofs.World.Agreement
import ContextCache.Proofs.World.Inspection

/-!
Contract: work on one place needs nothing but its own context.

Whatever state the other contexts are in, and wherever the program has come from, a place
whose definition exists and whose context has a sound store can be worked on. The work is
made of steps of the protocol at that place and of counting. It edits that one store, on
behalf of that one definition.

Owns:
- what work on a place is;
- what work on a place leaves alone, in its own store and elsewhere.

Does not own: what a piece of work achieves.
-/

set_option autoImplicit false

namespace ContextCache

namespace Store

variable {key : DefinitionKey} {first second third : Store}

theorem Edited.trans (earlier : Edited key first second) (later : Edited key second third) :
    Edited key first third := by
  induction later with
  | untouched => exact earlier
  | bound _ entry inductionHypothesis => exact inductionHypothesis.bound entry
  | unbound _ inductionHypothesis => exact inductionHypothesis.unbound
  | expunged _ registry inductionHypothesis => exact inductionHypothesis.expunged registry
  | inserted _ registry entry inductionHypothesis =>
      exact inductionHypothesis.inserted registry entry
  | swept _ registry start count inductionHypothesis =>
      exact inductionHypothesis.swept registry start count
  | promoted _ registry inductionHypothesis => exact inductionHypothesis.promoted registry
  | grown _ registry fits inductionHypothesis => exact inductionHypothesis.grown registry fits

end Store

namespace World

/-- The second world has come from the first one by work on a place: by steps of the
protocol there, and by counting. -/
inductive Works (place : Place) (world : World) : World → Prop where
  | rests : Works place world world
  | counted {after : World} (earlier : Works place world after) (counter : Counter) :
      Works place world (after.count counter)
  | operated {after : World} (earlier : Works place world after) (operation : Operation) :
      Works place world (after.operate place operation).2

variable {world after first second third : World} {place : Place}

theorem Works.trans (earlier : Works place first second) (later : Works place second third) :
    Works place first third := by
  induction later with
  | rests => exact earlier
  | counted _ counter inductionHypothesis => exact inductionHypothesis.counted counter
  | operated _ operation inductionHypothesis => exact inductionHypothesis.operated operation

theorem Reachable.serves (reachable : Reachable world) (usable : world.Usable place) :
    world.Serves place :=
  reachable.sound.serves usable

/-! ### One step -/

theorem Serves.operate (serves : world.Serves place) (operation : Operation) :
    (world.operate place operation).2.Serves place := by
  have spares := serves.spares_operate operation
  refine ⟨⟨(spares.alive _).trans serves.usable.alive, ?_⟩, ?_⟩
  · rw [spares.contexts]
    exact serves.usable.listed
  · rw [openStore_operate serves.usable]
    exact (serves.sensible operation).sound

theorem Usable.count (usable : world.Usable place) (counter : Counter) :
    (world.count counter).Usable place :=
  ⟨usable.alive, usable.listed⟩

theorem Serves.count (serves : world.Serves place) (counter : Counter) :
    (world.count counter).Serves place :=
  ⟨serves.usable.count counter, serves.sound.count counter 1⟩

/-! ### Any work -/

theorem Works.serves (works : Works place world after) (serves : world.Serves place) :
    after.Serves place := by
  induction works with
  | rests => exact serves
  | counted _ counter inductionHypothesis => exact inductionHypothesis.count counter
  | operated _ operation inductionHypothesis => exact inductionHypothesis.operate operation

theorem Spares.refl (place : Place) (world : World) : Spares place world world :=
  ⟨Registry.Leads.refl _, fun _ => rfl, rfl, fun _ _ _ => rfl⟩

theorem Spares.trans (earlier : Spares place first second) (later : Spares place second third) :
    Spares place first third where
  leads := earlier.leads.trans later.leads
  alive := fun key => (later.alive key).trans (earlier.alive key)
  contexts := later.contexts.trans earlier.contexts
  binding := fun other differs alive =>
    (later.binding other differs ((earlier.alive _).trans alive)).trans
      (earlier.binding other differs alive)

theorem spares_count (place : Place) (world : World) (counter : Counter) :
    Spares place world (world.count counter) :=
  ⟨Registry.Leads.refl _, fun _ => rfl, rfl, fun _ _ _ => rfl⟩

theorem Works.spares (works : Works place world after) (serves : world.Serves place) :
    Spares place world after := by
  induction works with
  | rests => exact Spares.refl place world
  | counted _ counter inductionHypothesis =>
      exact inductionHypothesis.trans (spares_count place _ counter)
  | operated earlier operation inductionHypothesis =>
      exact inductionHypothesis.trans ((earlier.serves serves).spares_operate operation)

theorem Works.reachable (works : Works place world after) (reachable : Reachable world)
    (usable : world.Usable place) : Reachable after := by
  induction works with
  | rests => exact reachable
  | counted _ counter inductionHypothesis => exact inductionHypothesis.count counter
  | operated earlier operation inductionHypothesis =>
      exact inductionHypothesis.operate (earlier.serves (reachable.serves usable)).usable operation

/-- Work edits the store of its context, on behalf of its definition. -/
theorem Works.edited (works : Works place world after) (serves : world.Serves place) :
    Store.Edited place.definition (world.openStore place.context).store
      (after.openStore place.context).store := by
  induction works with
  | rests => exact .untouched
  | counted _ counter inductionHypothesis => exact inductionHypothesis
  | operated earlier operation inductionHypothesis =>
      exact inductionHypothesis.trans
        (edited_operate (earlier.serves serves).usable operation place.context)

theorem capacity_snapshot (world : World) (context : ContextKey) :
    (world.snapshot context).capacity =
      if (world.store? context).isSome then (world.openStore context).store.table.capacity
      else 0 := by
  cases found : world.store? context with
  | none =>
      rw [snapshot_of_no_store found]
      rfl
  | some store =>
      rw [snapshot_of_store? found, store?_eq_openStore found]
      rfl

/-- Work never takes a context's store away. -/
theorem Works.isSome_store? (works : Works place world after) (serves : world.Serves place)
    (opened : (world.store? place.context).isSome = true) :
    (after.store? place.context).isSome = true := by
  induction works with
  | rests => exact opened
  | counted _ counter inductionHypothesis => exact inductionHypothesis
  | operated earlier operation inductionHypothesis =>
      rw [store?_operate (earlier.serves serves).usable, if_pos rfl]
      rfl

/-- Work never shows a shorter table than before. -/
theorem Works.capacity_le (works : Works place world after) (serves : world.Serves place) :
    (world.snapshot place.context).capacity ≤ (after.snapshot place.context).capacity := by
  rw [capacity_snapshot, capacity_snapshot]
  split
  · next opened =>
      rw [if_pos (works.isSome_store? serves opened)]
      exact (works.edited serves).lengthens.2
  · exact Nat.zero_le _

end World

end ContextCache
