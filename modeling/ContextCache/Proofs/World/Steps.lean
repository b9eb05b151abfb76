import ContextCache.Proofs.Store.Steps
import ContextCache.World

/-!
Contract: steps of the protocol in a world with many contexts.

A step in one context changes the shared registry under every other context. That ends
generations and never revives one, so the other contexts' stores stay sound although
nobody has touched them.

Owns:
- sound worlds, places that can be worked on, and what a place is bound to;
- that a step in one context keeps all contexts sound and spares every other place.

Does not own: which steps a program takes.
-/

set_option autoImplicit false

namespace ContextCache

namespace World

/-- The definition exists, and so does the context. -/
structure Usable (world : World) (place : Place) : Prop where
  alive : world.registry.isAlive place.definition = true
  listed : place.context < world.contexts.size

instance (world : World) (place : Place) : Decidable (world.Usable place) :=
  decidable_of_iff (world.registry.isAlive place.definition = true ∧
      place.context < world.contexts.size)
    ⟨fun usable => ⟨usable.1, usable.2⟩, fun usable => ⟨usable.alive, usable.listed⟩⟩

/-- The entry that a place is bound to. -/
def binding? (world : World) (place : Place) : Option Entry :=
  (world.openStore place.context).store.binding? place.definition

/-- Takes a step of the protocol at a place. -/
def operate (world : World) (place : Place) (operation : Operation) : Outcome × World :=
  world.withStore place.context fun opened => opened.operate place.definition operation

/-- Every context's store is sound, also one that is yet to be created. -/
def Sound (world : World) : Prop :=
  ∀ key, (world.openStore key).Sound

/-- The place can be worked on. Nothing is asked of other contexts. -/
structure Serves (world : World) (place : Place) : Prop where
  usable : world.Usable place
  sound : (world.openStore place.context).Sound

/-- What a step at `place` leaves alone. -/
structure Spares (place : Place) (before after : World) : Prop where
  leads : before.registry.Leads after.registry
  alive : ∀ key, after.registry.isAlive key = before.registry.isAlive key
  contexts : after.contexts.size = before.contexts.size
  binding : ∀ other, other ≠ place → before.registry.isAlive other.definition = true →
    after.binding? other = before.binding? other

variable {world : World} {key : ContextKey} {opened : OpenStore} {place : Place}

/-! ### Opening and closing -/

theorem context_closeStore_self (listed : key < world.contexts.size) (opened : OpenStore) :
    (world.closeStore key opened).context key =
      { world.context key with store := some opened.store } := by
  unfold context closeStore
  rw [Array.getD_eq_getD_getElem?, Array.getD_eq_getD_getElem?, Array.getElem?_modify, if_pos rfl,
    Array.getElem?_eq_getElem listed]
  rfl

theorem context_closeStore_ne {other : ContextKey} (differs : other ≠ key) (opened : OpenStore) :
    (world.closeStore key opened).context other = world.context other := by
  unfold context closeStore
  rw [Array.getD_eq_getD_getElem?, Array.getD_eq_getD_getElem?, Array.getElem?_modify,
    if_neg (Ne.symm differs)]

/-- A closed store is found again as it was left. -/
theorem openStore_closeStore_self (listed : key < world.contexts.size) (opened : OpenStore) :
    (world.closeStore key opened).openStore key = opened := by
  unfold openStore
  rw [context_closeStore_self listed]
  rfl

theorem openStore_closeStore_ne {other : ContextKey} (differs : other ≠ key)
    (opened : OpenStore) :
    (world.closeStore key opened).openStore other =
      { shared := opened.shared, store := (world.openStore other).store } := by
  unfold openStore
  rw [context_closeStore_ne differs]
  rfl

theorem size_closeStore (world : World) (key : ContextKey) (opened : OpenStore) :
    (world.closeStore key opened).contexts.size = world.contexts.size := by
  simp [closeStore]

theorem store?_eq_openStore {store : Store} (found : world.store? key = some store) :
    (world.openStore key).store = store := by
  unfold store? at found
  unfold openStore
  dsimp only
  rw [found]
  rfl

/-! ### Steps -/

theorem Sound.closeStore (sound : world.Sound) (listed : key < world.contexts.size)
    (leads : world.registry.Leads opened.registry)
    (minted : world.shared.entriesMinted ≤ opened.shared.entriesMinted)
    (soundOpened : opened.Sound) : (world.closeStore key opened).Sound := by
  intro other
  by_cases same : other = key
  · rw [same, openStore_closeStore_self listed]
    exact soundOpened
  · rw [openStore_closeStore_ne same]
    exact (sound other).advance rfl leads minted

theorem spares_closeStore {place : Place} (listed : place.context < world.contexts.size)
    (spares : OpenStore.Spares place.definition (world.openStore place.context) opened) :
    Spares place world (world.closeStore place.context opened) where
  leads := spares.leads
  alive := spares.alive
  contexts := size_closeStore world place.context opened
  binding := by
    intro other differs alive
    unfold binding?
    by_cases same : other.context = place.context
    · have elsewhere : other.definition ≠ place.definition := by
        intro sameDefinition
        apply differs
        cases other
        cases place
        simp_all
      rw [same, openStore_closeStore_self listed]
      exact spares.binding other.definition elsewhere alive
    · rw [openStore_closeStore_ne same]

/-- Working on a context's store changes that store and the shared state. -/
theorem openStore_withStore {α : Type} (work : OpenStore → α × OpenStore)
    (listed : key < world.contexts.size) :
    (world.withStore key work).2.openStore key = (work (world.openStore key)).2 :=
  openStore_closeStore_self listed _

variable {operation : Operation}

theorem openStore_operate (usable : world.Usable place) (operation : Operation) :
    (world.operate place operation).2.openStore place.context =
      ((world.openStore place.context).operate place.definition operation).2 :=
  openStore_withStore _ usable.listed

theorem Sound.serves (sound : world.Sound) (usable : world.Usable place) : world.Serves place :=
  ⟨usable, sound place.context⟩

theorem Serves.sensible (serves : world.Serves place) (operation : Operation) :
    OpenStore.Sensible (world.openStore place.context) place.definition operation
      ((world.openStore place.context).operate place.definition operation) :=
  serves.sound.operate serves.usable.alive operation

theorem Serves.spares_operate (serves : world.Serves place) (operation : Operation) :
    Spares place world (world.operate place operation).2 :=
  spares_closeStore serves.usable.listed (OpenStore.spares_operate _ _ operation)

theorem Serves.effect_operate (serves : world.Serves place) (operation : Operation) :
    OpenStore.Effect (world.openStore place.context)
      ((world.operate place operation).2.openStore place.context) place.definition operation
      (world.operate place operation).1 := by
  rw [openStore_operate serves.usable]
  exact (serves.sensible operation).effect

theorem Sound.operate (sound : world.Sound) (usable : world.Usable place)
    (operation : Operation) : (world.operate place operation).2.Sound := by
  have spares := (world.openStore place.context).spares_operate place.definition operation
  exact sound.closeStore usable.listed spares.leads spares.minted
    ((sound.serves usable).sensible operation).sound

theorem Sound.spares_operate (sound : world.Sound) (usable : world.Usable place)
    (operation : Operation) : Spares place world (world.operate place operation).2 :=
  (sound.serves usable).spares_operate operation

theorem Sound.effect_operate (sound : world.Sound) (usable : world.Usable place)
    (operation : Operation) :
    OpenStore.Effect (world.openStore place.context)
      ((world.operate place operation).2.openStore place.context) place.definition operation
      (world.operate place operation).1 :=
  (sound.serves usable).effect_operate operation

/-! ### Everything else that happens -/

/-- Changes of the shared state leave every store sound and every binding as it is. -/
theorem Sound.advance {after : World} (sound : world.Sound)
    (contexts : after.contexts = world.contexts)
    (leads : world.registry.Leads after.registry)
    (minted : after.shared.entriesMinted = world.shared.entriesMinted) : after.Sound := by
  intro key
  have same : (after.openStore key).store = (world.openStore key).store := by
    unfold openStore context
    rw [contexts]
  exact (sound key).advance same leads (Nat.le_of_eq minted.symm)

theorem binding?_of_contexts_eq {after : World} (contexts : after.contexts = world.contexts)
    (place : Place) : after.binding? place = world.binding? place := by
  unfold binding? openStore context
  rw [contexts]

end World

/-- A fresh store is sound. -/
theorem sound_create {config : Config} (valid : config.Valid) (shared : Shared) :
    (OpenStore.mk shared (Store.create config)).Sound where
  valid := valid
  doubled := ⟨0, by simp [Store.create, Table.capacity_empty]⟩
  bindable := by
    intro key entry bound
    cases bound
  shelved := fun _ holds => absurd holds (Table.not_holds_empty _)
  coherent := by
    rintro token allocation ⟨entry, holds, -⟩
    exact absurd holds (Table.not_holds_empty _)
  unbroken := Table.unbroken_empty _

end ContextCache
