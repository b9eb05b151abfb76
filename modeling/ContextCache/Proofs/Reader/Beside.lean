import ContextCache.Proofs.Reader.Pieces
import ContextCache.Proofs.Store.Blindness

/-!
Contract: two worlds that go through the same, one beside a pending promise.

One of the worlds has a read under way, whose promise is bound at some place. The other one
is where that read has never begun: the binding is missing there, the read's events are not
counted, and the place's context may have no store yet. As long as nobody works on the
place itself or drops its definition, whatever happens in both worlds returns the same and
keeps them beside each other.

Owns:
- opening a context's store ahead of its use;
- worlds beside each other, and that every step, lookup and change of the registry keeps
  them so.

Does not own: the sequences of steps that programs take.
-/

set_option autoImplicit false

namespace ContextCache

namespace World

variable {world first second : World} {context : ContextKey}

/-! ### Worlds and their contexts -/

theorem context_closeStore (world : World) (key other : ContextKey) (opened : OpenStore) :
    (world.closeStore key opened).context other =
      if other = key ∧ key < world.contexts.size then
        { world.context other with store := some opened.store }
      else world.context other := by
  by_cases same : other = key
  · subst same
    by_cases listed : other < world.contexts.size
    · rw [context_closeStore_self listed, if_pos ⟨rfl, listed⟩]
    · rw [if_neg fun inside => listed inside.2]
      unfold context closeStore
      have absent := Array.getElem?_eq_none (Nat.le_of_not_lt listed)
      rw [Array.getD_eq_getD_getElem?, Array.getD_eq_getD_getElem?, Array.getElem?_modify,
        if_pos rfl, absent]
      rfl
  · rw [context_closeStore_ne same, if_neg fun inside => same inside.1]

theorem ext_context (shared : first.shared = second.shared)
    (size : first.contexts.size = second.contexts.size)
    (context : ∀ key, first.context key = second.context key) : first = second := by
  obtain ⟨_, contexts⟩ := first
  obtain ⟨_, others⟩ := second
  cases shared
  rw [World.mk.injEq]
  refine ⟨rfl, Array.ext size fun key inside insideOther => ?_⟩
  have same := context key
  unfold World.context at same
  rwa [Array.getD_eq_getD_getElem?, Array.getD_eq_getD_getElem?,
    Array.getElem?_eq_getElem inside, Array.getElem?_eq_getElem insideOther] at same

/-- The world with a store in the context: a fresh one if there is none yet. -/
def opened (world : World) (context : ContextKey) : World :=
  world.closeStore context (world.openStore context)

/-- No other context changes, and neither does this one if it has a store already. -/
theorem context_opened {other : ContextKey}
    (settled : other ≠ context ∨ (world.store? other).isSome = true) :
    (world.opened context).context other = world.context other := by
  unfold opened
  rw [context_closeStore]
  split
  · next inside =>
      obtain ⟨same, -⟩ := inside
      subst same
      have found := settled.resolve_left (fun differs => differs rfl)
      unfold openStore
      unfold store? at found
      generalize world.context other = seen at found
      obtain ⟨config, _ | store⟩ := seen
      · cases found
      · rfl
  · rfl

theorem opened_of_isSome (found : (world.store? context).isSome = true) :
    world.opened context = world := by
  have size : (world.opened context).contexts.size = world.contexts.size :=
    size_closeStore world context _
  refine ext_context rfl size fun other => context_opened ?_
  by_cases same : other = context
  · exact Or.inr (same ▸ found)
  · exact Or.inl same

/-- Opening a store ahead of its use changes nothing that works on it. -/
theorem openStore_opened (world : World) (context other : ContextKey) :
    (world.opened context).openStore other = world.openStore other := by
  unfold opened openStore
  rw [context_closeStore]
  split
  · next inside =>
      rw [inside.1]
      rfl
  · rfl

/-! ### Missing stores and new contexts -/

/-- A removal that finds nothing leaves its context with a store. -/
theorem operate_remove_unbound {place : Place} (unbound : world.binding? place = none) :
    (world.operate place .remove).2 = world.opened place.context := by
  have nothing : (world.openStore place.context).remove place.definition =
      (false, world.openStore place.context) := by
    unfold OpenStore.remove
    rw [show (world.openStore place.context).store.binding? place.definition = none from unbound]
  exact congrArg (fun removed => world.closeStore place.context removed.2) nothing

theorem context_push (world : World) (fresh : Context) (other : ContextKey) :
    ({ world with contexts := world.contexts.push fresh } : World).context other =
      if other = world.contexts.size then fresh else world.context other := by
  unfold context
  rw [Array.getD_eq_getD_getElem?, Array.getD_eq_getD_getElem?, Array.getElem?_push]
  split <;> rfl

/-! ### Worlds beside each other -/

/-- All definitions but the place's own one, in the place's context. -/
def others (place : Place) (context : ContextKey) (key : DefinitionKey) : Bool :=
  decide ((⟨key, context⟩ : Place) ≠ place)

/-- Both worlds have gone through the same, except that `nested` has a read under way at the
place: its promise is bound there, and its events have been counted. -/
structure Beside (discount : Discount) (place : Place) (token : Token) (nested alone : World) :
    Prop where
  shared : alone.shared = nested.shared.discounted discount
  size : alone.contexts.size = nested.contexts.size
  listed : place.context < nested.contexts.size
  alive : nested.registry.isAlive place.definition = true
  elsewhere : ∀ context, context ≠ place.context → alone.context context = nested.context context
  config : (alone.context place.context).config = (nested.context place.context).config
  created : (nested.store? place.context).isSome = true
  store : (alone.openStore place.context).store =
    (nested.openStore place.context).store.unbind place.definition
  promised : nested.binding? place = some (.promise token)

/-- Both worlds have returned the same, and are beside each other. -/
structure Agree {α : Type} (discount : Discount) (place : Place) (token : Token)
    (nested alone : α × World) : Prop where
  returned : alone.1 = nested.1
  beside : Beside discount place token nested.2 alone.2

variable {discount : Discount} {place worked : Place} {token : Token} {nested alone : World}

/-- Whatever goes on from both worlds goes on with the same result. -/
@[elab_as_elim]
theorem Agree.elim {α : Type} {first second : α × World}
    {motive : α × World → α × World → Prop} (agree : Agree discount place token first second)
    (step : ∀ result nested alone, Beside discount place token nested alone →
      motive (result, nested) (result, alone)) : motive first second := by
  obtain ⟨result, nested⟩ := first
  obtain ⟨other, alone⟩ := second
  obtain ⟨rfl, beside⟩ := agree
  exact step other nested alone beside

theorem keeping_others_self (store : Store) (place : Place) :
    store.keeping (others place place.context) = store.unbind place.definition := by
  have same : (fun bound : DefinitionKey × Entry => others place place.context bound.1) =
      fun bound => bound.1 != place.definition := by
    funext bound
    obtain ⟨definition, context⟩ := place
    unfold others
    rw [Bool.eq_iff_iff]
    simp
  unfold Store.keeping Store.unbind
  rw [same]

theorem keeping_others_ne (store : Store) (differs : context ≠ place.context) :
    store.keeping (others place context) = store := by
  have all : ∀ bound ∈ store.bindings, others place context bound.1 = true := by
    intro bound _
    apply decide_eq_true
    rintro rfl
    exact differs rfl
  unfold Store.keeping
  rw [List.filter_eq_self.mpr all]

theorem others_of_ne (differs : worked ≠ place) :
    others place worked.context worked.definition = true :=
  decide_eq_true differs

namespace Beside

theorem registry (beside : Beside discount place token nested alone) :
    alone.registry = nested.registry := by
  unfold World.registry
  rw [beside.shared]
  rfl

/-- In every context the store that is worked on is the same but for the promise. -/
theorem openStore (beside : Beside discount place token nested alone) (context : ContextKey) :
    alone.openStore context =
      (nested.openStore context).bare discount (others place context) := by
  have split : alone.openStore context = ⟨alone.shared, (alone.openStore context).store⟩ := rfl
  rw [split, beside.shared]
  unfold OpenStore.bare
  by_cases same : context = place.context
  · rw [same, beside.store, keeping_others_self]
    rfl
  · rw [keeping_others_ne _ same]
    unfold World.openStore
    rw [beside.elsewhere context same]

theorem hides (beside : Beside discount place token nested alone) (context : ContextKey) :
    (nested.openStore context).Hides (others place context) := by
  intro key hidden
  have own : (⟨key, context⟩ : Place) = place := by
    simpa [others] using hidden
  subst own
  exact beside.alive

/-- Closing stores that are the same but for the promise. -/
theorem closeStore (beside : Beside discount place token nested alone) (context : ContextKey)
    {opened : OpenStore} (alive : opened.registry.isAlive place.definition = true)
    (promised : context = place.context →
      opened.store.binding? place.definition = some (.promise token)) :
    Beside discount place token (nested.closeStore context opened)
      (alone.closeStore context (opened.bare discount (others place context))) where
  shared := rfl
  size := by
    rw [size_closeStore, size_closeStore]
    exact beside.size
  listed := by
    rw [size_closeStore]
    exact beside.listed
  alive := alive
  elsewhere := by
    intro other differs
    rw [context_closeStore, context_closeStore, beside.elsewhere other differs, beside.size]
    split
    · next inside =>
        obtain ⟨same, -⟩ := inside
        subst same
        have same : (opened.bare discount (others place other)).store = opened.store :=
          keeping_others_ne opened.store differs
        rw [same]
    · rfl
  config := by
    rw [config_closeStore, config_closeStore]
    exact beside.config
  created := by
    unfold store?
    rw [context_closeStore]
    split
    · rfl
    · exact beside.created
  store := by
    by_cases same : place.context = context
    · subst same
      have listedAlone : place.context < alone.contexts.size := beside.size ▸ beside.listed
      rw [openStore_closeStore_self listedAlone, openStore_closeStore_self beside.listed]
      exact keeping_others_self opened.store place
    · rw [openStore_closeStore_ne same, openStore_closeStore_ne same]
      exact beside.store
  promised := by
    unfold binding?
    by_cases same : place.context = context
    · subst same
      rw [openStore_closeStore_self beside.listed]
      exact promised rfl
    · rw [openStore_closeStore_ne same]
      exact beside.promised

/-- Work at another place does the same in both worlds. -/
theorem withStore {α : Type} {work : OpenStore → α × OpenStore}
    (beside : Beside discount place token nested alone) (differs : worked ≠ place)
    (blind : OpenStore.Blind worked.definition work) :
    Agree discount place token (nested.withStore worked.context work)
      (alone.withStore worked.context work) := by
  have commutes := blind.commutes discount (others place worked.context)
    (nested.openStore worked.context) (others_of_ne differs) (beside.hides worked.context)
  have spares := blind.spares (nested.openStore worked.context)
  unfold World.withStore
  rw [beside.openStore, commutes]
  refine ⟨rfl, beside.closeStore worked.context ((spares.alive _).trans beside.alive) ?_⟩
  intro same
  have elsewhere : place.definition ≠ worked.definition := by
    intro sameDefinition
    apply differs
    cases worked
    cases place
    simp_all
  have kept := spares.binding place.definition elsewhere beside.alive
  rw [same] at kept ⊢
  exact kept.trans beside.promised

theorem count (beside : Beside discount place token nested alone) (counter : Counter) :
    Beside discount place token (nested.count counter) (alone.count counter) where
  shared := by
    unfold World.count
    rw [beside.shared]
    unfold Shared.count Shared.discounted
    dsimp only
    rw [discount.apply_add]
  size := beside.size
  listed := beside.listed
  alive := beside.alive
  elsewhere := beside.elsewhere
  config := beside.config
  created := beside.created
  store := beside.store
  promised := beside.promised

/-- A change of the registry does the same in both worlds. -/
theorem withRegistry {α : Type} (beside : Beside discount place token nested alone)
    (change : Registry → α × Registry)
    (alive : (change nested.registry).2.isAlive place.definition = true) :
    Agree discount place token (nested.withRegistry change) (alone.withRegistry change) := by
  rw [withRegistry_eq, withRegistry_eq, beside.registry, beside.shared]
  exact ⟨rfl, rfl, beside.size, beside.listed, alive, beside.elsewhere, beside.config,
    beside.created, beside.store, beside.promised⟩

/-- A new context does the same in both worlds. -/
theorem push (beside : Beside discount place token nested alone) (fresh : Context) :
    Beside discount place token { nested with contexts := nested.contexts.push fresh }
      { alone with contexts := alone.contexts.push fresh } := by
  have old : place.context ≠ nested.contexts.size := Nat.ne_of_lt beside.listed
  have kept := (context_push nested fresh place.context).trans (if_neg old)
  have keptAlone := (context_push alone fresh place.context).trans (if_neg (beside.size ▸ old))
  refine ⟨beside.shared, ?_, ?_, beside.alive, ?_, ?_, ?_, ?_, ?_⟩
  · rw [Array.size_push, Array.size_push, beside.size]
  · rw [Array.size_push]
    exact Nat.lt_succ_of_lt beside.listed
  · intro other differs
    rw [context_push, context_push, beside.size, beside.elsewhere other differs]
  · rw [kept, keptAlone]
    exact beside.config
  · exact (congrArg (fun seen => seen.store.isSome) kept).trans beside.created
  · have store := beside.store
    unfold World.openStore at store ⊢
    rwa [kept, keptAlone]
  · have promised := beside.promised
    unfold binding? World.openStore at promised ⊢
    rwa [kept]

/-! ### The pieces of a read -/

theorem lookup (beside : Beside discount place token nested alone) (differs : worked ≠ place) :
    Agree discount place token (nested.lookup worked) (alone.lookup worked) := by
  rw [lookup_eq, lookup_eq, beside.openStore]
  unfold lookupIn OpenStore.bare Store.keeping
  rw [beside.registry]
  dsimp only
  split
  · exact ⟨rfl, beside.count .homeHits⟩
  · split
    · exact ⟨rfl, beside⟩
    · have promoted := (beside.count .backupHits).withStore differs
        (OpenStore.blind_promote worked.definition
          (nested.openStore worked.context).store.table.capacity)
      refine promoted.elim fun moved nested alone beside => ?_
      cases moved with
      | true => exact ⟨rfl, beside.count .relocations⟩
      | false => exact ⟨rfl, beside⟩

theorem startEntry (beside : Beside discount place token nested alone)
    (differs : worked ≠ place) :
    Agree discount place token (nested.startEntry worked) (alone.startEntry worked) := by
  have started := beside.withStore differs (OpenStore.blind_start worked.definition)
  unfold World.startEntry
  refine started.elim fun entry nested alone beside => ?_
  dsimp only
  generalize entry.value? = answer
  cases answer with
  | some allocation => exact ⟨rfl, beside⟩
  | none => exact ⟨rfl, beside.count .computations⟩

theorem beginRead (beside : Beside discount place token nested alone)
    (differs : worked ≠ place) :
    Agree discount place token (nested.beginRead worked) (alone.beginRead worked) := by
  unfold World.beginRead
  refine (beside.lookup differs).elim fun answer nested alone beside => ?_
  cases answer with
  | some allocation => exact ⟨rfl, beside⟩
  | none => exact (beside.count .mapLookups).startEntry differs

theorem publish (beside : Beside discount place token nested alone) (differs : worked ≠ place)
    (promise : Entry) (allocation : Allocation) :
    Agree discount place token (nested.publish worked promise allocation)
      (alone.publish worked promise allocation) := by
  have finished := beside.withStore differs
    (OpenStore.blind_fulfil worked.definition promise allocation)
  unfold World.publish
  refine finished.elim fun committed nested alone beside => ?_
  cases committed with
  | some entry => exact ⟨rfl, beside⟩
  | none => exact (beside.count .publishRetries).startEntry differs

theorem retract (beside : Beside discount place token nested alone) (differs : worked ≠ place)
    (promise : Entry) :
    Beside discount place token (nested.retract worked promise) (alone.retract worked promise) :=
  ((beside.count .computeFailures).withStore differs
    (OpenStore.blind_finish worked.definition promise)).beside

/-! ### Removing and putting -/

theorem put (beside : Beside discount place token nested alone) (differs : worked ≠ place)
    (allocation : Allocation) :
    Beside discount place token (nested.put worked allocation) (alone.put worked allocation) :=
  (beside.withStore differs (OpenStore.blind_change worked.definition allocation)).beside

/-- Nothing but the promise is bound where the store is missing in the other world. -/
theorem unbound_of_no_store (beside : Beside discount place token nested alone)
    (absent : alone.store? worked.context = none) (differs : worked ≠ place) :
    nested.binding? worked = none := by
  have bare : (alone.openStore worked.context).store.binding? worked.definition =
      (nested.openStore worked.context).store.binding? worked.definition := by
    rw [beside.openStore]
    exact OpenStore.binding?_bare (others_of_ne differs)
  refine bare.symm.trans ?_
  unfold store? at absent
  unfold World.openStore
  dsimp only
  rw [absent]
  rfl

theorem remove (beside : Beside discount place token nested alone) (differs : worked ≠ place) :
    Beside discount place token (nested.remove worked) (alone.remove worked) := by
  cases found : nested.store? worked.context with
  | none =>
      have elsewhere : worked.context ≠ place.context := by
        intro same
        have created := beside.created
        rw [← same, found] at created
        cases created
      have absent : alone.store? worked.context = none :=
        (store?_of_context_eq (beside.elsewhere _ elsewhere)).trans found
      rw [remove_of_no_store found, remove_of_no_store absent]
      exact beside
  | some store =>
      have removed :=
        (beside.withStore differs (OpenStore.blind_remove worked.definition)).beside
      have operated : nested.remove worked = _ := remove_eq found
      cases foundAlone : alone.store? worked.context with
      | some store =>
          rw [operated, remove_eq foundAlone]
          exact removed
      | none =>
          -- The other world has created its store for the promise only, so there is nothing
          -- to remove in it.
          have unbound := beside.unbound_of_no_store foundAlone differs
          rw [remove_of_no_store foundAlone, operated, operate_remove_unbound unbound,
            opened_of_isSome (found ▸ rfl)]
          exact beside

end Beside

end World

end ContextCache
