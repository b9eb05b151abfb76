import ContextCache.Proofs.Store.Effects
import ContextCache.Proofs.Table.Load

/-!
Contract: the pieces that the steps of the protocol are made of.

A step on a definition changes its store by a few kinds of edits: it binds or unbinds that
definition, gives up bindings of dropped ones, and inserts into, sweeps, promotes in or
grows the table. What every edit keeps, every step keeps, and nobody needs to know which
edits a step consists of.

Owns:
- the edits, and that every step is a sequence of them;
- that edits bind nothing new but their own definition, and nothing twice;
- that edits keep the table's shape and its exact load, and never shorten it;
- which generations a step may end;
- that bindings have no part in what relief makes of a table.

Does not own: why a step makes the edits that it makes.
-/

set_option autoImplicit false

namespace ContextCache

/-- The steps that may end a generation. -/
def Operation.mayInvalidate : Operation → Bool
  | .remove => true
  | .change _ => true
  | _ => false

namespace Store

/-- The second store has come from the first one by edits on behalf of a definition. -/
inductive Edited (key : DefinitionKey) (store : Store) : Store → Prop where
  | untouched : Edited key store store
  | bound {edited : Store} (earlier : Edited key store edited) (entry : Entry) :
      Edited key store (edited.bind key entry)
  | unbound {edited : Store} (earlier : Edited key store edited) :
      Edited key store (edited.unbind key)
  | expunged {edited : Store} (earlier : Edited key store edited) (registry : Registry) :
      Edited key store
        { edited with bindings := edited.bindings.filter fun bound => registry.isAlive bound.1 }
  | inserted {edited : Store} (earlier : Edited key store edited) (registry : Registry)
      (entry : Entry) :
      Edited key store
        { edited with
          table := edited.table.add registry edited.config.probeLimit (registry.hash key) entry }
  | swept {edited : Store} (earlier : Edited key store edited) (registry : Registry)
      (start count : Nat) :
      Edited key store
        { edited with
          table := (edited.table.sweep registry edited.config.probeLimit start count).table }
  | promoted {edited : Store} (earlier : Edited key store edited) (registry : Registry) :
      Edited key store
        { edited with
          table := (edited.table.promote registry edited.config.probeLimit (registry.hash key)
            (registry.current key)).2 }
  | grown {edited : Store} (earlier : Edited key store edited) (registry : Registry)
      (fits : edited.table.capacity * 2 ≤ edited.config.maxEntries) :
      Edited key store
        { edited with
          table := OpenStore.regrown registry edited.config.probeLimit (edited.table.capacity * 2)
            edited.table
          loadLimit := edited.config.loadLimitFor (edited.table.capacity * 2) }

variable {key : DefinitionKey} {store edited : Store}

/-! ### Bindings -/

/-- Edits bind nothing but their own definition. Others may lose their binding. -/
theorem Edited.binding? (edits : Edited key store edited) {other : DefinitionKey}
    (differs : other ≠ key) {entry : Entry} (bound : edited.binding? other = some entry) :
    store.binding? other = some entry := by
  induction edits with
  | untouched => exact bound
  | bound earlier latest inductionHypothesis =>
      rw [Store.binding?_bind, if_neg differs] at bound
      exact inductionHypothesis bound
  | unbound earlier inductionHypothesis =>
      rw [Store.binding?_unbind, if_neg differs] at bound
      exact inductionHypothesis bound
  | expunged earlier registry inductionHypothesis =>
      have kept := (OpenStore.lookup_filter_keys registry.isAlive _ other).symm.trans bound
      split at kept
      · exact inductionHypothesis kept
      · cases kept
  | inserted earlier registry latest inductionHypothesis => exact inductionHypothesis bound
  | swept earlier registry start count inductionHypothesis => exact inductionHypothesis bound
  | promoted earlier registry inductionHypothesis => exact inductionHypothesis bound
  | grown earlier registry fits inductionHypothesis => exact inductionHypothesis bound

/-- No definition is bound twice. -/
def Keyed (store : Store) : Prop :=
  (store.bindings.map Prod.fst).Nodup

theorem keyed_create (config : Config) : (Store.create config).Keyed :=
  List.nodup_nil

theorem Keyed.filter (keyed : store.Keyed) (kept : DefinitionKey × Entry → Bool) :
    { store with bindings := store.bindings.filter kept }.Keyed :=
  (List.filter_sublist.map Prod.fst).nodup keyed

theorem Keyed.bind (keyed : store.Keyed) (key : DefinitionKey) (entry : Entry) :
    (store.bind key entry).Keyed := by
  refine List.nodup_cons.mpr ⟨?_, keyed.filter _⟩
  intro member
  obtain ⟨bound, inside, same⟩ := List.mem_map.mp member
  have differs : (bound.1 != key) = true := (List.mem_filter.mp inside).2
  exact (bne_iff_ne.mp differs) same

theorem Edited.keyed (edits : Edited key store edited) (keyed : store.Keyed) : edited.Keyed := by
  induction edits with
  | untouched => exact keyed
  | bound earlier entry still => exact still.bind key entry
  | unbound earlier still => exact still.filter _
  | expunged earlier registry still => exact still.filter _
  | inserted earlier registry entry still => exact still
  | swept earlier registry start count still => exact still
  | promoted earlier registry still => exact still
  | grown earlier registry fits still => exact still

theorem mem_bindings_iff {store : Store} {key : DefinitionKey} :
    key ∈ store.bindings.map Prod.fst ↔ (store.binding? key).isSome = true := by
  unfold Store.binding?
  rw [List.lookup_isSome_iff, List.mem_map]
  constructor
  · rintro ⟨bound, member, rfl⟩
    exact ⟨bound, member, beq_self_eq_true _⟩
  · rintro ⟨bound, member, same⟩
    exact ⟨bound, member, (beq_iff_eq.mp same).symm⟩

/-- Where only definitions of a pool are bound, their bindings can be counted in the pool. -/
theorem Keyed.size_eq_countP (keyed : store.Keyed) {pool : List DefinitionKey}
    (distinct : pool.Nodup)
    (owned : ∀ key entry, store.binding? key = some entry → key ∈ pool) :
    store.size = pool.countP fun key => (store.binding? key).isSome := by
  let bound := fun key => (store.binding? key).isSome
  have same : (store.bindings.map Prod.fst).Perm (pool.filter bound) := by
    rw [List.perm_ext_iff_of_nodup keyed (distinct.filter bound)]
    intro key
    rw [mem_bindings_iff, List.mem_filter]
    constructor
    · intro isBound
      obtain ⟨entry, found⟩ := Option.isSome_iff_exists.mp isBound
      exact ⟨owned key entry found, isBound⟩
    · exact fun inside => inside.2
  calc store.size = (store.bindings.map Prod.fst).length := (List.length_map _).symm
    _ = (pool.filter bound).length := same.length_eq
    _ = pool.countP bound := List.countP_eq_length_filter.symm

/-! ### Tables -/

/-- What the configuration says of the table, and that its load is exact. -/
structure Measured (store : Store) : Prop where
  valid : store.config.Valid
  doubled : ∃ doublings, store.table.capacity = store.config.initialEntries * 2 ^ doublings
  bounded : store.table.capacity ≤ store.config.maxEntries
  counted : store.table.Counted

theorem Measured.roomy (measured : store.Measured) :
    store.table.Roomy store.config.probeLimit :=
  OpenStore.roomy_of_doubled measured.valid rfl measured.doubled

theorem measured_create {config : Config} (valid : config.Valid) :
    (Store.create config).Measured where
  valid := valid
  doubled := ⟨0, by simp [Store.create, Table.capacity_empty]⟩
  bounded := by
    show (Table.empty config.initialEntries).capacity ≤ config.maxEntries
    rw [Table.capacity_empty]
    exact valid.ordered
  counted := Table.counted_empty _

/-- A table of the same length with an exact load may take the place of a measured one. -/
theorem Measured.withTable {table : Table} (measured : store.Measured)
    (capacity : table.capacity = store.table.capacity) (counted : table.Counted) :
    { store with table }.Measured where
  valid := measured.valid
  doubled := capacity ▸ measured.doubled
  bounded := capacity ▸ measured.bounded
  counted := counted

theorem Measured.grown (measured : store.Measured) (registry : Registry)
    (fits : store.table.capacity * 2 ≤ store.config.maxEntries) (loadLimit : Nat) :
    { store with
      table := OpenStore.regrown registry store.config.probeLimit (store.table.capacity * 2)
        store.table
      loadLimit }.Measured where
  valid := measured.valid
  doubled := by
    obtain ⟨doublings, exactly⟩ := measured.doubled
    refine ⟨doublings + 1, ?_⟩
    rw [OpenStore.capacity_regrown, exactly, Nat.pow_succ, Nat.mul_assoc]
  bounded := by
    show Table.capacity _ ≤ _
    rw [OpenStore.capacity_regrown]
    exact fits
  counted := Table.counted_regrown (by have := measured.roomy.nonempty; omega)

theorem Edited.measured (edits : Edited key store edited) (measured : store.Measured) :
    edited.Measured := by
  induction edits with
  | untouched => exact measured
  | bound earlier latest still => exact ⟨still.valid, still.doubled, still.bounded, still.counted⟩
  | unbound earlier still => exact ⟨still.valid, still.doubled, still.bounded, still.counted⟩
  | expunged earlier registry still =>
      exact ⟨still.valid, still.doubled, still.bounded, still.counted⟩
  | inserted earlier registry latest still =>
      exact still.withTable (Table.capacity_add _ _ _ _ _)
        (still.counted.add still.roomy.nonempty _)
  | swept earlier registry start count still =>
      exact still.withTable (Table.capacity_sweep _ _ _ _ _) (still.counted.sweep still.roomy)
  | promoted earlier registry still =>
      exact still.withTable (Table.capacity_promote _ _ _ _ _)
        (still.counted.promote still.roomy.nonempty _ _)
  | grown earlier registry fits still => exact still.grown registry fits _

/-- Edits leave the configuration alone and never shorten the table. -/
theorem Edited.lengthens (edits : Edited key store edited) :
    edited.config = store.config ∧ store.table.capacity ≤ edited.table.capacity := by
  induction edits with
  | untouched => exact ⟨rfl, Nat.le_refl _⟩
  | bound earlier latest inductionHypothesis => exact inductionHypothesis
  | unbound earlier inductionHypothesis => exact inductionHypothesis
  | expunged earlier registry inductionHypothesis => exact inductionHypothesis
  | inserted earlier registry latest inductionHypothesis =>
      refine ⟨inductionHypothesis.1, ?_⟩
      exact Nat.le_trans inductionHypothesis.2 (Nat.le_of_eq (Table.capacity_add _ _ _ _ _).symm)
  | swept earlier registry start count inductionHypothesis =>
      refine ⟨inductionHypothesis.1, ?_⟩
      exact Nat.le_trans inductionHypothesis.2
        (Nat.le_of_eq (Table.capacity_sweep _ _ _ _ _).symm)
  | promoted earlier registry inductionHypothesis =>
      refine ⟨inductionHypothesis.1, ?_⟩
      exact Nat.le_trans inductionHypothesis.2
        (Nat.le_of_eq (Table.capacity_promote _ _ _ _ _).symm)
  | @grown latest earlier registry fits inductionHypothesis =>
      refine ⟨inductionHypothesis.1, Nat.le_trans inductionHypothesis.2 ?_⟩
      show _ ≤ Table.capacity _
      rw [OpenStore.capacity_regrown]
      omega

end Store

/-! ### Steps are edits -/

namespace OpenStore

open Store (Edited)

variable {opened : OpenStore} {key : DefinitionKey} {store : Store}

theorem edited_sweepAround (earlier : Edited key store opened.store) :
    Edited key store (opened.sweepAround key).store :=
  earlier.swept opened.registry _ _

theorem edited_relieve (earlier : Edited key store opened.store) :
    Edited key store opened.relieve.store := by
  have swept : Edited key store opened.expunge.sweepAll.store :=
    (earlier.expunged opened.registry).swept opened.registry _ _
  unfold relieve reduceLoad
  dsimp only
  split
  · split
    · exact swept
    · unfold grow
      dsimp only
      split
      · exact swept
      · next fits => exact swept.grown _ (Nat.le_of_not_lt fits)
  · exact earlier

theorem edited_publish (earlier : Edited key store opened.store) (entry : Entry) :
    Edited key store (opened.publish key entry).store :=
  (edited_relieve earlier).inserted _ entry

theorem store_upToDate (opened : OpenStore) (key : DefinitionKey) (entry : Entry) :
    (opened.upToDate key entry).2.store = opened.store := by
  unfold upToDate
  dsimp only
  split <;> rfl

/-- Bringing up to date never makes a promise of something else. -/
theorem isPromise_upToDate (opened : OpenStore) (key : DefinitionKey)
    {entry : Entry} (minted : entry.isPromise = false) : (opened.upToDate key entry).1.isPromise = false := by
  unfold upToDate
  dsimp only
  split
  · exact minted
  · rfl

theorem edited_start (opened : OpenStore) (key : DefinitionKey) :
    Edited key opened.store (opened.start key).2.store := by
  unfold start
  dsimp only
  split
  · exact Edited.untouched.bound _
  · next existing found =>
      split
      · dsimp only
        split
        · exact .untouched
        · exact Edited.untouched.bound _
      · apply edited_publish
        have updated := store_upToDate opened key existing
        split
        · rw [updated]
          exact .untouched
        · have same : Edited key opened.store (opened.upToDate key existing).2.store := by
            rw [updated]
            exact .untouched
          exact same.bound _

theorem edited_finish (opened : OpenStore) (key : DefinitionKey) (candidate : Entry) :
    Edited key opened.store (opened.finish key candidate).2.store := by
  unfold finish
  split
  · exact .untouched
  · split
    · exact Edited.untouched.unbound
    · split
      · have same : Edited key opened.store (opened.upToDate key candidate).2.store := by
          rw [store_upToDate]
          exact .untouched
        exact edited_publish (same.bound _) _
      · exact .untouched

theorem edited_remove (opened : OpenStore) (key : DefinitionKey) :
    Edited key opened.store (opened.remove key).2.store := by
  unfold remove
  split
  · exact .untouched
  · split
    · exact .untouched
    · exact edited_sweepAround Edited.untouched.unbound

theorem edited_supersede (opened : OpenStore) (key : DefinitionKey) :
    Edited key opened.store (opened.supersede key).store := by
  unfold supersede
  split
  · have bumped : Edited key opened.store (opened.bump key).store := .untouched
    exact edited_sweepAround bumped
  · exact .untouched

theorem edited_change (opened : OpenStore) (key : DefinitionKey) (allocation : Allocation) :
    Edited key opened.store (opened.change key allocation).2.store := by
  unfold change
  split
  · exact .untouched
  · exact edited_publish ((edited_supersede opened key).bound _) _

theorem edited_promote (opened : OpenStore) (key : DefinitionKey) (searched : Nat) :
    Edited key opened.store (opened.promote key searched).2.store := by
  unfold promote
  split
  · exact Edited.untouched.promoted opened.registry
  · exact .untouched

/-- Every step is made of edits on behalf of its definition. -/
theorem edited_operate (opened : OpenStore) (key : DefinitionKey) (operation : Operation) :
    Edited key opened.store (opened.operate key operation).2.store := by
  cases operation with
  | probe => exact .untouched
  | promote searched => exact edited_promote opened key searched
  | start => exact edited_start opened key
  | commit token allocation =>
      exact edited_finish
        (opened.mint fun serial => (Entry.promise token).fulfil serial allocation).2 key _
  | retract token => exact edited_finish opened key _
  | remove => exact edited_remove opened key
  | change allocation => exact edited_change opened key allocation

/-! ### Generations -/

theorem registry_upToDate (opened : OpenStore) (key : DefinitionKey) (entry : Entry) :
    (opened.upToDate key entry).2.registry = opened.registry := by
  unfold upToDate
  dsimp only
  split <;> rfl

theorem registry_publish (opened : OpenStore) (key : DefinitionKey) (entry : Entry) :
    (opened.publish key entry).registry = opened.registry :=
  (keeps_publish opened key entry).registry

theorem registry_start (opened : OpenStore) (key : DefinitionKey) :
    (opened.start key).2.registry = opened.registry := by
  unfold start
  dsimp only
  split
  · rfl
  · split
    · dsimp only
      split <;> rfl
    · dsimp only
      rw [registry_publish]
      split <;> exact registry_upToDate opened key _

theorem registry_finish (opened : OpenStore) (key : DefinitionKey) (candidate : Entry) :
    (opened.finish key candidate).2.registry = opened.registry := by
  unfold finish
  split
  · rfl
  · split
    · rfl
    · split
      · dsimp only
        rw [registry_publish]
        exact registry_upToDate opened key candidate
      · rfl

/-- Only removing and putting end a generation, which is their own definition's. -/
theorem registry_operate (opened : OpenStore) (key : DefinitionKey) (operation : Operation) :
    (opened.operate key operation).2.registry = opened.registry ∨
      operation.mayInvalidate = true ∧
        (opened.operate key operation).2.registry = opened.registry.bump key := by
  cases operation with
  | probe => exact Or.inl rfl
  | promote searched => exact Or.inl (keeps_promote opened key searched).registry
  | start => exact Or.inl (registry_start opened key)
  | commit token allocation =>
      exact Or.inl (registry_finish
        (opened.mint fun serial => (Entry.promise token).fulfil serial allocation).2 key _)
  | retract token => exact Or.inl (registry_finish opened key _)
  | remove =>
      show (opened.remove key).2.registry = _ ∨ _ ∧ (opened.remove key).2.registry = _
      unfold remove
      split
      · exact Or.inl rfl
      · split
        · exact Or.inl rfl
        · exact Or.inr ⟨rfl, (keeps_sweepAround _ key).registry⟩
  | change allocation =>
      show (opened.change key allocation).2.registry = _ ∨
        _ ∧ (opened.change key allocation).2.registry = _
      unfold change
      split
      · exact Or.inl rfl
      · dsimp only
        rw [registry_publish]
        show (opened.supersede key).registry = _ ∨ _ ∧ (opened.supersede key).registry = _
        unfold supersede
        split
        · exact Or.inr ⟨rfl, (keeps_sweepAround _ key).registry⟩
        · exact Or.inl rfl

/-! ### What relief goes by -/

variable {before after : OpenStore}

/-- The two differ in their bindings at most, in counters and in the numbering of entries. -/
structure Alike (before after : OpenStore) : Prop where
  registry : after.registry = before.registry
  config : after.store.config = before.store.config
  table : after.store.table = before.store.table
  loadLimit : after.store.loadLimit = before.store.loadLimit

theorem Alike.of_eq (registry : after.registry = before.registry)
    (store : after.store = before.store) : Alike before after :=
  ⟨registry, by rw [store], by rw [store], by rw [store]⟩

theorem Alike.bind (alike : Alike before after) (key : DefinitionKey) (entry : Entry) :
    Alike before (after.bind key entry) :=
  ⟨alike.registry, alike.config, alike.table, alike.loadLimit⟩

theorem alike_upToDate (opened : OpenStore) (key : DefinitionKey) (entry : Entry) :
    Alike opened (opened.upToDate key entry).2 :=
  .of_eq (registry_upToDate opened key entry) (store_upToDate opened key entry)

theorem Alike.expunge_sweepAll (alike : Alike before after) :
    Alike before.expunge.sweepAll after.expunge.sweepAll where
  registry := alike.registry
  config := alike.config
  table := by
    show (after.store.table.sweepAll after.registry after.store.config.probeLimit).table =
      (before.store.table.sweepAll before.registry before.store.config.probeLimit).table
    rw [alike.registry, alike.config, alike.table]
  loadLimit := alike.loadLimit

theorem Alike.table_grow (alike : Alike before after) :
    after.grow.store.table = before.grow.store.table := by
  unfold grow
  dsimp only
  rw [alike.registry, alike.config, alike.table]
  split
  · exact alike.table
  · rfl

/-- Relief makes of the table what it would make of it with other bindings. -/
theorem Alike.table_relieve (alike : Alike before after) :
    after.relieve.store.table = before.relieve.store.table := by
  have swept := alike.expunge_sweepAll
  unfold relieve reduceLoad
  dsimp only
  rw [alike.loadLimit, alike.table, swept.table, swept.loadLimit]
  split
  · split
    · exact swept.table
    · exact swept.table_grow
  · exact alike.table

end OpenStore

end ContextCache
