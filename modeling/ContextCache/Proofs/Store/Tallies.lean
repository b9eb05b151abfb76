import ContextCache.Proofs.Store.Limits
import ContextCache.Proofs.Store.Steps

/-!
Contract: what keeps bindings from piling up between two load reductions.

Only a load reduction gives up the bindings of definitions that are gone, and it waits until
the load has reached its limit. A tally says what the load does not show: which bindings the
last reduction kept, which definitions have since been put into slots that were in use, and how
many slots sweeps have freed. Every other definition with a value has taken an empty slot of
its own since, so the load counts it.

Owns:
- tallies, and how each step changes them;
- that a step keeps the tally covering its store.

Does not own: who drops definitions.
-/

set_option autoImplicit false

namespace ContextCache

/-- What has happened in a store since its last load reduction. -/
structure Tally where
  /-- the definitions whose bindings the reduction kept, but for the one it made room for -/
  kept : List DefinitionKey
  /-- the definitions that have been put into an empty slot, and not been swept around since -/
  seated : List DefinitionKey
  /-- the definitions that have been put into a slot in use -/
  reused : List DefinitionKey
  /-- the slots that have been freed around a definition, not counting its own seat -/
  freed : Nat
deriving DecidableEq, Repr

namespace Tally

def fresh : Tally :=
  { kept := [], seated := [], reused := [], freed := 0 }

/-- The window of the definition has been swept, which has freed so many slots. -/
def sweep (tally : Tally) (key : DefinitionKey) (slots : Nat) : Tally :=
  { tally with
    seated := tally.seated.erase key
    freed := tally.freed + (slots - if key ∈ tally.seated then 1 else 0) }

/-- The load has been reduced to make room for the definition. -/
def reduced (key : DefinitionKey) (after : Store) : Tally :=
  { fresh with kept := (after.bindings.map Prod.fst).filter fun other => other != key }

/-- A value of the definition has been put into the table. Where that has raised the load, the
value has taken an empty slot, and otherwise one in use. -/
def insert (tally : Tally) (key : DefinitionKey) (load later : Nat) : Tally :=
  if load < later then
    { tally with seated := key :: tally.seated.erase key }
  else
    { tally with reused := key :: tally.reused }

/-- A value has been put into the table, for which the load was reduced before if it was at its
limit. The slot that the value takes is taken after the reduction. -/
def publish (tally : Tally) (key : DefinitionKey) (ready : OpenStore) (after : Store) : Tally :=
  let relieved :=
    if ready.store.loadLimit ≤ ready.store.table.load then reduced key after else tally
  relieved.insert key ready.relieve.store.table.load after.table.load

end Tally

/-- The tally after a step with the given result. A put sweeps before it puts anything in. -/
def OpenStore.tally (opened : OpenStore) (key : DefinitionKey) (result : Outcome × OpenStore)
    (tally : Tally) : Tally :=
  let load := opened.store.table.load
  let after := result.2.store
  if result.1 = .removed true then
    tally.sweep key (load - after.table.load)
  else if result.1 = .changed true then
    let superseded := opened.supersede key
    (tally.sweep key (load - superseded.store.table.load)).publish key superseded after
  else if result.1.publishes then
    tally.publish key opened after
  else
    tally

namespace Tally

variable {tally : Tally} {key other : DefinitionKey} {ready : OpenStore} {after store : Store}
  {load later : Nat}

/-! ### Seats -/

/-- The definitions that sit in slots of their own are covered by the load and by the slots that
have been freed. -/
structure Seats (tally : Tally) (load : Nat) : Prop where
  distinct : tally.seated.Nodup
  covered : tally.seated.length ≤ load + tally.freed

theorem seats_fresh (load : Nat) : fresh.Seats load :=
  ⟨List.nodup_nil, Nat.zero_le _⟩

theorem seats_reduced (key : DefinitionKey) (after : Store) (load : Nat) :
    (reduced key after).Seats load :=
  ⟨List.nodup_nil, Nat.zero_le _⟩

theorem Seats.sweep (seats : tally.Seats load) (falls : later ≤ load) (key : DefinitionKey) :
    (tally.sweep key (load - later)).Seats later := by
  refine ⟨seats.distinct.erase key, ?_⟩
  have covered := seats.covered
  show (tally.seated.erase key).length ≤
    later + (tally.freed + (load - later - if key ∈ tally.seated then 1 else 0))
  rw [List.length_erase]
  split <;> omega

theorem Seats.insert (seats : tally.Seats load) (rises : load ≤ later) (key : DefinitionKey) :
    (tally.insert key load later).Seats later := by
  have covered := seats.covered
  unfold Tally.insert
  split
  · next raised =>
      refine ⟨List.nodup_cons.mpr ⟨seats.distinct.not_mem_erase, seats.distinct.erase key⟩, ?_⟩
      show (key :: tally.seated.erase key).length ≤ later + tally.freed
      have shorter := List.length_erase_le (a := key) (l := tally.seated)
      rw [List.length_cons]
      omega
  · exact ⟨seats.distinct, Nat.le_trans covered (Nat.add_le_add_right rises _)⟩

/-! ### Who is accounted for -/

/-- The definition has been kept, or it has been put into the table since. -/
def Knows (tally : Tally) (key : DefinitionKey) : Prop :=
  key ∈ tally.kept ∨ key ∈ tally.seated ∨ key ∈ tally.reused

/-- Whatever is bound to a value is known. -/
def Accounts (tally : Tally) (store : Store) : Prop :=
  ∀ key entry, store.binding? key = some entry → entry.isPromise = false → tally.Knows key

theorem Knows.sweep (knows : tally.Knows other) (differs : other ≠ key) (slots : Nat) :
    (tally.sweep key slots).Knows other :=
  knows.imp_right (Or.imp_left (List.mem_erase_of_ne differs).mpr)

theorem Knows.insert (knows : tally.Knows other) (key : DefinitionKey) (load later : Nat) :
    (tally.insert key load later).Knows other := by
  unfold Tally.insert
  split
  · refine knows.imp_right (Or.imp_left fun seated => ?_)
    by_cases same : other = key
    · rw [same]
      exact List.mem_cons_self ..
    · exact List.mem_cons_of_mem _ ((List.mem_erase_of_ne same).mpr seated)
  · exact knows.imp_right (Or.imp_right (List.mem_cons_of_mem _))

theorem knows_insert_self (tally : Tally) (key : DefinitionKey) (load later : Nat) :
    (tally.insert key load later).Knows key := by
  unfold Tally.insert
  split
  · exact Or.inr (Or.inl (List.mem_cons_self ..))
  · exact Or.inr (Or.inr (List.mem_cons_self ..))

theorem knows_reduced (differs : other ≠ key) (bound : (after.binding? other).isSome = true) :
    (reduced key after).Knows other :=
  Or.inl (List.mem_filter.mpr ⟨Store.mem_bindings_iff.mpr bound, bne_iff_ne.mpr differs⟩)

theorem Knows.publish (knows : tally.Knows other) (differs : other ≠ key)
    (bound : (after.binding? other).isSome = true) : (tally.publish key ready after).Knows other := by
  refine Knows.insert ?_ key _ _
  split
  · exact knows_reduced differs bound
  · exact knows

theorem knows_publish_self (tally : Tally) (key : DefinitionKey) (ready : OpenStore)
    (after : Store) : (tally.publish key ready after).Knows key :=
  knows_insert_self _ key _ _

/-- The tally accounts for the store, and its seats are covered by the load. -/
structure Covers (tally : Tally) (store : Store) : Prop where
  accounts : tally.Accounts store
  seats : tally.Seats store.table.load

theorem covers_create (config : Config) : fresh.Covers (Store.create config) where
  accounts := by
    intro key entry bound
    cases bound
  seats := seats_fresh _

end Tally

namespace OpenStore

open Tally

variable {opened ready after : OpenStore} {key other : DefinitionKey} {operation : Operation}
  {outcome : Outcome} {tally : Tally} {entry : Entry}

/-! ### Loads -/

/-- What is inserted after relief does not lower the load. -/
theorem load_relieve_le_publish (measured : ready.store.Measured) (key : DefinitionKey)
    (entry : Entry) :
    ready.relieve.store.table.load ≤ (ready.publish key entry).store.table.load := by
  have edits : Store.Edited key ready.store ready.relieve.store := edited_relieve .untouched
  have nonempty := (edits.measured measured).roomy.nonempty
  show _ ≤ (ready.relieve.store.table.add _ _ _ entry).load
  rcases Table.load_add nonempty ready.relieve.registry ready.relieve.store.config.probeLimit
    (ready.relieve.registry.hash key) entry with ⟨grown, -⟩ | ⟨same, -⟩ <;> omega

/-- A value is put into the table of a store that has other bindings than the one of which its
seats are known. -/
theorem seats_published (seats : tally.Seats opened.store.table.load)
    (measured : opened.store.Measured) (alike : Alike opened ready) (key : DefinitionKey)
    (entry : Entry) :
    (tally.publish key opened (ready.publish key entry).store).Seats
      (ready.publish key entry).store.table.load := by
  have rises := load_relieve_le_publish (alike.eased.measured measured) key entry
  rw [alike.table_relieve] at rises
  refine Seats.insert ?_ rises key
  split
  · exact seats_reduced key _ _
  · next within =>
      rw [show opened.relieve = opened from if_neg within]
      exact seats

theorem ne_of_publishes {other : Outcome} {publishes : Bool} (first : outcome.publishes = publishes)
    (second : other.publishes = !publishes) : outcome ≠ other := by
  rintro rfl
  cases publishes <;> cases first.symm.trans second

/-- A step keeps the seats covered. -/
theorem seats_operate (seats : tally.Seats opened.store.table.load)
    (measured : opened.store.Measured) (key : DefinitionKey) (operation : Operation) :
    (opened.tally key (opened.operate key operation) tally).Seats
      (opened.operate key operation).2.store.table.load := by
  have loading := loading_operate measured key operation
  generalize opened.operate key operation = result at loading
  unfold OpenStore.tally
  dsimp only
  cases loading with
  | still quiet unswept eased load =>
      have unchanged : result.1 ≠ .changed true := ne_of_publishes quiet rfl
      rw [if_neg unswept, if_neg unchanged, if_neg (Bool.eq_false_iff.mp quiet), load]
      exact seats
  | swept removed eased =>
      rw [if_pos removed]
      exact seats.sweep eased.load key
  | published answers unchanged ready entry alike publishes =>
      have unswept : result.1 ≠ .removed true := ne_of_publishes answers rfl
      rw [if_neg unswept, if_neg unchanged, if_pos answers, publishes]
      exact seats_published seats measured alike key entry
  | changed changed ready entry alike publishes =>
      have superseded := eased_supersede measured key
      have unswept : result.1 ≠ .removed true := by rw [changed]; nofun
      rw [if_neg unswept, if_pos changed, publishes]
      exact seats_published (seats.sweep superseded.load key) (superseded.measured measured) alike
        key entry

/-! ### Values -/

/-- What is known stays known through a step on another definition, as long as it is bound. -/
theorem knows_operate (knows : tally.Knows other) (differs : other ≠ key)
    {result : Outcome × OpenStore} (bound : (result.2.store.binding? other).isSome = true) :
    (opened.tally key result tally).Knows other := by
  unfold OpenStore.tally
  dsimp only
  split
  · exact knows.sweep differs _
  · split
    · exact (knows.sweep differs _).publish differs bound
    · split
      · exact knows.publish differs bound
      · exact knows

/-- A definition that is bound to a value after a step on it has been put into the table by the
step, or was bound to that value before. -/
theorem Effect.knows (effect : Effect opened after key operation outcome)
    (alive : opened.registry.isAlive key = true) (accounts : tally.Accounts opened.store)
    (bound : after.store.binding? key = some entry) (value : entry.isPromise = false) :
    (opened.tally key (outcome, after) tally).Knows key := by
  cases effect with
  | probed same => exact accounts key entry (same ▸ bound) value
  | promoted kept => exact accounts key entry ((kept.binding key alive).symm.trans bound) value
  | promised vacant registry promised =>
      rw [promised] at bound
      cases bound
      cases value
  | answered => exact knows_publish_self tally key opened after.store
  | committed => exact knows_publish_self tally key opened after.store
  | discarded superseded registry same => exact accounts key entry (same ▸ bound) value
  | retracted promised registry unbound => cases unbound.symm.trans bound
  | ignored superseded same => exact accounts key entry (same ▸ bound) value
  | removed held unbound => cases unbound.symm.trans bound
  | absent vacant same => exact accounts key entry (same ▸ bound) value
  | changed => exact knows_publish_self _ key (opened.supersede key) after.store
  | unchanged backs same => exact accounts key entry (same ▸ bound) value

/-- A step on an existing definition keeps the tally covering its store. -/
theorem covers_operate (covers : tally.Covers opened.store) (sound : opened.Sound)
    (measured : opened.store.Measured) (alive : opened.registry.isAlive key = true)
    (operation : Operation) :
    (opened.tally key (opened.operate key operation) tally).Covers
      (opened.operate key operation).2.store where
  accounts := by
    intro other entry bound value
    by_cases same : other = key
    · subst same
      exact (sound.operate alive operation).effect.knows alive covers.accounts bound value
    · have before := (edited_operate opened key operation).binding? same bound
      refine knows_operate (covers.accounts other entry before value) same ?_
      rw [bound]
      rfl
  seats := seats_operate covers.seats measured key operation

end OpenStore

end ContextCache
