import ContextCache.Proofs.Store.Tables
import ContextCache.Proofs.Table.Insertion

/-!
Contract: how far relief keeps the load of a store's table down.

A step inserts once at most, and asks for relief right before. If the load stayed at the limit
after the sweep, the table is doubled, once. That is enough: the limit of the doubled table is
at least twice the old one, so it exceeds the old limit as soon as that is not zero, and the
doubled table takes over no more entries than there were. Only a table of the configured
greatest length fills up further.

Owns:
- how load limits grow with the length of a table;
- what relief achieves, and that an insertion after it stays within the limit;
- that every step eases the table or is one insertion after relief.

Does not own: which stores a program can come to have.
-/

set_option autoImplicit false

namespace ContextCache

namespace Config

variable {config : Config} {length shorter longer : Nat}

/-- Among the lengths that a table can have, nothing is cut off at the greatest size. -/
theorem Valid.loadLimitFor_eq (valid : config.Valid) (bounded : length ≤ config.maxEntries) :
    config.loadLimitFor length = length * config.loadPercent / 100 := by
  have small : length * config.loadPercent ≤ maxSize :=
    calc length * config.loadPercent
      _ ≤ longestTable * 100 := Nat.mul_le_mul (Nat.le_trans bounded valid.bounded) valid.loadFits
      _ ≤ maxSize := by decide
  unfold loadLimitFor
  rw [Nat.min_eq_left small]

theorem Valid.loadLimitFor_mono (valid : config.Valid) (ordered : shorter ≤ longer)
    (bounded : longer ≤ config.maxEntries) :
    config.loadLimitFor shorter ≤ config.loadLimitFor longer := by
  rw [valid.loadLimitFor_eq bounded, valid.loadLimitFor_eq (Nat.le_trans ordered bounded)]
  exact Nat.div_le_div_right (Nat.mul_le_mul_right _ ordered)

/-- The limit of a table of twice the length is at least twice as high. -/
theorem Valid.loadLimitFor_double (valid : config.Valid)
    (fits : length * 2 ≤ config.maxEntries) :
    2 * config.loadLimitFor length ≤ config.loadLimitFor (length * 2) := by
  rw [valid.loadLimitFor_eq fits, valid.loadLimitFor_eq (by omega)]
  have twice : length * 2 * config.loadPercent = 2 * (length * config.loadPercent) := by
    rw [Nat.mul_right_comm, Nat.mul_comm]
  rw [twice]
  omega

end Config

namespace Table

variable {registry : Registry} {probeLimit : Nat} {table : Table}

theorem load_add_le (nonempty : 0 < table.capacity) (hash : UInt32) (entry : Entry) :
    (table.add registry probeLimit hash entry).load ≤ table.load + 1 := by
  rcases load_add nonempty registry probeLimit hash entry with ⟨grown, -⟩ | ⟨kept, -⟩ <;> omega

theorem occupied_eq_countP_entries (table : Table) :
    table.occupied = table.entries.countP fun _ => true := by
  rw [countP_entries]
  unfold occupied
  apply List.countP_congr
  intro occupant _
  cases occupant <;> simp

/-- A table that is filled anew has no greater load. -/
theorem load_regrown_le {length : Nat} (counted : table.Counted) (nonempty : 0 < length) :
    (OpenStore.regrown registry probeLimit length table).load ≤ table.load := by
  have regrown : (OpenStore.regrown registry probeLimit length table).Counted :=
    counted_regrown nonempty
  rw [regrown, counted, occupied_eq_countP_entries, occupied_eq_countP_entries]
  exact countP_regrown_le nonempty _

end Table

namespace Store

/-- The limit is that of the table's length, and the load is within it unless the table has
the greatest length. -/
structure Limited (store : Store) : Prop where
  limit : store.loadLimit = store.config.loadLimitFor store.table.capacity
  honoured : 1 ≤ store.config.loadLimitFor store.config.initialEntries →
    store.table.load ≤ store.loadLimit ∨ store.table.capacity = store.config.maxEntries

/-- One more entry can be inserted and the load stays within the limit, unless the table has
the greatest length. -/
def Admits (store : Store) : Prop :=
  store.table.load < store.loadLimit ∨ store.table.capacity = store.config.maxEntries

/-- The length of the table and its limit are the same, and the load is no greater and as
exact as it was. -/
structure Eased (before after : Store) : Prop where
  config : after.config = before.config
  capacity : after.table.capacity = before.table.capacity
  loadLimit : after.loadLimit = before.loadLimit
  load : after.table.load ≤ before.table.load
  counted : before.table.Counted → after.table.Counted

/-- The table has twice the length, the limit is that of its length, and the load is no
greater. -/
structure Doubled (before after : Store) : Prop where
  config : after.config = before.config
  fits : before.table.capacity * 2 ≤ before.config.maxEntries
  capacity : after.table.capacity = before.table.capacity * 2
  loadLimit : after.loadLimit = before.config.loadLimitFor (before.table.capacity * 2)
  load : after.table.load ≤ before.table.load

variable {store before middle after : Store}

theorem Eased.refl (store : Store) : Eased store store :=
  ⟨rfl, rfl, rfl, Nat.le_refl _, id⟩

/-- Bindings have no part in this. -/
theorem Eased.of_eq (config : after.config = before.config) (table : after.table = before.table)
    (loadLimit : after.loadLimit = before.loadLimit) : Eased before after where
  config := config
  capacity := by rw [table]
  loadLimit := loadLimit
  load := by rw [table]
  counted := by
    rw [table]
    exact id

theorem Eased.trans (earlier : Eased before middle) (later : Eased middle after) :
    Eased before after where
  config := later.config.trans earlier.config
  capacity := later.capacity.trans earlier.capacity
  loadLimit := later.loadLimit.trans earlier.loadLimit
  load := Nat.le_trans later.load earlier.load
  counted := later.counted ∘ earlier.counted

theorem Eased.doubled (earlier : Eased before middle) (later : Doubled middle after) :
    Doubled before after where
  config := later.config.trans earlier.config
  fits := by
    have fits := later.fits
    rwa [earlier.capacity, earlier.config] at fits
  capacity := by rw [later.capacity, earlier.capacity]
  loadLimit := by rw [later.loadLimit, earlier.config, earlier.capacity]
  load := Nat.le_trans later.load earlier.load

theorem Eased.limited (eased : Eased before after) (limited : before.Limited) : after.Limited := by
  constructor
  · rw [eased.loadLimit, eased.config, eased.capacity]
    exact limited.limit
  · rw [eased.loadLimit, eased.config, eased.capacity]
    intro positive
    exact (limited.honoured positive).imp_left (Nat.le_trans eased.load)

theorem Eased.measured (eased : Eased before after) (measured : before.Measured) :
    after.Measured where
  valid := eased.config ▸ measured.valid
  doubled := by
    rw [eased.capacity, eased.config]
    exact measured.doubled
  bounded := by
    rw [eased.capacity, eased.config]
    exact measured.bounded
  counted := eased.counted measured.counted

/-- A table that cannot be doubled has the greatest length. -/
theorem Measured.capacity_eq_of_lt (measured : store.Measured)
    (full : store.config.maxEntries < store.table.capacity * 2) :
    store.table.capacity = store.config.maxEntries := by
  obtain ⟨doublings, exactly⟩ := measured.doubled
  obtain ⟨initial, initialPower⟩ := measured.valid.initialPower
  obtain ⟨greatest, maxPower⟩ := measured.valid.maxPower
  have bounded := measured.bounded
  rw [initialPower, ← Nat.pow_add] at exactly
  rw [exactly, maxPower] at bounded full ⊢
  rw [← Nat.pow_succ] at full
  have below := (Nat.pow_le_pow_iff_right (by decide)).mp bounded
  have above := (Nat.pow_lt_pow_iff_right (by decide)).mp full
  rw [show initial + doublings = greatest by omega]

theorem limited_create (config : Config) : (Store.create config).Limited where
  limit := by
    show config.loadLimitFor config.initialEntries = config.loadLimitFor (Table.capacity _)
    rw [show (Store.create config).table = Table.empty config.initialEntries from rfl,
      Table.capacity_empty]
  honoured := fun _ => Or.inl (Nat.zero_le _)

theorem Measured.eased_sweep (measured : store.Measured) (registry : Registry)
    (start count : Nat) :
    Eased store
      { store with
        table := (store.table.sweep registry store.config.probeLimit start count).table } where
  config := rfl
  capacity := Table.capacity_sweep _ _ _ _ _
  loadLimit := rfl
  load := by
    have tidied : Table.Tidied registry store.table
        (store.table.sweep registry store.config.probeLimit start count).table :=
      Table.tidied_sweep measured.roomy
    have falls := tidied.load measured.counted (measured.counted.sweep measured.roomy)
    exact Nat.le.intro falls
  counted := fun counted => counted.sweep measured.roomy

/-! ### Relief -/

/-- A doubled table has room, if the old load was within a limit that is not zero. -/
theorem Doubled.admits (doubled : Doubled before after) (measured : before.Measured)
    (limited : before.Limited)
    (positive : 1 ≤ before.config.loadLimitFor before.config.initialEntries) :
    after.Admits := by
  have nonempty := measured.roomy.nonempty
  have longer : before.config.initialEntries ≤ before.table.capacity := by
    obtain ⟨doublings, exactly⟩ := measured.doubled
    rw [exactly]
    exact Nat.le_mul_of_pos_right _ (Nat.two_pow_pos doublings)
  have higher := measured.valid.loadLimitFor_mono longer measured.bounded
  have twice := measured.valid.loadLimitFor_double doubled.fits
  have fits := doubled.fits
  have fewer := doubled.load
  left
  rw [doubled.loadLimit]
  rcases limited.honoured positive with within | greatest
  · rw [limited.limit] at within
    omega
  · omega

theorem Doubled.limited (doubled : Doubled before after) (measured : before.Measured)
    (limited : before.Limited) : after.Limited := by
  constructor
  · rw [doubled.loadLimit, doubled.config, doubled.capacity]
  · intro positive
    rw [doubled.config] at positive
    exact (doubled.admits measured limited positive).imp_left Nat.le_of_lt

end Store

/-- Whether the step has put a value into the table. -/
def Outcome.publishes : Outcome → Bool
  | .started entry => !entry.isPromise
  | .finished entry => entry.isSome
  | .changed effective => effective
  | _ => false

namespace OpenStore

open Store (Eased Doubled)

variable {opened : OpenStore} {key : DefinitionKey}

theorem eased_sweepAround (measured : opened.store.Measured) (key : DefinitionKey) :
    Eased opened.store (opened.sweepAround key).store :=
  measured.eased_sweep opened.registry _ _

theorem eased_expunge_sweepAll (measured : opened.store.Measured) :
    Eased opened.store opened.expunge.sweepAll.store := by
  have expunged : Eased opened.store opened.expunge.store := Eased.of_eq rfl rfl rfl
  exact expunged.trans ((expunged.measured measured).eased_sweep opened.registry _ _)

/-- Relief is one sweep and at most one doubling, and leaves room or a table of the greatest
length. -/
theorem relieve_cases (measured : opened.store.Measured) :
    Eased opened.store opened.relieve.store ∧ opened.relieve.store.Admits ∨
      Doubled opened.store opened.relieve.store := by
  have swept := eased_expunge_sweepAll measured
  have measuredStill := swept.measured measured
  unfold relieve
  split
  · unfold reduceLoad
    dsimp only
    split
    · next fits => exact Or.inl ⟨swept, Or.inl fits⟩
    · unfold grow
      dsimp only
      split
      · next greatest =>
          exact Or.inl ⟨swept, Or.inr (measuredStill.capacity_eq_of_lt greatest)⟩
      · next fits =>
          right
          refine swept.doubled ⟨rfl, Nat.le_of_not_lt fits, capacity_regrown _ _ _ _, rfl, ?_⟩
          have nonempty := measuredStill.roomy.nonempty
          exact Table.load_regrown_le measuredStill.counted (by omega)
  · next fits => exact Or.inl ⟨Eased.refl _, Or.inl (Nat.lt_of_not_le fits)⟩

theorem Alike.eased {before after : OpenStore} (alike : Alike before after) :
    Eased before.store after.store :=
  Eased.of_eq alike.config alike.table alike.loadLimit

theorem limited_relieve (measured : opened.store.Measured) (limited : opened.store.Limited) :
    opened.relieve.store.Limited := by
  rcases relieve_cases measured with ⟨eased, -⟩ | doubled
  · exact eased.limited limited
  · exact doubled.limited measured limited

theorem admits_relieve (measured : opened.store.Measured) (limited : opened.store.Limited)
    (positive : 1 ≤ opened.store.config.loadLimitFor opened.store.config.initialEntries) :
    opened.relieve.store.Admits := by
  rcases relieve_cases measured with ⟨-, admits⟩ | doubled
  · exact admits
  · exact doubled.admits measured limited positive

/-- Where there is room for one more entry, one more entry may be inserted. -/
theorem limited_publish (measured : opened.store.Measured) (limited : opened.store.Limited)
    (entry : Entry) : (opened.publish key entry).store.Limited := by
  have relieved := limited_relieve measured limited
  have admits := admits_relieve measured limited
  have config := (keeps_relieve opened).config
  have edits : Store.Edited key opened.store opened.relieve.store :=
    edited_relieve .untouched
  have nonempty := (edits.measured measured).roomy.nonempty
  have grows : (opened.publish key entry).store.table.load ≤
      opened.relieve.store.table.load + 1 := Table.load_add_le nonempty _ entry
  have capacity : (opened.publish key entry).store.table.capacity =
      opened.relieve.store.table.capacity := Table.capacity_add _ _ _ _ _
  constructor
  · rw [capacity]
    exact relieved.limit
  · intro positive
    rw [show (opened.publish key entry).store.config = opened.store.config from config] at positive
    rw [capacity]
    exact (admits positive).imp_left (Nat.le_trans grows)

/-! ### Steps -/

/-- Everything that a step can do to the load: it eases the table, or it inserts one entry into
an eased table after relief. -/
inductive Loaded (key : DefinitionKey) (store : Store) (after : OpenStore) : Prop where
  | eased (eased : Eased store after.store)
  | published (ready : OpenStore) (entry : Entry) (eased : Eased store ready.store)
      (publishes : after = ready.publish key entry)

theorem eased_remove (measured : opened.store.Measured) (key : DefinitionKey) :
    Eased opened.store (opened.remove key).2.store := by
  unfold remove
  split
  · exact Eased.refl _
  · split
    · exact Eased.refl _
    · let counted := ((opened.unbind key).bump key).count .invalidations 1
      have unbound : Eased opened.store counted.store := Eased.of_eq rfl rfl rfl
      exact unbound.trans (eased_sweepAround (unbound.measured measured) key)

theorem eased_supersede (measured : opened.store.Measured) (key : DefinitionKey) :
    Eased opened.store (opened.supersede key).store := by
  have measuredStill : (opened.bump key).store.Measured := measured
  unfold supersede
  split
  · exact eased_sweepAround measuredStill key
  · exact Eased.refl _

theorem eased_promote (measured : opened.store.Measured) (key : DefinitionKey) (searched : Nat) :
    Eased opened.store (opened.promote key searched).2.store := by
  unfold promote
  split
  · refine ⟨rfl, Table.capacity_promote _ _ _ _ _, rfl, ?_, ?_⟩
    · exact Nat.le_of_eq (Table.load_promote _ _ _ _ _)
    · exact fun counted => counted.promote measured.roomy.nonempty _ _
  · exact Eased.refl _

/-- What a step does to the load, by its outcome: nothing, a sweep, or the insertion of one
entry after relief. A put sweeps before. -/
inductive Loading (opened : OpenStore) (key : DefinitionKey) (result : Outcome × OpenStore) :
    Prop where
  | still (quiet : result.1.publishes = false) (unswept : result.1 ≠ .removed true)
      (eased : Eased opened.store result.2.store)
      (load : result.2.store.table.load = opened.store.table.load)
  | swept (removed : result.1 = .removed true) (eased : Eased opened.store result.2.store)
  | published (answers : result.1.publishes = true) (unchanged : result.1 ≠ .changed true)
      (ready : OpenStore) (entry : Entry) (alike : Alike opened ready)
      (publishes : result.2 = ready.publish key entry)
  | changed (changed : result.1 = .changed true) (ready : OpenStore) (entry : Entry)
      (alike : Alike (opened.supersede key) ready) (publishes : result.2 = ready.publish key entry)

theorem loading_promote (measured : opened.store.Measured) (key : DefinitionKey)
    (searched : Nat) : Loading opened key ((opened.promote key searched).map .promoted id) := by
  refine .still rfl nofun (eased_promote measured key searched) ?_
  show (opened.promote key searched).2.store.table.load = _
  unfold promote
  split
  · exact Table.load_promote _ _ _ _ _
  · rfl

theorem loading_start (opened : OpenStore) (key : DefinitionKey) :
    Loading opened key ((opened.start key).map .started id) := by
  unfold start
  dsimp only
  split
  · exact .still rfl nofun (Eased.of_eq rfl rfl rfl) rfl
  · next existing found =>
      split
      · split
        · exact .still rfl nofun (Eased.refl _) rfl
        · exact .still rfl nofun (Eased.of_eq rfl rfl rfl) rfl
      · next unpromised =>
          have minted := isPromise_upToDate opened key (Bool.eq_false_iff.mpr unpromised)
          have answers : (Outcome.started (opened.upToDate key existing).1).publishes = true := by
            simp [Outcome.publishes, minted]
          have alike := alike_upToDate opened key existing
          refine .published answers nofun _ _ ?_ rfl
          split
          · exact alike
          · exact alike.bind key _

/-- A new entry is numbered before it is handed in. -/
theorem loading_finish {ready : OpenStore} (same : ready.store = opened.store)
    (registry : ready.registry = opened.registry) (key : DefinitionKey) (candidate : Entry) :
    Loading opened key ((ready.finish key candidate).map .finished id) := by
  have alike : Alike opened ready := .of_eq registry same
  have eased := alike.eased
  have load := congrArg Table.load alike.table
  unfold finish
  split
  · exact .still rfl nofun eased load
  · split
    · exact .still rfl nofun (eased.trans (Eased.of_eq rfl rfl rfl)) load
    · split
      · have alike : Alike opened (ready.upToDate key candidate).2 :=
          .of_eq ((registry_upToDate ready key candidate).trans registry)
            ((store_upToDate ready key candidate).trans same)
        exact .published rfl nofun ((ready.upToDate key candidate).2.bind key _) _
          (alike.bind key _) rfl
      · exact .still rfl nofun eased load

theorem loading_remove (measured : opened.store.Measured) (key : DefinitionKey) :
    Loading opened key ((opened.remove key).map .removed id) := by
  have eased := eased_remove measured key
  unfold remove at eased ⊢
  split
  · exact .still rfl nofun (Eased.refl _) rfl
  · next existing found =>
      rw [found] at eased
      dsimp only at eased
      split
      · exact .still rfl nofun (Eased.refl _) rfl
      · next unpromised =>
          rw [if_neg unpromised] at eased
          exact .swept rfl eased

theorem loading_change (opened : OpenStore) (key : DefinitionKey) (allocation : Allocation) :
    Loading opened key ((opened.change key allocation).map .changed id) := by
  unfold change
  split
  · exact .still rfl nofun (Eased.refl _) rfl
  · let minted := ((opened.supersede key).count .puts 1).mint fun serial =>
      .minted serial (some ((opened.supersede key).registry.current key)) (some allocation)
    exact .changed rfl (minted.2.bind key minted.1) minted.1 ⟨rfl, rfl, rfl, rfl⟩ rfl

theorem loading_operate (measured : opened.store.Measured) (key : DefinitionKey)
    (operation : Operation) : Loading opened key (opened.operate key operation) := by
  cases operation with
  | probe => exact .still rfl nofun (Eased.refl _) rfl
  | promote searched => exact loading_promote measured key searched
  | start => exact loading_start opened key
  | commit token allocation =>
      let minted := opened.mint fun serial => (Entry.promise token).fulfil serial allocation
      have same : minted.2.store = opened.store := rfl
      exact loading_finish same rfl key minted.1
  | retract token => exact loading_finish rfl rfl key (.promise token)
  | remove => exact loading_remove measured key
  | change allocation => exact loading_change opened key allocation

/-- Every step eases the table or is one insertion after relief. -/
theorem loaded_operate (measured : opened.store.Measured) (key : DefinitionKey)
    (operation : Operation) : Loaded key opened.store (opened.operate key operation).2 := by
  cases loading_operate measured key operation with
  | still quiet unswept eased => exact .eased eased
  | swept removed eased => exact .eased eased
  | published answers unchanged ready entry alike publishes =>
      exact .published ready entry alike.eased publishes
  | changed changed ready entry alike publishes =>
      exact .published ready entry ((eased_supersede measured key).trans alike.eased) publishes

/-- A step keeps the load limit: it inserts one entry at most, and only after relief. -/
theorem limited_operate (measured : opened.store.Measured) (limited : opened.store.Limited)
    (key : DefinitionKey) (operation : Operation) :
    (opened.operate key operation).2.store.Limited := by
  cases loaded_operate measured key operation with
  | eased eased => exact eased.limited limited
  | published ready entry eased publishes =>
      rw [publishes]
      exact limited_publish (eased.measured measured) (eased.limited limited) entry

end OpenStore

end ContextCache
