import ContextCache.Proofs.Store.Steps
import ContextCache.Proofs.Store.Edits
import ContextCache.Proofs.Table.Alarms

/-!
Contract: steps of the protocol that are watched.

A careful step is a step of the protocol whose work on the table is careful, and that checks
each entry which it brings up to date. Where it makes a store it checks the length of the
store's first table. In a store with its invariants, of a registry whose hashes stay within
the mask, no alarm is raised.

Owns:
- the careful steps on an open store;
- stores whose tables are safe to work on, and what keeps them so;
- that the careful steps are the plain ones there.

Does not own: reads, which take several steps.
-/

set_option autoImplicit false

namespace ContextCache

/-! ### Careful steps -/

def Store.carefulCreate (config : Config) : Except Alarm Store := do
  let table ← Table.carefulEmpty config.initialEntries
  return { Store.create config with table }

namespace OpenStore

def carefulInsert (opened : OpenStore) (key : DefinitionKey) (entry : Entry) :
    Except Alarm OpenStore := do
  let table ← opened.store.table.carefulAdd opened.registry opened.store.config.probeLimit
    (opened.registry.hash key) entry
  return opened.withTable table

def carefulSweepAround (opened : OpenStore) (key : DefinitionKey) : Except Alarm OpenStore := do
  let swept ← opened.store.table.carefulSweep opened.registry opened.store.config.probeLimit
    (opened.registry.hash key).toNat opened.store.config.probeLimit
  return opened.adopt swept

def carefulSweepAll (opened : OpenStore) : Except Alarm OpenStore := do
  let swept ← opened.store.table.carefulSweep opened.registry opened.store.config.probeLimit 0
    (opened.store.table.capacity + opened.store.config.probeLimit - 1)
  return opened.adopt swept

def carefulRegrown (registry : Registry) (probeLimit length : Nat) (table : Table) :
    Except Alarm Table := do
  let fresh ← Table.carefulEmpty length
  (table.entries.filter fun entry => entry.isLive registry).foldlM
    (Table.carefulReadd registry probeLimit) fresh

def carefulGrow (opened : OpenStore) : Except Alarm OpenStore := do
  let config := opened.store.config
  let length := opened.store.table.capacity * 2
  Alarm.position.unless (length < positionLimit)
  if config.maxEntries < length then
    return opened
  else do
    let table ← carefulRegrown opened.registry config.probeLimit length opened.store.table
    return { opened with
      store := { opened.store with table, loadLimit := config.loadLimitFor length } }.count
        .resizes 1

def carefulReduceLoad (opened : OpenStore) : Except Alarm OpenStore := do
  let swept ← opened.expunge.carefulSweepAll
  if swept.store.table.load < swept.store.loadLimit then return swept else swept.carefulGrow

def carefulRelieve (opened : OpenStore) : Except Alarm OpenStore :=
  if opened.store.loadLimit ≤ opened.store.table.load then opened.carefulReduceLoad
  else .ok opened

def carefulPublish (opened : OpenStore) (key : DefinitionKey) (entry : Entry) :
    Except Alarm OpenStore := do
  let relieved ← opened.carefulRelieve
  relieved.carefulInsert key entry

def carefulUpToDate (opened : OpenStore) (key : DefinitionKey) (entry : Entry) :
    Except Alarm (Entry × OpenStore) :=
  let token := opened.registry.current key
  if entry.hasTag token then .ok (entry, opened)
  else do
    Alarm.promiseRetagged.unless (entry.isPromise = false)
    return opened.mint fun serial => entry.retag serial token

def carefulStart (opened : OpenStore) (key : DefinitionKey) : Except Alarm (Entry × OpenStore) :=
  let promise := Entry.promise (opened.registry.current key)
  match opened.store.binding? key with
  | none => .ok (promise, opened.bind key promise)
  | some existing =>
    if existing.isPromise then
      .ok (promise, if existing = promise then opened else opened.bind key promise)
    else do
      let (entry, updated) ← opened.carefulUpToDate key existing
      let bound := if entry = existing then updated else updated.bind key entry
      let published ← bound.carefulPublish key entry
      return (entry, published)

def carefulFinish (opened : OpenStore) (key : DefinitionKey) (candidate : Entry) :
    Except Alarm (Option Entry × OpenStore) :=
  match opened.store.binding? key with
  | none => .ok (none, opened)
  | some existing =>
    if existing = candidate then
      .ok (none, opened.unbind key)
    else if existing.isPromise && existing.sameTag candidate && !candidate.isPromise then do
      let (entry, updated) ← opened.carefulUpToDate key candidate
      let published ← (updated.bind key entry).carefulPublish key entry
      return (some entry, published)
    else
      .ok (none, opened)

def carefulRemove (opened : OpenStore) (key : DefinitionKey) : Except Alarm (Bool × OpenStore) :=
  match opened.store.binding? key with
  | none => .ok (false, opened)
  | some existing =>
    if existing.isPromise then
      .ok (false, opened)
    else do
      let swept ← (((opened.unbind key).bump key).count .invalidations 1).carefulSweepAround key
      return (true, swept)

def carefulSupersede (opened : OpenStore) (key : DefinitionKey) : Except Alarm OpenStore :=
  if (opened.store.binding? key).isSome then (opened.bump key).carefulSweepAround key
  else .ok opened

def carefulChange (opened : OpenStore) (key : DefinitionKey) (allocation : Allocation) :
    Except Alarm (Bool × OpenStore) :=
  if opened.isBoundTo key allocation then
    .ok (false, opened)
  else do
    let superseded ← opened.carefulSupersede key
    let counted := superseded.count .puts 1
    let token := counted.registry.current key
    let (entry, minted) := counted.mint fun serial => .minted serial (some token) (some allocation)
    let published ← (minted.bind key entry).carefulPublish key entry
    return (true, published)

def carefulPromote (opened : OpenStore) (key : DefinitionKey) (searched : Nat) :
    Except Alarm (Bool × OpenStore) :=
  if opened.store.table.capacity = searched then do
    let (moved, table) ← opened.store.table.carefulPromote opened.registry
      opened.store.config.probeLimit (opened.registry.hash key) (opened.registry.current key)
    return (moved, opened.withTable table)
  else
    .ok (false, opened)

def carefulProbe (opened : OpenStore) (key : DefinitionKey) : Except Alarm (Option Allocation) :=
  let hash := opened.registry.hash key
  let token := opened.registry.current key
  match opened.store.table.probeHome hash token with
  | some allocation => .ok (some allocation)
  | none => do
    let behind ← opened.store.table.carefulProbeBackup opened.store.config.probeLimit hash token
    return behind.map Prod.snd

/-- A start hands out a promise or an entry with a value. -/
def carefulHandOut (opened : OpenStore) (key : DefinitionKey) :
    Except Alarm (Entry × OpenStore) := do
  let started ← opened.carefulStart key
  Alarm.valueless.unless (started.1.isPromise = true ∨ started.1.value?.isSome = true)
  return started

def carefulCommit (opened : OpenStore) (key : DefinitionKey) (token : Token)
    (allocation : Allocation) : Except Alarm (Option Entry × OpenStore) :=
  let (candidate, minted) := opened.mint fun serial => (Entry.promise token).fulfil serial allocation
  minted.carefulFinish key candidate

def carefulOperate (opened : OpenStore) (key : DefinitionKey) :
    Operation → Except Alarm (Outcome × OpenStore)
  | .probe => (fun answer => (.probed answer, opened)) <$> opened.carefulProbe key
  | .promote searched => Prod.map .promoted id <$> opened.carefulPromote key searched
  | .start => Prod.map .started id <$> opened.carefulHandOut key
  | .commit token allocation => Prod.map .finished id <$> opened.carefulCommit key token allocation
  | .retract token => Prod.map .finished id <$> opened.carefulFinish key (.promise token)
  | .remove => Prod.map .removed id <$> opened.carefulRemove key
  | .change allocation => Prod.map .changed id <$> opened.carefulChange key allocation

/-! ### Tables that are safe to work on -/

/-- The table has its shape and its exact load, every live entry is within its window, only
what may stand in a table does, and hashes have no bit outside the mask. -/
structure Secure (opened : OpenStore) : Prop where
  measured : opened.store.Measured
  unbroken : opened.store.table.Unbroken opened.registry opened.store.config.probeLimit
  shelved : ∀ entry, opened.store.table.Holds entry → entry.Shelved opened.registry
  hashes : ∀ key, opened.registry.hash key ≤ hashMask

variable {opened later : OpenStore} {key : DefinitionKey} {entry : Entry}

/-- Bindings and numbering have no part in this. -/
theorem Secure.congr (secure : opened.Secure) (config : later.store.config = opened.store.config)
    (table : later.store.table = opened.store.table)
    (registry : later.registry = opened.registry) : later.Secure where
  measured := {
    valid := config ▸ secure.measured.valid
    doubled := by
      rw [config, table]
      exact secure.measured.doubled
    bounded := by
      rw [config, table]
      exact secure.measured.bounded
    counted := table ▸ secure.measured.counted }
  unbroken := by
    rw [config, table, registry]
    exact secure.unbroken
  shelved := by
    rw [table, registry]
    exact secure.shelved
  hashes := by
    rw [registry]
    exact secure.hashes

/-- Ending a generation revives nothing, so what was within its window still is. -/
theorem Secure.bump (secure : opened.Secure) (key : DefinitionKey) : (opened.bump key).Secure where
  measured := secure.measured
  unbroken := by
    intro position entry hash found live homed
    have leads := Registry.leads_bump opened.registry key
    cases secure.shelved entry ⟨position, found⟩ with
    | tombstone => cases live
    | @value serial token allocation known =>
        have after : (opened.registry.bump key).isLive token = true := live
        have before : opened.registry.isLive token = true := leads.isLive known after
        have homedBefore : opened.registry.hashOf? token = some hash := by
          rw [Registry.hashOf?_of_isLive before, ← leads.hash token.definition known.defined,
            ← Registry.hashOf?_of_isLive after]
          exact homed
        exact secure.unbroken position _ hash found before homedBefore
  shelved := fun entry holds =>
    (secure.shelved entry holds).mono (Registry.leads_bump opened.registry key)
  hashes := by
    intro other
    show (opened.registry.bump key).hash other ≤ hashMask
    rw [Registry.hash_bump]
    exact secure.hashes other

theorem Secure.sweep (secure : opened.Secure) (start count : Nat) :
    (opened.adopt (opened.store.table.sweep opened.registry opened.store.config.probeLimit start
      count)).Secure where
  measured := secure.measured.withTable (Table.capacity_sweep _ _ _ _ _)
    (secure.measured.counted.sweep secure.measured.roomy)
  unbroken := Table.unbroken_sweep secure.measured.roomy secure.unbroken
  shelved := by
    intro entry holds
    rcases Table.holds_sweep holds with rfl | before
    · exact .tombstone
    · exact secure.shelved entry before
  hashes := secure.hashes

/-! ### Room in half a word -/

theorem Secure.capacity_le (secure : opened.Secure) : opened.store.table.capacity ≤ 2 ^ 30 :=
  Nat.le_trans secure.measured.bounded secure.measured.valid.bounded

theorem Secure.probeLimit_le (secure : opened.Secure) :
    opened.store.config.probeLimit ≤ 2 ^ 30 :=
  Nat.le_trans secure.measured.roomy.fits secure.capacity_le

theorem Secure.hash_lt (secure : opened.Secure) (key : DefinitionKey) :
    (opened.registry.hash key).toNat < 2 ^ 30 := by
  have masked := UInt32.le_iff_toNat_le.mp (secure.hashes key)
  have mask : hashMask.toNat = 2 ^ 30 - 1 := rfl
  omega

theorem Secure.window_lt (secure : opened.Secure) (key : DefinitionKey) :
    opened.store.table.home (opened.registry.hash key) + opened.store.config.probeLimit <
      positionLimit := by
  have home := @Table.home_lt opened.store.table (opened.registry.hash key)
    secure.measured.roomy.nonempty
  have capacity := secure.capacity_le
  have probeLimit := secure.probeLimit_le
  exact lt_positionLimit (by omega)

/-- A table's length is a power of two, and so is twice that. -/
theorem Secure.isPowerOfTwo_double (secure : opened.Secure) :
    (opened.store.table.capacity * 2).isPowerOfTwo := by
  obtain ⟨doublings, exactly⟩ := secure.measured.doubled
  obtain ⟨initial, power⟩ := secure.measured.valid.initialPower
  exact ⟨initial + doublings + 1, by rw [exactly, power, Nat.pow_succ, Nat.pow_add]⟩

/-! ### Housekeeping -/

theorem carefulInsert_eq (opened : OpenStore) (key : DefinitionKey)
    (minted : entry.isPromise = false) :
    opened.carefulInsert key entry = .ok (opened.insert key entry) := by
  rw [carefulInsert, Table.carefulAdd_eq _ minted]
  rfl

theorem Secure.carefulSweepAround_eq (secure : opened.Secure) (key : DefinitionKey) :
    opened.carefulSweepAround key = .ok (opened.sweepAround key) := by
  have hash := secure.hash_lt key
  have probeLimit := secure.probeLimit_le
  rw [carefulSweepAround, Table.carefulSweep_eq secure.measured.roomy secure.unbroken
    secure.measured.counted (lt_positionLimit (by omega)).le]
  rfl

theorem Secure.carefulSweepAll_eq (secure : opened.Secure) :
    opened.carefulSweepAll = .ok opened.sweepAll := by
  have capacity := secure.capacity_le
  have probeLimit := secure.probeLimit_le
  rw [carefulSweepAll, Table.carefulSweep_eq secure.measured.roomy secure.unbroken
    secure.measured.counted (lt_positionLimit (by omega)).le]
  rfl

/-- A table holds no promise, so none is put into a longer one. -/
theorem carefulRegrown_eq {registry : Registry} {probeLimit length : Nat} {table : Table}
    (power : length.isPowerOfTwo)
    (shelved : ∀ entry, table.Holds entry → entry.Shelved registry) :
    carefulRegrown registry probeLimit length table =
      .ok (regrown registry probeLimit length table) := by
  have minted : ∀ entry ∈ table.entries.filter fun entry => entry.isLive registry,
      entry.isPromise = false := by
    intro entry member
    cases shelved entry (Table.holds_of_mem_entries (List.mem_filter.mp member).1) <;> rfl
  unfold carefulRegrown regrown
  rw [Table.carefulEmpty_eq power]
  show List.foldlM _ (Table.empty length) _ = _
  generalize table.entries.filter (fun entry => entry.isLive registry) = entries at minted ⊢
  generalize Table.empty length = gathered
  induction entries generalizing gathered with
  | nil => rfl
  | cons entry rest inductionHypothesis =>
      rw [List.foldlM_cons, Table.carefulReadd_eq (minted entry (List.mem_cons_self ..)),
        List.foldl_cons]
      exact inductionHypothesis (fun other member => minted other (List.mem_cons_of_mem _ member)) _

theorem Secure.carefulGrow_eq (secure : opened.Secure) : opened.carefulGrow = .ok opened.grow := by
  have capacity := secure.capacity_le
  have small : opened.store.table.capacity * 2 < positionLimit := lt_positionLimit (by omega)
  unfold carefulGrow grow
  dsimp only
  rw [Alarm.unless_of_holds small]
  show (if _ then _ else _) = _
  split
  · rfl
  · rw [carefulRegrown_eq secure.isPowerOfTwo_double secure.shelved]
    rfl

theorem Secure.carefulReduceLoad_eq (secure : opened.Secure) :
    opened.carefulReduceLoad = .ok opened.reduceLoad := by
  have expunged : opened.expunge.Secure := secure.congr rfl rfl rfl
  have swept : opened.expunge.sweepAll.Secure := expunged.sweep _ _
  unfold carefulReduceLoad reduceLoad
  rw [expunged.carefulSweepAll_eq]
  show (if _ then _ else _) = _
  dsimp only
  split
  · rfl
  · exact swept.carefulGrow_eq

theorem Secure.carefulRelieve_eq (secure : opened.Secure) :
    opened.carefulRelieve = .ok opened.relieve := by
  unfold carefulRelieve relieve
  split
  · exact secure.carefulReduceLoad_eq
  · rfl

theorem Secure.carefulPublish_eq (secure : opened.Secure) (key : DefinitionKey)
    (minted : entry.isPromise = false) :
    opened.carefulPublish key entry = .ok (opened.publish key entry) := by
  rw [carefulPublish, secure.carefulRelieve_eq]
  exact carefulInsert_eq opened.relieve key minted

/-! ### The protocol -/

theorem carefulUpToDate_eq (opened : OpenStore) (key : DefinitionKey)
    (minted : entry.isPromise = false) :
    opened.carefulUpToDate key entry = .ok (opened.upToDate key entry) := by
  unfold carefulUpToDate upToDate
  dsimp only
  split
  · rfl
  · rw [Alarm.unless_of_holds minted]
    rfl

theorem Secure.upToDate (secure : opened.Secure) (key : DefinitionKey) (entry : Entry) :
    (opened.upToDate key entry).2.Secure :=
  secure.congr (by rw [store_upToDate]) (by rw [store_upToDate]) (registry_upToDate opened key entry)

theorem Secure.bind (secure : opened.Secure) (key : DefinitionKey) (entry : Entry) :
    (opened.bind key entry).Secure :=
  secure.congr rfl rfl rfl

theorem Secure.carefulStart_eq (secure : opened.Secure) (key : DefinitionKey) :
    opened.carefulStart key = .ok (opened.start key) := by
  unfold carefulStart start
  cases opened.store.binding? key with
  | none => rfl
  | some existing =>
      dsimp only
      split
      · rfl
      · next unpromised =>
          have minted : existing.isPromise = false := Bool.eq_false_iff.mpr unpromised
          have updated := secure.upToDate key existing
          rw [carefulUpToDate_eq opened key minted]
          show (carefulPublish _ key _ >>= _) = _
          rw [Secure.carefulPublish_eq _ key (isPromise_upToDate opened key minted)]
          · rfl
          · split
            · exact updated
            · exact updated.bind key _

theorem Secure.carefulFinish_eq (secure : opened.Secure) (key : DefinitionKey)
    (candidate : Entry) :
    opened.carefulFinish key candidate = .ok (opened.finish key candidate) := by
  unfold carefulFinish finish
  cases opened.store.binding? key with
  | none => rfl
  | some existing =>
      dsimp only
      split
      · rfl
      · split
        · next accepted =>
            have minted : candidate.isPromise = false := by
              rw [Bool.and_eq_true, Bool.not_eq_true'] at accepted
              exact accepted.2
            have bound := (secure.upToDate key candidate).bind key (opened.upToDate key candidate).1
            rw [carefulUpToDate_eq opened key minted]
            show (carefulPublish _ key _ >>= _) = _
            rw [bound.carefulPublish_eq key (isPromise_upToDate opened key minted)]
            rfl
        · rfl

theorem Secure.carefulRemove_eq (secure : opened.Secure) (key : DefinitionKey) :
    opened.carefulRemove key = .ok (opened.remove key) := by
  have unbound : (opened.unbind key).Secure := secure.congr rfl rfl rfl
  have counted : (((opened.unbind key).bump key).count .invalidations 1).Secure :=
    (unbound.bump key).congr rfl rfl rfl
  unfold carefulRemove remove
  cases opened.store.binding? key with
  | none => rfl
  | some existing =>
      dsimp only
      split
      · rfl
      · rw [counted.carefulSweepAround_eq key]
        rfl

theorem Secure.carefulSupersede_eq (secure : opened.Secure) (key : DefinitionKey) :
    opened.carefulSupersede key = .ok (opened.supersede key) := by
  unfold carefulSupersede supersede
  split
  · exact (secure.bump key).carefulSweepAround_eq key
  · rfl

theorem Secure.supersede (secure : opened.Secure) (key : DefinitionKey) :
    (opened.supersede key).Secure := by
  unfold OpenStore.supersede
  split
  · exact (secure.bump key).sweep _ _
  · exact secure

theorem Secure.carefulChange_eq (secure : opened.Secure) (key : DefinitionKey)
    (allocation : Allocation) :
    opened.carefulChange key allocation = .ok (opened.change key allocation) := by
  unfold carefulChange change
  split
  · rfl
  · let counted := (opened.supersede key).count .puts 1
    let minted := counted.mint fun serial =>
      .minted serial (some (counted.registry.current key)) (some allocation)
    have bound : (minted.2.bind key minted.1).Secure := (secure.supersede key).congr rfl rfl rfl
    rw [secure.carefulSupersede_eq key]
    show (carefulPublish (minted.2.bind key minted.1) key minted.1 >>= _) = _
    rw [bound.carefulPublish_eq key rfl]
    rfl

theorem Secure.carefulPromote_eq (secure : opened.Secure) (key : DefinitionKey)
    (searched : Nat) :
    opened.carefulPromote key searched = .ok (opened.promote key searched) := by
  unfold carefulPromote promote
  split
  · rw [Table.carefulPromote_eq _ (secure.window_lt key)]
    rfl
  · rfl

theorem Secure.carefulProbe_eq (secure : opened.Secure) (key : DefinitionKey) :
    opened.carefulProbe key = .ok (opened.answer? key) := by
  unfold carefulProbe answer? Table.search
  dsimp only
  split
  · next allocation answered =>
      rw [answered]
      rfl
  · next missed =>
      rw [missed, Table.carefulProbeBackup_eq _ (secure.window_lt key)]
      rfl

/-- A start hands out what its definition is bound to afterwards. -/
theorem Secure.carefulHandOut_eq (secure : opened.Secure) (sound : opened.Sound)
    (alive : opened.registry.isAlive key = true) :
    opened.carefulHandOut key = .ok (opened.start key) := by
  have carries : (opened.start key).1.isPromise = true ∨
      (opened.start key).1.value?.isSome = true := by
    have effect : Effect opened _ key .start (.started (opened.start key).1) :=
      (sound.operate alive .start).effect
    generalize (opened.start key).1 = entry at effect
    cases effect with
    | promised => exact Or.inl rfl
    | answered => exact Or.inr rfl
  rw [carefulHandOut, secure.carefulStart_eq key]
  show (Alarm.valueless.unless _ >>= _) = _
  rw [Alarm.unless_of_holds carries]
  rfl

theorem Secure.carefulCommit_eq (secure : opened.Secure) (key : DefinitionKey) (token : Token)
    (allocation : Allocation) :
    opened.carefulCommit key token allocation = .ok (opened.commit key token allocation) :=
  have minted : (opened.mint fun serial =>
      (Entry.promise token).fulfil serial allocation).2.Secure := secure.congr rfl rfl rfl
  minted.carefulFinish_eq key _

/-- No step of the protocol raises an alarm. -/
theorem Secure.carefulOperate_eq (secure : opened.Secure) (sound : opened.Sound)
    (alive : opened.registry.isAlive key = true) (operation : Operation) :
    opened.carefulOperate key operation = .ok (opened.operate key operation) := by
  unfold carefulOperate operate
  cases operation with
  | probe => exact Alarm.map_eq_ok _ (secure.carefulProbe_eq key)
  | promote searched => exact Alarm.map_eq_ok _ (secure.carefulPromote_eq key searched)
  | start => exact Alarm.map_eq_ok _ (secure.carefulHandOut_eq sound alive)
  | commit token allocation => exact Alarm.map_eq_ok _ (secure.carefulCommit_eq key token allocation)
  | retract token => exact Alarm.map_eq_ok _ (secure.carefulFinish_eq key (.promise token))
  | remove => exact Alarm.map_eq_ok _ (secure.carefulRemove_eq key)
  | change allocation => exact Alarm.map_eq_ok _ (secure.carefulChange_eq key allocation)

end OpenStore

theorem Store.carefulCreate_eq {config : Config} (valid : config.Valid) :
    Store.carefulCreate config = .ok (Store.create config) := by
  rw [Store.carefulCreate, Table.carefulEmpty_eq valid.initialPower]
  rfl

end ContextCache
