import ContextCache.Proofs.Store.Housekeeping

/-!
Contract: what a single step of the protocol does.

A step works on one definition in one store. It returns an outcome, changes the binding
of its definition and may end that definition's generation. The bindings of other existing
definitions stay what they are.

Owns:
- the steps as data, and their outcomes;
- everything that a step can do, case by case, and that it keeps the store sound;
- what a step on one definition spares of the others.

Does not own: how steps of different contexts follow each other.
-/

set_option autoImplicit false

namespace ContextCache

/-- A step of the protocol. Committing hands in a new value for the generation of a
promise, and retracting hands in the promise itself. -/
inductive Operation where
  | probe
  | promote (searched : Nat)
  | start
  | commit (token : Token) (allocation : Allocation)
  | retract (token : Token)
  | remove
  | change (allocation : Allocation)
deriving DecidableEq, Repr

/-- What a step returns. -/
inductive Outcome where
  | probed (answer : Option Allocation)
  | promoted (moved : Bool)
  | started (entry : Entry)
  | finished (entry : Option Entry)
  | removed (effective : Bool)
  | changed (effective : Bool)
deriving DecidableEq, Repr

/-- The value that a definition is bound to. -/
def Store.value? (store : Store) (key : DefinitionKey) : Option Allocation :=
  (store.binding? key).bind Entry.value?

namespace OpenStore

/-- What the table answers for the definition's current generation. -/
def answer? (opened : OpenStore) (key : DefinitionKey) : Option Allocation :=
  opened.store.table.search opened.store.config.probeLimit (opened.registry.hash key)
    (opened.registry.current key)

/-- Concludes a computation that ran under the promise of `token` with a value. -/
def commit (opened : OpenStore) (key : DefinitionKey) (token : Token)
    (allocation : Allocation) : Option Entry × OpenStore :=
  let (candidate, minted) := opened.mint fun serial => (Entry.promise token).fulfil serial allocation
  minted.finish key candidate

/-- Takes a step. -/
def operate (opened : OpenStore) (key : DefinitionKey) : Operation → Outcome × OpenStore
  | .probe => (.probed (opened.answer? key), opened)
  | .promote searched => (opened.promote key searched).map .promoted id
  | .start => (opened.start key).map .started id
  | .commit token allocation => (opened.commit key token allocation).map .finished id
  | .retract token => (opened.finish key (.promise token)).map .finished id
  | .remove => (opened.remove key).map .removed id
  | .change allocation => (opened.change key allocation).map .changed id

/-- Everything that a step can do with the binding of its definition. -/
inductive Effect (before after : OpenStore) (key : DefinitionKey) : Operation → Outcome → Prop where
  | probed (same : after = before) : Effect before after key .probe (.probed (before.answer? key))
  | promoted {searched : Nat} {moved : Bool} (kept : Keeps before after) :
      Effect before after key (.promote searched) (.promoted moved)
  | promised (vacant : before.store.value? key = none)
      (registry : after.registry = before.registry)
      (bound : after.store.binding? key = some (.promise (before.registry.current key))) :
      Effect before after key .start (.started (.promise (before.registry.current key)))
  | answered {serial : Nat} {allocation : Allocation}
      (held : before.store.value? key = some allocation)
      (registry : after.registry = before.registry)
      (bound : after.store.binding? key =
        some (.minted serial (some (before.registry.current key)) (some allocation))) :
      Effect before after key .start
        (.started (.minted serial (some (before.registry.current key)) (some allocation)))
  | committed {serial : Nat} {token : Token} {allocation : Allocation}
      (promised : before.store.binding? key = some (.promise token))
      (registry : after.registry = before.registry)
      (bound : after.store.binding? key =
        some (.minted serial (some (before.registry.current key)) (some allocation))) :
      Effect before after key (.commit token allocation)
        (.finished (some (.minted serial (some (before.registry.current key)) (some allocation))))
  | discarded {token : Token} {allocation : Allocation}
      (superseded : before.store.binding? key ≠ some (.promise token))
      (registry : after.registry = before.registry) (same : after.store = before.store) :
      Effect before after key (.commit token allocation) (.finished none)
  | retracted {token : Token} (promised : before.store.binding? key = some (.promise token))
      (registry : after.registry = before.registry) (unbound : after.store.binding? key = none) :
      Effect before after key (.retract token) (.finished none)
  | ignored {token : Token} (superseded : before.store.binding? key ≠ some (.promise token))
      (same : after = before) : Effect before after key (.retract token) (.finished none)
  | removed {allocation : Allocation} (held : before.store.value? key = some allocation)
      (unbound : after.store.binding? key = none)
      (advanced : after.registry.generation key = before.registry.generation key + 1) :
      Effect before after key .remove (.removed true)
  | absent (vacant : before.store.value? key = none) (same : after = before) :
      Effect before after key .remove (.removed false)
  | changed {serial : Nat} {allocation : Allocation}
      (unbacked : ¬ before.store.Backs (before.registry.current key) allocation)
      (advanced : after.registry.generation key = before.registry.generation key +
        if (before.store.binding? key).isSome then 1 else 0)
      (bound : after.store.binding? key =
        some (.minted serial (some (after.registry.current key)) (some allocation))) :
      Effect before after key (.change allocation) (.changed true)
  | unchanged {allocation : Allocation}
      (backs : before.store.Backs (before.registry.current key) allocation)
      (same : after = before) : Effect before after key (.change allocation) (.changed false)

/-- What a step on `key` leaves alone. -/
structure Spares (key : DefinitionKey) (before after : OpenStore) : Prop where
  leads : before.registry.Leads after.registry
  alive : ∀ other, after.registry.isAlive other = before.registry.isAlive other
  minted : before.shared.entriesMinted ≤ after.shared.entriesMinted
  binding : ∀ other, other ≠ key → before.registry.isAlive other = true →
    after.store.binding? other = before.store.binding? other

/-! ### Frames -/

theorem Keeps.spares {before after : OpenStore} (kept : Keeps before after)
    (key : DefinitionKey) : Spares key before after where
  leads := Registry.leads_of_eq kept.registry
  alive := by
    intro other
    rw [kept.registry]
  minted := Nat.le_of_eq kept.minted.symm
  binding := fun other _ alive => kept.binding other alive

theorem Spares.refl (key : DefinitionKey) (opened : OpenStore) : Spares key opened opened :=
  (Keeps.refl opened).spares key

theorem Spares.trans {key : DefinitionKey} {first second third : OpenStore}
    (earlier : Spares key first second) (later : Spares key second third) :
    Spares key first third where
  leads := earlier.leads.trans later.leads
  alive := fun other => (later.alive other).trans (earlier.alive other)
  minted := Nat.le_trans earlier.minted later.minted
  binding := by
    intro other differs alive
    have still : second.registry.isAlive other = true := (earlier.alive other).trans alive
    exact (later.binding other differs still).trans (earlier.binding other differs alive)

variable {opened : OpenStore} {key : DefinitionKey}

theorem spares_mint (opened : OpenStore) (key : DefinitionKey) (make : Nat → Entry) :
    Spares key opened (opened.mint make).2 where
  leads := Registry.Leads.refl _
  alive := fun _ => rfl
  minted := Nat.le_succ _
  binding := fun _ _ _ => rfl

theorem spares_bind (opened : OpenStore) (key : DefinitionKey) (entry : Entry) :
    Spares key opened (opened.bind key entry) where
  leads := Registry.Leads.refl _
  alive := fun _ => rfl
  minted := Nat.le_refl _
  binding := fun other differs _ =>
    (Store.binding?_bind opened.store key other entry).trans (if_neg differs)

theorem spares_unbind (opened : OpenStore) (key : DefinitionKey) :
    Spares key opened (opened.unbind key) where
  leads := Registry.Leads.refl _
  alive := fun _ => rfl
  minted := Nat.le_refl _
  binding := fun other differs _ =>
    (Store.binding?_unbind opened.store key other).trans (if_neg differs)

theorem spares_bump (opened : OpenStore) (key : DefinitionKey) :
    Spares key opened (opened.bump key) where
  leads := Registry.leads_bump _ key
  alive := fun other => Registry.isAlive_bump _ key other
  minted := Nat.le_refl _
  binding := fun _ _ _ => rfl

/-! ### Bindings and values -/

theorem binding?_bind_self (opened : OpenStore) (key : DefinitionKey) (entry : Entry) :
    (opened.bind key entry).store.binding? key = some entry :=
  (Store.binding?_bind _ key key entry).trans (if_pos rfl)

theorem binding?_unbind_self (opened : OpenStore) (key : DefinitionKey) :
    (opened.unbind key).store.binding? key = none :=
  (Store.binding?_unbind _ key key).trans (if_pos rfl)

theorem value?_of_binding? {store : Store} {entry : Entry}
    (bound : store.binding? key = some entry) : store.value? key = entry.value? := by
  unfold Store.value?
  rw [bound]
  rfl

theorem value?_of_backs {store : Store} {token : Token} {allocation : Allocation}
    (backs : store.Backs token allocation) : store.value? token.definition = some allocation := by
  obtain ⟨serial, bound⟩ := backs
  exact value?_of_binding? bound

theorem value?_of_unbound {store : Store} (unbound : store.binding? key = none) :
    store.value? key = none := by
  unfold Store.value?
  rw [unbound]
  rfl

/-- A definition without a value is unbound or promised. -/
theorem Sound.vacant (sound : opened.Sound) (vacant : opened.store.value? key = none) :
    opened.store.binding? key = none ∨
      ∃ token, opened.store.binding? key = some (.promise token) := by
  cases bound : opened.store.binding? key with
  | none => exact Or.inl rfl
  | some entry =>
      right
      have carried := (value?_of_binding? bound).symm.trans vacant
      cases sound.bindable key entry bound with
      | promise own known => exact ⟨_, rfl⟩
      | value own known issued => cases carried

/-! ### What steps spare -/

theorem spares_bind_publish (opened : OpenStore) (key : DefinitionKey) (entry : Entry) :
    Spares key opened ((opened.bind key entry).publish key entry) :=
  (spares_bind opened key entry).trans ((keeps_publish _ key entry).spares key)

theorem spares_upToDate (opened : OpenStore) (key : DefinitionKey) (entry : Entry) :
    Spares key opened (opened.upToDate key entry).2 := by
  unfold upToDate
  dsimp only
  split
  · exact Spares.refl key opened
  · exact spares_mint opened key _

theorem spares_start (opened : OpenStore) (key : DefinitionKey) :
    Spares key opened (opened.start key).2 := by
  unfold start
  dsimp only
  split
  · exact spares_bind opened key _
  · next existing bound =>
      split
      · dsimp only
        split
        · exact Spares.refl key opened
        · exact spares_bind opened key _
      · have updated := spares_upToDate opened key existing
        dsimp only
        split
        · exact updated.trans ((keeps_publish _ key _).spares key)
        · exact updated.trans (spares_bind_publish _ key _)

theorem spares_finish (opened : OpenStore) (key : DefinitionKey) (candidate : Entry) :
    Spares key opened (opened.finish key candidate).2 := by
  unfold finish
  split
  · exact Spares.refl key opened
  · split
    · exact spares_unbind opened key
    · split
      · exact (spares_upToDate opened key candidate).trans (spares_bind_publish _ key _)
      · exact Spares.refl key opened

theorem spares_remove (opened : OpenStore) (key : DefinitionKey) :
    Spares key opened (opened.remove key).2 := by
  unfold remove
  split
  · exact Spares.refl key opened
  · split
    · exact Spares.refl key opened
    · have removed := (spares_unbind opened key).trans (spares_bump _ key)
      have counted := removed.trans ((keeps_count _ .invalidations 1).spares key)
      exact counted.trans ((keeps_sweepAround _ key).spares key)

theorem spares_supersede (opened : OpenStore) (key : DefinitionKey) :
    Spares key opened (opened.supersede key) := by
  unfold supersede
  split
  · exact (spares_bump opened key).trans ((keeps_sweepAround _ key).spares key)
  · exact Spares.refl key opened

theorem spares_change (opened : OpenStore) (key : DefinitionKey) (allocation : Allocation) :
    Spares key opened (opened.change key allocation).2 := by
  unfold change
  split
  · exact Spares.refl key opened
  · have counted := (spares_supersede opened key).trans ((keeps_count _ .puts 1).spares key)
    exact (counted.trans (spares_mint _ key _)).trans (spares_bind_publish _ key _)

/-- No step takes the binding of another existing definition away, whatever store it is
taken on. -/
theorem spares_operate (opened : OpenStore) (key : DefinitionKey) (operation : Operation) :
    Spares key opened (opened.operate key operation).2 := by
  cases operation with
  | probe => exact Spares.refl key opened
  | promote searched => exact (keeps_promote opened key searched).spares key
  | start => exact spares_start opened key
  | commit token allocation =>
      let make := fun serial => (Entry.promise token).fulfil serial allocation
      exact (spares_mint opened key make).trans (spares_finish (opened.mint make).2 key _)
  | retract token => exact spares_finish opened key _
  | remove => exact spares_remove opened key
  | change allocation => exact spares_change opened key allocation

end OpenStore

end ContextCache
