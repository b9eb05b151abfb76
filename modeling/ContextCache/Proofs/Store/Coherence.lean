import ContextCache.Proofs.Table.Search
import ContextCache.Store.Protocol

/-!
Contract: a store's table never knows better than its bindings.

Every value that a table offers for a live token is bound to the token's definition under
that very token. A definition without such a binding is silent: the table offers nothing
for it. Both are kept by whatever ends a generation, because ending it silences the
definition in every table at once, so that its binding may then come and go freely.

Owns:
- what may be bound, what may stand in a table, and sound stores;
- that the smallest changes of an open store keep it sound.

Does not own: the order in which the protocol makes these changes.
-/

set_option autoImplicit false

namespace ContextCache

namespace Entry

/-- What a definition may be bound to: the promise of one of its generations, or a minted
entry with a value for one of them. -/
inductive Bindable (shared : Shared) (key : DefinitionKey) : Entry → Prop where
  | promise {token : Token} (own : token.definition = key)
      (known : shared.registry.Knows token) : Bindable shared key (.promise token)
  | value {serial : Nat} {token : Token} {allocation : Allocation} (own : token.definition = key)
      (known : shared.registry.Knows token) (issued : serial < shared.entriesMinted) :
      Bindable shared key (.minted serial (some token) (some allocation))

/-- What may stand in a table: the tombstone, or a value for a token that was given out. -/
inductive Shelved (registry : Registry) : Entry → Prop where
  | tombstone : Shelved registry .tombstone
  | value {serial : Nat} {token : Token} {allocation : Allocation}
      (known : registry.Knows token) :
      Shelved registry (.minted serial (some token) (some allocation))

theorem Bindable.mono {shared later : Shared} {key : DefinitionKey} {entry : Entry}
    (bindable : entry.Bindable shared key) (leads : shared.registry.Leads later.registry)
    (minted : shared.entriesMinted ≤ later.entriesMinted) : entry.Bindable later key := by
  cases bindable with
  | promise own known => exact .promise own (known.mono leads)
  | value own known issued => exact .value own (known.mono leads) (Nat.lt_of_lt_of_le issued minted)

theorem Shelved.mono {registry later : Registry} {entry : Entry}
    (shelved : entry.Shelved registry) (leads : registry.Leads later) : entry.Shelved later := by
  cases shelved with
  | tombstone => exact .tombstone
  | value known => exact .value (known.mono leads)

end Entry

/-- The store binds the token's definition to this value under this very token. -/
def Store.Backs (store : Store) (token : Token) (allocation : Allocation) : Prop :=
  ∃ serial, store.binding? token.definition = some (.minted serial (some token) (some allocation))

namespace OpenStore

/-- A store between two steps of its protocol. -/
structure Sound (opened : OpenStore) : Prop where
  valid : opened.store.config.Valid
  doubled : ∃ doublings,
    opened.store.table.capacity = opened.store.config.initialEntries * 2 ^ doublings
  bindable : ∀ key entry, opened.store.binding? key = some entry →
    entry.Bindable opened.shared key
  shelved : ∀ entry, opened.store.table.Holds entry → entry.Shelved opened.registry
  coherent : ∀ token allocation, opened.store.table.Offers token allocation →
    opened.registry.isLive token = true → opened.store.Backs token allocation
  unbroken : opened.store.table.Unbroken opened.registry opened.store.config.probeLimit

/-- The table offers nothing under a live token of the definition. -/
def Silent (opened : OpenStore) (key : DefinitionKey) : Prop :=
  ∀ token allocation, token.definition = key → opened.store.table.Offers token allocation →
    opened.registry.isLive token = false

variable {opened : OpenStore} {key : DefinitionKey} {entry : Entry}

/-! ### Consequences -/

theorem roomy_of_doubled {config : Config} {capacity : Nat} {table : Table}
    (valid : config.Valid) (same : table.capacity = capacity)
    (doubled : ∃ doublings, capacity = config.initialEntries * 2 ^ doublings) :
    table.Roomy config.probeLimit := by
  obtain ⟨doublings, exactly⟩ := doubled
  refine ⟨valid.probePositive, ?_⟩
  rw [same, exactly]
  exact Nat.le_trans valid.probeFits (Nat.le_mul_of_pos_right _ (Nat.two_pow_pos doublings))

theorem Sound.roomy (sound : opened.Sound) :
    opened.store.table.Roomy opened.store.config.probeLimit :=
  roomy_of_doubled sound.valid rfl sound.doubled

theorem Sound.knows_of_offers (sound : opened.Sound) {token : Token} {allocation : Allocation}
    (offers : opened.store.table.Offers token allocation) : opened.registry.Knows token := by
  obtain ⟨entry, holds, tagged, carries⟩ := offers
  cases sound.shelved entry holds with
  | tombstone => cases tagged
  | value known =>
      cases tagged
      exact known

/-- A definition that is not bound to a value of its current generation is silent. -/
theorem Sound.silent (sound : opened.Sound)
    (unbacked : ∀ allocation, ¬ opened.store.Backs (opened.registry.current key) allocation) :
    opened.Silent key := by
  intro token allocation own offers
  cases live : opened.registry.isLive token with
  | false => rfl
  | true =>
      have current := Registry.eq_current_of_isLive live
      rw [own] at current
      exact absurd (current ▸ sound.coherent token allocation offers live) (unbacked allocation)

theorem Sound.silent_of_unbound (sound : opened.Sound)
    (unbound : opened.store.binding? key = none) : opened.Silent key := by
  refine sound.silent ?_
  rintro allocation ⟨serial, bound⟩
  rw [show (opened.registry.current key).definition = key from rfl, unbound] at bound
  cases bound

theorem Sound.silent_of_promise (sound : opened.Sound) {token : Token}
    (promised : opened.store.binding? key = some (.promise token)) : opened.Silent key := by
  refine sound.silent ?_
  rintro allocation ⟨serial, bound⟩
  rw [show (opened.registry.current key).definition = key from rfl, promised] at bound
  cases bound

theorem Sound.silent_of_outdated (sound : opened.Sound) {existing : Entry}
    (bound : opened.store.binding? key = some existing)
    (outdated : existing.hasTag (opened.registry.current key) = false) : opened.Silent key := by
  refine sound.silent ?_
  rintro allocation ⟨serial, backed⟩
  rw [show (opened.registry.current key).definition = key from rfl, bound] at backed
  cases backed
  simp [Entry.hasTag, Entry.tag?] at outdated

/-! ### Time passing -/

/-- Nothing that happens to the shared state makes a store unsound. -/
theorem Sound.advance {later : OpenStore} (sound : opened.Sound)
    (same : later.store = opened.store) (leads : opened.registry.Leads later.registry)
    (minted : opened.shared.entriesMinted ≤ later.shared.entriesMinted) : later.Sound := by
  have liveNow : ∀ token, opened.registry.Knows token → later.registry.isLive token = true →
      opened.registry.isLive token = true := fun token known => leads.isLive known
  refine ⟨same ▸ sound.valid, same ▸ sound.doubled, ?_, ?_, ?_, ?_⟩
  · rw [same]
    exact fun key entry bound => (sound.bindable key entry bound).mono leads minted
  · rw [same]
    exact fun entry holds => (sound.shelved entry holds).mono leads
  · rw [same]
    exact fun token allocation offers live =>
      sound.coherent token allocation offers (liveNow token (sound.knows_of_offers offers) live)
  · rw [same]
    intro position entry hash found live homed
    cases sound.shelved entry ⟨position, found⟩ with
    | tombstone => cases live
    | @value serial token allocation known =>
        have before : opened.registry.isLive token = true := liveNow token known live
        have homedBefore : opened.registry.hashOf? token = some hash := by
          rw [Registry.hashOf?_of_isLive before, ← leads.hash token.definition known.defined,
            ← Registry.hashOf?_of_isLive live]
          exact homed
        exact sound.unbroken position _ hash found before homedBefore

theorem Sound.count (sound : opened.Sound) (counter : Counter) (amount : Nat) :
    (opened.count counter amount).Sound :=
  sound.advance rfl (Registry.Leads.refl _) (Nat.le_refl _)

theorem Sound.bump (sound : opened.Sound) (key : DefinitionKey) : (opened.bump key).Sound :=
  sound.advance rfl (Registry.leads_bump _ key) (Nat.le_refl _)

theorem Sound.mint (sound : opened.Sound) (make : Nat → Entry) : (opened.mint make).2.Sound :=
  sound.advance rfl (Registry.Leads.refl _) (Nat.le_succ _)

/-- Ending a generation silences the definition. -/
theorem Sound.silent_bump (sound : opened.Sound) (key : DefinitionKey) :
    (opened.bump key).Silent key := by
  intro token allocation own offers
  have known : opened.registry.Knows token := sound.knows_of_offers offers
  rw [← own]
  exact Registry.isLive_bump_of_knows known

/-! ### Binding and unbinding -/

theorem backs_of_binding?_eq {store later : Store} {token : Token} {allocation : Allocation}
    (same : later.binding? token.definition = store.binding? token.definition)
    (backs : store.Backs token allocation) : later.Backs token allocation := by
  obtain ⟨serial, bound⟩ := backs
  exact ⟨serial, same.trans bound⟩

/-- Bindings of silent definitions may change at will. -/
theorem Sound.rebind {store : Store} (sound : opened.Sound)
    (config : store.config = opened.store.config) (table : store.table = opened.store.table)
    (bindable : ∀ other existing, store.binding? other = some existing →
      existing.Bindable opened.shared other)
    (kept : ∀ other, store.binding? other = opened.store.binding? other ∨ opened.Silent other) :
    (OpenStore.mk opened.shared store).Sound := by
  refine ⟨config ▸ sound.valid, config ▸ table ▸ sound.doubled, bindable, ?_, ?_, ?_⟩
  · rw [table]
    exact sound.shelved
  · rw [table]
    intro token allocation offers live
    rcases kept token.definition with same | silent
    · exact backs_of_binding?_eq same (sound.coherent token allocation offers live)
    · exact absurd (live.symm.trans (silent token allocation rfl offers)) (by decide)
  · rw [config, table]
    exact sound.unbroken

theorem Sound.bind (sound : opened.Sound) (bindable : entry.Bindable opened.shared key)
    (silent : opened.Silent key) : (opened.bind key entry).Sound := by
  refine sound.rebind rfl rfl ?_ ?_
  · intro other existing bound
    rw [Store.binding?_bind] at bound
    split at bound
    · next same =>
        cases bound
        exact same ▸ bindable
    · exact sound.bindable other existing bound
  · intro other
    rw [Store.binding?_bind]
    split
    · next same => exact Or.inr (same ▸ silent)
    · exact Or.inl rfl

theorem Sound.unbind (sound : opened.Sound) (silent : opened.Silent key) :
    (opened.unbind key).Sound := by
  refine sound.rebind rfl rfl ?_ ?_
  · intro other existing bound
    rw [Store.binding?_unbind] at bound
    split at bound
    · cases bound
    · exact sound.bindable other existing bound
  · intro other
    rw [Store.binding?_unbind]
    split
    · next same => exact Or.inr (same ▸ silent)
    · exact Or.inl rfl

/-! ### Working on the table -/

/-- A table that offers nothing new may take the place of a store's table. -/
theorem Sound.withTable {table : Table} (sound : opened.Sound)
    (doubled : ∃ doublings, table.capacity = opened.store.config.initialEntries * 2 ^ doublings)
    (held : ∀ entry, table.Holds entry → entry = .tombstone ∨ opened.store.table.Holds entry)
    (unbroken : table.Unbroken opened.registry opened.store.config.probeLimit) :
    (opened.withTable table).Sound := by
  refine ⟨sound.valid, doubled, sound.bindable, ?_, ?_, unbroken⟩
  · intro entry holds
    rcases held entry holds with rfl | before
    · exact .tombstone
    · exact sound.shelved entry before
  · rintro token allocation ⟨entry, holds, tagged, carries⟩ live
    rcases held entry holds with rfl | before
    · cases tagged
    · exact sound.coherent token allocation ⟨entry, before, tagged, carries⟩ live

/-- The bound entry may be put into the table. -/
theorem Sound.insert (sound : opened.Sound) {serial : Nat} {token : Token}
    {allocation : Allocation} (alive : opened.registry.isAlive key = true)
    (current : token = opened.registry.current key)
    (bound : opened.store.binding? key = some (.minted serial (some token) (some allocation))) :
    (opened.insert key (.minted serial (some token) (some allocation))).Sound := by
  subst current
  refine ⟨sound.valid, ?_, sound.bindable, ?_, ?_, ?_⟩
  · obtain ⟨doublings, exactly⟩ := sound.doubled
    exact ⟨doublings, (Table.capacity_add _ _ _ _ _).trans exactly⟩
  · intro entry holds
    rcases Table.holds_add holds with rfl | before
    · exact .value (Registry.knows_current (Registry.lt_size_of_isAlive alive))
    · exact sound.shelved entry before
  · rintro token carried ⟨entry, holds, tagged, carries⟩ live
    rcases Table.holds_add holds with rfl | before
    · cases tagged
      cases carries
      exact ⟨serial, bound⟩
    · exact sound.coherent token carried ⟨entry, before, tagged, carries⟩ live
  · exact Table.unbroken_add sound.roomy sound.unbroken
      (Registry.hashOf?_of_isLive (Registry.isLive_current _ alive))

end OpenStore

end ContextCache
