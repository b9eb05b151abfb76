import ContextCache.Proofs.Store.Coherence
import ContextCache.Proofs.Table.Sweeping

/-!
Contract: work on a store's table that no reader of an existing definition notices.

Sweeping, expunging, growing and promoting change what the table finds fast and which
dropped definitions are still bound. They leave the registry, the numbering of entries,
the configuration and the binding of every existing definition as they were.

Owns:
- what housekeeping leaves alone;
- that every piece of housekeeping is sound and leaves it alone.

Does not own: when housekeeping is done.
-/

set_option autoImplicit false

namespace ContextCache

namespace OpenStore

/-- What a reader of existing definitions could notice is the same before and after. -/
structure Keeps (before after : OpenStore) : Prop where
  registry : after.registry = before.registry
  minted : after.shared.entriesMinted = before.shared.entriesMinted
  config : after.store.config = before.store.config
  binding : ∀ key, before.registry.isAlive key = true →
    after.store.binding? key = before.store.binding? key

theorem Keeps.refl (opened : OpenStore) : Keeps opened opened :=
  ⟨rfl, rfl, rfl, fun _ _ => rfl⟩

theorem Keeps.trans {first second third : OpenStore} (earlier : Keeps first second)
    (later : Keeps second third) : Keeps first third where
  registry := later.registry.trans earlier.registry
  minted := later.minted.trans earlier.minted
  config := later.config.trans earlier.config
  binding := fun key alive =>
    (later.binding key (earlier.registry.symm ▸ alive)).trans (earlier.binding key alive)

variable {opened : OpenStore}

theorem keeps_count (opened : OpenStore) (counter : Counter) (amount : Nat) :
    Keeps opened (opened.count counter amount) :=
  ⟨rfl, rfl, rfl, fun _ _ => rfl⟩

theorem keeps_withTable (opened : OpenStore) (table : Table) :
    Keeps opened (opened.withTable table) :=
  ⟨rfl, rfl, rfl, fun _ _ => rfl⟩

theorem keeps_insert (opened : OpenStore) (key : DefinitionKey) (entry : Entry) :
    Keeps opened (opened.insert key entry) :=
  keeps_withTable opened _

/-! ### Sweeping -/

theorem keeps_adopt (opened : OpenStore) (swept : Table.Swept) : Keeps opened (opened.adopt swept) :=
  (keeps_withTable opened swept.table).trans (keeps_count _ _ _)

theorem Sound.adopt_sweep (sound : opened.Sound) (start count : Nat) :
    (opened.adopt (opened.store.table.sweep opened.registry opened.store.config.probeLimit
      start count)).Sound := by
  refine Sound.count ?_ _ _
  refine sound.withTable ?_ (fun entry holds => Table.holds_sweep holds)
    (Table.unbroken_sweep sound.roomy sound.unbroken)
  obtain ⟨doublings, exactly⟩ := sound.doubled
  exact ⟨doublings, (Table.capacity_sweep _ _ _ _ _).trans exactly⟩

theorem keeps_sweepAround (opened : OpenStore) (key : DefinitionKey) :
    Keeps opened (opened.sweepAround key) :=
  keeps_adopt opened _

theorem Sound.sweepAround (sound : opened.Sound) (key : DefinitionKey) :
    (opened.sweepAround key).Sound :=
  sound.adopt_sweep _ _

theorem keeps_sweepAll (opened : OpenStore) : Keeps opened opened.sweepAll :=
  keeps_adopt opened _

theorem Sound.sweepAll (sound : opened.Sound) : opened.sweepAll.Sound :=
  sound.adopt_sweep _ _

/-! ### Expunging -/

theorem lookup_filter_keys (keep : DefinitionKey → Bool) (bindings : List (DefinitionKey × Entry))
    (key : DefinitionKey) :
    (bindings.filter fun bound => keep bound.1).lookup key =
      if keep key then bindings.lookup key else none := by
  induction bindings with
  | nil => simp
  | cons head tail inductionHypothesis =>
      obtain ⟨headKey, headEntry⟩ := head
      by_cases same : key = headKey
      · subst same
        cases kept : keep key with
        | true => simp [kept]
        | false => simpa [kept] using inductionHypothesis
      · have differs : (key == headKey) = false := by simpa using same
        rw [List.filter_cons]
        split
        · rw [List.lookup_cons, differs, List.lookup_cons, differs]
          exact inductionHypothesis
        · rw [List.lookup_cons, differs]
          exact inductionHypothesis

theorem binding?_expunge (opened : OpenStore) (key : DefinitionKey) :
    opened.expunge.store.binding? key =
      if opened.registry.isAlive key then opened.store.binding? key else none :=
  lookup_filter_keys opened.registry.isAlive opened.store.bindings key

theorem keeps_expunge (opened : OpenStore) : Keeps opened opened.expunge := by
  refine ⟨rfl, rfl, rfl, fun key alive => ?_⟩
  rw [binding?_expunge, if_pos alive]

/-- Nobody looks for a dropped definition, so it is silent and may lose its binding. -/
theorem Sound.expunge (sound : opened.Sound) : opened.expunge.Sound := by
  let kept : Store :=
    { opened.store with
      bindings := opened.store.bindings.filter fun bound => opened.registry.isAlive bound.1 }
  have rebound : (OpenStore.mk opened.shared kept).Sound := by
    refine sound.rebind rfl rfl ?_ ?_
    · intro key entry bound
      have before := (binding?_expunge opened key).symm.trans bound
      split at before
      · exact sound.bindable key entry before
      · cases before
    · intro key
      by_cases alive : opened.registry.isAlive key = true
      · left
        exact (binding?_expunge opened key).trans (if_pos alive)
      · right
        intro token allocation own offers
        cases live : opened.registry.isLive token with
        | false => rfl
        | true => exact absurd (own ▸ Registry.isAlive_of_isLive live) alive
  exact rebound.count _ _

/-! ### Growth -/

theorem capacity_regrown (registry : Registry) (probeLimit length : Nat) (table : Table) :
    (regrown registry probeLimit length table).capacity = length := by
  have gathered : ∀ (entries : List Entry) (grown : Table),
      (entries.foldl (Table.readd registry probeLimit) grown).capacity = grown.capacity := by
    intro entries
    induction entries with
    | nil => exact fun grown => rfl
    | cons head tail inductionHypothesis =>
        exact fun grown => (inductionHypothesis _).trans (Table.capacity_readd _ _ _ _)
  exact (gathered _ _).trans (Table.capacity_empty length)

theorem keeps_grow (opened : OpenStore) : Keeps opened opened.grow := by
  unfold grow
  dsimp only
  split
  · exact Keeps.refl opened
  · exact ⟨rfl, rfl, rfl, fun _ _ => rfl⟩

theorem Sound.grow (sound : opened.Sound) : opened.grow.Sound := by
  unfold OpenStore.grow
  dsimp only
  split
  · exact sound
  · refine Sound.count ?_ _ _
    have doubled : ∃ doublings, (regrown opened.registry opened.store.config.probeLimit
        (opened.store.table.capacity * 2) opened.store.table).capacity =
          opened.store.config.initialEntries * 2 ^ doublings := by
      obtain ⟨doublings, exactly⟩ := sound.doubled
      refine ⟨doublings + 1, ?_⟩
      rw [capacity_regrown, exactly, Nat.pow_succ, Nat.mul_assoc]
    refine ⟨sound.valid, doubled, sound.bindable, ?_, ?_, ?_⟩
    · exact fun entry holds => sound.shelved entry (Table.holds_regrown holds)
    · rintro token allocation ⟨entry, holds, offered⟩ live
      exact sound.coherent token allocation ⟨entry, Table.holds_regrown holds, offered⟩ live
    · refine Table.unbroken_regrown sound.roomy.positive ?_
      exact Nat.le_trans sound.roomy.fits (Nat.le_mul_of_pos_right _ (by decide))

/-! ### Relief -/

theorem keeps_relieve (opened : OpenStore) : Keeps opened opened.relieve := by
  have swept : Keeps opened opened.expunge.sweepAll :=
    (keeps_expunge opened).trans (keeps_sweepAll _)
  unfold relieve reduceLoad
  dsimp only
  split
  · split
    · exact swept
    · exact swept.trans (keeps_grow _)
  · exact Keeps.refl opened

theorem Sound.relieve (sound : opened.Sound) : opened.relieve.Sound := by
  unfold OpenStore.relieve reduceLoad
  dsimp only
  split
  · split
    · exact sound.expunge.sweepAll
    · exact sound.expunge.sweepAll.grow
  · exact sound

/-- Publishing is relief and insertion. -/
theorem keeps_publish (opened : OpenStore) (key : DefinitionKey) (entry : Entry) :
    Keeps opened (opened.publish key entry) :=
  (keeps_relieve opened).trans (keeps_insert _ key entry)

theorem Sound.publish (sound : opened.Sound) {key : DefinitionKey} {serial : Nat}
    {token : Token} {allocation : Allocation} (alive : opened.registry.isAlive key = true)
    (current : token = opened.registry.current key)
    (bound : opened.store.binding? key = some (.minted serial (some token) (some allocation))) :
    (opened.publish key (.minted serial (some token) (some allocation))).Sound := by
  have kept := keeps_relieve opened
  refine sound.relieve.insert ?_ ?_ ((kept.binding key alive).trans bound)
  · rwa [kept.registry]
  · rwa [kept.registry]

/-! ### Promotion -/

theorem keeps_promote (opened : OpenStore) (key : DefinitionKey) (searched : Nat) :
    Keeps opened (opened.promote key searched).2 := by
  unfold promote
  split
  · exact keeps_withTable opened _
  · exact Keeps.refl opened

theorem Sound.promote (sound : opened.Sound) (key : DefinitionKey) (searched : Nat) :
    (opened.promote key searched).2.Sound := by
  unfold OpenStore.promote
  split
  · refine sound.withTable ?_ (fun entry holds => Table.holds_promote holds)
      (Table.unbroken_promote sound.roomy sound.unbroken rfl)
    obtain ⟨doublings, exactly⟩ := sound.doubled
    exact ⟨doublings, (Table.capacity_promote _ _ _ _ _).trans exactly⟩
  · exact sound

end OpenStore

end ContextCache
