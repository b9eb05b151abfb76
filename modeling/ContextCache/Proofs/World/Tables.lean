import ContextCache.Proofs.World.Runs

/-!
Contract: what the tables of a running program hold and find.

Both results range over every world that can come about. The first says that a table
never contradicts its store, the second that a table never hides what it holds.

Owns:
- the agreement of live slots and lookups with bindings;
- the completeness of lookups on existing definitions.

Does not own: the invariants themselves, which every step keeps.
-/

set_option autoImplicit false

namespace ContextCache

theorem Entry.isLive_of_tag? {registry : Registry} {entry : Entry} {token : Token}
    (tagged : entry.tag? = some token) : entry.isLive registry = registry.isLive token := by
  unfold Entry.isLive
  rw [tagged]

namespace OpenStore

variable {opened : OpenStore} {key : DefinitionKey} {allocation : Allocation}

/-- What a slot with a live entry says about the binding of the entry's definition. -/
theorem Sound.binding?_of_live (sound : opened.Sound) {entry : Entry} {token : Token}
    (holds : opened.store.table.Holds entry) (tagged : entry.tag? = some token)
    (live : opened.registry.isLive token = true) :
    token = opened.registry.current token.definition ∧ ∃ serial allocation,
      entry.value? = some allocation ∧
      opened.store.binding? token.definition =
        some (.minted serial (some token) (some allocation)) := by
  refine ⟨Registry.eq_current_of_isLive live, ?_⟩
  cases sound.shelved entry holds with
  | tombstone => cases tagged
  | @value shelf other allocation known =>
      cases tagged
      have offers : opened.store.table.Offers token allocation := ⟨_, holds, rfl, rfl⟩
      obtain ⟨serial, bound⟩ := sound.coherent token allocation offers live
      exact ⟨serial, allocation, rfl, bound⟩

/-- Whatever the table answers is the bound value. -/
theorem Sound.value?_of_offers (sound : opened.Sound) (alive : opened.registry.isAlive key = true)
    (offers : opened.store.table.Offers (opened.registry.current key) allocation) :
    opened.store.value? key = some allocation :=
  value?_of_backs
    (sound.coherent _ allocation offers (Registry.isLive_current opened.registry alive))

/-- The table offers nothing for a definition that is unbound or promised. -/
theorem Sound.offers_nothing (sound : opened.Sound) (alive : opened.registry.isAlive key = true)
    (unvalued : ∀ bound, opened.store.binding? key = some bound → bound.isPromise = true)
    (allocation : Allocation) :
    ¬ opened.store.table.Offers (opened.registry.current key) allocation := by
  intro offers
  obtain ⟨serial, bound⟩ := sound.coherent _ allocation offers
    (Registry.isLive_current opened.registry alive)
  exact absurd (unvalued _ bound) (by simp [Entry.isPromise])

theorem Sound.value?_of_answer (sound : opened.Sound) (alive : opened.registry.isAlive key = true)
    (answered : opened.answer? key = some allocation) : opened.store.value? key = some allocation :=
  sound.value?_of_offers alive (Table.offers_of_search answered)

/-- A start returns the bound value where there is one. -/
theorem Sound.start_of_value? (sound : opened.Sound) (alive : opened.registry.isAlive key = true)
    (held : opened.store.value? key = some allocation) :
    (opened.start key).1.value? = some allocation ∧ (opened.start key).1.isPromise = false := by
  have effect : Effect opened _ key .start (.started (opened.start key).1) :=
    (sound.operate alive .start).effect
  generalize (opened.start key).1 = entry at effect
  cases effect with
  | promised vacant => exact absurd (vacant.symm.trans held) (by simp)
  | answered carried =>
      rw [carried] at held
      exact ⟨held, rfl⟩

end OpenStore

namespace World

variable {world : World} {context : ContextKey} {store : Store}

theorem Reachable.sound_store (reachable : Reachable world)
    (found : world.store? context = some store) : (OpenStore.mk world.shared store).Sound := by
  have sound := reachable.sound context
  rw [← store?_eq_openStore found]
  exact sound

/-- Tables agree with their stores. A live entry in a slot belongs to the current generation
of its definition, which is bound under that generation to the same value; an answer of the
table is the value that a start returns; and nothing is answered for a definition that is
unbound or promised. -/
theorem tables_agree_with_bindings (reachable : Reachable world)
    (found : world.store? context = some store) :
    (∀ position entry token, store.table.slot position = some entry →
      entry.tag? = some token → entry.isLive world.registry = true →
        token = world.registry.current token.definition ∧
        ∃ bound, store.binding? token.definition = some bound ∧ bound.isPromise = false ∧
          bound.tag? = entry.tag? ∧ bound.value? = entry.value? ∧ entry.value?.isSome = true) ∧
    (∀ key allocation, world.registry.isAlive key = true →
      (store.table.probeHome (world.registry.hash key) (world.registry.current key) =
          some allocation ∨
        ∃ position, store.table.probeBackup store.config.probeLimit (world.registry.hash key)
          (world.registry.current key) = some (position, allocation)) →
        (world.withStore context fun opened => opened.start key).1.value? = some allocation ∧
        (world.withStore context fun opened => opened.start key).1.isPromise = false) ∧
    (∀ key, world.registry.isAlive key = true →
      (∀ bound, store.binding? key = some bound → bound.isPromise = true) →
        store.table.probeHome (world.registry.hash key) (world.registry.current key) = none ∧
        store.table.probeBackup store.config.probeLimit (world.registry.hash key)
          (world.registry.current key) = none) := by
  have sound := reachable.sound_store found
  have same : world.openStore context = OpenStore.mk world.shared store := by
    rw [← store?_eq_openStore found]
    rfl
  refine ⟨?_, ?_, ?_⟩
  · intro position entry token there tagged live
    have tokenLive := (Entry.isLive_of_tag? tagged).symm.trans live
    obtain ⟨current, serial, allocation, carries, bound⟩ :=
      sound.binding?_of_live ⟨position, there⟩ tagged tokenLive
    refine ⟨current, _, bound, rfl, tagged.symm, carries.symm, ?_⟩
    rw [carries]
    rfl
  · intro key allocation alive answered
    have offers : store.table.Offers (world.registry.current key) allocation := by
      rcases answered with atHome | ⟨position, behind⟩
      · exact Table.offers_of_probeHome atHome
      · exact Table.offers_of_probeBackup behind
    show ((world.openStore context).start key).1.value? = some allocation ∧
      ((world.openStore context).start key).1.isPromise = false
    rw [same]
    exact sound.start_of_value? alive (sound.value?_of_offers alive offers)
  · intro key alive unvalued
    have nothing := sound.offers_nothing alive unvalued
    constructor
    · cases answered : store.table.probeHome (world.registry.hash key)
        (world.registry.current key) with
      | none => rfl
      | some allocation => exact absurd (Table.offers_of_probeHome answered) (nothing allocation)
    · cases answered : store.table.probeBackup store.config.probeLimit
        (world.registry.hash key) (world.registry.current key) with
      | none => rfl
      | some answer =>
          exact absurd (Table.offers_of_probeBackup answered) (nothing answer.2)

/-- In the small world the table's answer is what a start returns. -/
theorem tables_agree_with_bindings_small :
    (smallComputed.withStore 0 fun opened => opened.start 0).1.value? = some ⟨7⟩ ∧
      (smallComputed.withStore 0 fun opened => opened.start 0).1.isPromise = false :=
  (tables_agree_with_bindings reachable_smallComputed store?_smallComputed).2.1 0 ⟨7⟩
    (by decide) (Or.inl (by decide))

/-- Tables hide nothing. A live entry stands within the probe limit of its home slot and all
slots in between are occupied; so looking an existing definition up finds a value exactly if
some slot holds a live entry of that definition. -/
theorem tables_hide_nothing (reachable : Reachable world)
    (found : world.store? context = some store) :
    (∀ position entry token, store.table.slot position = some entry →
      entry.tag? = some token → entry.isLive world.registry = true →
        store.table.distance (world.registry.hash token.definition) position <
          store.config.probeLimit ∧
        ∀ steps, steps ≤ store.table.distance (world.registry.hash token.definition) position →
          store.table.isOccupied
            (store.table.home (world.registry.hash token.definition) + steps) = true) ∧
    (∀ key, world.registry.isAlive key = true →
      ((store.table.probeHome (world.registry.hash key) (world.registry.current key)).isSome =
          true ∨
        (store.table.probeBackup store.config.probeLimit (world.registry.hash key)
          (world.registry.current key)).isSome = true ↔
        ∃ position entry token, store.table.slot position = some entry ∧
          entry.tag? = some token ∧ token.definition = key ∧
          entry.isLive world.registry = true)) := by
  have sound := reachable.sound_store found
  refine ⟨?_, ?_⟩
  · intro position entry token there tagged live
    have tokenLive := (Entry.isLive_of_tag? tagged).symm.trans live
    have homed : entry.hashOf? world.registry = some (world.registry.hash token.definition) := by
      unfold Entry.hashOf?
      rw [tagged]
      exact Registry.hashOf?_of_isLive tokenLive
    have reaches := sound.unbroken position entry _ there live homed
    exact ⟨reaches.inside, reaches.occupied⟩
  · intro key alive
    have live := Registry.isLive_current world.registry alive
    have searched := Table.search_isSome_iff sound.roomy sound.unbroken live
    unfold Table.search at searched
    rw [Option.isSome_or, Bool.or_eq_true, Option.isSome_map] at searched
    rw [show (world.registry.current key).definition = key from rfl] at searched
    apply searched.trans
    constructor
    · rintro ⟨allocation, entry, ⟨position, there⟩, tagged, -⟩
      exact ⟨position, entry, _, there, tagged, rfl, (Entry.isLive_of_tag? tagged).trans live⟩
    · rintro ⟨position, entry, token, there, tagged, rfl, entryLive⟩
      have tokenLive := (Entry.isLive_of_tag? tagged).symm.trans entryLive
      obtain ⟨current, serial, allocation, carries, -⟩ :=
        sound.binding?_of_live ⟨position, there⟩ tagged tokenLive
      exact ⟨allocation, entry, ⟨position, there⟩, tagged.trans (congrArg some current), carries⟩

/-- In the small world the table finds the definition, so one of its slots holds it. -/
theorem tables_hide_nothing_small :
    ∃ position entry token,
      (smallComputed.openStore 0).store.table.slot position = some entry ∧
        entry.tag? = some token ∧ token.definition = 0 ∧
        entry.isLive smallComputed.registry = true :=
  ((tables_hide_nothing reachable_smallComputed store?_smallComputed).2 0 (by decide)).mp
    (Or.inl (by decide))

end World

end ContextCache
