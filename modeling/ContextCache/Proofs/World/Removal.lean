import ContextCache.Proofs.Table.Survival
import ContextCache.Proofs.World.Inspection

/-!
Contract: a sweep costs nothing that is live, and neither does a removal.

A removal ends one definition's generation and sweeps the slots around its home. To the sweep
the removed value is a leftover among others. Whatever belongs to another definition is still
in the table afterwards, and its lookup still answers with it.

Owns:
- what a removal does to a store, as a sweep after the end of a generation;
- the answers of a table for the live entries that it holds;
- what a sweep of any table keeps, and what a removal in a running program keeps.

Does not own: which leftovers a sweep takes out.
-/

set_option autoImplicit false

namespace ContextCache

namespace OpenStore

variable {opened : OpenStore} {key : DefinitionKey} {entry : Entry} {token : Token}

/-- The table answers for a definition with the live entry that it holds. -/
theorem Sound.answer?_of_live (sound : opened.Sound) (holds : opened.store.table.Holds entry)
    (tagged : entry.tag? = some token) (live : opened.registry.isLive token = true) :
    opened.answer? token.definition = entry.value? ∧ entry.value?.isSome = true := by
  obtain ⟨current, serial, allocation, carries, bound⟩ :=
    sound.binding?_of_live holds tagged live
  have offers : opened.store.table.Offers token allocation := ⟨entry, holds, tagged, carries⟩
  have searched := (Table.search_isSome_iff sound.roomy sound.unbroken live).mpr ⟨_, offers⟩
  rw [current] at searched
  obtain ⟨answer, answered⟩ := Option.isSome_iff_exists.mp searched
  have held := sound.value?_of_answer (Registry.isAlive_of_isLive live) answered
  have same : some allocation = some answer := (value?_of_binding? bound).symm.trans held
  constructor
  · rw [carries, same]
    exact answered
  · rw [carries]
    rfl

theorem remove_effective (removed : (opened.remove key).1 = true) :
    (opened.remove key).2 =
      (((opened.bump key).unbind key).count .invalidations 1).sweepAround key := by
  unfold remove at removed ⊢
  split at removed
  · cases removed
  · split at removed
    · cases removed
    · next valued => exact congrArg Prod.snd (if_neg valued)

/-- An effective removal tidies the table, as seen once the generation has ended. -/
theorem Sound.tidied_remove (sound : opened.Sound) (removed : (opened.remove key).1 = true) :
    Table.Tidied (opened.registry.bump key) opened.store.table
      (opened.remove key).2.store.table := by
  rw [remove_effective removed]
  exact Table.tidied_sweep sound.roomy

/-- An effective removal keeps every live entry of every other definition, as often as the
table held it, and the table answers with it. -/
theorem Sound.remove_keeps (sound : opened.Sound) (alive : opened.registry.isAlive key = true)
    (removed : (opened.remove key).1 = true) (tagged : entry.tag? = some token)
    (differs : token.definition ≠ key) (live : opened.registry.isLive token = true) :
    (opened.remove key).2.store.table.entries.count entry =
        opened.store.table.entries.count entry ∧
      (opened.store.table.Holds entry →
        (opened.remove key).2.registry.isLive token = true ∧
        (opened.remove key).2.store.table.Holds entry ∧
        (opened.remove key).2.answer? token.definition = entry.value? ∧
        entry.value?.isSome = true) := by
  have tidied := sound.tidied_remove removed
  have liveStill : (opened.registry.bump key).isLive token = true :=
    (Registry.isLive_bump_ne _ differs).trans live
  have entryLive : entry.isLive (opened.registry.bump key) = true :=
    (Entry.isLive_of_tag? tagged).trans liveStill
  have kept := tidied.kept entry entryLive
  refine ⟨kept, fun holds => ?_⟩
  have holdsStill : (opened.remove key).2.store.table.Holds entry := by
    apply Table.holds_of_mem_entries
    rw [← List.count_pos_iff, kept, List.count_pos_iff]
    exact Table.mem_entries_of_holds sound.roomy.nonempty holds
  have advanced : (opened.remove key).2.registry = opened.registry.bump key := by
    rw [remove_effective removed]
    rfl
  have soundStill : (opened.remove key).2.Sound := (sound.sensible_remove alive).sound
  rw [← advanced] at liveStill
  exact ⟨liveStill, holdsStill, soundStill.answer?_of_live holdsStill tagged liveStill⟩

end OpenStore

namespace World

/-- Sweeps lose nothing. A sweep of any range of a table in which no live entry is hidden and
the load is exact keeps every live entry as often as it was there, moves each one to a slot of
its own that is no farther from its home, hides none of them, and lowers the load by the number
of slots that became empty. So an effective removal of a definition's value leaves the live
entries of all other definitions in the table, where they are found. -/
theorem sweeps_lose_nothing {registry : Registry} {probeLimit : Nat} {table : Table}
    (roomy : table.Roomy probeLimit) (unbroken : table.Unbroken registry probeLimit)
    (counted : table.Counted) (start count : Nat) :
    ((table.sweep registry probeLimit start count).table.liveEntries registry).Perm
        (table.liveEntries registry) ∧
    (∃ destination, Table.Homeward registry table
      (table.sweep registry probeLimit start count).table destination) ∧
    (table.sweep registry probeLimit start count).table.Unbroken registry probeLimit ∧
    (table.sweep registry probeLimit start count).table.load +
        table.emptied (table.sweep registry probeLimit start count).table = table.load ∧
    ∀ (world : World) (place : Place), Reachable world → world.Usable place →
      (world.operate place .remove).1 = .removed true →
      ∀ entry token, entry.tag? = some token → token.definition ≠ place.definition →
        world.registry.isLive token = true →
        ((world.operate place .remove).2.openStore place.context).store.table.entries.count entry =
            (world.openStore place.context).store.table.entries.count entry ∧
        ((world.openStore place.context).store.table.Holds entry →
          (world.operate place .remove).2.registry.isLive token = true ∧
          ((world.operate place .remove).2.openStore place.context).store.table.Holds entry ∧
          ((world.operate place .remove).2.openStore place.context).answer? token.definition =
            entry.value? ∧
          entry.value?.isSome = true) := by
  have tidied : Table.Tidied registry table (table.sweep registry probeLimit start count).table :=
    Table.tidied_sweep roomy
  refine ⟨tidied.perm, tidied.homeward, Table.unbroken_sweep roomy unbroken,
    tidied.load counted (counted.sweep roomy), ?_⟩
  intro world place reachable usable effective entry token tagged differs live
  have removed : ((world.openStore place.context).remove place.definition).1 = true :=
    Outcome.removed.inj effective
  have opened := openStore_operate usable .remove
  have keeps := (reachable.sound place.context).remove_keeps usable.alive removed tagged differs live
  rw [opened]
  exact keeps

/-- The small world with a second definition, after both have been computed. -/
def smallPair : World :=
  (((smallComputed.withRegistry Registry.define).2.operate ⟨1, 0⟩ .start).2.operate ⟨1, 0⟩
    (.commit ⟨1, 0⟩ ⟨8⟩)).2

theorem reachable_smallPair : Reachable smallPair :=
  ((reachable_smallComputed.next .defined).operate ⟨by decide, by decide⟩ .start).operate
    ⟨by decide, by decide⟩ _

/-- In the small world with two definitions, a sweep after the first one's generation has
ended empties one slot; and when its value is removed, the second one is still found. -/
theorem sweeps_lose_nothing_small :
    ((smallPair.openStore 0).store.table.sweep (smallPair.registry.bump 0) 2 0 5).table.load +
        (smallPair.openStore 0).store.table.emptied
          ((smallPair.openStore 0).store.table.sweep (smallPair.registry.bump 0) 2 0 5).table = 2 ∧
      (smallPair.openStore 0).store.table.emptied
        ((smallPair.openStore 0).store.table.sweep (smallPair.registry.bump 0) 2 0 5).table = 1 ∧
      ((smallPair.operate ⟨0, 0⟩ .remove).2.openStore 0).answer? 1 = some ⟨8⟩ :=
  have bumped := (reachable_smallPair.sound 0).bump 0
  have keeps := sweeps_lose_nothing bumped.roomy bumped.unbroken
    (reachable_smallPair.measured.store 0).counted 0 5
  ⟨keeps.2.2.2.1.trans (by decide), by decide,
    ((keeps.2.2.2.2 smallPair ⟨0, 0⟩ reachable_smallPair ⟨by decide, by decide⟩ (by decide)
      (.minted 1 (some ⟨1, 0⟩) (some ⟨8⟩)) ⟨1, 0⟩ rfl (by decide) (by decide)).2
      ⟨3, by decide⟩).2.2.1⟩

end World

end ContextCache
