import ContextCache.Proofs.Table.Survival
import ContextCache.Table.Probe

/-!
Contract: what gets to a home slot, and how many entries a table holds afterwards.

Insertion writes the newcomer at its home and nowhere else, without looking whether the table
holds it already. The entry that it pushes out is written once again or lost. Promotion and
growth move entries, and sweeping keeps those that are live. So of any kind of live entries
there is at most one more after an insertion, and there are no more after anything else.

Owns:
- the occupant of the home slot after an insertion and after a promotion;
- live entries that an insertion leaves where they are;
- upper bounds of the number of entries of a kind after every operation on a table;
- the live slots of one definition.

Does not own: whether the newcomer was in the table before.
-/

set_option autoImplicit false

namespace ContextCache

/-- The entry belongs to the current generation of a definition that exists, which is this
one. -/
def Entry.isLiveFor (registry : Registry) (key : DefinitionKey) (entry : Entry) : Bool :=
  entry.isLive registry && entry.tag?.any fun token => token.definition == key

namespace Table

variable {registry : Registry} {probeLimit : Nat} {table : Table} {hash : UInt32}
  {position : Nat} {entry held : Entry} {token : Token} {counts : Entry → Bool}

/-- The number of slots with a live entry of the definition. -/
def liveSlotsOf (table : Table) (registry : Registry) (key : DefinitionKey) : Nat :=
  table.entries.countP (Entry.isLiveFor registry key)

/-! ### At home -/

theorem slot_store_self (nonempty : 0 < table.capacity) (position : Nat)
    (occupant : Option Entry) : (table.store position occupant).slot position = occupant :=
  (slot_store table position position occupant nonempty).trans (if_pos rfl)

/-- Sheltering an entry leaves every other live entry where it is. -/
theorem slot_shelter_of_live {start count : Nat} (nonempty : 0 < table.capacity)
    (found : table.slot position = some held) (live : held.isLive registry = true) :
    (shelter registry entry start count table).slot position = some held := by
  induction count generalizing start with
  | zero => exact found
  | succ count inductionHypothesis =>
      have elsewhere : ∀ {occupant : Option Entry}, table.slot start = occupant →
          (∀ other, occupant = some other → other.isLive registry = false) →
          (table.store start (some entry)).slot position = some held := by
        intro occupant there dead
        rw [slot_store_ne nonempty, found]
        intro same
        rw [slot_congr same, there] at found
        exact absurd (live.symm.trans (dead held found)) (by decide)
      unfold shelter
      split
      · next vacant => exact elsewhere vacant nofun
      · next occupant there =>
          split
          · exact found
          · split
            · exact inductionHypothesis
            · next dead =>
                refine elsewhere there fun other same => ?_
                cases same
                exact Bool.eq_false_iff.mpr dead

/-- What is written at home stays there, and so does every live entry in another slot. -/
theorem slot_add_of_store (nonempty : 0 < table.capacity) (live : held.isLive registry = true)
    (written : (table.store (table.home hash) (some entry)).slot position = some held) :
    (table.add registry probeLimit hash entry).slot position = some held := by
  unfold add
  dsimp only
  split
  · next seated pushed =>
      unfold seat at pushed
      split at pushed
      · cases pushed
        exact written
      · next occupant atHome =>
          split at pushed
          · next same =>
              cases pushed
              rw [slot_store _ _ _ _ nonempty] at written
              split at written
              · next here =>
                  rw [slot_congr (show position ≡ table.home hash [MOD table.capacity] from here),
                    atHome, same]
                  exact written
              · exact written
          · cases (Prod.mk.inj pushed).2
            exact written
  · next displaced seated pushed =>
      obtain ⟨-, -, rfl⟩ := slot_of_seat pushed
      exact slot_shelter_of_live (by simpa using nonempty) written live

/-- A live newcomer is at home afterwards: what it pushes out does not push it out. -/
theorem slot_add_home (nonempty : 0 < table.capacity) (live : entry.isLive registry = true) :
    (table.add registry probeLimit hash entry).slot (table.home hash) = some entry :=
  slot_add_of_store nonempty live (slot_store_self nonempty _ _)

/-- Live entries that were not at the newcomer's home stay where they are. -/
theorem slot_add_of_live (nonempty : 0 < table.capacity) (live : held.isLive registry = true)
    (found : table.slot position = some held)
    (elsewhere : ¬ position ≡ table.home hash [MOD table.capacity]) :
    (table.add registry probeLimit hash entry).slot position = some held :=
  slot_add_of_store nonempty live ((slot_store_ne nonempty _ elsewhere).trans found)

theorem not_home_of_mem_backupRun (roomy : table.Roomy probeLimit)
    (member : (position, entry) ∈ table.backupRun probeLimit (table.home hash)) :
    ¬ position ≡ table.home hash [MOD table.capacity] := by
  obtain ⟨steps, positive, below, rfl, -⟩ := mem_backupRun_iff.mp member
  intro same
  have wrapped : steps ≡ 0 [MOD table.capacity] := Nat.ModEq.add_left_cancel' _ same
  have zero := wrapped.eq_of_lt_of_lt (Nat.lt_of_lt_of_le below roomy.fits) roomy.nonempty
  omega

/-- A promotion that finds an entry brings it home. -/
theorem slot_promote_home {found : Nat × Entry} (roomy : table.Roomy probeLimit)
    (occupied : table.isOccupied (table.home hash) = true)
    (first : (table.backupRun probeLimit (table.home hash)).find? (isPromotable token) =
      some found) :
    (table.promote registry probeLimit hash token).1 = true ∧
      (table.promote registry probeLimit hash token).2.slot (table.home hash) = some found.2 := by
  have nonempty := roomy.nonempty
  obtain ⟨oldHome, atHome⟩ := Option.isSome_iff_exists.mp occupied
  obtain ⟨position, promoted⟩ := found
  obtain ⟨occupant, target⟩ := exists_mem_backupRun_of_target registry first
  have differs := not_home_of_mem_backupRun roomy (List.mem_of_find?_eq_some first)
  have targetDiffers := not_home_of_mem_backupRun roomy target
  unfold promote
  dsimp only
  rw [atHome, first]
  refine ⟨rfl, ?_⟩
  dsimp only
  rw [slot_store_ne (by simpa using nonempty), slot_store_ne (by simpa using nonempty)]
  · exact slot_store_self nonempty _ _
  · rw [capacity_store]
    exact fun same => differs same.symm
  · rw [capacity_store, capacity_store]
    exact fun same => targetDiffers same.symm

/-! ### How many -/

theorem countP_entries (table : Table) (counts : Entry → Bool) :
    table.entries.countP counts = table.slots.toList.countP (Option.any counts) := by
  unfold entries
  rw [List.countP_filterMap]
  apply List.countP_congr
  intro occupant _
  cases occupant <;> simp

/-- One write changes the number of entries of a kind by what it takes away and what it
brings. -/
theorem countP_entries_store (nonempty : 0 < table.capacity) (position : Nat)
    (occupant : Option Entry) (counts : Entry → Bool) :
    (table.store position occupant).entries.countP counts +
        (if (table.slot position).any counts then 1 else 0) =
      table.entries.countP counts + (if occupant.any counts then 1 else 0) := by
  rw [countP_entries, countP_entries]
  exact countP_store nonempty position occupant (Option.any counts)

theorem countP_store_le (nonempty : 0 < table.capacity) (position : Nat) (entry : Entry)
    (counts : Entry → Bool) :
    (table.store position (some entry)).entries.countP counts ≤
      table.entries.countP counts + if counts entry then 1 else 0 := by
  have written := countP_entries_store nonempty position (some entry) counts
  rw [Option.any_some] at written
  omega

theorem countP_shelter_le {start count : Nat} (nonempty : 0 < table.capacity)
    (counts : Entry → Bool) :
    (shelter registry entry start count table).entries.countP counts ≤
      table.entries.countP counts + if counts entry then 1 else 0 := by
  induction count generalizing start with
  | zero => exact Nat.le_add_right _ _
  | succ count inductionHypothesis =>
      unfold shelter
      split
      · exact countP_store_le nonempty start entry counts
      · split
        · exact Nat.le_add_right _ _
        · split
          · exact inductionHypothesis
          · exact countP_store_le nonempty start entry counts

/-- An insertion adds the newcomer at most once, and what it pushes out not at all. -/
theorem countP_add_le (nonempty : 0 < table.capacity) (counts : Entry → Bool) :
    (table.add registry probeLimit hash entry).entries.countP counts ≤
      table.entries.countP counts + if counts entry then 1 else 0 := by
  unfold add
  dsimp only
  split
  · next seated pushed =>
      unfold seat at pushed
      split at pushed
      · cases pushed
        exact countP_store_le nonempty (table.home hash) entry counts
      · split at pushed
        · cases pushed
          exact Nat.le_add_right _ _
        · cases (Prod.mk.inj pushed).2
          exact countP_store_le nonempty (table.home hash) entry counts
  · next displaced seated pushed =>
      obtain ⟨found, -, rfl⟩ := slot_of_seat pushed
      have written := countP_entries_store nonempty (table.home hash) (some entry) counts
      rw [found, Option.any_some, Option.any_some] at written
      refine Nat.le_trans (countP_shelter_le (by simpa using nonempty) counts) ?_
      omega

theorem countP_readd_le (nonempty : 0 < table.capacity) (counts : Entry → Bool) :
    (table.readd registry probeLimit entry).entries.countP counts ≤
      table.entries.countP counts + if counts entry then 1 else 0 := by
  unfold readd
  split
  · exact countP_add_le nonempty counts
  · exact Nat.le_add_right _ _

theorem countP_entries_empty (capacity : Nat) (counts : Entry → Bool) :
    (empty capacity).entries.countP counts = 0 := by
  rw [List.countP_eq_zero]
  intro entry member
  exact absurd (holds_of_mem_entries member) (not_holds_empty capacity)

/-- A table that is filled anew holds no entry more often than the old one. -/
theorem countP_regrown_le {length : Nat} (nonempty : 0 < length) (counts : Entry → Bool) :
    (OpenStore.regrown registry probeLimit length table).entries.countP counts ≤
      table.entries.countP counts := by
  have gathered : ∀ (entries : List Entry) (grown : Table), 0 < grown.capacity →
      (entries.foldl (Table.readd registry probeLimit) grown).entries.countP counts ≤
        grown.entries.countP counts + entries.countP counts := by
    intro entries
    induction entries with
    | nil => exact fun grown _ => Nat.le_add_right _ _
    | cons head tail inductionHypothesis =>
        intro grown roomy
        have rest := inductionHypothesis (grown.readd registry probeLimit head)
          (by rwa [capacity_readd])
        have first : (grown.readd registry probeLimit head).entries.countP counts ≤
            grown.entries.countP counts + if counts head then 1 else 0 :=
          countP_readd_le roomy counts
        rw [List.countP_cons]
        exact Nat.le_trans rest (by omega)
  have gained := gathered (table.entries.filter fun entry => entry.isLive registry)
    (empty length) (by rwa [capacity_empty])
  rw [countP_entries_empty, Nat.zero_add] at gained
  exact Nat.le_trans gained (List.filter_sublist.countP_le)

/-- The three writes of a promotion move two entries and lose one at most. -/
theorem countP_promote_le (roomy : table.Roomy probeLimit) (hash : UInt32) (token : Token)
    (counts : Entry → Bool) (tombstone : counts .tombstone = false) :
    (table.promote registry probeLimit hash token).2.entries.countP counts ≤
      table.entries.countP counts := by
  have nonempty := roomy.nonempty
  unfold promote
  dsimp only
  split
  · next oldHome position promoted atHome first =>
      have member := List.mem_of_find?_eq_some first
      obtain ⟨-, -, -, -, there, -⟩ := mem_backupRun_iff.mp member
      let brought := table.store (table.home hash) (some promoted)
      let entombed := brought.store position (some .tombstone)
      have bringing := countP_entries_store nonempty (table.home hash) (some promoted) counts
      have still : brought.slot position = some promoted :=
        (slot_store_ne nonempty _ (not_home_of_mem_backupRun roomy member)).trans there
      have entombing : entombed.entries.countP counts + _ = brought.entries.countP counts + _ :=
        countP_entries_store (by simpa [brought] using nonempty) position (some .tombstone) counts
      rw [still, Option.any_some, Option.any_some, tombstone] at entombing
      rw [atHome, Option.any_some, Option.any_some] at bringing
      have bounded : ∀ moved, (counts moved = true → counts oldHome = true) → ∀ target,
          (entombed.store target (some moved)).entries.countP counts ≤
            table.entries.countP counts := by
        intro moved own target
        have moving : (entombed.store target (some moved)).entries.countP counts ≤ _ :=
          countP_store_le (by simpa [entombed, brought] using nonempty) target moved counts
        have kept : (if counts moved then 1 else 0) ≤ if counts oldHome then 1 else 0 := by
          split
          · next new => rw [if_pos (own new)]
          · exact Nat.zero_le _
        change brought.entries.countP counts + _ = _ at bringing
        simp only [Bool.false_eq_true, if_false] at entombing
        omega
      split
      · exact bounded oldHome id _
      · exact bounded .tombstone (fun counted => absurd (tombstone.symm.trans counted) (by decide)) _
  · exact Nat.le_refl _

/-- A sweep keeps every kind of live entries as often as it was there. -/
theorem countP_sweep {start count : Nat} (roomy : table.Roomy probeLimit)
    (counts : Entry → Bool) (lives : ∀ entry, counts entry = true → entry.isLive registry = true) :
    (table.sweep registry probeLimit start count).table.entries.countP counts =
      table.entries.countP counts := by
  have living : ∀ table : Table,
      table.entries.countP counts = (table.liveEntries registry).countP counts := by
    intro table
    unfold liveEntries
    rw [List.countP_filter]
    apply List.countP_congr
    intro entry _
    rw [Bool.and_eq_true]
    exact ⟨fun counted => ⟨counted, lives entry counted⟩, And.left⟩
  have tidied : Tidied registry table (table.sweep registry probeLimit start count).table :=
    tidied_sweep roomy
  rw [living, living table]
  exact tidied.perm.countP_eq counts

end Table

end ContextCache
