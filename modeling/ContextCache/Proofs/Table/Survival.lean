import ContextCache.Proofs.Table.Load

/-!
Contract: a sweep loses no live entry and takes none away from its home.

To the live entries, freeing a slot is a move of at most one of them: the refilling entry
leaves its slot for the freed one, which lies between its home and where it was. All others
stay. So over a whole sweep every live entry has a slot that it ends in, no two of them the
same one, and how often an entry is held does not change.

Owns:
- live entries by their slots, and moves of them towards their homes;
- what freeing one slot, and hence a sweep of any range, leaves of a table;
- the number of slots that a sweep empties, as the difference of the loads.

Does not own: whether live entries are still found, which is a matter of their windows.
-/

set_option autoImplicit false

namespace ContextCache

namespace Table

variable {registry : Registry} {probeLimit : Nat} {table before after : Table}
  {hole position : Nat} {entry : Entry}

/-- A live entry sits in the slot with this index. -/
structure LivesAt (table : Table) (registry : Registry) (position : Nat) (entry : Entry) :
    Prop where
  below : position < table.capacity
  slot : table.slot position = some entry
  live : entry.isLive registry = true

/-- Every live entry has a slot of its own to go to, and is no farther from its home there. -/
structure Homeward (registry : Registry) (before after : Table) (destination : Nat → Nat) :
    Prop where
  arrives : ∀ position entry, before.LivesAt registry position entry →
    after.LivesAt registry (destination position) entry
  closer : ∀ position entry, before.LivesAt registry position entry →
    after.dislocation registry (destination position) entry ≤
      before.dislocation registry position entry
  apart : ∀ first second entry other, before.LivesAt registry first entry →
    before.LivesAt registry second other → destination first = destination second →
    first = second

/-- Nothing live is lost, nothing goes away from its home, and no empty slot is filled. -/
structure Tidied (registry : Registry) (before after : Table) : Prop where
  capacity : after.capacity = before.capacity
  kept : ∀ entry, entry.isLive registry = true →
    after.entries.count entry = before.entries.count entry
  homeward : ∃ destination, Homeward registry before after destination
  occupied : ∀ position, after.isOccupied position = true → before.isOccupied position = true

/-- The live entries in the order of their slots. -/
def liveEntries (registry : Registry) (table : Table) : List Entry :=
  table.entries.filter fun entry => entry.isLive registry

/-- How many slots are occupied before and empty afterwards. -/
def emptied (before after : Table) : Nat :=
  (List.range before.capacity).countP fun position =>
    before.isOccupied position && !after.isOccupied position

/-! ### Moves, one after the other -/

theorem Homeward.refl (registry : Registry) (table : Table) :
    Homeward registry table table id where
  arrives := fun _ _ lives => lives
  closer := fun _ _ _ => Nat.le_refl _
  apart := fun _ _ _ _ _ _ same => same

theorem Homeward.trans {middle : Table} {first second : Nat → Nat}
    (earlier : Homeward registry before middle first)
    (later : Homeward registry middle after second) :
    Homeward registry before after (second ∘ first) where
  arrives := fun position entry lives => later.arrives _ entry (earlier.arrives position entry lives)
  closer := fun position entry lives =>
    Nat.le_trans (later.closer _ entry (earlier.arrives position entry lives))
      (earlier.closer position entry lives)
  apart := by
    intro position other entry otherEntry lives otherLives same
    have between := later.apart _ _ _ _ (earlier.arrives position entry lives)
      (earlier.arrives other otherEntry otherLives) same
    exact earlier.apart position other entry otherEntry lives otherLives between

theorem Tidied.refl (registry : Registry) (table : Table) : Tidied registry table table where
  capacity := rfl
  kept := fun _ _ => rfl
  homeward := ⟨id, Homeward.refl registry table⟩
  occupied := fun _ occupied => occupied

theorem Tidied.trans {middle : Table} (earlier : Tidied registry before middle)
    (later : Tidied registry middle after) : Tidied registry before after where
  capacity := later.capacity.trans earlier.capacity
  kept := fun entry live => (later.kept entry live).trans (earlier.kept entry live)
  homeward := by
    obtain ⟨first, moves⟩ := earlier.homeward
    obtain ⟨second, movesOn⟩ := later.homeward
    exact ⟨second ∘ first, moves.trans movesOn⟩
  occupied := fun position occupied =>
    earlier.occupied position (later.occupied position occupied)

/-! ### How often an entry is held -/

theorem count_entries (table : Table) (entry : Entry) :
    table.entries.count entry = table.slots.toList.countP (· == some entry) := by
  unfold entries
  rw [List.count, List.countP_filterMap]
  apply List.countP_congr
  intro occupant _
  cases occupant <;> simp

/-- One write changes the count of an entry by what it takes away and what it brings. -/
theorem count_entries_store (nonempty : 0 < table.capacity) (position : Nat)
    (occupant : Option Entry) (entry : Entry) :
    (table.store position occupant).entries.count entry +
        (if table.slot position = some entry then 1 else 0) =
      table.entries.count entry + (if occupant = some entry then 1 else 0) := by
  rw [count_entries, count_entries]
  have written := countP_store nonempty position occupant (· == some entry)
  simpa only [beq_iff_eq] using written

/-- Writing over something that is not live with something that is not live. -/
theorem count_entries_store_dead {occupant : Option Entry} (nonempty : 0 < table.capacity)
    (dead : table.slot position ≠ some entry) (deadToo : occupant ≠ some entry) :
    (table.store position occupant).entries.count entry = table.entries.count entry := by
  have written := count_entries_store nonempty position occupant entry
  rwa [if_neg dead, if_neg deadToo] at written

/-! ### Freeing one slot -/

theorem slot_ne_of_dead {occupant : Entry} (found : table.slot hole = some occupant)
    (dead : occupant.isLive registry = false) (live : entry.isLive registry = true) :
    table.slot hole ≠ some entry := by
  rw [found]
  intro same
  rw [Option.some.inj same, live] at dead
  cases dead

theorem LivesAt.ne_of_dead (lives : table.LivesAt registry position entry) {occupant : Entry}
    (found : table.slot hole = some occupant) (dead : occupant.isLive registry = false) :
    ¬ position ≡ hole [MOD table.capacity] := by
  intro same
  apply slot_ne_of_dead found dead lives.live
  rw [← slot_congr same]
  exact lives.slot

/-- A slot without a live entry may become empty. -/
theorem tidied_clear (nonempty : 0 < table.capacity) {occupant : Entry}
    (found : table.slot hole = some occupant) (dead : occupant.isLive registry = false) :
    Tidied registry table (table.clear hole) where
  capacity := capacity_clear table hole
  kept := by
    intro entry live
    have kept : (table.store hole none).entries.count entry = table.entries.count entry :=
      count_entries_store_dead nonempty (slot_ne_of_dead found dead live) nofun
    exact kept
  homeward := by
    refine ⟨id, ?_, fun _ _ _ => Nat.le_of_eq (dislocation_congr (capacity_clear table hole)),
      fun _ _ _ _ _ _ same => same⟩
    intro position entry lives
    refine ⟨by simpa using lives.below, ?_, lives.live⟩
    exact (slot_store_ne nonempty none (lives.ne_of_dead found dead)).trans lives.slot
  occupied := by
    intro position occupied
    obtain ⟨entry, read⟩ := Option.isSome_iff_exists.mp occupied
    exact isOccupied_of_slot (slot_clear_eq_some nonempty read).2

/-- What a vacated slot holds is not live, and the other slots are left alone. -/
theorem slot_vacate (nonempty : 0 < table.capacity) (hole position : Nat) :
    (table.vacate hole).slot position =
      if position ≡ hole [MOD table.capacity] then
        if table.isOccupied (hole + 1) then some .tombstone else none
      else table.slot position := by
  unfold vacate
  split
  · exact slot_store table hole position (some .tombstone) nonempty
  · exact slot_store table hole position none nonempty

theorem slot_refilled (nonempty : 0 < table.capacity) (hole ahead : Nat) (moved : Entry)
    (position : Nat) :
    (table.refilled hole ahead moved).slot position =
      if position ≡ hole [MOD table.capacity] then some moved
      else (table.vacate (hole + ahead)).slot position := by
  have written := slot_store (table.vacate (hole + ahead)) hole position (some moved)
    (by rwa [capacity_vacate])
  rwa [capacity_vacate] at written

theorem count_refilled {ahead : Nat} {moved occupant : Entry} (roomy : table.Roomy probeLimit)
    (refills : table.Refills registry probeLimit hole ahead moved)
    (found : table.slot hole = some occupant) (dead : occupant.isLive registry = false)
    (live : entry.isLive registry = true) :
    (table.refilled hole ahead moved).entries.count entry = table.entries.count entry := by
  have nonempty := roomy.nonempty
  have vacated : (table.vacate (hole + ahead)).entries.count entry +
      (if some moved = some entry then 1 else 0) = table.entries.count entry := by
    have entombed := count_entries_store nonempty (hole + ahead) (some .tombstone) entry
    have cleared := count_entries_store nonempty (hole + ahead) none entry
    have tombstone : ¬ some Entry.tombstone = some entry := by
      rintro same
      rw [← Option.some.inj same] at live
      cases live
    rw [refills.slot, if_neg tombstone] at entombed
    rw [refills.slot, if_neg (nofun : ¬ none = some entry)] at cleared
    unfold vacate
    split
    · exact entombed
    · exact cleared
  have still : (table.vacate (hole + ahead)).slot hole = some occupant := by
    rw [slot_vacate nonempty, if_neg (refills.elsewhere roomy), found]
  have nonemptyStill : 0 < (table.vacate (hole + ahead)).capacity := by rwa [capacity_vacate]
  have written := count_entries_store nonemptyStill hole (some moved) entry
  rw [if_neg (slot_ne_of_dead still dead live)] at written
  show ((table.vacate (hole + ahead)).store hole (some moved)).entries.count entry = _
  omega

/-- Where a live entry goes when one entry moves up to the hole. -/
def moveUp (table : Table) (hole ahead position : Nat) : Nat :=
  if position ≡ hole + ahead [MOD table.capacity] then hole % table.capacity else position

theorem homeward_refilled {ahead : Nat} {moved occupant : Entry} (roomy : table.Roomy probeLimit)
    (refills : table.Refills registry probeLimit hole ahead moved)
    (found : table.slot hole = some occupant) (dead : occupant.isLive registry = false) :
    Homeward registry table (table.refilled hole ahead moved) (table.moveUp hole ahead) := by
  have nonempty := roomy.nonempty
  have capacityEq := capacity_refilled table hole ahead moved
  refine ⟨?_, ?_, ?_⟩
  · intro position entry lives
    unfold moveUp
    split
    · next leaves =>
        have same : some entry = some moved := by
          rw [← lives.slot, slot_congr leaves, refills.slot]
        rw [Option.some.inj same]
        refine ⟨by simpa using Nat.mod_lt hole nonempty, ?_, refills.live⟩
        rw [slot_refilled nonempty, if_pos (Nat.mod_modEq hole _)]
    · next stays =>
        refine ⟨by simpa using lives.below, ?_, lives.live⟩
        rw [slot_refilled nonempty, if_neg (lives.ne_of_dead found dead), slot_vacate nonempty,
          if_neg stays]
        exact lives.slot
  · intro position entry lives
    rw [dislocation_congr capacityEq]
    unfold moveUp
    split
    · next leaves =>
        have same : some entry = some moved := by
          rw [← lives.slot, slot_congr leaves, refills.slot]
        rw [Option.some.inj same, dislocation_modEq registry moved nonempty leaves,
          dislocation_modEq registry moved nonempty (Nat.mod_modEq hole _)]
        obtain ⟨hash, homed⟩ := Entry.exists_hashOf?_of_isLive refills.live
        have near := refills.near
        simp only [dislocation_eq homed] at near ⊢
        rw [distance_of_near nonempty near]
        exact Nat.sub_le _ _
    · exact Nat.le_refl _
  · intro first second entry other lives otherLives same
    have taken : ∀ {position occupant}, table.LivesAt registry position occupant →
        position ≠ hole % table.capacity := by
      intro position occupant lives same
      exact lives.ne_of_dead found dead (same ▸ Nat.mod_modEq hole _)
    unfold moveUp at same
    split at same
    · next leaves =>
        split at same
        · next leavesToo =>
            have together : first ≡ second [MOD table.capacity] := leaves.trans leavesToo.symm
            exact together.eq_of_lt_of_lt lives.below otherLives.below
        · exact absurd same.symm (taken otherLives)
    · split at same
      · exact absurd same (taken lives)
      · exact same

theorem tidied_refilled {ahead : Nat} {moved occupant : Entry} (roomy : table.Roomy probeLimit)
    (refills : table.Refills registry probeLimit hole ahead moved)
    (found : table.slot hole = some occupant) (dead : occupant.isLive registry = false) :
    Tidied registry table (table.refilled hole ahead moved) where
  capacity := capacity_refilled table hole ahead moved
  kept := fun _ live => count_refilled roomy refills found dead live
  homeward := ⟨_, homeward_refilled roomy refills found dead⟩
  occupied := by
    intro position occupied
    unfold isOccupied at occupied
    rw [slot_refilled roomy.nonempty, slot_vacate roomy.nonempty] at occupied
    split at occupied
    · next there =>
        rw [isOccupied_congr there]
        exact isOccupied_of_slot found
    · split at occupied
      · next there =>
          rw [isOccupied_congr there]
          exact isOccupied_of_slot refills.slot
      · exact occupied

/-! ### Sweeping -/

/-- Freeing a slot without a live entry tidies the table. -/
theorem tidied_evict {occupant : Entry} (roomy : table.Roomy probeLimit)
    (found : table.slot hole = some occupant) (dead : occupant.isLive registry = false) :
    Tidied registry table (table.evict registry probeLimit hole) := by
  rcases evict_cases table registry probeLimit hole with ⟨-, empties⟩ | ⟨ahead, moved, refills, moves⟩
  · rw [empties]
    exact tidied_clear roomy.nonempty found dead
  · rw [moves]
    exact tidied_refilled roomy refills found dead

/-- A sweep tidies the table, whatever range it covers and however often it goes round. -/
theorem tidied_sweep {start count : Nat} (roomy : table.Roomy probeLimit) :
    Tidied registry table (table.sweep registry probeLimit start count).table := by
  induction count generalizing start table with
  | zero => exact Tidied.refl registry table
  | succ count inductionHypothesis =>
      unfold sweep
      split
      · exact inductionHypothesis roomy
      · next occupant found =>
          split
          · exact inductionHypothesis roomy
          · next dead =>
              have freed := tidied_evict roomy found (Bool.eq_false_iff.mpr dead)
              exact freed.trans (inductionHypothesis (roomy.congr freed.capacity))

/-! ### What tidying amounts to -/

/-- The live entries are the same, each as often as before. -/
theorem Tidied.perm (tidied : Tidied registry before after) :
    (after.liveEntries registry).Perm (before.liveEntries registry) := by
  rw [List.perm_iff_count]
  intro entry
  unfold liveEntries
  cases live : entry.isLive registry with
  | true => rw [List.count_filter live, List.count_filter live, tidied.kept entry live]
  | false =>
      have dead : ∀ table : Table,
          entry ∉ table.entries.filter fun entry => entry.isLive registry := by
        intro table member
        rw [List.mem_filter, live] at member
        exact absurd member.2 (by decide)
      rw [List.count_eq_zero.mpr (dead after), List.count_eq_zero.mpr (dead before)]

/-- An exact load falls by the number of slots that became empty. -/
theorem Tidied.load (tidied : Tidied registry before after) (counted : before.Counted)
    (countedAfter : after.Counted) : after.load + before.emptied after = before.load := by
  rw [countedAfter, counted, occupied_eq_countP, occupied_eq_countP, tidied.capacity]
  unfold emptied
  have kept : (List.range before.capacity).countP after.isOccupied =
      (List.range before.capacity).countP fun position =>
        before.isOccupied position && after.isOccupied position := by
    apply List.countP_congr
    intro position _
    rw [Bool.and_eq_true]
    exact ⟨fun occupied => ⟨tidied.occupied position occupied, occupied⟩, And.right⟩
  rw [kept, List.countP_eq_countP_filter_add _ before.isOccupied after.isOccupied,
    List.countP_filter, List.countP_filter]

end Table

end ContextCache
