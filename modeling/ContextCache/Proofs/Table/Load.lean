import ContextCache.Proofs.Table.Sweeping

/-!
Contract: a table's load is the number of its occupied slots.

The writers count as they go, each at its own place: filling an empty slot counts up,
emptying one counts down, and whatever lies in between must write only over slots that
are occupied already. So every operation is taken apart into such writes, and each write
is shown to find its slot as it needs it.

Owns:
- how one write changes the number of occupied slots;
- that insertion, promotion, sweeping and growth keep the count exact.

Does not own: how high the load may get.
-/

set_option autoImplicit false

namespace ContextCache

namespace Table

variable {registry : Registry} {probeLimit : Nat} {table : Table} {position other : Nat}
  {entry : Entry}

/-- The load is exact: tombstones and leftovers count like live entries. -/
def Counted (table : Table) : Prop :=
  table.load = table.occupied

/-! ### Counting slots -/

/-- The slots in their order are what is read at the positions below the capacity. -/
theorem toList_slots (table : Table) :
    table.slots.toList = (List.range table.capacity).map table.slot := by
  apply List.ext_getElem
  · simp [capacity]
  · intro index inBounds _
    have below : index < table.capacity := by simpa [capacity] using inBounds
    rw [List.getElem_map, List.getElem_range, Array.getElem_toList]
    unfold slot
    rw [Nat.mod_eq_of_lt below, Array.getElem?_eq_getElem below]
    rfl

theorem occupied_eq_countP (table : Table) :
    table.occupied = (List.range table.capacity).countP table.isOccupied := by
  unfold occupied
  rw [toList_slots, List.countP_map]
  rfl

theorem occupied_le_capacity (table : Table) : table.occupied ≤ table.capacity := by
  unfold occupied capacity
  rw [← Array.length_toList]
  exact List.countP_le_length

theorem occupied_empty (capacity : Nat) : (empty capacity).occupied = 0 := by
  unfold occupied empty
  simp [List.countP_replicate]

/-- One write changes any count of slots by what it takes away and what it brings. -/
theorem countP_store (nonempty : 0 < table.capacity) (position : Nat) (occupant : Option Entry)
    (counts : Option Entry → Bool) :
    (table.store position occupant).slots.toList.countP counts +
        (if counts (table.slot position) then 1 else 0) =
      table.slots.toList.countP counts + (if counts occupant then 1 else 0) := by
  have inBounds : position % table.capacity < table.slots.toList.length := by
    rw [Array.length_toList]
    exact Nat.mod_lt _ nonempty
  have read : table.slots.toList[position % table.capacity] = table.slot position := by
    have below : position % table.capacity < table.slots.size := Nat.mod_lt _ nonempty
    unfold slot
    rw [Array.getElem_toList, Array.getElem?_eq_getElem below]
    rfl
  have present : (if counts (table.slot position) then 1 else 0) ≤
      table.slots.toList.countP counts := by
    split
    · next counted =>
        apply List.countP_pos_iff.mpr
        exact ⟨table.slot position, read ▸ List.getElem_mem inBounds, counted⟩
    · exact Nat.zero_le _
  unfold store
  rw [Array.toList_setIfInBounds, List.countP_set inBounds, read]
  omega

theorem occupied_store (nonempty : 0 < table.capacity) (position : Nat) (occupant : Option Entry) :
    (table.store position occupant).occupied + (if table.isOccupied position then 1 else 0) =
      table.occupied + (if occupant.isSome then 1 else 0) :=
  countP_store nonempty position occupant Option.isSome

/-! ### Single writes -/

theorem counted_empty (capacity : Nat) : (empty capacity).Counted :=
  (occupied_empty capacity).symm

theorem Counted.fill (counted : table.Counted) (nonempty : 0 < table.capacity)
    (vacant : table.slot position = none) : (table.fill position entry).Counted := by
  have unoccupied : table.isOccupied position = false := by
    unfold isOccupied
    rw [vacant]
    rfl
  have written := occupied_store nonempty position (some entry)
  rw [unoccupied] at written
  show table.load + 1 = (table.store position (some entry)).occupied
  rw [counted]
  simpa using written.symm

/-- Whoever writes over an occupied slot leaves the load alone. -/
theorem Counted.store (counted : table.Counted) (nonempty : 0 < table.capacity)
    (occupied : table.isOccupied position = true) :
    (table.store position (some entry)).Counted := by
  have written := occupied_store nonempty position (some entry)
  rw [occupied] at written
  show table.load = (table.store position (some entry)).occupied
  rw [counted]
  simpa using written.symm

theorem Counted.clear (counted : table.Counted) (nonempty : 0 < table.capacity)
    (occupied : table.isOccupied position = true) : (table.clear position).Counted := by
  have written := occupied_store nonempty position none
  rw [occupied] at written
  show table.load - 1 = (table.store position none).occupied
  simp only [if_true, Option.isSome_none, Bool.false_eq_true, if_false] at written
  rw [counted]
  omega

/-! ### Insertion -/

theorem Counted.seat (counted : table.Counted) (nonempty : 0 < table.capacity) (home : Nat) :
    (table.seat registry home entry).2.Counted := by
  unfold Table.seat
  split
  · next vacant => exact counted.fill nonempty vacant
  · next occupant found =>
      split
      · exact counted
      · exact counted.store nonempty (isOccupied_of_slot found)

theorem Counted.shelter {count : Nat} (counted : table.Counted) (nonempty : 0 < table.capacity) :
    (Table.shelter registry entry position count table).Counted := by
  induction count generalizing position with
  | zero => exact counted
  | succ count inductionHypothesis =>
      unfold Table.shelter
      split
      · next vacant => exact counted.fill nonempty vacant
      · next occupant found =>
          split
          · exact counted
          · split
            · exact inductionHypothesis
            · exact counted.store nonempty (isOccupied_of_slot found)

theorem Counted.add (counted : table.Counted) (nonempty : 0 < table.capacity) (hash : UInt32) :
    (table.add registry probeLimit hash entry).Counted := by
  have seated : (table.seat registry (table.home hash) entry).2.Counted :=
    counted.seat nonempty (table.home hash)
  have capacityEq := capacity_seat registry table (table.home hash) entry
  unfold Table.add
  dsimp only
  split
  · next found =>
      rw [found] at seated
      exact seated
  · next found =>
      rw [found] at seated capacityEq
      exact seated.shelter (capacityEq ▸ nonempty)

theorem Counted.readd (counted : table.Counted) (nonempty : 0 < table.capacity) :
    (table.readd registry probeLimit entry).Counted := by
  unfold Table.readd
  split
  · exact counted.add nonempty _
  · exact counted

/-- A table that is filled anew counts from zero. -/
theorem counted_regrown {length : Nat} (nonempty : 0 < length) :
    (OpenStore.regrown registry probeLimit length table).Counted := by
  have gathered : ∀ (entries : List Entry) (grown : Table), 0 < grown.capacity → grown.Counted →
      (entries.foldl (Table.readd registry probeLimit) grown).Counted := by
    intro entries
    induction entries with
    | nil => exact fun grown _ counted => counted
    | cons head tail inductionHypothesis =>
        intro grown roomy counted
        apply inductionHypothesis
        · rwa [capacity_readd]
        · exact counted.readd roomy
  apply gathered
  · rwa [capacity_empty]
  · exact counted_empty length

/-! ### Promotion -/

theorem isOccupied_of_mem_backupRun {home : Nat}
    (member : (position, entry) ∈ table.backupRun probeLimit home) :
    table.isOccupied position = true := by
  obtain ⟨-, -, -, -, there, -⟩ := mem_backupRun_iff.mp member
  exact isOccupied_of_slot there

/-- Promotion writes three times, and each time into a slot that its search has met. -/
theorem Counted.promote (counted : table.Counted) (nonempty : 0 < table.capacity) (hash : UInt32)
    (token : Token) : (table.promote registry probeLimit hash token).2.Counted := by
  unfold Table.promote
  dsimp only
  split
  · next oldHome position promoted atHome found =>
      obtain ⟨occupant, target⟩ := exists_mem_backupRun_of_target registry found
      have hit := isOccupied_of_mem_backupRun (List.mem_of_find?_eq_some found)
      have written : (table.store (table.home hash) (some promoted)).Counted :=
        counted.store nonempty (isOccupied_of_slot atHome)
      have entombed : ((table.store (table.home hash) (some promoted)).store position
          (some .tombstone)).Counted :=
        written.store (by simpa using nonempty) (isOccupied_store_some nonempty _ hit)
      refine entombed.store (by simpa using nonempty) ?_
      apply isOccupied_store_some (by simpa using nonempty)
      exact isOccupied_store_some nonempty _ (isOccupied_of_mem_backupRun target)
  · exact counted

/-! ### Sweeping -/

theorem Counted.vacate (counted : table.Counted) (nonempty : 0 < table.capacity)
    (occupied : table.isOccupied position = true) : (table.vacate position).Counted := by
  unfold Table.vacate
  split
  · exact counted.store nonempty occupied
  · exact counted.clear nonempty occupied

/-- A freed slot is refilled from another slot, so it is still occupied when that one has
been vacated. -/
theorem Counted.evict (counted : table.Counted) (roomy : table.Roomy probeLimit)
    (occupied : table.isOccupied position = true) :
    (table.evict registry probeLimit position).Counted := by
  have nonempty := roomy.nonempty
  rcases evict_cases table registry probeLimit position with
    ⟨-, empties⟩ | ⟨ahead, moved, refills, moves⟩
  · rw [empties]
    exact counted.clear nonempty occupied
  · rw [moves]
    have vacated := counted.vacate nonempty (isOccupied_of_slot refills.slot)
    exact vacated.store (by rwa [capacity_vacate])
      (isOccupied_vacate_of_ne nonempty (refills.elsewhere roomy) occupied)

/-- A sweep keeps the count exact, whatever range it covers. -/
theorem Counted.sweep {start count : Nat} (counted : table.Counted)
    (roomy : table.Roomy probeLimit) :
    (table.sweep registry probeLimit start count).table.Counted := by
  induction count generalizing start table with
  | zero => exact counted
  | succ count inductionHypothesis =>
      unfold Table.sweep
      split
      · exact inductionHypothesis counted roomy
      · next found =>
          split
          · exact inductionHypothesis counted roomy
          · apply inductionHypothesis
            · exact counted.evict roomy (isOccupied_of_slot found)
            · exact roomy.congr (capacity_evict registry probeLimit start table)

end Table

end ContextCache
