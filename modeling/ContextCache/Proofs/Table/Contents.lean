import ContextCache.Proofs.Table.Cycle
import ContextCache.Store.Relief

/-!
Contract: nothing gets into a table unless it is put there.

Whatever a table holds after an insertion, a promotion, a sweep or growth, it held
before, or it is the inserted entry, or it is the tombstone. Entries only move.

Owns:
- what a table holds, and an upper bound of it for every operation.

Does not own: where entries go, and which of them an operation loses.
-/

set_option autoImplicit false

namespace ContextCache

namespace Table

variable {registry : Registry} {table : Table} {entry held : Entry}

/-- An entry sits in some slot. -/
def Holds (table : Table) (entry : Entry) : Prop :=
  ∃ position, table.slot position = some entry

theorem not_holds_empty (capacity : Nat) : ¬ (empty capacity).Holds held := by
  rintro ⟨position, found⟩
  rw [slot_empty] at found
  cases found

theorem holds_of_mem_entries (member : held ∈ table.entries) : table.Holds held := by
  obtain ⟨occupant, occupantMember, same⟩ := List.mem_filterMap.mp member
  obtain ⟨index, inBounds, found⟩ := List.mem_iff_getElem.mp occupantMember
  have below : index < table.capacity := by simpa [capacity] using inBounds
  refine ⟨index, ?_⟩
  unfold slot
  rw [Nat.mod_eq_of_lt below, Array.getElem?_eq_getElem below]
  rw [Array.getElem_toList] at found
  show table.slots[index] = some held
  exact found.trans same

theorem mem_entries_of_holds (nonempty : 0 < table.capacity) (holds : table.Holds held) :
    held ∈ table.entries := by
  obtain ⟨position, found⟩ := holds
  have below : position % table.capacity < table.slots.size := Nat.mod_lt _ nonempty
  apply List.mem_filterMap.mpr
  refine ⟨some held, ?_, rfl⟩
  unfold slot at found
  rw [Array.getElem?_eq_getElem below] at found
  rw [← show table.slots[position % table.capacity] = some held from found, ← Array.getElem_toList]
  exact List.getElem_mem _

/-! ### Writing -/

/-- What is read after a write was written or was there before. -/
theorem eq_or_slot_of_slot_store {position other : Nat} {occupant : Option Entry}
    (found : (table.store position occupant).slot other = some held) :
    occupant = some held ∨ table.slot other = some held := by
  rcases Nat.eq_zero_or_pos table.capacity with none | nonempty
  · have missing : (table.store position occupant).slot other = Option.none := by
      unfold slot
      rw [Array.getElem?_eq_none]
      · rfl
      · simp only [store, Array.size_setIfInBounds]
        exact Nat.le_trans (Nat.le_of_eq none) (Nat.zero_le _)
    rw [missing] at found
    cases found
  · rw [slot_store table position other occupant nonempty] at found
    split at found
    · exact Or.inl found
    · exact Or.inr found

theorem holds_store {position : Nat} {occupant : Option Entry}
    (holds : (table.store position occupant).Holds held) :
    occupant = some held ∨ table.Holds held := by
  obtain ⟨other, found⟩ := holds
  exact (eq_or_slot_of_slot_store found).imp_right fun before => ⟨other, before⟩

theorem holds_store_some {position : Nat} (holds : (table.store position (some entry)).Holds held) :
    held = entry ∨ table.Holds held :=
  (holds_store holds).imp_left fun same => (Option.some.inj same).symm

theorem holds_fill {position : Nat} (holds : (table.fill position entry).Holds held) :
    held = entry ∨ table.Holds held :=
  holds_store_some holds

theorem holds_clear {position : Nat} (holds : (table.clear position).Holds held) :
    table.Holds held := by
  have stored : (table.store position none).Holds held := holds
  rcases holds_store stored with absurdity | before
  · cases absurdity
  · exact before

/-! ### Insertion and promotion -/

theorem holds_seat {home : Nat} (holds : (table.seat registry home entry).2.Holds held) :
    held = entry ∨ table.Holds held := by
  unfold seat at holds
  split at holds
  · exact holds_fill holds
  · split at holds
    · exact Or.inr holds
    · exact holds_store_some holds

/-- Only a live entry is pushed out of its slot, and it is the one that had it. -/
theorem slot_of_seat {home : Nat} {displaced : Entry} {seated : Table}
    (pushed : table.seat registry home entry = (some displaced, seated)) :
    table.slot home = some displaced ∧ displaced.isLive registry = true ∧
      seated = table.store home (some entry) := by
  unfold seat at pushed
  split at pushed
  · cases pushed
  · next occupant found =>
      split at pushed
      · cases pushed
      · obtain ⟨left, right⟩ := Prod.mk.inj pushed
        split at left
        · next live =>
            cases left
            exact ⟨found, live, right.symm⟩
        · cases left

theorem holds_shelter {position count : Nat}
    (holds : (shelter registry entry position count table).Holds held) :
    held = entry ∨ table.Holds held := by
  induction count generalizing position with
  | zero => exact Or.inr holds
  | succ count inductionHypothesis =>
      unfold shelter at holds
      split at holds
      · exact holds_fill holds
      · split at holds
        · exact Or.inr holds
        · split at holds
          · exact inductionHypothesis holds
          · exact holds_store_some holds

theorem holds_add {probeLimit : Nat} {hash : UInt32}
    (holds : (table.add registry probeLimit hash entry).Holds held) :
    held = entry ∨ table.Holds held := by
  unfold add at holds
  dsimp only at holds
  split at holds
  · next seated pushed =>
      have seats : seated = (table.seat registry (table.home hash) entry).2 := by rw [pushed]
      exact holds_seat (seats ▸ holds)
  · next displaced seated pushed =>
      obtain ⟨found, -, rfl⟩ := slot_of_seat pushed
      rcases holds_shelter holds with rfl | before
      · exact Or.inr ⟨_, found⟩
      · exact holds_store_some before

theorem holds_readd {probeLimit : Nat} (holds : (table.readd registry probeLimit entry).Holds held) :
    held = entry ∨ table.Holds held := by
  unfold readd at holds
  split at holds
  · exact holds_add holds
  · exact Or.inr holds

theorem holds_promote {probeLimit : Nat} {hash : UInt32} {token : Token}
    (holds : (table.promote registry probeLimit hash token).2.Holds held) :
    held = .tombstone ∨ table.Holds held := by
  unfold promote at holds
  dsimp only at holds
  split at holds
  · next oldHome position promoted atHome found =>
      have member : (position, promoted) ∈ table.backupRun probeLimit (table.home hash) :=
        List.mem_of_find?_eq_some found
      obtain ⟨-, -, -, -, there, -⟩ := mem_backupRun_iff.mp member
      rcases holds_store_some holds with moved | before
      · split at moved
        · exact Or.inr ⟨_, moved ▸ atHome⟩
        · exact Or.inl moved
      · rcases holds_store_some before with tombstone | before
        · exact Or.inl tombstone
        · rcases holds_store_some before with rfl | before
          · exact Or.inr ⟨_, there⟩
          · exact Or.inr before
  · exact Or.inr holds

/-! ### Sweeping and growth -/

theorem holds_vacate {position : Nat} (holds : (table.vacate position).Holds held) :
    held = .tombstone ∨ table.Holds held := by
  unfold vacate at holds
  split at holds
  · exact holds_store_some holds
  · exact Or.inr (holds_clear holds)

/-- A replacement comes from behind the hole, is live and sits away from its home. -/
theorem mem_movable_of_replacement? {probeLimit hole : Nat} {found : Nat × Entry}
    (chosen : table.replacement? registry probeLimit hole = some found) :
    found ∈ table.movable registry probeLimit hole := by
  unfold replacement? at chosen
  dsimp only at chosen
  rcases Option.or_eq_some_iff.mp chosen with exact | ⟨-, before⟩
  · exact List.mem_reverse.mp (List.mem_of_find?_eq_some exact)
  · exact List.mem_reverse.mp (List.mem_of_find?_eq_some before)

theorem holds_evict {probeLimit position : Nat}
    (holds : (table.evict registry probeLimit position).Holds held) :
    held = .tombstone ∨ table.Holds held := by
  unfold evict at holds
  split at holds
  · exact Or.inr (holds_clear holds)
  · next source moved chosen =>
      rcases holds_store_some holds with rfl | before
      · have member := (List.mem_filter.mp (mem_movable_of_replacement? chosen)).1
        obtain ⟨-, -, -, -, there, -⟩ := mem_backupRun_iff.mp member
        exact Or.inr ⟨_, there⟩
      · exact holds_vacate before

theorem holds_sweep {probeLimit start count : Nat}
    (holds : (table.sweep registry probeLimit start count).table.Holds held) :
    held = .tombstone ∨ table.Holds held := by
  induction count generalizing start table with
  | zero => exact Or.inr holds
  | succ count inductionHypothesis =>
      unfold sweep at holds
      split at holds
      · exact inductionHypothesis holds
      · split at holds
        · exact inductionHypothesis holds
        · rcases inductionHypothesis holds with tombstone | before
          · exact Or.inl tombstone
          · exact holds_evict before

/-- Growth takes over live entries and nothing else. -/
theorem holds_regrown {probeLimit length : Nat}
    (holds : (OpenStore.regrown registry probeLimit length table).Holds held) :
    table.Holds held := by
  have gathered : ∀ (entries : List Entry) (grown : Table),
      (entries.foldl (Table.readd registry probeLimit) grown).Holds held →
        held ∈ entries ∨ grown.Holds held := by
    intro entries
    induction entries with
    | nil => exact fun grown kept => Or.inr kept
    | cons head tail inductionHypothesis =>
        intro grown kept
        rcases inductionHypothesis _ kept with member | readded
        · exact Or.inl (List.mem_cons_of_mem head member)
        · exact (holds_readd readded).imp_left fun same => by simp [same]
  rcases gathered _ _ holds with member | absurdity
  · exact holds_of_mem_entries ((List.mem_filter.mp member).1)
  · exact absurd absurdity (not_holds_empty length)

end Table

end ContextCache
