import Mathlib.Data.Nat.ModEq
import ContextCache.Table.Basic

/-!
Contract: positions on a table's cycle, and the runs along it.

Positions that differ by a multiple of the capacity name the same slot. Every
position is reached from a home slot by exactly one number of steps below the
capacity, its distance, so statements about what lies between a home and a position
are statements about steps and never about which side of the table's end they fall.

Owns:
- slots and distances up to the cycle;
- the members of a run, by the number of steps at which they are met.

Does not own: who sits where.
-/

set_option autoImplicit false

namespace ContextCache

namespace Table

variable {table other : Table} {hash : UInt32} {position first second : Nat}

/-! ### Slots -/

theorem slot_congr (same : first ≡ second [MOD table.capacity]) :
    table.slot first = table.slot second := by
  unfold slot
  rw [show first % table.capacity = second % table.capacity from same]

theorem isOccupied_congr (same : first ≡ second [MOD table.capacity]) :
    table.isOccupied first = table.isOccupied second := by
  unfold isOccupied
  rw [slot_congr same]

theorem isOccupied_of_slot {entry : Entry} (found : table.slot position = some entry) :
    table.isOccupied position = true := by
  unfold isOccupied
  rw [found]
  rfl

theorem slot_store_ne (nonempty : 0 < table.capacity) (occupant : Option Entry)
    (differs : ¬ first ≡ second [MOD table.capacity]) :
    (table.store second occupant).slot first = table.slot first :=
  (slot_store table second first occupant nonempty).trans (if_neg differs)

/-! ### Distances -/

theorem home_congr (same : table.capacity = other.capacity) :
    table.home hash = other.home hash := by
  unfold home
  rw [same]

theorem distance_congr (same : table.capacity = other.capacity) :
    table.distance hash position = other.distance hash position := by
  unfold distance
  rw [home_congr same, same]

theorem dislocation_congr {registry : Registry} {entry : Entry}
    (same : table.capacity = other.capacity) :
    table.dislocation registry position entry = other.dislocation registry position entry := by
  unfold dislocation
  split
  · exact distance_congr same
  · rfl

theorem home_lt (nonempty : 0 < table.capacity) : table.home hash < table.capacity :=
  Nat.mod_lt _ nonempty

theorem hash_modEq_home : hash.toNat ≡ table.home hash [MOD table.capacity] :=
  (Nat.mod_modEq _ _).symm

/-- Walking the distance from the home leads to the position. -/
theorem home_add_distance (table : Table) (hash : UInt32) (position : Nat)
    (nonempty : 0 < table.capacity) :
    table.home hash + table.distance hash position ≡ position [MOD table.capacity] := by
  have below : table.home hash < table.capacity := home_lt nonempty
  have walked : table.home hash + table.distance hash position ≡
      table.home hash + (position + (table.capacity - table.home hash)) [MOD table.capacity] :=
    (Nat.mod_modEq _ _).add_left _
  have whole : table.home hash + (position + (table.capacity - table.home hash)) =
      position + table.capacity := by omega
  rw [whole] at walked
  exact walked.trans Nat.add_modEq_right

/-- No other number of steps below the capacity leads there. -/
theorem distance_eq {steps : Nat} (nonempty : 0 < table.capacity)
    (below : steps < table.capacity)
    (reached : table.home hash + steps ≡ position [MOD table.capacity]) :
    table.distance hash position = steps := by
  have walked := home_add_distance table hash position nonempty
  have same : table.distance hash position ≡ steps [MOD table.capacity] :=
    Nat.ModEq.add_left_cancel' _ (walked.trans reached.symm)
  exact same.eq_of_lt_of_lt (distance_lt table hash position nonempty) below

theorem distance_modEq (hash : UInt32) (nonempty : 0 < table.capacity)
    (same : first ≡ second [MOD table.capacity]) :
    table.distance hash first = table.distance hash second :=
  distance_eq nonempty (distance_lt table hash second nonempty)
    ((home_add_distance table hash second nonempty).trans same.symm)

theorem dislocation_modEq (registry : Registry) (entry : Entry) (nonempty : 0 < table.capacity)
    (same : first ≡ second [MOD table.capacity]) :
    table.dislocation registry first entry = table.dislocation registry second entry := by
  unfold dislocation
  split
  · exact distance_modEq _ nonempty same
  · rfl

/-! ### Runs -/

/-- A run holds what is met step by step as long as every slot so far was occupied. -/
theorem mem_run_iff {start count : Nat} {entry : Entry} :
    (position, entry) ∈ table.run start count ↔
      ∃ steps, steps < count ∧ position = start + steps ∧ table.slot position = some entry ∧
        ∀ earlier, earlier < steps → table.isOccupied (start + earlier) = true := by
  induction count generalizing start with
  | zero =>
      simp [run]
  | succ count inductionHypothesis =>
      unfold run
      cases found : table.slot start with
      | none =>
          simp only [List.not_mem_nil, false_iff, not_exists, not_and]
          rintro steps - rfl held
          intro unbroken
          -- The walk cannot even leave its start.
          rcases Nat.eq_zero_or_pos steps with zero | positive
          · rw [zero, Nat.add_zero, found] at held
            cases held
          · have occupied := unbroken 0 positive
            simp [isOccupied, found] at occupied
      | some occupant =>
          simp only [List.mem_cons, Prod.mk.injEq, inductionHypothesis]
          constructor
          · rintro (⟨rfl, rfl⟩ | ⟨steps, below, rfl, held, unbroken⟩)
            · exact ⟨0, Nat.succ_pos count, rfl, found, fun earlier absurdity => by omega⟩
            · refine ⟨steps + 1, by omega, by omega, held, ?_⟩
              intro earlier before
              rcases Nat.eq_zero_or_pos earlier with zero | positive
              · rw [zero, Nat.add_zero]
                exact isOccupied_of_slot found
              · have occupied := unbroken (earlier - 1) (by omega)
                rwa [show start + 1 + (earlier - 1) = start + earlier by omega] at occupied
          · rintro ⟨steps, below, rfl, held, unbroken⟩
            rcases Nat.eq_zero_or_pos steps with zero | positive
            · subst zero
              rw [Nat.add_zero, found] at held
              exact Or.inl ⟨rfl, (Option.some.inj held).symm⟩
            · refine Or.inr ⟨steps - 1, by omega, by omega, held, ?_⟩
              intro earlier before
              have occupied := unbroken (earlier + 1) (by omega)
              rwa [show start + (earlier + 1) = start + 1 + earlier by omega] at occupied

/-- The entries behind a slot, by their number of steps from it. -/
theorem mem_backupRun_iff {probeLimit home : Nat} {entry : Entry} :
    (position, entry) ∈ table.backupRun probeLimit home ↔
      ∃ steps, 0 < steps ∧ steps < probeLimit ∧ position = home + steps ∧
        table.slot position = some entry ∧
        ∀ earlier, 0 < earlier → earlier < steps → table.isOccupied (home + earlier) = true := by
  unfold backupRun
  rw [mem_run_iff]
  constructor
  · rintro ⟨steps, below, rfl, held, unbroken⟩
    refine ⟨steps + 1, by omega, by omega, by omega, held, ?_⟩
    intro earlier positive before
    have occupied := unbroken (earlier - 1) (by omega)
    rwa [show home + 1 + (earlier - 1) = home + earlier by omega] at occupied
  · rintro ⟨steps, positive, below, rfl, held, unbroken⟩
    refine ⟨steps - 1, by omega, by omega, held, ?_⟩
    intro earlier before
    have occupied := unbroken (earlier + 1) (by omega) (by omega)
    rwa [show home + (earlier + 1) = home + 1 + earlier by omega] at occupied

end Table

end ContextCache
