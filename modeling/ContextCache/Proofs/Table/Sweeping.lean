import ContextCache.Proofs.Table.Windows

/-!
Contract: a sweep hides no live entry.

A freed slot becomes empty only if no live entry's search passes it. The rule that
chooses the refilling entry looks at every entry whose search passes the slot, because
such an entry sits within a probe window behind it and is met before the first gap. So
a slot without a refilling entry is passed by nobody. The chosen entry moves closer to
its home, and the slot that it leaves is emptied only where the run ends.

Owns:
- which entries may refill a freed slot;
- that the slots which a sweep empties are passed by no search for a live entry.

Does not own: how many entries a sweep takes out.
-/

set_option autoImplicit false

namespace ContextCache

namespace Table

variable {registry : Registry} {probeLimit : Nat} {table : Table} {hole position : Nat}
  {hash : UInt32} {entry : Entry}

/-! ### Refilling -/

/-- No search for a live entry passes the position on its way. -/
def Unpassed (table : Table) (registry : Registry) (hole : Nat) : Prop :=
  ∀ position entry hash, table.slot position = some entry → entry.isLive registry = true →
    entry.hashOf? registry = some hash → ∀ steps, steps < table.distance hash position →
      ¬ table.home hash + steps ≡ hole [MOD table.capacity]

/-- A refilling entry sits behind the hole, and its home does not. -/
theorem replacement?_eq_some {found : Nat × Entry}
    (chosen : table.replacement? registry probeLimit hole = some found) :
    found ∈ table.movable registry probeLimit hole ∧
      found.1 ≤ hole + table.dislocation registry found.1 found.2 := by
  refine ⟨mem_movable_of_replacement? chosen, ?_⟩
  unfold replacement? at chosen
  dsimp only at chosen
  rcases Option.or_eq_some_iff.mp chosen with exact | ⟨-, before⟩
  · exact Nat.le_of_eq (by simpa using List.find?_some exact)
  · exact Nat.le_of_lt (by simpa using List.find?_some before)

/-- The refilling entry: it is live, sits behind the hole within a window, and its home does
not. -/
structure Refills (table : Table) (registry : Registry) (probeLimit hole ahead : Nat)
    (moved : Entry) : Prop where
  positive : 0 < ahead
  below : ahead < probeLimit
  slot : table.slot (hole + ahead) = some moved
  live : moved.isLive registry = true
  near : ahead ≤ table.dislocation registry (hole + ahead) moved

theorem refills_of_replacement? {found : Nat × Entry}
    (chosen : table.replacement? registry probeLimit hole = some found) :
    ∃ ahead, found.1 = hole + ahead ∧ table.Refills registry probeLimit hole ahead found.2 := by
  obtain ⟨movable, near⟩ := replacement?_eq_some chosen
  obtain ⟨behind, passes⟩ := List.mem_filter.mp movable
  obtain ⟨ahead, positive, below, place, there, -⟩ := mem_backupRun_iff.mp behind
  rw [Bool.and_eq_true] at passes
  refine ⟨ahead, place, positive, below, place ▸ there, passes.1, ?_⟩
  rw [place] at near
  omega

/-- The slot that the refilling entry leaves is not the one that it takes. -/
theorem Refills.elsewhere {ahead : Nat} {moved : Entry} (roomy : table.Roomy probeLimit)
    (refills : table.Refills registry probeLimit hole ahead moved) :
    ¬ hole ≡ hole + ahead [MOD table.capacity] := by
  intro same
  have wrapped : ahead ≡ 0 [MOD table.capacity] := Nat.ModEq.add_left_cancel' hole same.symm
  have zero := wrapped.eq_of_lt_of_lt (Nat.lt_of_lt_of_le refills.below roomy.fits)
    roomy.nonempty
  have positive := refills.positive
  omega

/-- The table once the refilling entry has moved. -/
def refilled (table : Table) (hole ahead : Nat) (moved : Entry) : Table :=
  (table.vacate (hole + ahead)).store hole (some moved)

@[simp] theorem capacity_refilled (table : Table) (hole ahead : Nat) (moved : Entry) :
    (table.refilled hole ahead moved).capacity = table.capacity := by
  simp [refilled]

/-- Freeing a slot empties it, if no entry may refill it, and otherwise moves one up to it. -/
theorem evict_cases (table : Table) (registry : Registry) (probeLimit hole : Nat) :
    (table.replacement? registry probeLimit hole = none ∧
      table.evict registry probeLimit hole = table.clear hole) ∨
    ∃ ahead moved, table.Refills registry probeLimit hole ahead moved ∧
      table.evict registry probeLimit hole = table.refilled hole ahead moved := by
  unfold evict
  split
  · next none => exact Or.inl ⟨none, rfl⟩
  · next source moved chosen =>
      obtain ⟨ahead, place, refills⟩ := refills_of_replacement? chosen
      dsimp only at place
      rw [place]
      exact Or.inr ⟨ahead, moved, refills, rfl⟩

/-- An entry that moves up to a slot between its home and its own is as much closer to its
home as it has moved. -/
theorem distance_of_near {hash : UInt32} {ahead : Nat} (nonempty : 0 < table.capacity)
    (near : ahead ≤ table.distance hash (hole + ahead)) :
    table.distance hash hole = table.distance hash (hole + ahead) - ahead := by
  have below := distance_lt table hash (hole + ahead) nonempty
  have walked := home_add_distance table hash (hole + ahead) nonempty
  apply distance_eq nonempty (by omega)
  apply Nat.ModEq.add_right_cancel' ahead
  rwa [show table.home hash + (table.distance hash (hole + ahead) - ahead) + ahead =
    table.home hash + table.distance hash (hole + ahead) by omega]

/-- Without a refilling entry, every movable entry's home lies behind the hole. -/
theorem lt_of_replacement?_eq_none {found : Nat × Entry}
    (none : table.replacement? registry probeLimit hole = none)
    (movable : found ∈ table.movable registry probeLimit hole) :
    hole + table.dislocation registry found.1 found.2 < found.1 := by
  unfold replacement? at none
  dsimp only at none
  obtain ⟨noExact, noBefore⟩ := Option.or_eq_none_iff.mp none
  have differs := List.find?_eq_none.mp noExact found (List.mem_reverse.mpr movable)
  have notBefore := List.find?_eq_none.mp noBefore found (List.mem_reverse.mpr movable)
  simp only [beq_iff_eq, decide_eq_true_eq] at differs notBefore
  omega

/-- An entry whose search passes the hole is among the movable ones. -/
theorem mem_movable_of_passes {steps : Nat} (roomy : table.Roomy probeLimit)
    (unbroken : table.Unbroken registry probeLimit) (found : table.slot position = some entry)
    (live : entry.isLive registry = true) (homed : entry.hashOf? registry = some hash)
    (before : steps < table.distance hash position)
    (passes : table.home hash + steps ≡ hole [MOD table.capacity]) :
    (hole + (table.distance hash position - steps), entry) ∈
        table.movable registry probeLimit hole ∧
      table.dislocation registry (hole + (table.distance hash position - steps)) entry =
        table.distance hash position := by
  have reaches := unbroken position entry hash found live homed
  have walked := home_add_distance table hash position roomy.nonempty
  have there : hole + (table.distance hash position - steps) ≡ position [MOD table.capacity] := by
    have shifted := passes.add_right (table.distance hash position - steps)
    rw [show table.home hash + steps + (table.distance hash position - steps) =
      table.home hash + table.distance hash position by omega] at shifted
    exact shifted.symm.trans walked
  have far : table.dislocation registry (hole + (table.distance hash position - steps)) entry =
      table.distance hash position := by
    rw [dislocation_eq homed, distance_modEq hash roomy.nonempty there]
  refine ⟨List.mem_filter.mpr ⟨mem_backupRun_iff.mpr ?_, ?_⟩, far⟩
  · refine ⟨_, by omega, ?_, rfl, ?_, ?_⟩
    · exact Nat.lt_of_le_of_lt (Nat.sub_le _ _) reaches.inside
    · rwa [slot_congr there]
    · intro earlier positive within
      have met := reaches.occupied (steps + earlier) (by omega)
      rw [← Nat.add_assoc] at met
      rwa [← isOccupied_congr (passes.add_right earlier)]
  · have away : table.distance hash position ≠ 0 := by omega
    simp [live, far, away]

/-- If no entry may refill a hole, no search passes it. -/
theorem unpassed_of_replacement?_eq_none (roomy : table.Roomy probeLimit)
    (unbroken : table.Unbroken registry probeLimit)
    (none : table.replacement? registry probeLimit hole = none) :
    table.Unpassed registry hole := by
  intro position entry hash found live homed steps before passes
  obtain ⟨movable, far⟩ :=
    mem_movable_of_passes roomy unbroken found live homed before passes
  have behind := lt_of_replacement?_eq_none none movable
  rw [far] at behind
  omega

/-- A search that passes a slot goes on to the next one, so before a gap none passes. -/
theorem unpassed_of_gap (unbroken : table.Unbroken registry probeLimit)
    (gap : table.isOccupied (hole + 1) = false) : table.Unpassed registry hole := by
  intro position entry hash found live homed steps before passes
  have next := (unbroken position entry hash found live homed).occupied (steps + 1) before
  rw [← Nat.add_assoc, isOccupied_congr (passes.add_right 1), gap] at next
  cases next

/-! ### Emptying a slot -/

theorem isOccupied_clear_of_ne (nonempty : 0 < table.capacity)
    (differs : ¬ position ≡ hole [MOD table.capacity]) :
    (table.clear hole).isOccupied position = table.isOccupied position := by
  show (table.store hole none).isOccupied position = _
  unfold isOccupied
  rw [slot_store table hole position none nonempty]
  split
  · next same => exact absurd same differs
  · rfl

theorem slot_clear_eq_some (nonempty : 0 < table.capacity)
    (found : (table.clear hole).slot position = some entry) :
    ¬ position ≡ hole [MOD table.capacity] ∧ table.slot position = some entry := by
  have read : (table.store hole none).slot position = some entry := found
  rw [slot_store table hole position none nonempty] at read
  split at read
  · cases read
  · next differs => exact ⟨differs, read⟩

/-- A slot that nobody passes may be emptied. -/
theorem unbroken_clear (nonempty : 0 < table.capacity)
    (unbroken : table.Unbroken registry probeLimit) (unpassed : table.Unpassed registry hole) :
    (table.clear hole).Unbroken registry probeLimit := by
  intro position entry hash found live homed
  obtain ⟨differs, before⟩ := slot_clear_eq_some nonempty found
  have reaches := unbroken position entry hash before live homed
  refine reaches.transfer (capacity_clear table hole) fun steps within => ?_
  rw [isOccupied_clear_of_ne nonempty]
  · exact reaches.occupied steps within
  · rcases Nat.lt_or_eq_of_le within with inside | last
    · exact unpassed position entry hash before live homed steps inside
    · intro absurdity
      rw [last] at absurdity
      exact differs ((home_add_distance table hash position nonempty).symm.trans absurdity)

theorem unbroken_vacate (hole : Nat) (nonempty : 0 < table.capacity)
    (unbroken : table.Unbroken registry probeLimit) :
    (table.vacate hole).Unbroken registry probeLimit := by
  unfold vacate
  split
  · exact unbroken_store_tombstone nonempty hole unbroken
  · next gap =>
      exact unbroken_clear nonempty unbroken
        (unpassed_of_gap unbroken (Bool.eq_false_iff.mpr gap))

theorem isOccupied_vacate_of_ne (nonempty : 0 < table.capacity)
    (differs : ¬ position ≡ hole [MOD table.capacity])
    (occupied : table.isOccupied position = true) :
    (table.vacate hole).isOccupied position = true := by
  unfold vacate
  split
  · exact isOccupied_store_some nonempty hole occupied
  · rwa [isOccupied_clear_of_ne nonempty differs]

/-! ### Sweeping -/

/-- The refilling entry is reached at the hole over a part of the way to where it was, and
the slot that it left is not on that part. -/
theorem unbroken_refilled {ahead : Nat} {moved : Entry} (roomy : table.Roomy probeLimit)
    (unbroken : table.Unbroken registry probeLimit)
    (refills : table.Refills registry probeLimit hole ahead moved) :
    (table.refilled hole ahead moved).Unbroken registry probeLimit := by
  have nonempty := roomy.nonempty
  have capacityEq := capacity_vacate table (hole + ahead)
  have vacated := unbroken_vacate (hole + ahead) nonempty unbroken
  refine unbroken_store (by rwa [capacityEq]) hole vacated ?_
  intro live hash homed
  have near := refills.near
  rw [dislocation_eq homed] at near
  have reaches := unbroken _ _ _ refills.slot live homed
  have positive := refills.positive
  have closer := distance_of_near nonempty near
  have storeCapacity : ((table.vacate (hole + ahead)).store hole (some moved)).capacity =
      table.capacity := capacity_refilled table hole ahead moved
  refine reaches_of_steps (table.distance hash hole) (roomy.congr storeCapacity) ?_ ?_ ?_
  · exact Nat.lt_of_le_of_lt (closer ▸ Nat.sub_le _ _) reaches.inside
  · rw [home_congr storeCapacity, storeCapacity]
    exact home_add_distance table hash hole nonempty
  · intro step within
    rw [home_congr storeCapacity]
    refine isOccupied_store_some (by rwa [capacityEq]) hole ?_
    refine isOccupied_vacate_of_ne nonempty ?_ (reaches.occupied step (by omega))
    intro absurdity
    have exactly := distance_eq nonempty
      (Nat.lt_of_lt_of_le (by have := reaches.inside; omega) roomy.fits) absurdity
    omega

/-- Freeing one slot hides no live entry. -/
theorem unbroken_evict (roomy : table.Roomy probeLimit)
    (unbroken : table.Unbroken registry probeLimit) :
    (table.evict registry probeLimit hole).Unbroken registry probeLimit := by
  rcases evict_cases table registry probeLimit hole with ⟨none, empties⟩ | ⟨ahead, moved, refills, moves⟩
  · rw [empties]
    exact unbroken_clear roomy.nonempty unbroken
      (unpassed_of_replacement?_eq_none roomy unbroken none)
  · rw [moves]
    exact unbroken_refilled roomy unbroken refills

/-- A sweep hides no live entry, whatever range it covers. -/
theorem unbroken_sweep {start count : Nat} (roomy : table.Roomy probeLimit)
    (unbroken : table.Unbroken registry probeLimit) :
    (table.sweep registry probeLimit start count).table.Unbroken registry probeLimit := by
  induction count generalizing start table with
  | zero => exact unbroken
  | succ count inductionHypothesis =>
      unfold sweep
      split
      · exact inductionHypothesis roomy unbroken
      · split
        · exact inductionHypothesis roomy unbroken
        · exact inductionHypothesis (roomy.congr (capacity_evict registry probeLimit start table))
            (unbroken_evict roomy unbroken)

end Table

end ContextCache
