import ContextCache.Proofs.Table.Survival

/-!
Contract: what a sweep leaves behind.

A sweep takes out whatever is not live at the positions that it passes. When it refills a
slot, the refilling entry may leave a tombstone, less than a probe limit ahead, and the sweep
takes that out too once it gets there. The tombstones that it does not get to are all that it
leaves of its own. A sweep of the whole table leaves them behind its last position, which is
in a part of the table that it has passed before.

Owns:
- where something that is not live can be after a sweep of any range;
- how many slots that are after a sweep of the whole table;
- that none are left where no live entry sits across the table's end.

Does not own: when a table is swept.
-/

set_option autoImplicit false

namespace ContextCache

namespace Table

variable {registry : Registry} {probeLimit : Nat} {table : Table} {hole position : Nat}
  {entry : Entry}

/-! ### One slot -/

/-- What a slot holds after another one has been freed: what it held before, the entry that has
been moved into the freed slot, or the tombstone that this entry has left. -/
theorem slot_evict_cases (nonempty : 0 < table.capacity)
    (found : (table.evict registry probeLimit hole).slot position = some entry) :
    (¬ position ≡ hole [MOD table.capacity] ∧ table.slot position = some entry) ∨
      (∃ ahead, table.Refills registry probeLimit hole ahead entry ∧
        position ≡ hole [MOD table.capacity]) ∨
      (entry = .tombstone ∧ ∃ ahead moved, table.Refills registry probeLimit hole ahead moved ∧
        position ≡ hole + ahead [MOD table.capacity]) := by
  rcases evict_cases table registry probeLimit hole with ⟨-, empties⟩ | ⟨ahead, moved, refills, moves⟩
  · rw [empties] at found
    exact Or.inl (slot_clear_eq_some nonempty found)
  · rw [moves, slot_refilled nonempty, slot_vacate nonempty] at found
    split at found
    · next there =>
        cases found
        exact Or.inr (Or.inl ⟨ahead, refills, there⟩)
    · next elsewhere =>
        split at found
        · next left =>
            split at found
            · cases found
              exact Or.inr (Or.inr ⟨rfl, ahead, moved, refills, left⟩)
            · cases found
        · exact Or.inl ⟨elsewhere, found⟩

/-- What a sweep makes of a table at one position. -/
def visit (registry : Registry) (probeLimit position : Nat) (table : Table) : Table :=
  match table.slot position with
  | none => table
  | some entry =>
    if entry.isLive registry then table else table.evict registry probeLimit position

theorem visit_cases (table : Table) (registry : Registry) (probeLimit position : Nat) :
    (table.visit registry probeLimit position = table ∧
        ∀ entry, table.slot position = some entry → entry.isLive registry = true) ∨
      table.visit registry probeLimit position = table.evict registry probeLimit position := by
  unfold visit
  split
  · next vacant => exact Or.inl ⟨rfl, fun entry found => by rw [vacant] at found; cases found⟩
  · next occupant occupied =>
      split
      · next live =>
          refine Or.inl ⟨rfl, fun entry found => ?_⟩
          rw [occupied] at found
          cases found
          exact live
      · exact Or.inr rfl

@[simp] theorem capacity_visit (registry : Registry) (probeLimit position : Nat) (table : Table) :
    (table.visit registry probeLimit position).capacity = table.capacity := by
  rcases visit_cases table registry probeLimit position with ⟨same, -⟩ | evicts
  · rw [same]
  · rw [evicts, capacity_evict]

/-- A sweep visits its positions one after the other. -/
theorem table_sweep_succ (registry : Registry) (probeLimit start count : Nat) (table : Table) :
    (table.sweep registry probeLimit start (count + 1)).table =
      ((table.visit registry probeLimit start).sweep registry probeLimit (start + 1) count).table := by
  unfold visit
  rw [sweep]
  cases table.slot start with
  | none => rfl
  | some entry =>
      dsimp only
      split <;> rfl

/-- What a slot holds after a visit. The visited slot keeps only what is live. -/
theorem slot_visit_cases (nonempty : 0 < table.capacity)
    (found : (table.visit registry probeLimit hole).slot position = some entry) :
    (table.slot position = some entry ∧
        (position ≡ hole [MOD table.capacity] → entry.isLive registry = true)) ∨
      (∃ ahead, table.Refills registry probeLimit hole ahead entry ∧
        position ≡ hole [MOD table.capacity]) ∨
      (entry = .tombstone ∧ ∃ ahead moved, table.Refills registry probeLimit hole ahead moved ∧
        position ≡ hole + ahead [MOD table.capacity]) := by
  rcases visit_cases table registry probeLimit hole with ⟨same, live⟩ | evicts
  · rw [same] at found
    exact Or.inl ⟨found, fun here => live entry ((slot_congr here).symm.trans found)⟩
  · rw [evicts] at found
    rcases slot_evict_cases nonempty found with ⟨elsewhere, before⟩ | later
    · exact Or.inl ⟨before, fun here => absurd here elsewhere⟩
    · exact Or.inr later

/-- What is not live after a visit was there before, in another slot, or is a tombstone that
the visit has left ahead. -/
theorem leftover_visit (nonempty : 0 < table.capacity)
    (found : (table.visit registry probeLimit hole).slot position = some entry)
    (dead : entry.isLive registry = false) :
    (¬ position ≡ hole [MOD table.capacity] ∧ table.slot position = some entry) ∨
      (entry = .tombstone ∧ ∃ ahead moved, table.Refills registry probeLimit hole ahead moved ∧
        position ≡ hole + ahead [MOD table.capacity]) := by
  have notLive : entry.isLive registry ≠ true := Bool.eq_false_iff.mp dead
  rcases slot_visit_cases nonempty found with ⟨before, here⟩ | ⟨ahead, refills, -⟩ | left
  · exact Or.inl ⟨fun there => notLive (here there), before⟩
  · exact absurd refills.live notLive
  · exact Or.inr left

/-! ### Any range -/

/-- What is not live after a sweep was there before, outside its range, or is a tombstone less
than a probe limit behind its range. -/
theorem leftover_sweep {start count : Nat} (roomy : table.Roomy probeLimit)
    (found : (table.sweep registry probeLimit start count).table.slot position = some entry)
    (dead : entry.isLive registry = false) :
    (table.slot position = some entry ∧
        ∀ step, step < count → ¬ position ≡ start + step [MOD table.capacity]) ∨
      (entry = .tombstone ∧ ∃ step, count ≤ step ∧ step + 1 < count + probeLimit ∧
        position ≡ start + step [MOD table.capacity]) := by
  induction count generalizing start table with
  | zero => exact Or.inl ⟨found, fun step absurdity => absurd absurdity (Nat.not_lt_zero step)⟩
  | succ count inductionHypothesis =>
      have capacityEq := capacity_visit registry probeLimit start table
      have shift : ∀ step, start + 1 + step = start + (step + 1) := fun step => by omega
      rw [table_sweep_succ] at found
      rcases inductionHypothesis (roomy.congr capacityEq) found with
        ⟨visited, outside⟩ | ⟨tombstone, step, behind, near, there⟩
      · rw [capacityEq] at outside
        rcases leftover_visit roomy.nonempty visited dead with
          ⟨elsewhere, before⟩ | ⟨tombstone, ahead, moved, refills, there⟩
        · refine Or.inl ⟨before, fun step within => ?_⟩
          cases step with
          | zero => exact elsewhere
          | succ step =>
              rw [← shift]
              exact outside step (by omega)
        · -- The sweep takes the tombstone out again if it gets there.
          have positive := refills.positive
          have below := refills.below
          have beyond : count < ahead := by
            by_contra within
            refine outside (ahead - 1) (by omega) ?_
            rwa [shift, show ahead - 1 + 1 = ahead by omega]
          exact Or.inr ⟨tombstone, ahead, beyond, by omega, there⟩
      · refine Or.inr ⟨tombstone, step + 1, by omega, by omega, ?_⟩
        rwa [capacityEq, shift] at there

/-! ### The whole table -/

/-- After a sweep of the whole table, what is not live is a tombstone in one of fewer than
`probeLimit` slots. -/
theorem leftover_sweepAll (roomy : table.Roomy probeLimit)
    (found : (table.sweepAll registry probeLimit).table.slot position = some entry)
    (dead : entry.isLive registry = false) :
    entry = .tombstone ∧ ∃ step, step + 1 < probeLimit ∧
      position ≡ probeLimit - 1 + step [MOD table.capacity] := by
  have positive := roomy.positive
  have nonempty := roomy.nonempty
  rcases leftover_sweep roomy found dead with ⟨-, outside⟩ | ⟨tombstone, step, behind, near, there⟩
  · refine absurd ?_ (outside (position % table.capacity) ?_)
    · rw [Nat.zero_add]
      exact (Nat.mod_modEq _ _).symm
    · have below := Nat.mod_lt position nonempty
      omega
  · refine ⟨tombstone, step - (table.capacity + probeLimit - 1), by omega, ?_⟩
    rw [Nat.zero_add, show step = probeLimit - 1 + (step - (table.capacity + probeLimit - 1)) +
      table.capacity by omega] at there
    exact there.trans Nat.add_modEq_right

/-- The number of slots with something that is not live. -/
def leftovers (registry : Registry) (table : Table) : Nat :=
  (List.range table.capacity).countP fun position =>
    (table.slot position).any fun entry => !entry.isLive registry

theorem occupied_eq_live_add_leftovers (registry : Registry) (table : Table) :
    table.occupied = (table.liveEntries registry).length + table.leftovers registry := by
  have occupied : table.occupied = table.entries.length := by
    unfold occupied entries
    rw [List.length_filterMap_eq_countP]
    rfl
  have dead : table.leftovers registry =
      table.entries.countP fun entry => decide ¬ entry.isLive registry = true := by
    unfold leftovers entries
    rw [toList_slots, List.countP_filterMap, List.countP_map]
    apply List.countP_congr
    intro position _
    rw [Function.comp_apply]
    cases table.slot position <;> simp
  unfold liveEntries
  rw [occupied, dead, ← List.countP_eq_length_filter]
  exact List.length_eq_countP_add_countP _

theorem leftovers_sweepAll_lt (roomy : table.Roomy probeLimit) :
    (table.sweepAll registry probeLimit).table.leftovers registry < probeLimit := by
  have capacityEq : (table.sweepAll registry probeLimit).table.capacity = table.capacity :=
    capacity_sweep _ _ _ _ _
  have positive := roomy.positive
  have inside : ∀ position, position ∈ (List.range table.capacity).filter (fun position =>
      ((table.sweepAll registry probeLimit).table.slot position).any fun entry =>
        !entry.isLive registry) →
      position ∈ (List.range (probeLimit - 1)).map fun step =>
        (probeLimit - 1 + step) % table.capacity := by
    intro position member
    obtain ⟨listed, left⟩ := List.mem_filter.mp member
    obtain ⟨entry, found, dead⟩ := (Option.any_eq_true _ _).mp left
    obtain ⟨-, step, near, there⟩ := leftover_sweepAll roomy found (by simpa using dead)
    refine List.mem_map.mpr ⟨step, List.mem_range.mpr (by omega), ?_⟩
    rw [← show position % table.capacity = (probeLimit - 1 + step) % table.capacity from there]
    exact Nat.mod_eq_of_lt (List.mem_range.mp listed)
  have few := List.Nodup.length_le_of_subset (List.nodup_range.filter _) inside
  rw [List.length_map, List.length_range] at few
  unfold leftovers
  rw [capacityEq, List.countP_eq_length_filter]
  omega

theorem leftovers_eq_zero
    (lives : ∀ position entry, table.slot position = some entry → entry.isLive registry = true) :
    table.leftovers registry = 0 := by
  unfold leftovers
  rw [List.countP_eq_zero]
  intro position _ left
  obtain ⟨entry, found, dead⟩ := (Option.any_eq_true _ _).mp left
  simp [lives position entry found] at dead

/-! ### No live entry across the end -/

/-- No live entry sits across the table's end from its home. -/
def Unwrapped (table : Table) (registry : Registry) : Prop :=
  ∀ position entry hash, position < table.capacity → table.slot position = some entry →
    entry.isLive registry = true → entry.hashOf? registry = some hash →
      table.distance hash position ≤ position

/-- Below a position, every occupied slot holds a live entry. -/
def LiveBelow (table : Table) (registry : Registry) (bound : Nat) : Prop :=
  ∀ position entry, position < bound → table.slot position = some entry →
    entry.isLive registry = true

/-- A freed slot is not refilled from across the end. -/
theorem Refills.ahead_lt {ahead : Nat} {moved : Entry} (roomy : table.Roomy probeLimit)
    (unwrapped : table.Unwrapped registry) (inside : hole < table.capacity)
    (refills : table.Refills registry probeLimit hole ahead moved) :
    hole + ahead < table.capacity := by
  by_contra across
  have below := refills.below
  have fits := roomy.fits
  have wrapped : hole + ahead ≡ hole + ahead - table.capacity [MOD table.capacity] := by
    have whole : hole + ahead - table.capacity + table.capacity = hole + ahead := by omega
    rw [← whole, Nat.add_sub_cancel]
    exact Nat.add_modEq_right
  obtain ⟨hash, homed⟩ := Entry.exists_hashOf?_of_isLive refills.live
  have close := unwrapped (hole + ahead - table.capacity) moved hash (by omega)
    ((slot_congr wrapped).symm.trans refills.slot) refills.live homed
  have near := refills.near
  rw [dislocation_eq homed, distance_modEq hash roomy.nonempty wrapped] at near
  omega

/-- A visit brings no live entry across the end. -/
theorem Unwrapped.visit (unwrapped : table.Unwrapped registry) (roomy : table.Roomy probeLimit)
    (inside : hole < table.capacity) :
    (table.visit registry probeLimit hole).Unwrapped registry := by
  have capacityEq := capacity_visit registry probeLimit hole table
  intro position entry hash below found live homed
  rw [capacityEq] at below
  rw [distance_congr capacityEq]
  rcases slot_visit_cases roomy.nonempty found with
    ⟨before, -⟩ | ⟨ahead, refills, there⟩ | ⟨rfl, -⟩
  · exact unwrapped position entry hash below before live homed
  · have same : position = hole := there.eq_of_lt_of_lt below inside
    have near := refills.near
    rw [dislocation_eq homed] at near
    have close := unwrapped (hole + ahead) entry hash (refills.ahead_lt roomy unwrapped inside)
      refills.slot live homed
    rw [same, distance_of_near roomy.nonempty near]
    omega
  · cases live

/-- A visit leaves everything below it alone, and in its own slot a live entry or nothing. -/
theorem LiveBelow.visit (lives : table.LiveBelow registry hole) (roomy : table.Roomy probeLimit)
    (unwrapped : table.Unwrapped registry) (inside : hole < table.capacity) :
    (table.visit registry probeLimit hole).LiveBelow registry (hole + 1) := by
  intro position entry below found
  by_contra dead
  rcases leftover_visit roomy.nonempty found (Bool.eq_false_iff.mpr dead) with
    ⟨elsewhere, before⟩ | ⟨-, ahead, moved, refills, there⟩
  · have differs : position ≠ hole := fun same => elsewhere (congrArg (· % table.capacity) same)
    exact dead (lives position entry (by omega) before)
  · have positive := refills.positive
    have same : position = hole + ahead :=
      there.eq_of_lt_of_lt (by omega) (refills.ahead_lt roomy unwrapped inside)
    omega

/-- A sweep up to the end leaves only live entries on its way. -/
theorem LiveBelow.sweep {start count : Nat} (lives : table.LiveBelow registry start)
    (roomy : table.Roomy probeLimit) (unwrapped : table.Unwrapped registry)
    (inside : start + count ≤ table.capacity) :
    (table.sweep registry probeLimit start count).table.LiveBelow registry (start + count) := by
  induction count generalizing start table with
  | zero => exact lives
  | succ count inductionHypothesis =>
      have capacityEq := capacity_visit registry probeLimit start table
      have here : start < table.capacity := by omega
      rw [table_sweep_succ, show start + (count + 1) = start + 1 + count by omega]
      apply inductionHypothesis (lives.visit roomy unwrapped here) (roomy.congr capacityEq)
        (unwrapped.visit roomy here)
      rw [capacityEq]
      omega

/-- Where everything is live there is nothing to sweep. -/
theorem sweep_of_live {start count : Nat}
    (lives : ∀ entry, table.Holds entry → entry.isLive registry = true) :
    table.sweep registry probeLimit start count = ⟨0, table⟩ := by
  induction count generalizing start with
  | zero => rfl
  | succ count inductionHypothesis =>
      unfold sweep
      split
      · exact inductionHypothesis
      · next found =>
          rw [if_pos (lives _ ⟨start, found⟩)]
          exact inductionHypothesis

/-- A long sweep is a short one and the rest. -/
theorem table_sweep_add (registry : Registry) (probeLimit start first second : Nat)
    (table : Table) :
    (table.sweep registry probeLimit start (first + second)).table =
      ((table.sweep registry probeLimit start first).table.sweep registry probeLimit
        (start + first) second).table := by
  induction first generalizing start table with
  | zero =>
      rw [Nat.zero_add]
      rfl
  | succ first inductionHypothesis =>
      rw [Nat.succ_add, table_sweep_succ, inductionHypothesis, table_sweep_succ,
        show start + (first + 1) = start + 1 + first by omega]

/-- In a table without live entries across its end, the sweep is done when it gets there for
the first time, and only live entries are left. -/
theorem isLive_of_sweepAll (roomy : table.Roomy probeLimit) (unwrapped : table.Unwrapped registry)
    (holds : (table.sweepAll registry probeLimit).table.Holds entry) :
    entry.isLive registry = true := by
  have positive := roomy.positive
  have first : (table.sweep registry probeLimit 0 table.capacity).table.LiveBelow registry
      table.capacity := by
    have lap : (table.sweep registry probeLimit 0 table.capacity).table.LiveBelow registry
        (0 + table.capacity) :=
      LiveBelow.sweep (fun _ _ absurdity => absurd absurdity (Nat.not_lt_zero _)) roomy unwrapped
        (Nat.le_of_eq (Nat.zero_add _))
    rwa [Nat.zero_add] at lap
  have lives : ∀ entry, (table.sweep registry probeLimit 0 table.capacity).table.Holds entry →
      entry.isLive registry = true := by
    rintro entry ⟨position, found⟩
    refine first (position % table.capacity) entry (Nat.mod_lt _ roomy.nonempty) ?_
    refine (slot_congr ?_).trans found
    rw [capacity_sweep]
    exact Nat.mod_modEq _ _
  have whole : (table.sweepAll registry probeLimit).table =
      (table.sweep registry probeLimit 0 table.capacity).table := by
    unfold sweepAll
    rw [show table.capacity + probeLimit - 1 = table.capacity + (probeLimit - 1) by omega,
      table_sweep_add, sweep_of_live lives]
  exact lives entry (whole ▸ holds)

end Table

end ContextCache
