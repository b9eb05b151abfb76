import ContextCache.Proofs.Table.Copies

/-!
Contract: what one insertion does to a table, slot by slot.

The newcomer takes its home slot, whoever is there. If that was a live entry, it is taken in
at the first slot of its own window that nobody else's live entry has. That window begins at
another home as a rule, which may lie before the slot and, going back, beyond the table's
beginning. So at most one other slot is written, and only a full window costs an entry its
place.

Owns:
- the one write out of which insertion is made, and what it does to slots and load;
- the slots at which an entry may be taken in, and the first of them;
- where the entry that an insertion pushes out goes, and when it is lost.

Does not own: how often a table may be inserted into before it has to grow.
-/

set_option autoImplicit false

namespace ContextCache

namespace Table

variable {registry : Registry} {probeLimit : Nat} {table : Table} {hash own : UInt32}
  {position start count steps : Nat} {entry displaced other : Entry}

/-- Has an entry written at a position, unless it is there already. -/
def place (table : Table) (position : Nat) (entry : Entry) : Table :=
  match table.slot position with
  | none => table.fill position entry
  | some occupant => if occupant = entry then table else table.store position (some entry)

/-- The slot has a live entry other than this one. -/
def Taken (table : Table) (registry : Registry) (entry : Entry) (position : Nat) : Prop :=
  ∃ other, table.slot position = some other ∧ other.isLive registry = true ∧ other ≠ entry

instance (table : Table) (registry : Registry) (entry : Entry) (position : Nat) :
    Decidable (table.Taken registry entry position) :=
  decidable_of_iff
    ((table.slot position).any (fun other => other.isLive registry && other != entry) = true)
    (by simp [Taken, Option.any_eq_true])

/-- The first of `count` slots from `start` on that is not taken is met after `steps` steps. -/
structure FirstFree (table : Table) (registry : Registry) (entry : Entry)
    (start count steps : Nat) : Prop where
  inside : steps < count
  free : ¬ table.Taken registry entry (start + steps)
  passed : ∀ earlier, earlier < steps → table.Taken registry entry (start + earlier)

/-! ### One write -/

theorem slot_place (nonempty : 0 < table.capacity) (written : Nat) (entry : Entry)
    (position : Nat) :
    (table.place written entry).slot position =
      if position ≡ written [MOD table.capacity] then some entry else table.slot position := by
  have stored := slot_store table written position (some entry) nonempty
  unfold place
  split
  · exact stored
  · next occupant found =>
      split
      · next same =>
          split
          · next here => rw [slot_congr here, found, same]
          · rfl
      · exact stored

theorem slot_place_self (nonempty : 0 < table.capacity) (position : Nat) (entry : Entry) :
    (table.place position entry).slot position = some entry := by
  rw [slot_place nonempty, if_pos (Nat.ModEq.refl position)]

theorem slot_place_ne (nonempty : 0 < table.capacity) {written : Nat} (entry : Entry)
    (differs : ¬ position ≡ written [MOD table.capacity]) :
    (table.place written entry).slot position = table.slot position := by
  rw [slot_place nonempty, if_neg differs]

/-- Over an occupied slot this is a write that leaves the load alone. -/
theorem load_place_of_isOccupied (occupied : table.isOccupied position = true) :
    (table.place position entry).load = table.load := by
  obtain ⟨occupant, found⟩ := Option.isSome_iff_exists.mp occupied
  unfold place
  rw [found]
  dsimp only
  split <;> simp

theorem isOccupied_place_of_isOccupied (nonempty : 0 < table.capacity) {written : Nat}
    (occupied : table.isOccupied written = true) (position : Nat) :
    (table.place written entry).isOccupied position = table.isOccupied position := by
  obtain ⟨occupant, found⟩ := Option.isSome_iff_exists.mp occupied
  unfold place
  rw [found]
  dsimp only
  split
  · rfl
  · exact isOccupied_store_of_isOccupied nonempty entry occupied position

/-- The load grows by one if the slot was empty. Otherwise the same slots are occupied. -/
theorem load_place (nonempty : 0 < table.capacity) (position : Nat) (entry : Entry) :
    ((table.place position entry).load = table.load + 1 ∧ table.slot position = none) ∨
      ((table.place position entry).load = table.load ∧
        ∀ other, (table.place position entry).isOccupied other = table.isOccupied other) := by
  cases found : table.slot position with
  | none =>
      left
      unfold place
      rw [found]
      exact ⟨rfl, rfl⟩
  | some occupant =>
      right
      have occupied := isOccupied_of_slot found
      exact ⟨load_place_of_isOccupied occupied,
        isOccupied_place_of_isOccupied nonempty occupied⟩

/-- Positions that name the same slot are written alike. -/
theorem place_congr {first second : Nat} (same : first ≡ second [MOD table.capacity]) :
    table.place first entry = table.place second entry := by
  have stores : table.store first (some entry) = table.store second (some entry) := by
    unfold store
    rw [show first % table.capacity = second % table.capacity from same]
  unfold place fill
  rw [slot_congr same, stores]

/-! ### Slots that are taken -/

theorem taken_congr {first second : Nat} (same : first ≡ second [MOD table.capacity]) :
    table.Taken registry entry first ↔ table.Taken registry entry second := by
  unfold Taken
  rw [slot_congr same]

theorem firstFree_congr {first second : Nat} (same : first ≡ second [MOD table.capacity])
    (free : table.FirstFree registry entry first count steps) :
    table.FirstFree registry entry second count steps where
  inside := free.inside
  free := fun taken => free.free ((taken_congr (same.add_right steps)).mpr taken)
  passed := fun earlier before =>
    (taken_congr (same.add_right earlier)).mp (free.passed earlier before)

/-- A window is full or has a first slot that is not taken. -/
theorem taken_or_firstFree (table : Table) (registry : Registry) (entry : Entry)
    (start count : Nat) :
    (∀ steps, steps < count → table.Taken registry entry (start + steps)) ∨
      ∃ steps, table.FirstFree registry entry start count steps := by
  induction count with
  | zero => exact Or.inl fun steps absurdity => nomatch absurdity
  | succ count inductionHypothesis =>
      rcases inductionHypothesis with full | ⟨steps, first⟩
      · by_cases last : table.Taken registry entry (start + count)
        · refine Or.inl fun steps below => ?_
          rcases Nat.lt_or_eq_of_le (Nat.le_of_lt_succ below) with before | atLast
          · exact full steps before
          · exact atLast ▸ last
        · exact Or.inr ⟨count, Nat.lt_succ_self count, last, full⟩
      · exact Or.inr ⟨steps, Nat.lt_succ_of_lt first.inside, first.free, first.passed⟩

/-! ### Taking an entry in -/

/-- Without a free slot the entry is left out. -/
theorem shelter_of_taken
    (full : ∀ steps, steps < count → table.Taken registry entry (start + steps)) :
    shelter registry entry start count table = table := by
  induction count generalizing start with
  | zero => rfl
  | succ count inductionHypothesis =>
      obtain ⟨occupant, found, live, differs⟩ := full 0 (Nat.succ_pos count)
      unfold shelter
      rw [show table.slot start = some occupant from found]
      simp only [differs, live, if_true, if_false]
      apply inductionHypothesis
      intro steps below
      have taken := full (steps + 1) (by omega)
      rwa [show start + (steps + 1) = start + 1 + steps by omega] at taken

/-- The entry goes to the first slot that is not taken, and nothing else is written. -/
theorem shelter_of_firstFree (first : table.FirstFree registry entry start count steps) :
    shelter registry entry start count table = table.place (start + steps) entry := by
  induction count generalizing start steps with
  | zero => exact absurd first.inside (Nat.not_lt_zero steps)
  | succ count inductionHypothesis =>
      cases steps with
      | zero =>
          have free : ¬ table.Taken registry entry start := first.free
          show shelter registry entry start (count + 1) table = table.place start entry
          unfold shelter place
          cases found : table.slot start with
          | none => rfl
          | some occupant =>
              dsimp only
              by_cases same : occupant = entry
              · rw [if_pos same, if_pos same]
              · have dead : ¬ occupant.isLive registry = true :=
                  fun live => free ⟨occupant, found, live, same⟩
                rw [if_neg same, if_neg dead, if_neg same]
      | succ steps =>
          obtain ⟨occupant, found, live, differs⟩ := first.passed 0 (Nat.succ_pos steps)
          unfold shelter
          rw [show table.slot start = some occupant from found]
          simp only [differs, live, if_true, if_false]
          rw [show start + (steps + 1) = start + 1 + steps by omega]
          apply inductionHypothesis
          refine ⟨Nat.lt_of_succ_lt_succ first.inside, ?_, ?_⟩
          · have free := first.free
            rwa [show start + (steps + 1) = start + 1 + steps by omega] at free
          · intro earlier before
            have taken := first.passed (earlier + 1) (by omega)
            rwa [show start + (earlier + 1) = start + 1 + earlier by omega] at taken

/-! ### Insertion -/

theorem add_of_not_taken (free : ¬ table.Taken registry entry (table.home hash)) :
    table.add registry probeLimit hash entry = table.place (table.home hash) entry := by
  unfold add seat place
  dsimp only
  cases found : table.slot (table.home hash) with
  | none => rfl
  | some occupant =>
      dsimp only
      by_cases same : occupant = entry
      · rw [if_pos same, if_pos same]
      · have dead : ¬ occupant.isLive registry = true :=
          fun live => free ⟨occupant, found, live, same⟩
        rw [if_neg same, if_neg same, if_neg dead]

/-- The entry that is pushed out is taken in from its own home on. -/
theorem add_of_displaced (probeLimit : Nat) (nonempty : 0 < table.capacity)
    (found : table.slot (table.home hash) = some displaced)
    (live : displaced.isLive registry = true) (differs : displaced ≠ entry)
    (homed : displaced.hashOf? registry = some own) :
    ∃ ownHome, ownHome ≡ table.home own [MOD table.capacity] ∧
      table.add registry probeLimit hash entry =
        shelter registry displaced ownHome probeLimit
          (table.store (table.home hash) (some entry)) := by
  refine ⟨table.home hash + table.capacity - table.distance own (table.home hash),
    (ownHome_modEq nonempty).symm, ?_⟩
  unfold add seat
  dsimp only
  rw [found]
  simp only [differs, live, if_true, if_false]
  rw [dislocation_eq homed]

/-- Everything that an insertion can do: nothing live is pushed out; or what is pushed out
goes to the first slot of its window that is not taken by then; or there is none. -/
theorem add_cases (nonempty : 0 < table.capacity) (registry : Registry) (probeLimit : Nat)
    (hash : UInt32) (entry : Entry) :
    (¬ table.Taken registry entry (table.home hash) ∧
      table.add registry probeLimit hash entry = table.place (table.home hash) entry) ∨
    ∃ displaced own, table.slot (table.home hash) = some displaced ∧
      displaced.isLive registry = true ∧ displaced ≠ entry ∧
      displaced.hashOf? registry = some own ∧
      let seated := table.store (table.home hash) (some entry)
      ((∃ steps, seated.FirstFree registry displaced (table.home own) probeLimit steps ∧
          table.add registry probeLimit hash entry =
            seated.place (table.home own + steps) displaced) ∨
        ((∀ steps, steps < probeLimit →
            seated.Taken registry displaced (table.home own + steps)) ∧
          table.add registry probeLimit hash entry = seated)) := by
  by_cases taken : table.Taken registry entry (table.home hash)
  · right
    obtain ⟨displaced, found, live, differs⟩ := taken
    obtain ⟨own, homed⟩ := Entry.exists_hashOf?_of_isLive live
    obtain ⟨ownHome, same, adds⟩ :=
      add_of_displaced probeLimit nonempty found live differs homed
    refine ⟨displaced, own, found, live, differs, homed, ?_⟩
    have sameStill : ownHome ≡ table.home own
        [MOD (table.store (table.home hash) (some entry)).capacity] := by
      rwa [capacity_store]
    rcases taken_or_firstFree (table.store (table.home hash) (some entry)) registry displaced
      ownHome probeLimit with full | ⟨steps, first⟩
    · refine Or.inr ⟨fun steps below => ?_, adds.trans (shelter_of_taken full)⟩
      exact (taken_congr (sameStill.add_right steps)).mp (full steps below)
    · refine Or.inl ⟨steps, firstFree_congr sameStill first, ?_⟩
      rw [adds, shelter_of_firstFree first]
      exact place_congr (sameStill.add_right steps)
  · exact Or.inl ⟨taken, add_of_not_taken taken⟩

/-- No slot changes but the home slot and at most one other. -/
theorem exists_slot_add_of_ne (nonempty : 0 < table.capacity) (registry : Registry)
    (probeLimit : Nat) (hash : UInt32) (entry : Entry) :
    ∃ refuge, ∀ position, ¬ position ≡ table.home hash [MOD table.capacity] →
      ¬ position ≡ refuge [MOD table.capacity] →
      (table.add registry probeLimit hash entry).slot position = table.slot position := by
  rcases add_cases nonempty registry probeLimit hash entry with
    ⟨-, adds⟩ | ⟨displaced, own, -, -, -, -, ⟨steps, -, adds⟩ | ⟨-, adds⟩⟩
  · refine ⟨0, fun position elsewhere _ => ?_⟩
    rw [adds, slot_place_ne nonempty entry elsewhere]
  · refine ⟨table.home own + steps, fun position elsewhere apart => ?_⟩
    rw [adds, slot_place_ne (by simpa using nonempty) displaced (by simpa using apart),
      slot_store_ne nonempty _ elsewhere]
  · refine ⟨0, fun position elsewhere _ => ?_⟩
    rw [adds, slot_store_ne nonempty _ elsewhere]

/-- The entry that is pushed out sits in the first slot of its window that is not taken. -/
theorem slot_add_of_firstFree (nonempty : 0 < table.capacity)
    (found : table.slot (table.home hash) = some displaced)
    (live : displaced.isLive registry = true) (differs : displaced ≠ entry)
    (homed : displaced.hashOf? registry = some own)
    (first : (table.store (table.home hash) (some entry)).FirstFree registry displaced
      (table.home own) probeLimit steps) :
    (table.add registry probeLimit hash entry).slot (table.home own + steps) =
      some displaced := by
  obtain ⟨ownHome, same, adds⟩ := add_of_displaced probeLimit nonempty found live differs homed
  have sameStill : table.home own ≡ ownHome
      [MOD (table.store (table.home hash) (some entry)).capacity] := by
    rw [capacity_store]
    exact same.symm
  rw [adds, shelter_of_firstFree (firstFree_congr sameStill first),
    ← place_congr (sameStill.add_right steps)]
  exact slot_place_self (by simpa using nonempty) _ _

/-- In a table without hidden live entries, what is pushed out is lost exactly if its window
is full. -/
theorem not_holds_add_iff (roomy : table.Roomy probeLimit)
    (unbroken : table.Unbroken registry probeLimit) (entryHomed : entry.hashOf? registry = some hash)
    (found : table.slot (table.home hash) = some displaced)
    (live : displaced.isLive registry = true) (differs : displaced ≠ entry)
    (homed : displaced.hashOf? registry = some own) :
    ¬ (table.add registry probeLimit hash entry).Holds displaced ↔
      ∀ steps, steps < probeLimit →
        (table.store (table.home hash) (some entry)).Taken registry displaced
          (table.home own + steps) := by
  have nonempty := roomy.nonempty
  have after := unbroken_add roomy unbroken entryHomed
  constructor
  · intro lost
    rcases taken_or_firstFree (table.store (table.home hash) (some entry)) registry displaced
      (table.home own) probeLimit with full | ⟨steps, first⟩
    · exact full
    · exact absurd ⟨_, slot_add_of_firstFree nonempty found live differs homed first⟩ lost
  · rintro full ⟨position, there⟩
    -- It could only be inside its own window, and there every slot is somebody else's.
    obtain ⟨inside, -⟩ := after position displaced own there live homed
    have walked := home_add_distance (table.add registry probeLimit hash entry) own position
      (by simpa using nonempty)
    rw [home_congr (capacity_add registry probeLimit hash entry table),
      capacity_add] at walked
    obtain ⟨occupant, met, occupantLive, apart⟩ := full _ inside
    rw [slot_congr (by simpa using walked)] at met
    have stays : (table.add registry probeLimit hash entry).slot position = some occupant :=
      slot_add_of_store nonempty occupantLive met
    exact apart (Option.some.inj (stays.symm.trans there))

/-- The load grows by one exactly when an empty slot is filled. -/
theorem load_add (nonempty : 0 < table.capacity) (registry : Registry) (probeLimit : Nat)
    (hash : UInt32) (entry : Entry) :
    ((table.add registry probeLimit hash entry).load = table.load + 1 ∧
        ∃ position, table.slot position = none ∧
          (table.add registry probeLimit hash entry).isOccupied position = true) ∨
      ((table.add registry probeLimit hash entry).load = table.load ∧
        ∀ position, (table.add registry probeLimit hash entry).isOccupied position =
          table.isOccupied position) := by
  rcases add_cases nonempty registry probeLimit hash entry with
    ⟨-, adds⟩ | ⟨displaced, own, found, -, -, -, settles⟩
  · rw [adds]
    refine (load_place nonempty (table.home hash) entry).imp_left fun grown =>
      ⟨grown.1, _, grown.2, ?_⟩
    exact isOccupied_of_slot (slot_place_self nonempty _ _)
  · have sameLoad : (table.store (table.home hash) (some entry)).load = table.load := rfl
    have sameSlots : ∀ position, (table.store (table.home hash) (some entry)).isOccupied position =
        table.isOccupied position :=
      isOccupied_store_of_isOccupied nonempty entry (isOccupied_of_slot found)
    rcases settles with ⟨steps, -, adds⟩ | ⟨-, adds⟩
    · have seatedNonempty : 0 < (table.store (table.home hash) (some entry)).capacity := by
        simpa using nonempty
      rw [adds]
      rcases load_place seatedNonempty (table.home own + steps) displaced with
        ⟨grown, vacant⟩ | ⟨kept, occupied⟩
      · refine Or.inl ⟨grown, _, ?_, isOccupied_of_slot (slot_place_self seatedNonempty _ _)⟩
        have unoccupied := sameSlots (table.home own + steps)
        unfold isOccupied at unoccupied
        rw [vacant] at unoccupied
        exact Option.isNone_iff_eq_none.mp (Option.isSome_eq_false_iff.mp unoccupied.symm)
      · exact Or.inr ⟨kept, fun position => (occupied position).trans (sameSlots position)⟩
    · rw [adds]
      exact Or.inr ⟨sameLoad, sameSlots⟩

/-- Insertions displace one entry at most, and lose it only from a full window. In a table in
which no live entry is hidden, a live entry that is inserted is at its home afterwards, and at
most one other slot has changed. Another live entry that had the home slot sits in the first
slot of its own window that is not taken by a different live entry, the newcomer included, and
is gone exactly if there is no such slot. All other live entries stay where they are, none is
hidden, and the load grows by one exactly when an empty slot is filled. -/
theorem insertions_displace_one_entry (roomy : table.Roomy probeLimit)
    (unbroken : table.Unbroken registry probeLimit) (live : entry.isLive registry = true)
    (homed : entry.hashOf? registry = some hash) :
    let after := table.add registry probeLimit hash entry
    let seated := table.store (table.home hash) (some entry)
    after.slot (table.home hash) = some entry ∧
    (∃ refuge, ∀ position, ¬ position ≡ table.home hash [MOD table.capacity] →
      ¬ position ≡ refuge [MOD table.capacity] → after.slot position = table.slot position) ∧
    (∀ displaced own, table.slot (table.home hash) = some displaced →
      displaced.isLive registry = true → displaced ≠ entry →
      displaced.hashOf? registry = some own →
      (∀ steps, seated.FirstFree registry displaced (table.home own) probeLimit steps →
        after.slot (table.home own + steps) = some displaced) ∧
      (¬ after.Holds displaced ↔ ∀ steps, steps < probeLimit →
        seated.Taken registry displaced (table.home own + steps))) ∧
    (∀ position other, table.slot position = some other → other.isLive registry = true →
      ¬ position ≡ table.home hash [MOD table.capacity] → after.slot position = some other) ∧
    after.Unbroken registry probeLimit ∧
    ((after.load = table.load + 1 ∧
        ∃ position, table.slot position = none ∧ after.isOccupied position = true) ∨
      (after.load = table.load ∧
        ∀ position, after.isOccupied position = table.isOccupied position)) := by
  have nonempty := roomy.nonempty
  refine ⟨slot_add_home nonempty live, exists_slot_add_of_ne nonempty registry probeLimit hash entry,
    ?_, ?_, unbroken_add roomy unbroken homed, load_add nonempty registry probeLimit hash entry⟩
  · intro displaced own found displacedLive differs ownHomed
    refine ⟨fun steps first => ?_, ?_⟩
    · exact slot_add_of_firstFree nonempty found displacedLive differs ownHomed first
    · exact not_holds_add_iff roomy unbroken homed found displacedLive differs ownHomed
  · intro position other found otherLive elsewhere
    exact slot_add_of_live nonempty otherLive found elsewhere

/-- Six definitions, whose homes in four slots are 0, 3, 2, 1, 0 and 3. -/
def sixHomes : Registry :=
  Registry.initial.define.2.define.2.define.2.define.2.define.2.define.2

/-- A value of one of them. -/
def valueOf (key : DefinitionKey) : Entry :=
  .minted key (some ⟨key, 0⟩) (some ⟨key⟩)

/-- Four slots after the insertion of two definitions at home in slot 3: the second one has it,
and the first one sits beyond the end, in slot 0. -/
def aroundTheEnd (probeLimit : Nat) : Table :=
  ((empty 4).add sixHomes probeLimit (sixHomes.hash 1) (valueOf 1)).add sixHomes probeLimit
    (sixHomes.hash 5) (valueOf 5)

theorem unbroken_aroundTheEnd (positive : 0 < probeLimit) (fits : probeLimit ≤ 4) :
    (aroundTheEnd probeLimit).Unbroken sixHomes probeLimit := by
  have roomy : (empty 4).Roomy probeLimit := ⟨positive, by simpa using fits⟩
  have first : ((empty 4).add sixHomes probeLimit (sixHomes.hash 1) (valueOf 1)).Unbroken
      sixHomes probeLimit := unbroken_add roomy (unbroken_empty 4) (by decide)
  exact unbroken_add (roomy.congr (capacity_add _ _ _ _ _)) first (by decide)

/-- A definition at home in slot 0 pushes out the one whose window begins in slot 3. With
windows of three slots that one goes on to slot 1, with windows of two it is gone. -/
theorem insertions_displace_one_entry_around :
    ((aroundTheEnd 3).add sixHomes 3 (sixHomes.hash 0) (valueOf 0)).slot 1 = some (valueOf 1) ∧
      ¬ ((aroundTheEnd 2).add sixHomes 2 (sixHomes.hash 0) (valueOf 0)).Holds (valueOf 1) := by
  have live : (valueOf 0).isLive sixHomes = true := by decide
  have homed : (valueOf 0).hashOf? sixHomes = some (sixHomes.hash 0) := by decide
  have wide := insertions_displace_one_entry ⟨by decide, by decide⟩
    (unbroken_aroundTheEnd (show 0 < 3 by decide) (by decide)) live homed
  have narrow := insertions_displace_one_entry ⟨by decide, by decide⟩
    (unbroken_aroundTheEnd (show 0 < 2 by decide) (by decide)) live homed
  have moved := wide.2.2.1 (valueOf 1) (sixHomes.hash 1) (by decide) (by decide) (by decide)
    (by decide)
  have lost := narrow.2.2.1 (valueOf 1) (sixHomes.hash 1) (by decide) (by decide) (by decide)
    (by decide)
  exact ⟨moved.1 2 ⟨by decide, by decide, by decide⟩, lost.2.mpr (by decide)⟩

end Table

end ContextCache
