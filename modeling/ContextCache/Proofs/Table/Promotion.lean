import ContextCache.Proofs.Table.Insertion

/-!
Contract: what one promotion does to a table, slot by slot.

A promotion moves up to two entries between slots that are occupied already. The entry that
it finds goes to the home slot. Who was there goes back to the first slot without a live entry
that the search has passed, or else to where the found entry was, but only if that is inside
its own window, which is another one as a rule. Whatever is left over becomes a tombstone. So
the same slots stay occupied, and no search for anybody is cut short.

Owns:
- the entry that a promotion finds, and the slot that the old occupant of the home slot gets;
- all slots of a table after a promotion, and when there is none.

Does not own: when a reader asks for a promotion.
-/

set_option autoImplicit false

namespace ContextCache

namespace Table

variable {registry : Registry} {probeLimit : Nat} {table : Table} {hash : UInt32}
  {start count steps target home : Nat} {entry oldHome : Entry} {token : Token}

/-- An entry of the token that is no promise is met `steps` slots behind a home slot, over
occupied slots and inside the window. -/
structure Hit (table : Table) (probeLimit home : Nat) (token : Token) (steps : Nat)
    (entry : Entry) : Prop where
  behind : 0 < steps
  inside : steps < probeLimit
  slot : table.slot (home + steps) = some entry
  passed : ∀ earlier, 0 < earlier → earlier < steps → table.isOccupied (home + earlier) = true
  tagged : entry.hasTag token = true
  kept : entry.isPromise = false

/-- No such entry is met before this one. -/
structure FirstHit (table : Table) (probeLimit home : Nat) (token : Token) (steps : Nat)
    (entry : Entry) : Prop extends Hit table probeLimit home token steps entry where
  first : ∀ earlier other, earlier < steps → ¬ table.Hit probeLimit home token earlier other

/-- Among the slots behind a home slot the first one without a live entry, or else the last
one, which is `steps` slots behind it. -/
structure FirstDead (table : Table) (registry : Registry) (home steps target : Nat) :
    Prop where
  behind : 0 < target
  within : target ≤ steps
  passed : ∀ earlier, 0 < earlier → earlier < target →
    ∃ entry, table.slot (home + earlier) = some entry ∧ entry.isLive registry = true
  dead : target < steps →
    ∃ entry, table.slot (home + target) = some entry ∧ entry.isLive registry = false

/-- The table after a promotion of the entry `steps` slots behind the home slot. -/
def promoted (table : Table) (registry : Registry) (probeLimit home steps target : Nat)
    (oldHome entry : Entry) : Table :=
  let moved :=
    if oldHome.isLive registry && table.dislocation registry (home + target) oldHome < probeLimit
    then oldHome else .tombstone
  ((table.store home (some entry)).store (home + steps) (some .tombstone)).store (home + target)
    (some moved)

/-! ### Searching a run -/

theorem exists_mem_run {step : Nat}
    (occupied : ∀ earlier, earlier < steps → table.isOccupied (start + earlier) = true)
    (below : step < steps) :
    ∃ entry, table.slot (start + step) = some entry ∧
      (start + step, entry) ∈ table.run start steps := by
  obtain ⟨entry, found⟩ := Option.isSome_iff_exists.mp (occupied step below)
  refine ⟨entry, found, mem_run_iff.mpr ⟨step, below, rfl, found, ?_⟩⟩
  exact fun earlier before => occupied earlier (Nat.lt_trans before below)

theorem run_of_slot (there : table.slot start = some entry) (count : Nat) :
    table.run start (count + 1) = (start, entry) :: table.run (start + 1) count := by
  rw [run, there]

/-- What a search along a run finds is behind the run of what it has passed. -/
theorem run_of_find? {picks : Nat × Entry → Bool} {met : Nat × Entry}
    (found : (table.run start count).find? picks = some met) :
    ∃ steps, steps < count ∧ met.1 = start + steps ∧ table.slot (start + steps) = some met.2 ∧
      (∀ earlier, earlier < steps → table.isOccupied (start + earlier) = true) ∧
      (∀ other ∈ table.run start steps, picks other = false) ∧
      ((table.run start count).takeWhile fun other => !picks other) = table.run start steps := by
  induction count generalizing start with
  | zero => cases found
  | succ count inductionHypothesis =>
      cases there : table.slot start with
      | none =>
          rw [run, there] at found
          cases found
      | some occupant =>
          rw [run_of_slot there] at found ⊢
          by_cases picked : picks (start, occupant) = true
          · rw [List.find?_cons_of_pos picked] at found
            cases found
            refine ⟨0, Nat.succ_pos count, rfl, there,
              fun _ before => absurd before (Nat.not_lt_zero _),
              fun _ member => absurd member List.not_mem_nil, ?_⟩
            exact List.takeWhile_cons_of_neg (by simp [picked])
          · rw [List.find?_cons_of_neg picked] at found
            obtain ⟨steps, below, position, slot, occupied, others, taken⟩ :=
              inductionHypothesis found
            have shift : ∀ step, start + 1 + step = start + (step + 1) := fun step => by omega
            rw [shift] at position slot
            refine ⟨steps + 1, Nat.succ_lt_succ below, position, slot, ?_, ?_, ?_⟩
            · intro earlier before
              cases earlier with
              | zero => exact isOccupied_of_slot there
              | succ earlier =>
                  rw [← shift]
                  exact occupied earlier (Nat.lt_of_succ_lt_succ before)
            · rw [run_of_slot there]
              intro other member
              rcases List.mem_cons.mp member with rfl | member
              · exact Bool.eq_false_iff.mpr picked
              · exact others other member
            · rw [List.takeWhile_cons_of_pos (by simp [picked]), taken, run_of_slot there]

/-! ### What is found, and who gives way -/

theorem Hit.mem_backupRun (hit : table.Hit probeLimit home token steps entry) :
    (home + steps, entry) ∈ table.backupRun probeLimit home :=
  mem_backupRun_iff.mpr ⟨steps, hit.behind, hit.inside, rfl, hit.slot, hit.passed⟩

theorem Hit.isPromotable (hit : table.Hit probeLimit home token steps entry) (position : Nat) :
    isPromotable token (position, entry) = true := by
  simp [Table.isPromotable, hit.tagged, hit.kept]

theorem Hit.isOccupied (hit : table.Hit probeLimit home token steps entry) {step : Nat}
    (behind : 0 < step) (within : step ≤ steps) : table.isOccupied (home + step) = true := by
  rcases Nat.lt_or_eq_of_le within with before | last
  · exact hit.passed step behind before
  · rw [last]
    exact isOccupied_of_slot hit.slot

/-- A search behind the home slot finds the first hit, if there is any. -/
theorem firstHit_of_find? {met : Nat × Entry}
    (found : (table.backupRun probeLimit home).find? (isPromotable token) = some met) :
    ∃ steps, table.FirstHit probeLimit home token (steps + 1) met.2 ∧ met.1 = home + (steps + 1) ∧
      ((table.backupRun probeLimit home).takeWhile fun other => !isPromotable token other) =
        table.run (home + 1) steps := by
  obtain ⟨steps, below, position, slot, occupied, others, taken⟩ := run_of_find? found
  have shift : ∀ step, home + 1 + step = home + (step + 1) := fun step => by omega
  have promotable := List.find?_some found
  simp only [isPromotable, Bool.and_eq_true, Bool.not_eq_true'] at promotable
  rw [shift] at position slot
  have hit : table.Hit probeLimit home token (steps + 1) met.2 := by
    refine ⟨Nat.succ_pos steps, by omega, slot, ?_, promotable.1, promotable.2⟩
    intro earlier behind before
    have met := occupied (earlier - 1) (by omega)
    rwa [show home + 1 + (earlier - 1) = home + earlier by omega] at met
  refine ⟨steps, ⟨hit, ?_⟩, position, taken⟩
  intro earlier other before earlierHit
  have member : (home + earlier, other) ∈ table.run (home + 1) steps := by
    refine mem_run_iff.mpr ⟨earlier - 1, ?_, ?_, earlierHit.slot, ?_⟩
    · have behind := earlierHit.behind
      omega
    · have behind := earlierHit.behind
      omega
    · exact fun step within => occupied step (by omega)
  exact absurd (others _ member) (by simp [earlierHit.isPromotable])

/-- The position that the old occupant of the home slot is to get. -/
theorem firstDead_of_find? (registry : Registry)
    (occupied : ∀ earlier, earlier < steps → table.isOccupied (home + (earlier + 1)) = true) :
    ∃ target, table.FirstDead registry home (steps + 1) target ∧
      ((((table.run (home + 1) steps).find? fun met => !met.2.isLive registry).map
        Prod.fst).getD (home + (steps + 1))) = home + target := by
  have passes : ∀ ahead, ahead ≤ steps →
      (∀ met ∈ table.run (home + 1) ahead, (!met.2.isLive registry) = false) →
      ∀ earlier, 0 < earlier → earlier < ahead + 1 →
        ∃ entry, table.slot (home + earlier) = some entry ∧ entry.isLive registry = true := by
    intro ahead within live earlier behind before
    have reached : ∀ step, step < ahead → table.isOccupied (home + 1 + step) = true := by
      intro step below
      rw [show home + 1 + step = home + (step + 1) by omega]
      exact occupied step (Nat.lt_of_lt_of_le below within)
    obtain ⟨entry, slot, member⟩ :=
      exists_mem_run reached (show earlier - 1 < ahead by omega)
    rw [show home + 1 + (earlier - 1) = home + earlier by omega] at slot
    exact ⟨entry, slot, by simpa using live _ member⟩
  cases vacancy : (table.run (home + 1) steps).find? fun met => !met.2.isLive registry with
  | none =>
      refine ⟨steps + 1, ⟨Nat.succ_pos steps, Nat.le_refl _, ?_, ?_⟩, rfl⟩
      · refine passes steps (Nat.le_refl _) fun met member => ?_
        exact Bool.eq_false_iff.mpr (List.find?_eq_none.mp vacancy met member)
      · exact fun absurdity => absurd absurdity (Nat.lt_irrefl _)
  | some met =>
      obtain ⟨ahead, below, position, slot, -, others, -⟩ := run_of_find? vacancy
      have shift : home + 1 + ahead = home + (ahead + 1) := by omega
      rw [shift] at position slot
      refine ⟨ahead + 1, ⟨Nat.succ_pos ahead, by omega, ?_, ?_⟩, position⟩
      · exact passes ahead (Nat.le_of_lt below) others
      · exact fun _ => ⟨met.2, slot, by simpa using List.find?_some vacancy⟩

/-! ### Promotion -/

/-- Everything that a promotion can do: it finds nothing and changes nothing, or it finds the
first hit and moves it home. -/
theorem promote_cases (table : Table) (registry : Registry) (probeLimit : Nat) (hash : UInt32)
    (token : Token) :
    (¬ (table.isOccupied (table.home hash) = true ∧
        ∃ steps entry, table.Hit probeLimit (table.home hash) token steps entry) ∧
      table.promote registry probeLimit hash token = (false, table)) ∨
    ∃ oldHome steps entry target, table.slot (table.home hash) = some oldHome ∧
      table.FirstHit probeLimit (table.home hash) token steps entry ∧
      table.FirstDead registry (table.home hash) steps target ∧
      table.promote registry probeLimit hash token =
        (true, table.promoted registry probeLimit (table.home hash) steps target oldHome
          entry) := by
  cases atHome : table.slot (table.home hash) with
  | none =>
      left
      refine ⟨?_, ?_⟩
      · rintro ⟨occupied, -⟩
        simp [isOccupied, atHome] at occupied
      · unfold promote
        dsimp only
        rw [atHome]
  | some oldHome =>
      cases found : (table.backupRun probeLimit (table.home hash)).find? (isPromotable token) with
      | none =>
          left
          refine ⟨?_, ?_⟩
          · rintro ⟨-, steps, entry, hit⟩
            exact List.find?_eq_none.mp found _ hit.mem_backupRun (hit.isPromotable _)
          · unfold promote
            dsimp only
            rw [atHome, found]
      | some met =>
          right
          obtain ⟨steps, first, position, passed⟩ := firstHit_of_find? found
          have occupied : ∀ earlier, earlier < steps →
              table.isOccupied (table.home hash + (earlier + 1)) = true :=
            fun earlier before => first.isOccupied (Nat.succ_pos earlier) (by omega)
          obtain ⟨target, dead, gives⟩ := firstDead_of_find? registry occupied
          refine ⟨oldHome, steps + 1, met.2, target, rfl, first, dead, ?_⟩
          unfold promote promoted
          dsimp only
          rw [atHome, found]
          dsimp only
          rw [passed, position, gives]

theorem FirstDead.step_lt (dead : table.FirstDead registry home steps target)
    (hit : table.Hit probeLimit home token steps entry) : target < probeLimit :=
  Nat.lt_of_le_of_lt dead.within hit.inside

/-- Behind a home slot and inside a window there is no way back to the home slot. -/
theorem not_home_of_step (roomy : table.Roomy probeLimit) (behind : 0 < steps)
    (inside : steps < probeLimit) : ¬ home + steps ≡ home [MOD table.capacity] := by
  intro same
  have wrapped : steps ≡ 0 [MOD table.capacity] := Nat.ModEq.add_left_cancel' home same
  have zero := wrapped.eq_of_lt_of_lt (Nat.lt_of_lt_of_le inside roomy.fits) roomy.nonempty
  omega

/-- Two numbers of steps inside a window name different slots. -/
theorem not_modEq_of_step {other : Nat} (roomy : table.Roomy probeLimit)
    (inside : steps < probeLimit) (otherInside : other < probeLimit) (differs : steps ≠ other) :
    ¬ home + steps ≡ home + other [MOD table.capacity] := by
  intro same
  have wrapped : steps ≡ other [MOD table.capacity] := Nat.ModEq.add_left_cancel' home same
  exact differs (wrapped.eq_of_lt_of_lt (Nat.lt_of_lt_of_le inside roomy.fits)
    (Nat.lt_of_lt_of_le otherInside roomy.fits))

theorem slot_promoted_home (roomy : table.Roomy probeLimit)
    (hit : table.Hit probeLimit home token steps entry)
    (dead : table.FirstDead registry home steps target) :
    (table.promoted registry probeLimit home steps target oldHome entry).slot home =
      some entry := by
  have nonempty := roomy.nonempty
  have away : ¬ home + steps ≡ home [MOD table.capacity] :=
    not_home_of_step roomy hit.behind hit.inside
  have targetAway : ¬ home + target ≡ home [MOD table.capacity] :=
    not_home_of_step roomy dead.behind (dead.step_lt hit)
  unfold promoted
  rw [slot_store_ne (by simpa using nonempty), slot_store_ne (by simpa using nonempty)]
  · exact slot_store_self nonempty _ _
  · rw [capacity_store]
    exact fun same => away same.symm
  · rw [capacity_store, capacity_store]
    exact fun same => targetAway same.symm

theorem slot_promoted_target (nonempty : 0 < table.capacity) :
    (table.promoted registry probeLimit home steps target oldHome entry).slot (home + target) =
      some (if oldHome.isLive registry ∧
          table.dislocation registry (home + target) oldHome < probeLimit
        then oldHome else .tombstone) := by
  unfold promoted
  rw [slot_store_self (by simpa using nonempty)]
  simp

theorem slot_promoted_hit (roomy : table.Roomy probeLimit)
    (hit : table.Hit probeLimit home token steps entry)
    (dead : table.FirstDead registry home steps target) (differs : target ≠ steps) :
    (table.promoted registry probeLimit home steps target oldHome entry).slot (home + steps) =
      some .tombstone := by
  have nonempty := roomy.nonempty
  have apart : ¬ home + steps ≡ home + target [MOD table.capacity] :=
    not_modEq_of_step roomy hit.inside (dead.step_lt hit) differs.symm
  unfold promoted
  rw [slot_store_ne (by simpa using nonempty) _ (by simpa using apart)]
  exact slot_store_self (by simpa using nonempty) _ _

theorem slot_promoted_ne {position : Nat} (nonempty : 0 < table.capacity)
    (elsewhere : ¬ position ≡ home [MOD table.capacity])
    (apart : ¬ position ≡ home + steps [MOD table.capacity])
    (targetApart : ¬ position ≡ home + target [MOD table.capacity]) :
    (table.promoted registry probeLimit home steps target oldHome entry).slot position =
      table.slot position := by
  unfold promoted
  rw [slot_store_ne (by simpa using nonempty) _ (by simpa using targetApart),
    slot_store_ne (by simpa using nonempty) _ (by simpa using apart),
    slot_store_ne nonempty _ elsewhere]

/-- All three writes are over occupied slots. -/
theorem isOccupied_promoted (nonempty : 0 < table.capacity)
    (hit : table.Hit probeLimit home token steps entry)
    (dead : table.FirstDead registry home steps target)
    (occupied : table.isOccupied home = true) (position : Nat) :
    (table.promoted registry probeLimit home steps target oldHome entry).isOccupied position =
      table.isOccupied position := by
  let brought := table.store home (some entry)
  have nonemptyStill : 0 < brought.capacity := by simpa [brought] using nonempty
  have bringing : ∀ position, brought.isOccupied position = table.isOccupied position :=
    isOccupied_store_of_isOccupied nonempty entry occupied
  have entombing : ∀ position, (brought.store (home + steps) (some .tombstone)).isOccupied position =
      brought.isOccupied position := by
    apply isOccupied_store_of_isOccupied nonemptyStill
    rw [bringing]
    exact isOccupied_of_slot hit.slot
  unfold promoted
  rw [isOccupied_store_of_isOccupied (by simpa using nonempty), entombing, bringing]
  rw [entombing, bringing]
  exact hit.isOccupied dead.behind dead.within

/-- Promotions only rearrange. In a table in which no live entry is hidden, a promotion for the
current generation of a definition succeeds exactly if the home slot is occupied and an entry
of that generation that is no promise is met behind it, inside the window and before the first
empty slot. Then the first such entry is in the home slot. The old occupant of the home slot
is in the first slot without a live entry that is met before the hit, or else in the hit's old
slot, if it is live and that slot is inside its own window; otherwise a tombstone is there. A
tombstone is also in the hit's old slot unless that has been given away. All other slots are as
they were, the same slots are occupied, and the load is the same. Without success nothing has
changed. No live entry is hidden either way. -/
theorem promotions_only_rearrange (roomy : table.Roomy probeLimit)
    (unbroken : table.Unbroken registry probeLimit) (key : DefinitionKey) :
    let token := registry.current key
    let home := table.home (registry.hash key)
    let result := table.promote registry probeLimit (registry.hash key) token
    (result.1 = true ↔ table.isOccupied home = true ∧
      ∃ steps entry, table.Hit probeLimit home token steps entry) ∧
    (result.1 = true → ∃ oldHome steps entry target, table.slot home = some oldHome ∧
      table.FirstHit probeLimit home token steps entry ∧
      table.FirstDead registry home steps target ∧
      result.2.slot home = some entry ∧
      result.2.slot (home + target) =
        some (if oldHome.isLive registry ∧
            table.dislocation registry (home + target) oldHome < probeLimit
          then oldHome else .tombstone) ∧
      (target ≠ steps → result.2.slot (home + steps) = some .tombstone) ∧
      (∀ position, ¬ position ≡ home [MOD table.capacity] →
        ¬ position ≡ home + steps [MOD table.capacity] →
        ¬ position ≡ home + target [MOD table.capacity] →
        result.2.slot position = table.slot position)) ∧
    (∀ position, result.2.isOccupied position = table.isOccupied position) ∧
    result.2.load = table.load ∧
    (result.1 = false → result.2 = table) ∧
    result.2.Unbroken registry probeLimit := by
  intro token home result
  have unhidden : result.2.Unbroken registry probeLimit := unbroken_promote roomy unbroken rfl
  have sameLoad : result.2.load = table.load := load_promote _ _ _ _ _
  rcases promote_cases table registry probeLimit (registry.hash key) token with
    ⟨missing, nothing⟩ | ⟨oldHome, steps, entry, target, atHome, first, dead, moves⟩
  · have failed : result = (false, table) := nothing
    rw [failed] at unhidden ⊢
    refine ⟨⟨nofun, fun hit => absurd hit missing⟩, nofun, fun _ => rfl, rfl, fun _ => rfl, unhidden⟩
  · have succeeded : result = (true, table.promoted registry probeLimit home steps target oldHome
        entry) := moves
    have occupied : table.isOccupied home = true := isOccupied_of_slot atHome
    rw [succeeded] at unhidden sameLoad ⊢
    refine ⟨⟨fun _ => ⟨occupied, steps, entry, first.toHit⟩, fun _ => rfl⟩, fun _ => ?_,
      isOccupied_promoted roomy.nonempty first.toHit dead occupied, sameLoad, nofun, unhidden⟩
    exact ⟨oldHome, steps, entry, target, atHome, first, dead,
      slot_promoted_home roomy first.toHit dead, slot_promoted_target roomy.nonempty,
      slot_promoted_hit roomy first.toHit dead,
      fun _ elsewhere apart targetApart =>
        slot_promoted_ne roomy.nonempty elsewhere apart targetApart⟩

/-- The two definitions at home in slot 3 change places across the table's end. -/
theorem promotions_only_rearrange_around :
    let result := (aroundTheEnd 3).promote sixHomes 3 (sixHomes.hash 1) (sixHomes.current 1)
    result.1 = true ∧ result.2.load = 2 ∧ result.2.Unbroken sixHomes 3 ∧
      result.2.slot 3 = some (valueOf 1) ∧ result.2.slot 0 = some (valueOf 5) := by
  have rearranged := promotions_only_rearrange ⟨by decide, by decide⟩
    (unbroken_aroundTheEnd (show 0 < 3 by decide) (by decide)) 1
  have hit : (aroundTheEnd 3).Hit 3 ((aroundTheEnd 3).home (sixHomes.hash 1))
      (sixHomes.current 1) 1 (valueOf 1) :=
    ⟨by decide, by decide, by decide, fun _ _ _ => by omega, by decide, by decide⟩
  exact ⟨rearranged.1.mpr ⟨by decide, 1, valueOf 1, hit⟩,
    rearranged.2.2.2.1.trans (by decide), rearranged.2.2.2.2.2, by decide, by decide⟩

end Table

end ContextCache
