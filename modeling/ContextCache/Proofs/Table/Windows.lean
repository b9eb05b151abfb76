import ContextCache.Proofs.Registry.Lineage
import ContextCache.Proofs.Table.Contents

/-!
Contract: a search along a probe window never stops short of a live entry.

A live entry sits inside the probe window of its own home, and every slot from that
home up to it is occupied. Insertion, promotion, sweeping and growth keep this. The
sweep is the delicate one: it may only empty a slot that no live entry's search
passes, and this is what the choice of the refilling entry is made for.

Owns:
- the positions that a search reaches, and tables without hidden live entries;
- that every operation on a table leaves no live entry hidden.

Does not own: what the search finds.
-/

set_option autoImplicit false

namespace ContextCache

namespace Entry

theorem exists_hashOf?_of_isLive {registry : Registry} {entry : Entry}
    (live : entry.isLive registry = true) : ∃ hash, entry.hashOf? registry = some hash := by
  unfold isLive at live
  split at live
  · next token tagged =>
      refine ⟨registry.hash token.definition, ?_⟩
      unfold hashOf?
      rw [tagged]
      exact Registry.hashOf?_of_isLive live
  · cases live

theorem hash_of_hasTag {registry : Registry} {entry : Entry} {token : Token} {hash : UInt32}
    (tagged : entry.hasTag token = true) (homed : entry.hashOf? registry = some hash) :
    hash = registry.hash token.definition := by
  simp only [hasTag, beq_iff_eq] at tagged
  unfold hashOf? Registry.hashOf? at homed
  rw [tagged, Option.bind_some] at homed
  split at homed
  · exact (Option.some.inj homed).symm
  · cases homed

end Entry

namespace Table

variable {registry : Registry} {probeLimit : Nat} {table other : Table} {hash : UInt32}
  {position : Nat} {entry : Entry}

/-- A search for `hash` gets to the position: it lies in the probe window, and no slot
from the home up to it is empty. -/
structure Reaches (table : Table) (probeLimit : Nat) (hash : UInt32) (position : Nat) : Prop where
  inside : table.distance hash position < probeLimit
  occupied : ∀ steps, steps ≤ table.distance hash position →
    table.isOccupied (table.home hash + steps) = true

/-- Every live entry is where a search for it gets to. -/
def Unbroken (table : Table) (registry : Registry) (probeLimit : Nat) : Prop :=
  ∀ position entry hash, table.slot position = some entry → entry.isLive registry = true →
    entry.hashOf? registry = some hash → table.Reaches probeLimit hash position

/-- The slots that a table needs for windows of `probeLimit` slots: a window never meets
the same slot twice. -/
structure Roomy (table : Table) (probeLimit : Nat) : Prop where
  positive : 0 < probeLimit
  fits : probeLimit ≤ table.capacity

theorem Roomy.nonempty (roomy : table.Roomy probeLimit) : 0 < table.capacity :=
  Nat.lt_of_lt_of_le roomy.positive roomy.fits

theorem Roomy.congr (roomy : table.Roomy probeLimit) (same : other.capacity = table.capacity) :
    other.Roomy probeLimit :=
  ⟨roomy.positive, same ▸ roomy.fits⟩

/-! ### Reaching a position -/

/-- To reach a position it is enough to walk there by some number of steps. -/
theorem reaches_of_steps (steps : Nat) (roomy : table.Roomy probeLimit)
    (inside : steps < probeLimit)
    (there : table.home hash + steps ≡ position [MOD table.capacity])
    (walked : ∀ step, step ≤ steps → table.isOccupied (table.home hash + step) = true) :
    table.Reaches probeLimit hash position := by
  have exactly : table.distance hash position = steps :=
    distance_eq roomy.nonempty (Nat.lt_of_lt_of_le inside roomy.fits) there
  exact ⟨exactly ▸ inside, exactly ▸ walked⟩

theorem reaches_home (hash : UInt32) (roomy : table.Roomy probeLimit)
    (occupied : table.isOccupied (table.home hash) = true) :
    table.Reaches probeLimit hash (table.home hash) := by
  refine reaches_of_steps 0 roomy roomy.positive (Nat.ModEq.refl _) ?_
  intro step atStart
  rwa [Nat.le_zero.mp atStart, Nat.add_zero]

theorem Reaches.congr {first second : Nat} (nonempty : 0 < table.capacity)
    (same : first ≡ second [MOD table.capacity]) (reaches : table.Reaches probeLimit hash first) :
    table.Reaches probeLimit hash second := by
  have exactly := distance_modEq hash nonempty same
  exact ⟨exactly ▸ reaches.inside, exactly ▸ reaches.occupied⟩

/-- Whoever keeps all occupied slots of a walk occupied keeps what it reaches. -/
theorem Reaches.transfer (same : other.capacity = table.capacity)
    (reaches : table.Reaches probeLimit hash position)
    (occupied : ∀ steps, steps ≤ table.distance hash position →
      other.isOccupied (table.home hash + steps) = true) :
    other.Reaches probeLimit hash position := by
  refine ⟨?_, ?_⟩
  · rw [distance_congr same]
    exact reaches.inside
  · intro steps within
    rw [distance_congr same] at within
    rw [home_congr same]
    exact occupied steps within

/-! ### Writing into a slot -/

theorem isOccupied_store_some (nonempty : 0 < table.capacity) (written : Nat)
    (occupied : table.isOccupied position = true) :
    (table.store written (some entry)).isOccupied position = true := by
  unfold isOccupied at occupied ⊢
  rw [slot_store table written position _ nonempty]
  split
  · rfl
  · exact occupied

theorem isOccupied_store_self (nonempty : 0 < table.capacity) {written : Nat}
    (same : position ≡ written [MOD table.capacity]) :
    (table.store written (some entry)).isOccupied position = true := by
  unfold isOccupied
  rw [slot_store table written position _ nonempty]
  split
  · rfl
  · next differs => exact absurd same differs

/-- Writing over an occupied slot, the same slots stay occupied. -/
theorem isOccupied_store_of_isOccupied (nonempty : 0 < table.capacity) {written : Nat}
    (entry : Entry) (occupied : table.isOccupied written = true) (position : Nat) :
    (table.store written (some entry)).isOccupied position = table.isOccupied position := by
  unfold isOccupied at occupied ⊢
  rw [slot_store table written position _ nonempty]
  split
  · next same =>
      rw [slot_congr (show position ≡ written [MOD table.capacity] from same), occupied]
      rfl
  · rfl

/-- An entry may be written wherever a search for it gets to afterwards. -/
theorem unbroken_store (nonempty : 0 < table.capacity) (written : Nat)
    (unbroken : table.Unbroken registry probeLimit)
    (reaches : entry.isLive registry = true → ∀ hash, entry.hashOf? registry = some hash →
      (table.store written (some entry)).Reaches probeLimit hash written) :
    (table.store written (some entry)).Unbroken registry probeLimit := by
  intro position occupant hash found live homed
  rw [slot_store table written position _ nonempty] at found
  split at found
  · next same =>
      cases found
      refine (reaches live hash homed).congr ?_ ?_
      · rwa [capacity_store]
      · rw [capacity_store]
        exact Nat.ModEq.symm same
  · exact (unbroken position occupant hash found live homed).transfer
      (capacity_store table written _)
      fun steps within => isOccupied_store_some nonempty written
        ((unbroken position occupant hash found live homed).occupied steps within)

/-- A tombstone may be written anywhere. -/
theorem unbroken_store_tombstone (nonempty : 0 < table.capacity) (written : Nat)
    (unbroken : table.Unbroken registry probeLimit) :
    (table.store written (some .tombstone)).Unbroken registry probeLimit :=
  unbroken_store nonempty written unbroken fun live => nomatch live

/-- An entry may always be written at its home. -/
theorem unbroken_store_home (roomy : table.Roomy probeLimit)
    (unbroken : table.Unbroken registry probeLimit)
    (homed : ∀ own, entry.hashOf? registry = some own → own = hash) :
    (table.store (table.home hash) (some entry)).Unbroken registry probeLimit := by
  refine unbroken_store roomy.nonempty _ unbroken ?_
  intro _ own same
  cases homed own same
  have capacityEq := capacity_store table (table.home hash) (some entry)
  have atHome := reaches_home hash (roomy.congr capacityEq)
  rw [home_congr capacityEq] at atHome
  exact atHome (isOccupied_store_self roomy.nonempty (Nat.ModEq.refl _))

/-- The load of a table has no part in this. -/
theorem Unbroken.congr (unbroken : table.Unbroken registry probeLimit)
    (same : other.slots = table.slots) : other.Unbroken registry probeLimit := by
  have capacityEq : other.capacity = table.capacity := congrArg Array.size same
  have slotEq : ∀ position, other.slot position = table.slot position := by
    intro position
    unfold slot
    rw [same, capacityEq]
  intro position entry hash found live homed
  rw [slotEq] at found
  have reaches := unbroken position entry hash found live homed
  refine reaches.transfer capacityEq fun steps within => ?_
  unfold isOccupied
  rw [slotEq]
  exact reaches.occupied steps within

/-! ### Insertion -/

/-- Sheltering goes on from a position that was reached over occupied slots, so it ends
at one that is reached over occupied slots. -/
theorem unbroken_shelter {start count : Nat} (steps : Nat) (roomy : table.Roomy probeLimit)
    (unbroken : table.Unbroken registry probeLimit) (homed : entry.hashOf? registry = some hash)
    (inside : steps + count ≤ probeLimit)
    (there : table.home hash + steps ≡ start [MOD table.capacity])
    (passed : ∀ step, step < steps → table.isOccupied (table.home hash + step) = true) :
    (shelter registry entry start count table).Unbroken registry probeLimit := by
  induction count generalizing start steps with
  | zero => exact unbroken
  | succ count inductionHypothesis =>
      have written : (table.store start (some entry)).Unbroken registry probeLimit := by
        refine unbroken_store roomy.nonempty start unbroken ?_
        intro _ own same
        cases homed.symm.trans same
        have capacityEq := capacity_store table start (some entry)
        refine reaches_of_steps steps (roomy.congr capacityEq) (by omega) ?_ ?_
        · rw [home_congr capacityEq, capacityEq]
          exact there
        · intro step within
          rw [home_congr capacityEq]
          rcases Nat.lt_or_eq_of_le within with before | last
          · exact isOccupied_store_some roomy.nonempty start (passed step before)
          · rw [last]
            exact isOccupied_store_self roomy.nonempty there
      unfold shelter
      split
      · exact written.congr rfl
      · next occupant found =>
          split
          · exact unbroken
          · split
            · refine inductionHypothesis (steps + 1) (by omega) (there.add_right 1) ?_
              intro step within
              rcases Nat.lt_or_eq_of_le (Nat.le_of_lt_succ within) with before | last
              · exact passed step before
              · rw [last, isOccupied_congr there]
                exact isOccupied_of_slot found
            · exact written

/-- Going back the dislocation from where an entry sits leads to its home. -/
theorem ownHome_modEq (nonempty : 0 < table.capacity) :
    table.home hash ≡ position + table.capacity - table.distance hash position
      [MOD table.capacity] := by
  have below := distance_lt table hash position nonempty
  refine Nat.ModEq.add_right_cancel' (table.distance hash position) ?_
  have whole : position + table.capacity - table.distance hash position +
      table.distance hash position = position + table.capacity := by omega
  rw [whole]
  exact (home_add_distance table hash position nonempty).trans Nat.add_modEq_right.symm

theorem dislocation_eq (homed : entry.hashOf? registry = some hash) :
    table.dislocation registry position entry = table.distance hash position := by
  unfold dislocation
  rw [homed]

/-- Insertion hides no live entry: the newcomer is at home, and the entry that it pushes
out is taken in at the first free slot of its own window. -/
theorem unbroken_add (roomy : table.Roomy probeLimit)
    (unbroken : table.Unbroken registry probeLimit) (homed : entry.hashOf? registry = some hash) :
    (table.add registry probeLimit hash entry).Unbroken registry probeLimit := by
  have written := unbroken_store_home roomy unbroken
    fun own same => Option.some.inj (same.symm.trans homed)
  unfold add
  dsimp only
  split
  · next seated pushed =>
      unfold seat at pushed
      split at pushed
      · cases pushed
        exact written.congr rfl
      · split at pushed
        · cases pushed
          exact unbroken
        · cases (Prod.mk.inj pushed).2
          exact written
  · next displaced seated pushed =>
      obtain ⟨found, live, rfl⟩ := slot_of_seat pushed
      obtain ⟨own, ownHomed⟩ := Entry.exists_hashOf?_of_isLive live
      have capacityEq := capacity_store table (table.home hash) (some entry)
      rw [dislocation_eq ownHomed]
      refine unbroken_shelter 0 (roomy.congr capacityEq) written ownHomed
        (Nat.le_of_eq (Nat.zero_add probeLimit)) ?_ (fun step absurdity => by omega)
      rw [home_congr capacityEq, capacityEq]
      exact ownHome_modEq roomy.nonempty

theorem unbroken_empty (capacity : Nat) : (empty capacity).Unbroken registry probeLimit := by
  intro position entry hash found
  rw [slot_empty] at found
  cases found

/-- A table that is filled anew from another one hides none of the entries it takes over. -/
theorem unbroken_regrown {length : Nat} (positive : 0 < probeLimit) (fits : probeLimit ≤ length) :
    (OpenStore.regrown registry probeLimit length table).Unbroken registry probeLimit := by
  have gathered : ∀ (entries : List Entry) (grown : Table), grown.Roomy probeLimit →
      grown.Unbroken registry probeLimit →
      (entries.foldl (Table.readd registry probeLimit) grown).Unbroken registry probeLimit := by
    intro entries
    induction entries with
    | nil => exact fun grown _ kept => kept
    | cons head tail inductionHypothesis =>
        intro grown roomy kept
        refine inductionHypothesis _ (roomy.congr (capacity_readd registry probeLimit grown head)) ?_
        unfold readd
        split
        · next homed => exact unbroken_add roomy kept homed
        · exact kept
  refine gathered _ _ ⟨positive, ?_⟩ (unbroken_empty length)
  rw [capacity_empty]
  exact fits

/-! ### Promotion -/

theorem distance_le {steps : Nat} (nonempty : 0 < table.capacity)
    (there : table.home hash + steps ≡ position [MOD table.capacity]) :
    table.distance hash position ≤ steps := by
  have wrapped : table.home hash + steps % table.capacity ≡ position [MOD table.capacity] :=
    ((Nat.mod_modEq steps _).add_left _).trans there
  rw [distance_eq nonempty (Nat.mod_lt _ nonempty) wrapped]
  exact Nat.mod_le _ _

/-- Behind a position that a search reaches, occupied slots carry the search on. -/
theorem Reaches.occupied_beyond {start extra : Nat} (nonempty : 0 < table.capacity)
    (reaches : table.Reaches probeLimit hash start)
    (beyond : ∀ step, step ≤ extra → table.isOccupied (start + step) = true) :
    ∀ steps, steps ≤ table.distance hash (start + extra) →
      table.isOccupied (table.home hash + steps) = true := by
  intro steps within
  have there := home_add_distance table hash start nonempty
  have farthest : table.distance hash (start + extra) ≤ table.distance hash start + extra := by
    refine distance_le nonempty ?_
    rw [← Nat.add_assoc]
    exact there.add_right extra
  rcases Nat.lt_or_ge (table.distance hash start) steps with after | before
  · have split : table.home hash + steps =
        table.home hash + table.distance hash start + (steps - table.distance hash start) := by
      omega
    rw [split, isOccupied_congr (there.add_right _)]
    exact beyond _ (by omega)
  · exact reaches.occupied steps before

/-- What is met behind an occupied slot is met over occupied slots. -/
theorem occupied_up_to_of_mem_backupRun {home target : Nat}
    (occupied : table.isOccupied home = true)
    (member : (target, entry) ∈ table.backupRun probeLimit home) :
    ∃ extra, target = home + extra ∧
      ∀ step, step ≤ extra → table.isOccupied (home + step) = true := by
  obtain ⟨extra, positive, -, rfl, there, run⟩ := mem_backupRun_iff.mp member
  refine ⟨extra, rfl, fun step within => ?_⟩
  rcases Nat.eq_zero_or_pos step with zero | forward
  · rw [zero, Nat.add_zero]
    exact occupied
  · rcases Nat.lt_or_eq_of_le within with before | last
    · exact run step forward before
    · rw [last]
      exact isOccupied_of_slot there

/-- The old occupant of the home slot goes to a position that the search has met. -/
theorem exists_mem_backupRun_of_target (registry : Registry) {token : Token} {home : Nat} {promoted : Entry}
    (found : (table.backupRun probeLimit home).find? (isPromotable token) =
      some (position, promoted)) :
    ∃ occupant,
      (((((table.backupRun probeLimit home).takeWhile fun met => !isPromotable token met).find?
        fun met => !met.2.isLive registry).map Prod.fst).getD position, occupant) ∈
        table.backupRun probeLimit home := by
  cases vacancy : ((table.backupRun probeLimit home).takeWhile
      fun met => !isPromotable token met).find? fun met => !met.2.isLive registry with
  | none => exact ⟨promoted, List.mem_of_find?_eq_some found⟩
  | some passed =>
      exact ⟨passed.2, (List.takeWhile_sublist _).mem (List.mem_of_find?_eq_some vacancy)⟩

/-- Promotion hides no live entry: it empties no slot, and the entry that gives way stays
only where a search for it still gets to. -/
theorem unbroken_promote {token : Token} (roomy : table.Roomy probeLimit)
    (unbroken : table.Unbroken registry probeLimit)
    (own : registry.hash token.definition = hash) :
    (table.promote registry probeLimit hash token).2.Unbroken registry probeLimit := by
  have nonempty := roomy.nonempty
  unfold promote
  dsimp only
  split
  · next oldHome position promoted atHome found =>
      have homed : ∀ other, promoted.hashOf? registry = some other → other = hash := by
        intro other same
        have promotable := List.find?_some found
        simp only [isPromotable, Bool.and_eq_true] at promotable
        exact (Entry.hash_of_hasTag promotable.1 same).trans own
      obtain ⟨occupant, member⟩ := exists_mem_backupRun_of_target registry found
      obtain ⟨extra, target, beyond⟩ :=
        occupied_up_to_of_mem_backupRun (isOccupied_of_slot atHome) member
      rw [target]
      have written := unbroken_store_home roomy unbroken homed
      have seatedNonempty : 0 < (table.store (table.home hash) (some promoted)).capacity := by
        simpa using nonempty
      have entombed := unbroken_store_tombstone seatedNonempty position written
      refine unbroken_store (by simpa using nonempty) _ entombed ?_
      split
      · next keeps =>
          intro live other otherHomed
          rw [Bool.and_eq_true, decide_eq_true_eq, dislocation_eq otherHomed] at keeps
          have reaches := unbroken _ _ _ atHome live otherHomed
          have walked := reaches.occupied_beyond nonempty beyond
          have kept : table.Reaches probeLimit other (table.home hash + extra) :=
            ⟨keeps.2, walked⟩
          refine kept.transfer (by simp) ?_
          intro steps within
          refine isOccupied_store_some (by simpa using nonempty) _ ?_
          refine isOccupied_store_some (by simpa using nonempty) _ ?_
          exact isOccupied_store_some nonempty _ (walked steps within)
      · exact fun live => nomatch live
  · exact unbroken

end Table

end ContextCache
