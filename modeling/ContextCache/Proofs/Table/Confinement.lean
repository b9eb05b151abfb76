import ContextCache.Proofs.Table.Leftovers

/-!
Contract: entries of every generation keep to the probe window of their definition.

Insertion puts an entry at its home, sheltering keeps an entry in its window, promotion leaves
an entry behind only inside its window, and sweeping moves entries towards their homes. What is
no longer live is not moved any more. So whatever a table holds of a definition, of this
generation or an earlier one, is in the window that is swept when a generation ends.

Owns:
- confined tables, and that every operation on a table keeps them confined;
- that a sweep of its window rids a table of a definition whose tokens are all outdated.

Does not own: whether a search gets to an entry.
-/

set_option autoImplicit false

namespace ContextCache

namespace Table

variable {registry : Registry} {probeLimit : Nat} {table other : Table} {hash : UInt32}
  {position : Nat} {entry : Entry}

/-- Every entry with a token, live or not, sits in the window of the token's definition. -/
def Confined (table : Table) (registry : Registry) (probeLimit : Nat) : Prop :=
  ∀ position entry token, table.slot position = some entry → entry.tag? = some token →
    table.distance (registry.hash token.definition) position < probeLimit

/-- No slot holds an entry of any generation of the definition. -/
def Forgets (table : Table) (key : DefinitionKey) : Prop :=
  ∀ entry token, table.Holds entry → entry.tag? = some token → token.definition ≠ key

/-! ### Writing into a slot -/

theorem distance_home (hash : UInt32) (nonempty : 0 < table.capacity) :
    table.distance hash (table.home hash) = 0 :=
  distance_eq nonempty nonempty (Nat.ModEq.refl _)

/-- The load of a table has no part in this. -/
theorem Confined.congr (confined : table.Confined registry probeLimit)
    (same : other.slots = table.slots) : other.Confined registry probeLimit := by
  have capacityEq : other.capacity = table.capacity := congrArg Array.size same
  have slotEq : ∀ position, other.slot position = table.slot position := by
    intro position
    unfold slot
    rw [same, capacityEq]
  intro position entry token found tagged
  rw [slotEq] at found
  rw [distance_congr capacityEq]
  exact confined position entry token found tagged

theorem Confined.store {occupant : Option Entry} (confined : table.Confined registry probeLimit)
    (nonempty : 0 < table.capacity) (written : Nat)
    (inside : ∀ entry token, occupant = some entry → entry.tag? = some token →
      table.distance (registry.hash token.definition) written < probeLimit) :
    (table.store written occupant).Confined registry probeLimit := by
  intro position entry token found tagged
  rw [distance_congr (capacity_store table written occupant)]
  rw [slot_store table written position occupant nonempty] at found
  split at found
  · next same =>
      rw [distance_modEq _ nonempty same]
      exact inside entry token found tagged
  · exact confined position entry token found tagged

theorem Confined.store_tombstone (confined : table.Confined registry probeLimit)
    (nonempty : 0 < table.capacity) (written : Nat) :
    (table.store written (some .tombstone)).Confined registry probeLimit := by
  refine confined.store nonempty written fun entry token same tagged => ?_
  cases same
  cases tagged

/-- Any entry may be written at its home. -/
theorem Confined.store_home (confined : table.Confined registry probeLimit)
    (roomy : table.Roomy probeLimit)
    (own : ∀ token, entry.tag? = some token → registry.hash token.definition = hash) :
    (table.store (table.home hash) (some entry)).Confined registry probeLimit := by
  refine confined.store roomy.nonempty _ fun written token same tagged => ?_
  cases same
  rw [own token tagged, distance_home hash roomy.nonempty]
  exact roomy.positive

/-! ### Insertion -/

/-- An entry is sheltered in the part of its window that is searched for it. -/
theorem Confined.shelter {start count : Nat} (steps : Nat)
    (confined : table.Confined registry probeLimit) (nonempty : 0 < table.capacity)
    (own : ∀ token, entry.tag? = some token → registry.hash token.definition = hash)
    (inside : steps + count ≤ probeLimit)
    (there : table.home hash + steps ≡ start [MOD table.capacity]) :
    (Table.shelter registry entry start count table).Confined registry probeLimit := by
  induction count generalizing start steps with
  | zero => exact confined
  | succ count inductionHypothesis =>
      have written : (table.store start (some entry)).Confined registry probeLimit := by
        refine confined.store nonempty start fun written token same tagged => ?_
        cases same
        rw [own token tagged]
        exact Nat.lt_of_le_of_lt (distance_le nonempty there) (by omega)
      unfold Table.shelter
      split
      · exact written.congr rfl
      · split
        · exact confined
        · split
          · exact inductionHypothesis (steps + 1) (by omega) (there.add_right 1)
          · exact written

theorem hash_of_tag? {token : Token} (tagged : entry.tag? = some token)
    (homed : entry.hashOf? registry = some hash) : registry.hash token.definition = hash :=
  (Entry.hash_of_hasTag (by simp [Entry.hasTag, tagged]) homed).symm

theorem Confined.add (confined : table.Confined registry probeLimit)
    (roomy : table.Roomy probeLimit)
    (own : ∀ token, entry.tag? = some token → registry.hash token.definition = hash) :
    (table.add registry probeLimit hash entry).Confined registry probeLimit := by
  have written := confined.store_home roomy own
  unfold Table.add
  dsimp only
  split
  · next seated pushed =>
      unfold seat at pushed
      split at pushed
      · cases pushed
        exact written.congr rfl
      · split at pushed
        · cases pushed
          exact confined
        · cases (Prod.mk.inj pushed).2
          exact written
  · next displaced seated pushed =>
      obtain ⟨found, live, rfl⟩ := slot_of_seat pushed
      obtain ⟨displacedHash, homed⟩ := Entry.exists_hashOf?_of_isLive live
      have capacityEq := capacity_store table (table.home hash) (some entry)
      rw [dislocation_eq homed]
      refine written.shelter 0 (capacityEq ▸ roomy.nonempty)
        (fun token tagged => hash_of_tag? tagged homed) (Nat.le_of_eq (Nat.zero_add _)) ?_
      rw [home_congr capacityEq, capacityEq]
      exact ownHome_modEq roomy.nonempty

theorem confined_empty (capacity : Nat) : (empty capacity).Confined registry probeLimit := by
  intro position entry token found
  rw [slot_empty] at found
  cases found

theorem confined_regrown {length : Nat} (positive : 0 < probeLimit) (fits : probeLimit ≤ length) :
    (OpenStore.regrown registry probeLimit length table).Confined registry probeLimit := by
  have gathered : ∀ (entries : List Entry) (grown : Table), grown.Roomy probeLimit →
      grown.Confined registry probeLimit →
      (entries.foldl (Table.readd registry probeLimit) grown).Confined registry probeLimit := by
    intro entries
    induction entries with
    | nil => exact fun grown _ kept => kept
    | cons head tail inductionHypothesis =>
        intro grown roomy kept
        refine inductionHypothesis _ (roomy.congr (capacity_readd registry probeLimit grown head)) ?_
        unfold readd
        split
        · next homed => exact kept.add roomy fun token tagged => hash_of_tag? tagged homed
        · exact kept
  refine gathered _ _ ⟨positive, ?_⟩ (confined_empty length)
  rw [capacity_empty]
  exact fits

/-! ### Promotion -/

/-- The old occupant of the home slot is kept inside its window only. -/
theorem Confined.promote {token : Token} (confined : table.Confined registry probeLimit)
    (roomy : table.Roomy probeLimit) (own : registry.hash token.definition = hash) :
    (table.promote registry probeLimit hash token).2.Confined registry probeLimit := by
  have nonempty := roomy.nonempty
  unfold Table.promote
  dsimp only
  split
  · next oldHome position promoted atHome found =>
      have promotable := List.find?_some found
      simp only [isPromotable, Bool.and_eq_true] at promotable
      have promotedOwn : ∀ other, promoted.tag? = some other →
          registry.hash other.definition = hash := by
        intro other tagged
        have same : promoted.tag? = some token := by simpa [Entry.hasTag] using promotable.1
        cases tagged.symm.trans same
        exact own
      have written := confined.store_home roomy promotedOwn
      have entombed := written.store_tombstone (by simpa using nonempty) position
      refine entombed.store (by simpa using nonempty) _ fun moved tag same tagged => ?_
      cases same
      split at tagged
      · next keeps =>
          rw [Bool.and_eq_true, decide_eq_true_eq] at keeps
          obtain ⟨oldHash, homed⟩ := Entry.exists_hashOf?_of_isLive keeps.1
          rw [dislocation_eq homed] at keeps
          rw [hash_of_tag? tagged homed, distance_congr (capacity_store _ _ _),
            distance_congr (capacity_store _ _ _)]
          exact keeps.2
      · cases tagged
  · exact confined

/-! ### Sweeping -/

/-- The refilling entry gets closer to its home. -/
theorem Confined.visit (confined : table.Confined registry probeLimit)
    (roomy : table.Roomy probeLimit) (hole : Nat) :
    (table.visit registry probeLimit hole).Confined registry probeLimit := by
  intro position entry token found tagged
  rw [distance_congr (capacity_visit registry probeLimit hole table)]
  rcases slot_visit_cases roomy.nonempty found with
    ⟨before, -⟩ | ⟨ahead, refills, there⟩ | ⟨rfl, -⟩
  · exact confined position entry token before tagged
  · obtain ⟨hash, homed⟩ := Entry.exists_hashOf?_of_isLive refills.live
    have near := refills.near
    rw [dislocation_eq homed] at near
    have before := confined _ _ token refills.slot tagged
    rw [hash_of_tag? tagged homed] at before ⊢
    rw [distance_modEq hash roomy.nonempty there, distance_of_near roomy.nonempty near]
    omega
  · cases tagged

theorem Confined.sweep {start count : Nat} (confined : table.Confined registry probeLimit)
    (roomy : table.Roomy probeLimit) :
    (table.sweep registry probeLimit start count).table.Confined registry probeLimit := by
  induction count generalizing start table with
  | zero => exact confined
  | succ count inductionHypothesis =>
      rw [table_sweep_succ]
      exact inductionHypothesis (confined.visit roomy start)
        (roomy.congr (capacity_visit registry probeLimit start table))

/-- A sweep of its window rids the table of a definition all of whose tokens are outdated:
nothing of it is outside the window, and the sweep brings nothing back but tombstones. -/
theorem forgets_sweepAround {key : DefinitionKey} (confined : table.Confined registry probeLimit)
    (roomy : table.Roomy probeLimit)
    (outdated : ∀ entry token, table.Holds entry → entry.tag? = some token →
      token.definition = key → registry.isLive token = false) :
    (table.sweepAround registry probeLimit (registry.hash key)).table.Forgets key := by
  rintro entry token ⟨position, found⟩ tagged own
  have notTombstone : entry ≠ .tombstone := by
    rintro rfl
    cases tagged
  have before : table.Holds entry := (holds_sweep ⟨position, found⟩).resolve_left notTombstone
  have dead : entry.isLive registry = false := by
    unfold Entry.isLive
    rw [tagged]
    exact outdated entry token before tagged own
  rcases leftover_sweep roomy found dead with ⟨still, outside⟩ | ⟨tombstone, -⟩
  · have inside := confined position entry token still tagged
    rw [own] at inside
    refine outside _ inside ?_
    have walked := home_add_distance table (registry.hash key) position roomy.nonempty
    exact (hash_modEq_home.add_right _ |>.trans walked).symm
  · exact notTombstone tombstone

end Table

end ContextCache
