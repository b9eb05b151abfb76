import ContextCache.Proofs.Table.Windows
import ContextCache.Table.Probe

/-!
Contract: what looking up in a table can and must find.

A lookup answers only with a value that the table holds for exactly the wanted token.
In a table without hidden live entries it also answers whenever there is such a value
and the token is live.

Owns:
- the search at the home slot and behind it, taken together;
- its soundness on every table and its completeness on unbroken ones.

Does not own: whether the value found is the one that the store has bound.
-/

set_option autoImplicit false

namespace ContextCache

namespace Table

variable {registry : Registry} {probeLimit : Nat} {table : Table} {hash : UInt32}
  {token : Token} {allocation : Allocation}

/-- The search at the home slot, and behind it if that does not answer. -/
def search (table : Table) (probeLimit : Nat) (hash : UInt32) (token : Token) :
    Option Allocation :=
  (table.probeHome hash token).or ((table.probeBackup probeLimit hash token).map Prod.snd)

/-- The table holds the allocation for the token. -/
def Offers (table : Table) (token : Token) (allocation : Allocation) : Prop :=
  ∃ entry, table.Holds entry ∧ entry.tag? = some token ∧ entry.value? = some allocation

/-! ### Soundness -/

theorem offers_of_probeHome (answered : table.probeHome hash token = some allocation) :
    table.Offers token allocation := by
  unfold probeHome at answered
  split at answered
  · next entry found =>
      split at answered
      · next tagged => exact ⟨entry, ⟨_, found⟩, by simpa [Entry.hasTag] using tagged, answered⟩
      · cases answered
  · cases answered

theorem offers_of_probeBackup {position : Nat}
    (answered : table.probeBackup probeLimit hash token = some (position, allocation)) :
    table.Offers token allocation := by
  unfold probeBackup at answered
  dsimp only at answered
  split at answered
  · obtain ⟨⟨place, entry⟩, member, answers⟩ := List.exists_of_findSome?_eq_some answered
    obtain ⟨-, -, -, -, there, -⟩ := mem_backupRun_iff.mp member
    unfold backupAnswer at answers
    split at answers
    · next tagged =>
        obtain ⟨carried, carries, same⟩ := Option.map_eq_some_iff.mp answers
        cases same
        exact ⟨entry, ⟨place, there⟩, by simpa [Entry.hasTag] using tagged, carries⟩
    · cases answers
  · cases answered

theorem offers_of_search (answered : table.search probeLimit hash token = some allocation) :
    table.Offers token allocation := by
  rcases Option.or_eq_some_iff.mp answered with atHome | ⟨-, behind⟩
  · exact offers_of_probeHome atHome
  · obtain ⟨⟨position, found⟩, probed, same⟩ := Option.map_eq_some_iff.mp behind
    cases same
    exact offers_of_probeBackup probed

/-! ### Completeness -/

theorem probeHome_isSome {entry : Entry} (found : table.slot (table.home hash) = some entry)
    (tagged : entry.tag? = some token) (carries : entry.value? = some allocation) :
    (table.probeHome hash token).isSome = true := by
  unfold probeHome
  rw [slot_congr hash_modEq_home, found]
  simp [Entry.hasTag, tagged, carries]

theorem probeBackup_isSome {entry : Entry} {position : Nat}
    (occupied : table.isOccupied (table.home hash) = true)
    (member : (position, entry) ∈ table.backupRun probeLimit (table.home hash))
    (tagged : entry.tag? = some token) (carries : entry.value? = some allocation) :
    (table.probeBackup probeLimit hash token).isSome = true := by
  unfold probeBackup
  dsimp only
  rw [if_pos occupied, List.findSome?_isSome_iff]
  refine ⟨(position, entry), member, ?_⟩
  simp [backupAnswer, Entry.hasTag, tagged, carries]

/-- Whatever a table without hidden live entries offers for a live token, a search that
starts at the definition's hash gets to. -/
theorem search_isSome_iff (roomy : table.Roomy probeLimit)
    (unbroken : table.Unbroken registry probeLimit) (live : registry.isLive token = true) :
    (table.search probeLimit (registry.hash token.definition) token).isSome = true ↔
      ∃ allocation, table.Offers token allocation := by
  constructor
  · intro answers
    obtain ⟨allocation, answered⟩ := Option.isSome_iff_exists.mp answers
    exact ⟨allocation, offers_of_search answered⟩
  · rintro ⟨allocation, entry, ⟨position, found⟩, tagged, carries⟩
    have entryLive : entry.isLive registry = true := by
      unfold Entry.isLive
      rwa [tagged]
    have homed : entry.hashOf? registry = some (registry.hash token.definition) := by
      unfold Entry.hashOf?
      rw [tagged]
      exact Registry.hashOf?_of_isLive live
    have reaches := unbroken position entry _ found entryLive homed
    have there := home_add_distance table (registry.hash token.definition) position
      roomy.nonempty
    unfold search
    rw [Option.isSome_or, Bool.or_eq_true, Option.isSome_map]
    rcases Nat.eq_zero_or_pos (table.distance (registry.hash token.definition) position)
      with atHome | behind
    · left
      rw [atHome, Nat.add_zero] at there
      exact probeHome_isSome ((slot_congr there).trans found) tagged carries
    · right
      have met : (table.home (registry.hash token.definition) +
          table.distance (registry.hash token.definition) position, entry) ∈
          table.backupRun probeLimit (table.home (registry.hash token.definition)) :=
        mem_backupRun_iff.mpr ⟨_, behind, reaches.inside, rfl, (slot_congr there).trans found,
          fun earlier _ before => reaches.occupied earlier (Nat.le_of_lt before)⟩
      exact probeBackup_isSome (reaches.occupied 0 (Nat.zero_le _)) met tagged carries

end Table

end ContextCache
