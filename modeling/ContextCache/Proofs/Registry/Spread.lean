import ContextCache.Proofs.Registry.Lineage
import ContextCache.Table.Basic
import Mathlib.Data.List.Nodup
import Mathlib.Data.List.Perm.Subperm
import Mathlib.Data.Nat.ModEq

/-!
Contract: the hashes that definitions draw, and how they fill a table.

The counter advances by an odd number, so of any `2 ^ m` consecutive positions no two agree
in their last `m` bits, wherever the counter stands and although it wraps around the word.
Clearing the top bits of a position leaves the last thirty alone. A registry gives its draws
to its definitions in the order in which they are created, whatever else happens to it.

Owns:
- the last bits of a draw, and that consecutive draws differ in them;
- that the draws of a window as long as a table fill the table;
- registries whose definitions have drawn one after the other.

Does not own: what happens in a program between two definitions.
-/

set_option autoImplicit false

namespace ContextCache

namespace HashCounter

variable {counter : HashCounter} {m first second : Nat}

/-! ### The last bits of a draw -/

theorem toNat_hash (counter : HashCounter) :
    counter.hash.toNat = counter.position.toNat % 2 ^ 30 := by
  unfold hash
  rw [UInt32.toNat_and, show hashMask.toNat = 2 ^ 30 - 1 from rfl, Nat.and_two_pow_sub_one_eq_mod]

theorem hash_le_mask (counter : HashCounter) : counter.hash ≤ hashMask := by
  rw [UInt32.le_iff_toNat_le, toNat_hash, show hashMask.toNat = 2 ^ 30 - 1 from rfl]
  have below := Nat.mod_lt counter.position.toNat (Nat.two_pow_pos 30)
  omega

theorem toNat_position_advance (counter : HashCounter) (draws : Nat) :
    (counter.advance draws).position.toNat =
      (counter.position.toNat + draws * hashIncrement.toNat) % 2 ^ 32 := by
  simp only [advance, UInt32.toNat_add, UInt32.toNat_mul, UInt32.toNat_ofNat']
  rw [Nat.add_mod_mod, Nat.add_mod, Nat.mod_mul_mod, ← Nat.add_mod]

/-- Neither the wrapping nor the mask touches the last thirty bits. -/
theorem toNat_hash_advance_mod (counter : HashCounter) (draws : Nat) (small : m ≤ 30) :
    (counter.advance draws).hash.toNat % 2 ^ m =
      (counter.position.toNat + draws * hashIncrement.toNat) % 2 ^ m := by
  rw [toNat_hash, toNat_position_advance, Nat.mod_mod_of_dvd _ (Nat.pow_dvd_pow 2 small),
    Nat.mod_mod_of_dvd _ (Nat.pow_dvd_pow 2 (by omega))]

/-! ### Windows of draws -/

/-- Draws less than `2 ^ m` apart differ in their last `m` bits. -/
theorem eq_of_hash_mod_eq (small : m ≤ 30) (before : first ≤ second)
    (near : second < first + 2 ^ m)
    (same : (counter.advance first).hash.toNat % 2 ^ m =
      (counter.advance second).hash.toNat % 2 ^ m) : first = second := by
  rw [toNat_hash_advance_mod counter first small, toNat_hash_advance_mod counter second small]
    at same
  have odd : Nat.gcd (2 ^ m) hashIncrement.toNat = 1 :=
    Nat.Coprime.pow_left m (by decide)
  have multiples : first * hashIncrement.toNat ≡ second * hashIncrement.toNat [MOD 2 ^ m] :=
    Nat.ModEq.add_left_cancel' counter.position.toNat same
  have draws : first ≡ second [MOD 2 ^ m] :=
    Nat.ModEq.cancel_right_of_coprime odd multiples
  exact draws.eq_of_abs_lt (by rw [abs_lt]; omega)

/-- Numbers below a length that are all different are all the numbers below it. -/
theorem perm_range_of_distinct {length : Nat} {home : Nat → Nat}
    (within : ∀ index, home index < length)
    (distinct : ∀ first second, first < second → second < length → home first ≠ home second) :
    ((List.range length).map home).Perm (List.range length) := by
  have nodup : ((List.range length).map home).Nodup := by
    refine List.Nodup.map_on ?_ List.nodup_range
    intro first firstBelow second secondBelow same
    rw [List.mem_range] at firstBelow secondBelow
    rcases Nat.lt_trichotomy first second with before | equal | behind
    · exact absurd same (distinct first second before secondBelow)
    · exact equal
    · exact absurd same.symm (distinct second first behind firstBelow)
  have inside : (List.range length).map home ⊆ List.range length := by
    intro slot member
    obtain ⟨index, -, rfl⟩ := List.mem_map.mp member
    exact List.mem_range.mpr (within index)
  exact (List.subperm_of_subset nodup inside).perm_of_length_le (by simp)

variable {table : Table}

theorem home_eq_mod (capacity : table.capacity = 2 ^ m) (hash : UInt32) :
    table.home hash = hash.toNat % 2 ^ m := by
  rw [Table.home, capacity]

/-- A window of as many draws as a table has slots has one home in each slot. -/
theorem homes_window (counter : HashCounter) (small : m ≤ 30) (capacity : table.capacity = 2 ^ m)
    (start : Nat) :
    ((List.range (2 ^ m)).map fun index =>
      table.home (counter.advance (start + index)).hash).Perm (List.range (2 ^ m)) := by
  refine perm_range_of_distinct ?_ ?_
  · intro index
    rw [home_eq_mod capacity]
    exact Nat.mod_lt _ (Nat.two_pow_pos m)
  · intro first second before below same
    rw [home_eq_mod capacity, home_eq_mod capacity] at same
    have equal := eq_of_hash_mod_eq small (by omega) (by omega) same
    omega

/-- Draws less than `2 ^ 30` apart are different hashes. -/
theorem hash_ne_of_near (before : first < second) (near : second < first + 2 ^ 30) :
    (counter.advance first).hash ≠ (counter.advance second).hash := by
  intro same
  have equal := eq_of_hash_mod_eq (m := 30) (Nat.le_refl _) (Nat.le_of_lt before) near
    (by rw [same])
  omega

/-- As many draws as there are hashes are all different. -/
theorem nodup_drawMany (counter : HashCounter) {count : Nat} (short : count ≤ 2 ^ 30) :
    (counter.drawMany count).Nodup := by
  refine List.Nodup.map_on ?_ List.nodup_range
  intro first firstBelow second secondBelow same
  rw [List.mem_range] at firstBelow secondBelow
  rcases Nat.lt_trichotomy first second with before | equal | behind
  · exact absurd same (hash_ne_of_near before (by omega))
  · exact equal
  · exact absurd same.symm (hash_ne_of_near behind (by omega))

end HashCounter

namespace Registry

/-- The definitions from the key `since` on have drawn their hashes from `counter` one after
the other, and the next one will go on from there. -/
structure Drawn (counter : HashCounter) (since : Nat) (registry : Registry) :
    Prop where
  began : since ≤ registry.definitions.size
  hashes : registry.hashes = counter.advance (registry.definitions.size - since)
  hash : ∀ key, since ≤ key → key < registry.definitions.size →
    registry.hash key = (counter.advance (key - since)).hash

variable {counter : HashCounter} {since : Nat} {registry : Registry}

/-! ### One draw for each definition -/

theorem drawn_start (registry : Registry) :
    registry.Drawn registry.hashes registry.definitions.size where
  began := Nat.le_refl _
  hashes := by rw [Nat.sub_self, HashCounter.advance_zero]
  hash := fun key known defined => absurd defined (Nat.not_lt_of_le known)

theorem Drawn.of_eq {later : Registry} (drawn : registry.Drawn counter since)
    (hashes : later.hashes = registry.hashes)
    (size : later.definitions.size = registry.definitions.size)
    (hash : ∀ key, later.hash key = registry.hash key) : later.Drawn counter since where
  began := size ▸ drawn.began
  hashes := by rw [hashes, size, drawn.hashes]
  hash := by
    intro key behind defined
    rw [hash, drawn.hash key behind (size ▸ defined)]

theorem hash_define_self (registry : Registry) :
    registry.define.2.hash registry.definitions.size = registry.hashes.hash := by
  simp [Registry.hash, define, HashCounter.draw]

theorem Drawn.define (drawn : registry.Drawn counter since) :
    registry.define.2.Drawn counter since := by
  have size : registry.define.2.definitions.size = registry.definitions.size + 1 := by
    simp [Registry.define]
  have began := drawn.began
  refine ⟨by omega, ?_, ?_⟩
  · show registry.hashes.advance 1 = _
    rw [drawn.hashes, HashCounter.advance_advance, size]
    congr 1
    omega
  · intro key behind defined
    rw [size] at defined
    by_cases old : key < registry.definitions.size
    · rw [(leads_define registry).hash key old]
      exact drawn.hash key behind old
    · have latest : key = registry.definitions.size := by omega
      subst latest
      rw [hash_define_self, drawn.hashes]

theorem Drawn.bump (drawn : registry.Drawn counter since) (key : DefinitionKey) :
    (registry.bump key).Drawn counter since :=
  drawn.of_eq rfl (size_modifyDefinition registry key _) (hash_bump registry key)

theorem Drawn.drop (drawn : registry.Drawn counter since) (key : DefinitionKey) :
    (registry.drop key).Drawn counter since :=
  drawn.of_eq rfl (size_modifyDefinition registry key _) (hash_drop registry key)

/-- No hash has a bit outside the mask, also that of a definition yet to be created. -/
theorem Drawn.hash_le_mask (drawn : registry.Drawn counter 0) (key : DefinitionKey) :
    registry.hash key ≤ hashMask := by
  by_cases defined : key < registry.definitions.size
  · rw [drawn.hash key (Nat.zero_le _) defined]
    exact HashCounter.hash_le_mask _
  · unfold Registry.hash
    rw [Array.getElem?_eq_none (Nat.le_of_not_lt defined)]
    exact UInt32.zero_le

end Registry

end ContextCache
