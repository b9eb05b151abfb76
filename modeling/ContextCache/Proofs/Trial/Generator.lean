import ContextCache.Trial.Random
import Mathlib.Data.FinEnum
import Mathlib.Dynamics.PeriodicPts.Lemmas

/-!
Contract: what the generator behind seeded trials never does.

A xorshift loses nothing: over sums of words it is linear, and a shift keeps no word but
zero, so no two words have the same image. The step of the generator is three of them. It
leaves zero where it is, and so it never arrives there from anywhere else.

Owns:
- that xorshifts, and with them the step, are injective;
- the word of a generator after any number of draws;
- that no generator gets stuck, and no two of them meet.

Does not own: how the numbers are distributed.
-/

set_option autoImplicit false

namespace ContextCache.Trial

variable {word amount : UInt64}

/-! ### Xorshifts -/

/-- A shift to the right keeps no word but zero. -/
theorem eq_zero_of_shiftRight_eq (moves : 0 < amount.toNat % 64) (kept : word >>> amount = word) :
    word = 0 := by
  have halved : word.toNat / 2 ^ (amount.toNat % 64) = word.toNat := by
    rw [← Nat.shiftRight_eq_div_pow, ← UInt64.toNat_shiftRight, kept]
  apply UInt64.toNat_inj.mp
  by_contra nonzero
  have shrinks : word.toNat / 2 ^ (amount.toNat % 64) < word.toNat :=
    Nat.div_lt_self (Nat.pos_of_ne_zero nonzero) (Nat.one_lt_two_pow (Nat.ne_of_gt moves))
  exact Nat.ne_of_lt shrinks halved

/-- A shift to the left keeps no word but zero. -/
theorem eq_zero_of_shiftLeft_eq (moves : 0 < amount.toNat % 64) (kept : word <<< amount = word) :
    word = 0 := by
  have same : word.toNat * 2 ^ (amount.toNat % 64) % 2 ^ 64 = word.toNat := by
    rw [← Nat.shiftLeft_eq, ← UInt64.toNat_shiftLeft, kept]
  -- Every shift brings in one more zero from below, until there is nothing else.
  have zeros : ∀ count ≤ 64, 2 ^ count ∣ word.toNat := by
    intro count
    induction count with
    | zero => exact fun _ => Nat.one_dvd _
    | succ count inductionHypothesis =>
        intro fits
        have shifted : 2 ^ (count + 1) ∣ word.toNat * 2 ^ (amount.toNat % 64) :=
          Nat.mul_dvd_mul (inductionHypothesis (Nat.le_of_succ_le fits))
            (dvd_pow_self 2 (Nat.ne_of_gt moves))
        rw [← same]
        exact (Nat.dvd_mod_iff (Nat.pow_dvd_pow 2 fits)).mpr shifted
  exact UInt64.toNat_inj.mp (Nat.eq_zero_of_dvd_of_lt (zeros 64 (Nat.le_refl 64)) word.toNat_lt)

/-- The sum of a word and its shift tells the word, if the shift keeps sums and no word but
zero. -/
theorem injective_xor {shift : UInt64 → UInt64}
    (sums : ∀ first second, shift (first ^^^ second) = shift first ^^^ shift second)
    (moves : ∀ word, shift word = word → word = 0) :
    Function.Injective fun word => word ^^^ shift word := by
  intro first second same
  have difference : (first ^^^ second) ^^^ shift (first ^^^ second) = 0 := by
    calc (first ^^^ second) ^^^ shift (first ^^^ second)
        = (first ^^^ second) ^^^ (shift first ^^^ shift second) := by rw [sums]
      _ = (first ^^^ shift first) ^^^ (second ^^^ shift second) := by ac_rfl
      _ = 0 := UInt64.xor_eq_zero_iff.mpr same
  have kept : shift (first ^^^ second) = first ^^^ second :=
    (UInt64.xor_eq_zero_iff.mp difference).symm
  exact UInt64.xor_eq_zero_iff.mp (moves _ kept)

theorem injective_xor_shiftRight (moves : 0 < amount.toNat % 64) :
    Function.Injective fun word : UInt64 => word ^^^ (word >>> amount) :=
  injective_xor (fun _ _ => UInt64.shiftRight_xor) fun _ => eq_zero_of_shiftRight_eq moves

theorem injective_xor_shiftLeft (moves : 0 < amount.toNat % 64) :
    Function.Injective fun word : UInt64 => word ^^^ (word <<< amount) :=
  injective_xor (fun _ _ => UInt64.shiftLeft_xor) fun _ => eq_zero_of_shiftLeft_eq moves

namespace Random

variable {random : Random}

/-! ### The step -/

/-- No two words step to the same word. -/
theorem injective_step : Function.Injective step := by
  have first := @injective_xor_shiftRight 12 (by decide)
  have second := @injective_xor_shiftLeft 25 (by decide)
  have third := @injective_xor_shiftRight 27 (by decide)
  exact third.comp (second.comp first)

theorem step_zero : step 0 = 0 := by
  decide

theorem word_ofSeed_ne_zero (seed : UInt64) : (ofSeed seed).word ≠ 0 := by
  unfold ofSeed
  split
  · decide
  · next nonzero => exact nonzero

/-! ### Many draws -/

/-- The generator after a number of draws. -/
def after (random : Random) (draws : Nat) : Random :=
  (fun random => random.next.2)^[draws] random

theorem word_after (random : Random) (draws : Nat) :
    (random.after draws).word = step^[draws] random.word := by
  have stepwise : Function.Semiconj word (fun random => random.next.2) step := fun _ => rfl
  exact stepwise.iterate_right draws random

/-- A word that is not zero never becomes zero. -/
theorem word_after_ne_zero (nonzero : random.word ≠ 0) (draws : Nat) :
    (random.after draws).word ≠ 0 := by
  intro zero
  rw [word_after, ← Function.iterate_fixed step_zero draws] at zero
  exact nonzero (injective_step.iterate draws zero)

/-- Every generator comes back to the word that it starts from. -/
theorem exists_word_after_eq (random : Random) :
    ∃ period, 0 < period ∧ (random.after period).word = random.word := by
  obtain ⟨period, positive, returns⟩ := injective_step.mem_periodicPts random.word
  exact ⟨period, positive, (word_after random period).trans returns⟩

/-- The generator never degenerates. From no seed, zero among them, does its word ever become
zero; its step is injective, so that its words repeat from the first one on; and two generators
with different words have different words after any number of draws. -/
theorem generators_never_degenerate :
    (∀ seed draws, ((ofSeed seed).after draws).word ≠ 0) ∧
      Function.Injective step ∧
      (∀ seed, ∃ period, 0 < period ∧ ∀ draws,
        ((ofSeed seed).after (draws + period)).word = ((ofSeed seed).after draws).word) ∧
      ∀ first second : Random, first.word ≠ second.word →
        ∀ draws, (first.after draws).word ≠ (second.after draws).word := by
  refine ⟨fun seed => word_after_ne_zero (word_ofSeed_ne_zero seed), injective_step, ?_, ?_⟩
  · intro seed
    obtain ⟨period, positive, returns⟩ := exists_word_after_eq (ofSeed seed)
    refine ⟨period, positive, fun draws => ?_⟩
    rw [word_after] at returns
    rw [word_after, word_after, Function.iterate_add_apply, returns]
  · intro first second differ draws same
    rw [word_after, word_after] at same
    exact differ (injective_step.iterate draws same)

/-- Seed zero gives a generator of its own. -/
theorem generators_never_degenerate_zeroAndOne :
    (ofSeed 0).word ≠ (ofSeed 1).word ∧
      ∀ draws, ((ofSeed 0).after draws).word ≠ ((ofSeed 1).after draws).word := by
  have differ : (ofSeed 0).word ≠ (ofSeed 1).word := by decide
  exact ⟨differ, generators_never_degenerate.2.2.2 _ _ differ⟩

end Random

end ContextCache.Trial
