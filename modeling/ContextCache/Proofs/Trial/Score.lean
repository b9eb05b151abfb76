import Mathlib.Algebra.Order.BigOperators.Group.List
import Mathlib.Algebra.Order.Group.Nat
import Mathlib.Data.Nat.Bitwise
import ContextCache.Trial.Churn

/-!
Contract: a churn without its cache.

What a churn draws, allocates, models and counts does not depend on the table that it tests.
A read of a definition that the model has a value for returns that value, and any other read
computes. So the whole course of a churn can be written down without a context, and follows
from the seed, the number of steps and the size of the pool alone.

Owns:
- the course of a churn apart from its cache;
- the bounds on what it counts;
- the values that computations give, and that the comparison accepts them.

Does not own: that a cache follows this course.
-/

set_option autoImplicit false

namespace ContextCache.Trial.Churn

/-- A churn between two steps, without its cache. -/
structure Score where
  heap : Heap
  random : Random
  model : Array (Option UInt64)
  gets : Nat
  removes : Nat
  puts : Nat

namespace Score

def start (seed : UInt64) (definitions : Nat) : Score where
  heap := Heap.create definitions
  random := Random.ofSeed seed
  model := Array.replicate definitions none
  gets := 0
  removes := 0
  puts := 0

/-- Notes the value that is bound to a definition from now on. -/
def note (definition : Nat) (value : Option UInt64) (score : Score) : Score :=
  { score with model := score.model.setIfInBounds definition value }

def remove (definition : Nat) (score : Score) : Score :=
  { score.note definition none with removes := score.removes + 1 }

def put (definition : Nat) (value : UInt64) (score : Score) : Score :=
  { score.note definition (some value) with
    heap := (score.heap.allocate value).2
    puts := score.puts + 1 }

/-- What a read returns: the modelled value if there is one, and a computed one otherwise. -/
def read (definition : Nat) (score : Score) : UInt64 × Heap :=
  match score.model.getD definition none with
  | some value => (value, score.heap)
  | none =>
    let (allocation, heap) := score.heap.compute definition
    (heap.value allocation, heap)

def get (definition : Nat) (score : Score) : Score :=
  let (value, heap) := score.read definition
  { score.note definition (some value) with
    heap
    gets := score.gets + 1 }

/-- One access to a pool of `definitions`, as the generator decides. -/
def access (definitions step : Nat) (score : Score) : Score :=
  let (definition, random) := score.random.below (UInt64.ofNat definitions)
  let (choice, random) := random.below 8
  let definition := (definition.getD 0).toNat
  let drawn := { score with random }
  if choice = some 0 then
    drawn.remove definition
  else if choice = some 1 then
    drawn.put definition (putTag ||| UInt64.ofNat step)
  else
    drawn.get definition

/-- The course of `remaining` steps, the first of which has the number `step`. -/
def run (definitions remaining step : Nat) (score : Score) : Score :=
  (List.range' step remaining).foldl (fun score step => score.access definitions step) score

/-- The number of definitions that the model has a value for. -/
def modelled (score : Score) : Nat :=
  score.model.toList.countP Option.isSome

end Score

/-! ### Counting computations -/

namespace Heap

variable {heap : Heap} {definition : Nat}

theorem sum_modify_le (counts : List Nat) (index : Nat) :
    (counts.modify index (· + 1)).sum ≤ counts.sum + 1 := by
  induction counts generalizing index with
  | nil => simp
  | cons head tail inductionHypothesis =>
      cases index with
      | zero =>
          rw [List.modify_zero_cons, List.sum_cons, List.sum_cons]
          omega
      | succ index =>
          have rest := inductionHypothesis index
          rw [List.modify_succ_cons, List.sum_cons, List.sum_cons]
          omega

theorem computations_eq_sum (heap : Heap) : heap.computations = heap.calls.toList.sum := by
  unfold computations
  rw [← Array.foldl_toList, List.sum_eq_foldl]

theorem computations_compute_le (heap : Heap) (definition : Nat) :
    (heap.compute definition).2.computations ≤ heap.computations + 1 := by
  rw [computations_eq_sum, computations_eq_sum]
  show (heap.calls.modify definition (· + 1)).toList.sum ≤ _
  rw [Array.toList_modify]
  exact sum_modify_le _ _

theorem computations_create (definitions : Nat) : (Heap.create definitions).computations = 0 := by
  rw [computations_eq_sum]
  simp [Heap.create]

/-- A definition has not computed more often than all of them together. -/
theorem calls_le_computations (heap : Heap) (definition : Nat) :
    heap.calls.getD definition 0 ≤ heap.computations := by
  rw [computations_eq_sum, Array.getD_eq_getD_getElem?]
  cases found : heap.calls[definition]? with
  | none => exact Nat.zero_le _
  | some calls =>
      have member : calls ∈ heap.calls.toList := Array.mem_toList_iff.mpr (Array.mem_of_getElem? found)
      exact List.le_sum_of_mem member

/-! ### Values -/

theorem value_allocate_self (heap : Heap) (value : UInt64) :
    (heap.allocate value).2.value (heap.allocate value).1 = value := by
  simp [Heap.value, allocate]

theorem value_allocate_of_lt (value : UInt64) {allocation : Allocation}
    (allocated : allocation.serial < heap.values.size) :
    (heap.allocate value).2.value allocation = heap.value allocation := by
  simp only [Heap.value, allocate, Array.getD_eq_getD_getElem?]
  rw [Array.getElem?_push_lt allocated, Array.getElem?_eq_getElem allocated]

theorem value_compute (heap : Heap) (definition : Nat) :
    (heap.compute definition).2.value (heap.compute definition).1 =
      ((UInt64.ofNat definition <<< 32) ||| UInt64.ofNat (heap.calls.getD definition 0)) :=
  value_allocate_self _ _

end Heap

theorem toNat_computed {definition earlier : Nat} (small : definition < 2 ^ 31)
    (few : earlier < 2 ^ 32) :
    ((UInt64.ofNat definition <<< 32) ||| UInt64.ofNat earlier).toNat =
      definition * 2 ^ 32 + earlier := by
  have shifted : (UInt64.ofNat definition <<< 32).toNat = definition <<< 32 := by
    rw [UInt64.toNat_shiftLeft, UInt64.toNat_ofNat_of_lt' (by simp [UInt64.size]; omega)]
    show definition <<< 32 % 2 ^ 64 = _
    rw [Nat.shiftLeft_eq]
    exact Nat.mod_eq_of_lt (by omega)
  rw [UInt64.toNat_or, shifted, UInt64.toNat_ofNat_of_lt' (by simp [UInt64.size]; omega),
    ← Nat.shiftLeft_add_eq_or_of_lt few, Nat.shiftLeft_eq]

/-- The comparison accepts what an unbound definition of a small pool computes. -/
theorem compare_computed {definition earlier : Nat} (small : definition < 2 ^ 31)
    (few : earlier < 2 ^ 32) :
    State.compare definition none ((UInt64.ofNat definition <<< 32) ||| UInt64.ofNat earlier) =
      .ok () := by
  have exactly := toNat_computed small few
  generalize (UInt64.ofNat definition <<< 32) ||| UInt64.ofNat earlier = word at exactly
  have untagged : word &&& putTag = 0 := by
    have below : word.toNat < 2 ^ 63 := by omega
    apply UInt64.toNat.inj
    rw [UInt64.toNat_and, show putTag.toNat = 2 ^ 63 from rfl, Nat.and_two_pow,
      Nat.testBit_lt_two_pow below]
    rfl
  have upper : (word >>> 32).toNat = definition := by
    rw [UInt64.toNat_shiftRight, exactly]
    show (definition * 2 ^ 32 + earlier) >>> 32 = definition
    rw [Nat.shiftRight_eq_div_pow]
    omega
  unfold State.compare
  dsimp only
  rw [untagged, upper]
  simp

/-! ### The course of a churn -/

namespace Score

variable {definitions step : Nat} {score : Score}

/-- What holds of a churn's counts after `step` steps on a pool of `definitions`. -/
structure Tallied (definitions step : Nat) (score : Score) : Prop where
  tallied : score.gets + score.removes + score.puts = step
  computed : score.heap.computations ≤ score.gets
  sized : score.model.size = definitions

theorem tallied_start (seed : UInt64) (definitions : Nat) :
    (start seed definitions).Tallied definitions 0 where
  tallied := rfl
  computed := Nat.le_of_eq (Heap.computations_create definitions)
  sized := Array.size_replicate

theorem size_note (definition : Nat) (value : Option UInt64) (score : Score) :
    (score.note definition value).model.size = score.model.size :=
  Array.size_setIfInBounds

theorem computations_read_le (definition : Nat) (score : Score) :
    (score.read definition).2.computations ≤ score.heap.computations + 1 := by
  unfold read
  split
  · exact Nat.le_succ _
  · exact Heap.computations_compute_le score.heap definition

theorem Tallied.remove (tallied : score.Tallied definitions step) (definition : Nat) :
    (score.remove definition).Tallied definitions (step + 1) where
  tallied := by
    have before := tallied.tallied
    show score.gets + (score.removes + 1) + score.puts = step + 1
    omega
  computed := tallied.computed
  sized := (size_note definition none score).trans tallied.sized

theorem Tallied.put (tallied : score.Tallied definitions step) (definition : Nat)
    (value : UInt64) : (score.put definition value).Tallied definitions (step + 1) where
  tallied := by
    have before := tallied.tallied
    show score.gets + score.removes + (score.puts + 1) = step + 1
    omega
  computed := tallied.computed
  sized := (size_note definition (some value) score).trans tallied.sized

theorem Tallied.get (tallied : score.Tallied definitions step) (definition : Nat) :
    (score.get definition).Tallied definitions (step + 1) where
  tallied := by
    have before := tallied.tallied
    show score.gets + 1 + score.removes + score.puts = step + 1
    omega
  computed :=
    Nat.le_trans (computations_read_le definition score) (Nat.succ_le_succ tallied.computed)
  sized := (size_note definition (some (score.read definition).1) score).trans tallied.sized

theorem Tallied.draw (tallied : score.Tallied definitions step) (random : Random) :
    { score with random }.Tallied definitions step :=
  ⟨tallied.tallied, tallied.computed, tallied.sized⟩

theorem Tallied.access (tallied : score.Tallied definitions step) :
    (score.access definitions step).Tallied definitions (step + 1) := by
  unfold Score.access
  dsimp only
  split
  · exact (tallied.draw _).remove _
  · split
    · exact (tallied.draw _).put _ _
    · exact (tallied.draw _).get _

theorem run_succ (definitions remaining step : Nat) (score : Score) :
    score.run definitions (remaining + 1) step =
      (score.access definitions step).run definitions remaining (step + 1) := by
  unfold run
  rw [List.range'_succ, List.foldl_cons]

theorem Tallied.run (tallied : score.Tallied definitions step) (remaining : Nat) :
    (score.run definitions remaining step).Tallied definitions (step + remaining) := by
  induction remaining generalizing step score with
  | zero => exact tallied
  | succ remaining inductionHypothesis =>
      rw [run_succ, Nat.add_left_comm, Nat.add_comm remaining]
      exact inductionHypothesis tallied.access

theorem modelled_le_size (score : Score) : score.modelled ≤ score.model.size := by
  unfold modelled
  exact List.countP_le_length

end Score

end ContextCache.Trial.Churn
