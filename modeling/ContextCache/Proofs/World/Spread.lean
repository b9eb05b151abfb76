import ContextCache.Proofs.Registry.Spread
import ContextCache.Proofs.Store.Edits
import ContextCache.Proofs.World.Runs

/-!
Contract: the hashes of the definitions that a program creates.

Nothing that a program does draws a hash but the creation of a definition, and no definition
ever gets another hash. So the definitions that a run creates have consecutive draws of the
counter as the run found it, and any window of them as long as a table fills that table.

Owns:
- that every run continues the draws it has found;
- that hashes stay within the mask in every world that can come about;
- how consecutive definitions spread over a table.

Does not own: what entries do that share a home nevertheless.
-/

set_option autoImplicit false

namespace ContextCache

namespace World

variable {start world after : World} {event : Event} {events : List Event}
  {counter : HashCounter} {since : Nat}

theorem drawn_step (drawn : world.registry.Drawn counter since)
    (step : Step world event after) : after.registry.Drawn counter since := by
  cases step with
  | @operated place operation usable =>
      rcases OpenStore.registry_operate (world.openStore place.context) place.definition operation
        with same | ⟨-, bumped⟩
      · exact drawn.of_eq (congrArg Registry.hashes same)
          (congrArg (fun registry => registry.definitions.size) same)
          (fun key => congrArg (fun registry => registry.hash key) same)
      · have superseded := drawn.bump place.definition
        exact superseded.of_eq (congrArg Registry.hashes bumped)
          (congrArg (fun registry => registry.definitions.size) bumped)
          (fun key => congrArg (fun registry => registry.hash key) bumped)
  | defined => exact drawn.define
  | dropped key => exact drawn.drop key
  | held key => exact drawn.of_eq rfl rfl fun _ => rfl
  | released key => exact drawn.of_eq rfl rfl fun _ => rfl
  | contextAdded accepted =>
      have same := (fresh_addContext accepted).2.2
      exact drawn.of_eq (congrArg (fun shared => shared.registry.hashes) same)
        (congrArg (fun shared => shared.registry.definitions.size) same)
        (fun key => congrArg (fun shared => shared.registry.hash key) same)
  | counted counter => exact drawn.of_eq rfl rfl fun _ => rfl

/-- The definitions of a run have drawn from the counter as the run has found it. -/
theorem Run.drawn (run : Run start events after) :
    after.registry.Drawn start.registry.hashes start.registry.definitions.size := by
  induction run with
  | here => exact Registry.drawn_start start.registry
  | next _ step still => exact drawn_step still step

theorem Reachable.drawn (reachable : Reachable world) :
    world.registry.Drawn HashCounter.initial 0 := by
  induction reachable with
  | initial => exact Registry.drawn_start Registry.initial
  | next _ step still => exact drawn_step still step

/-- Consecutive definitions spread perfectly, for every `m` up to thirty and wherever the
counter stands. The next `2 ^ m` draws have one home in each slot of a table of `2 ^ m` slots,
a home being the last `m` bits of the hash, and the next `2 ^ 30` draws are all different. The
same is true of the definitions that a program creates from any moment on, whatever it does in
between: any `2 ^ m` consecutive ones have one home in each slot, and two of them have different
hashes if fewer than `2 ^ 30` creations lie between them. -/
theorem consecutive_definitions_spread (run : Run start events after) (counter : HashCounter)
    {m : Nat} (small : m ≤ 30) {table : Table} (capacity : table.capacity = 2 ^ m) :
    (∀ hash, table.home hash = hash.toNat &&& (2 ^ m - 1)) ∧
      ((counter.drawMany (2 ^ m)).map table.home).Perm (List.range (2 ^ m)) ∧
      (counter.drawMany (2 ^ 30)).Nodup ∧
      (∀ base, start.registry.definitions.size ≤ base →
        base + 2 ^ m ≤ after.registry.definitions.size →
        ((List.range (2 ^ m)).map fun index =>
          table.home (after.registry.hash (base + index))).Perm (List.range (2 ^ m))) ∧
      ∀ first second, start.registry.definitions.size ≤ first → first < second →
        second < after.registry.definitions.size → second < first + 2 ^ 30 →
        after.registry.hash first ≠ after.registry.hash second := by
  have drawn := run.drawn
  refine ⟨?_, ?_, HashCounter.nodup_drawMany counter (Nat.le_refl _), ?_, ?_⟩
  · intro hash
    rw [HashCounter.home_eq_mod capacity, Nat.and_two_pow_sub_one_eq_mod]
  · have window := counter.homes_window small capacity 0
    simp only [Nat.zero_add] at window
    rw [HashCounter.drawMany, List.map_map]
    exact window
  · intro base created present
    have window := start.registry.hashes.homes_window small capacity
      (base - start.registry.definitions.size)
    refine List.Perm.trans (List.Perm.of_eq (List.map_congr_left ?_)) window
    intro index below
    have within : base + index < after.registry.definitions.size := by
      have := List.mem_range.mp below
      omega
    rw [drawn.hash (base + index) (by omega) within]
    congr 3
    omega
  · intro first second created before present near same
    rw [drawn.hash first created (by omega), drawn.hash second (by omega) present] at same
    exact HashCounter.hash_ne_of_near (by omega) (by omega) same

/-- A program whose next draw is the last one before its counter wraps around. -/
def brink : World :=
  { World.initial with
    shared :=
      { Shared.initial with
        registry := { Registry.initial with hashes := ⟨0xd1b54a32⟩ } } }

/-- Four definitions have been created, the first of which is dropped before the others come. -/
def beyondBrink : World :=
  let created := fun world : World => (world.withRegistry Registry.define).2
  created (created (created ((created brink).dropDefinition 0)))

theorem run_beyondBrink : Run brink [.passed, .passed, .passed, .passed, .passed] beyondBrink :=
  .next (.next (.next (.next (.next .here .defined) (.dropped 0)) .defined) .defined) .defined

theorem consecutive_definitions_spread_wrapping :
    2 ≤ 30 ∧ (Table.empty 4).capacity = 2 ^ 2 ∧
      Run brink [.passed, .passed, .passed, .passed, .passed] beyondBrink ∧
      beyondBrink.registry.hashes.position < brink.registry.hashes.position ∧
      ((List.range 4).map fun index =>
        (Table.empty 4).home (beyondBrink.registry.hash (0 + index))).Perm (List.range 4) := by
  have spread := consecutive_definitions_spread run_beyondBrink brink.registry.hashes
    (m := 2) (by decide) (show (Table.empty 4).capacity = 2 ^ 2 by decide)
  exact ⟨by decide, by decide, run_beyondBrink, by decide +kernel,
    spread.2.2.2.1 0 (by decide) (by decide)⟩

end World

end ContextCache
