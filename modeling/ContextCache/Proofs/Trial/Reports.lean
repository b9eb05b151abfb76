import ContextCache.Proofs.Trial.Tracking

/-!
Contract: what a churn reports.

A churn that is set up properly runs to its end in any world, and its report can be read off
its course and its context's table. The course knows nothing of the world or of the
configuration, so neither do the counts that are taken from it.

Owns:
- that a churn is set up properly;
- the success of every churn, and the bounds on its report;
- the parts of a report that depend on nothing but seed, length and pool.

Does not own: the counters of cache events in a report.
-/

set_option autoImplicit false

namespace ContextCache.Trial.Churn

/-! ### Setting up -/

/-- All definitions of the pool so far exist, and none is listed twice. -/
structure Pooled (keys : Array DefinitionKey) (registry : Registry) : Prop where
  alive : ∀ key ∈ keys, registry.isAlive key = true
  distinct : keys.toList.Nodup

theorem pooled_empty (registry : Registry) : Pooled #[] registry :=
  ⟨fun _ member => absurd member (Array.not_mem_empty _), List.nodup_nil⟩

/-- A new definition may join the pool. -/
theorem Pooled.push {keys : Array DefinitionKey} {registry : Registry}
    (pooled : Pooled keys registry) :
    Pooled (keys.push registry.define.1) registry.define.2 := by
  have older : ∀ key ∈ keys, key < registry.definitions.size :=
    fun key member => Registry.lt_size_of_isAlive (pooled.alive key member)
  refine ⟨?_, ?_⟩
  · intro key member
    rcases Array.mem_push.mp member with before | latest
    · exact (Registry.isAlive_define (older key before)).trans (pooled.alive key before)
    · rw [latest]
      exact Registry.isAlive_define_self registry
  · rw [Array.toList_push, List.nodup_append]
    refine ⟨pooled.distinct, List.nodup_singleton _, ?_⟩
    intro key member latest isLatest same
    have before := older key (Array.mem_toList_iff.mp member)
    rw [same, List.mem_singleton.mp isLatest] at before
    exact Nat.lt_irrefl registry.definitions.size before

theorem enlargePool_eq (pool : Array DefinitionKey × World) :
    enlargePool pool =
      (pool.1.push pool.2.registry.define.1,
        { pool.2 with shared := { pool.2.shared with registry := pool.2.registry.define.2 } }) := by
  unfold enlargePool
  rw [World.withRegistry_eq]

theorem createPool_pooled (count : Nat) (world : World) :
    Pooled (createPool count world).1 (createPool count world).2.registry ∧
      (createPool count world).1.size = count := by
  induction count with
  | zero => exact ⟨pooled_empty _, rfl⟩
  | succ count inductionHypothesis =>
      have enlarges : createPool (count + 1) world = enlargePool (createPool count world) := rfl
      rw [enlarges, enlargePool_eq]
      obtain ⟨pooled, size⟩ := inductionHypothesis
      exact ⟨pooled.push, (Array.size_push ..).trans (congrArg (· + 1) size)⟩

/-- The setup of a churn in a world. -/
def Parameters.setup (parameters : Parameters) (world : World) : Setup :=
  let (definitions, pooled) := createPool parameters.definitions world
  { definitions, context := pooled.contexts.size }

/-- The world of a churn before its first step. -/
def Parameters.prepared (parameters : Parameters) (world : World) : World :=
  let pooled := (createPool parameters.definitions world).2
  { pooled with
    contexts := pooled.contexts.push { config := parameters.config, store := none } }

def Parameters.start (parameters : Parameters) (world : World) : State :=
  { running := ⟨parameters.prepared world, Heap.create parameters.definitions⟩
    random := Random.ofSeed parameters.seed
    model := Array.replicate parameters.definitions none
    gets := 0
    removes := 0
    puts := 0
    peakLoad := 0 }

variable {world : World} {parameters : Parameters}

theorem runIn_eq (valid : parameters.config.Valid) (some : 1 ≤ parameters.definitions) :
    runIn world parameters =
      match (parameters.start world).runSteps (parameters.setup world) parameters.operations 0 with
      | .error error => .error error
      | .ok state => .ok (state.report parameters world.metrics (parameters.setup world)) := by
  unfold runIn
  rw [Config.validate_eq_ok_iff.mpr valid]
  dsimp only
  rw [if_neg (Nat.ne_of_gt some), World.addContext_of_valid _ valid]
  rfl

theorem size_setup (parameters : Parameters) (world : World) :
    (parameters.setup world).definitions.size = parameters.definitions :=
  (createPool_pooled parameters.definitions world).2

theorem proper_setup (world : World) (some : 1 ≤ parameters.definitions)
    (few : parameters.definitions ≤ 2 ^ 31) : (parameters.setup world).Proper where
  nonempty := by
    rw [size_setup]
    exact some
  small := by
    rw [size_setup]
    exact few
  distinct := (createPool_pooled parameters.definitions world).1.distinct

/-- Before the first step nothing is bound and nothing is modelled. -/
theorem tracks_start (world : World) (valid : parameters.config.Valid) :
    Tracks (parameters.setup world) parameters.config (parameters.start world) := by
  let pool := createPool parameters.definitions world
  have accepted : pool.2.addContext parameters.config =
      .ok ((parameters.setup world).context, parameters.prepared world) :=
    World.addContext_of_valid pool.2 valid
  obtain ⟨listed, fresh, shared⟩ := World.fresh_addContext accepted
  have opened : (parameters.prepared world).openStore (parameters.setup world).context =
      ⟨(parameters.prepared world).shared, Store.create parameters.config⟩ := by
    unfold World.openStore
    rw [fresh]
    rfl
  have pooled := (createPool_pooled parameters.definitions world).1
  refine ⟨?_, ?_, ?_, ?_, ?_, ?_, ?_, Nat.zero_le _⟩
  · intro index below
    refine ⟨⟨?_, listed⟩, ?_⟩
    · rw [Setup.place_of_lt below]
      show (parameters.prepared world).registry.isAlive _ = true
      unfold World.registry
      rw [shared]
      exact pooled.alive _ (Array.getElem_mem below)
    · show ((parameters.prepared world).openStore (parameters.setup world).context).Sound
      rw [opened]
      exact sound_create valid _
  · exact congrArg (fun opened => opened.store.config) opened
  · show ((parameters.prepared world).openStore _).store.Measured
    rw [opened]
    exact Store.measured_create valid
  · show ((parameters.prepared world).openStore _).store.Keyed
    rw [opened]
    exact Store.keyed_create _
  · intro key entry bound
    have unbound : ((parameters.prepared world).openStore
        (parameters.setup world).context).store.binding? key = none := by
      rw [opened]
      rfl
    exact absurd (unbound.symm.trans bound) (by simp)
  · exact Array.size_replicate.trans (size_setup parameters world).symm
  · intro index below
    have unmodelled : (parameters.start world).model.getD index none = none := by
      show (Array.replicate parameters.definitions none).getD index none = none
      rw [Array.getD_eq_getD_getElem?, Array.getElem?_replicate]
      split <;> rfl
    rw [unmodelled]
    show ((parameters.prepared world).openStore
      (parameters.setup world).context).store.binding? _ = none
    rw [opened]
    rfl

/-! ### Reports -/

/-- The course of a churn from its start to its end. -/
def Parameters.course (parameters : Parameters) : Score :=
  (Score.start parameters.seed parameters.definitions).run parameters.definitions
    parameters.operations 0

theorem tallied_course (parameters : Parameters) :
    parameters.course.Tallied parameters.definitions parameters.operations := by
  have tallied := (Score.tallied_start parameters.seed parameters.definitions).run
    parameters.operations
  rw [Nat.zero_add] at tallied
  exact tallied

/-- Every churn ends well in every world, where its course says and with a sound cache. -/
theorem runIn_ok (world : World) (valid : parameters.config.Valid)
    (some : 1 ≤ parameters.definitions) (few : parameters.definitions ≤ 2 ^ 31)
    (brief : parameters.operations ≤ 2 ^ 32) :
    ∃ final,
      runIn world parameters =
        .ok (final.report parameters world.metrics (parameters.setup world)) ∧
      final.score = parameters.course ∧
      Tracks (parameters.setup world) parameters.config final := by
  have proper := proper_setup world some few
  have tallied : (parameters.start world).score.Tallied (parameters.setup world).definitions.size
      0 := by
    rw [size_setup]
    exact Score.tallied_start parameters.seed parameters.definitions
  have within : 0 + parameters.operations ≤ 2 ^ 32 := by rwa [Nat.zero_add]
  obtain ⟨final, runs, follows, tracks⟩ :=
    (tracks_start world valid).runSteps proper tallied within
  refine ⟨final, ?_, ?_, tracks⟩
  · rw [runIn_eq valid some, runs]
  · rw [follows, size_setup]
    rfl

/-- The table that a churn leaves behind has a length that its configuration allows, if it has
one at all. -/
theorem Tracks.capacity {setup : Setup} {config : Config} {state : State}
    (tracks : Tracks setup config state) :
    (state.running.world.snapshot setup.context).capacity = 0 ∨
      (state.running.world.snapshot setup.context).capacity.isPowerOfTwo ∧
      config.initialEntries ≤ (state.running.world.snapshot setup.context).capacity ∧
      (state.running.world.snapshot setup.context).capacity ≤ config.maxEntries := by
  rw [World.capacity_snapshot]
  split
  · right
    have measured := tracks.measured
    rw [← tracks.configured]
    obtain ⟨doublings, exactly⟩ := measured.doubled
    refine ⟨?_, ?_, measured.bounded⟩
    · obtain ⟨power, initial⟩ := measured.valid.initialPower
      refine ⟨power + doublings, ?_⟩
      rw [exactly, initial, Nat.pow_add]
    · rw [exactly]
      exact Nat.le_mul_of_pos_right _ (Nat.two_pow_pos doublings)
  · exact Or.inl rfl

/-- Churns never cry wolf. With a validated configuration, a pool of up to `2 ^ 31` definitions
and up to `2 ^ 32` operations, a churn succeeds whatever its seed and whatever world it runs
in. Its report adds up, and the table it shows is within what the configuration allows. -/
theorem churns_succeed (world : World) (parameters : Parameters)
    (validated : parameters.config.validate = .ok ()) (some : 1 ≤ parameters.definitions)
    (few : parameters.definitions ≤ 2 ^ 31) (brief : parameters.operations ≤ 2 ^ 32) :
    ∃ report, runIn world parameters = .ok report ∧
      report.gets + report.removes + report.puts = parameters.operations ∧
      report.computations ≤ report.gets ∧
      report.boundDefinitions ≤ parameters.definitions ∧
      report.peakLoad ≤ report.finalCapacity ∧
      (report.finalCapacity = 0 ∨
        report.finalCapacity.isPowerOfTwo ∧
        parameters.config.initialEntries ≤ report.finalCapacity ∧
        report.finalCapacity ≤ parameters.config.maxEntries) := by
  have valid := Config.validate_eq_ok_iff.mp validated
  obtain ⟨final, runs, follows, tracks⟩ := runIn_ok world valid some few brief
  have tallied := tallied_course parameters
  rw [← follows] at tallied
  refine ⟨_, runs, tallied.tallied, tallied.computed, ?_, tracks.peak, tracks.capacity⟩
  show (final.running.world.context (parameters.setup world).context).boundDefinitions ≤ _
  rw [tracks.bindings (proper_setup world some few), ← tallied.sized]
  exact final.score.modelled_le_size

/-- Four operations on two definitions, in a table of four slots. -/
def smallParameters : Parameters :=
  { seed := 1, operations := 4, definitions := 2, config := World.smallConfig }

/-- A small churn in a fresh program succeeds. -/
theorem churns_succeed_small :
    ∃ report, run smallParameters = .ok report ∧
      report.gets + report.removes + report.puts = 4 ∧
      report.computations ≤ report.gets ∧ report.boundDefinitions ≤ 2 ∧
      report.peakLoad ≤ report.finalCapacity ∧
      (report.finalCapacity = 0 ∨
        report.finalCapacity.isPowerOfTwo ∧ 4 ≤ report.finalCapacity ∧ report.finalCapacity ≤ 8) :=
  churns_succeed World.initial smallParameters rfl (by decide) (by decide) (by decide)

/-- Churns repeat. From the same seed, with as many operations on as many definitions, two
churns report the same gets, removals, puts, computations and bound definitions, although they
run in different worlds, in which hashes and identities are counted on from anywhere, and
under different configurations. -/
theorem churns_repeat (first second : World) (parameters : Parameters) (other : Config)
    (validated : parameters.config.validate = .ok ()) (validatedToo : other.validate = .ok ())
    (some : 1 ≤ parameters.definitions) (few : parameters.definitions ≤ 2 ^ 31)
    (brief : parameters.operations ≤ 2 ^ 32) :
    ∃ report again, runIn first parameters = .ok report ∧
      runIn second { parameters with config := other } = .ok again ∧
      again.gets = report.gets ∧ again.removes = report.removes ∧ again.puts = report.puts ∧
      again.computations = report.computations ∧
      again.boundDefinitions = report.boundDefinitions := by
  let repeated : Parameters := { parameters with config := other }
  obtain ⟨final, runs, follows, tracks⟩ :=
    runIn_ok first (Config.validate_eq_ok_iff.mp validated) some few brief
  have validToo : repeated.config.Valid := Config.validate_eq_ok_iff.mp validatedToo
  obtain ⟨finalToo, runsToo, followsToo, tracksToo⟩ := runIn_ok second validToo some few brief
  -- The course reads neither the configuration nor the world.
  have same : finalToo.score = final.score := followsToo.trans follows.symm
  refine ⟨_, _, runs, runsToo, congrArg Score.gets same, congrArg Score.removes same,
    congrArg Score.puts same, congrArg (fun score => score.heap.computations) same, ?_⟩
  calc (finalToo.running.world.context (repeated.setup second).context).boundDefinitions
      = finalToo.score.modelled := tracksToo.bindings (proper_setup second some few)
    _ = final.score.modelled := congrArg Score.modelled same
    _ = (final.running.world.context (parameters.setup first).context).boundDefinitions :=
        (tracks.bindings (proper_setup first some few)).symm

/-- The small churn counts the same in a world that has already drawn a hash, and with the
standard configuration. -/
theorem churns_repeat_small :
    ∃ report again, runIn World.initial smallParameters = .ok report ∧
      runIn World.small { smallParameters with config := Config.standard } = .ok again ∧
      again.gets = report.gets ∧ again.removes = report.removes ∧ again.puts = report.puts ∧
      again.computations = report.computations ∧
      again.boundDefinitions = report.boundDefinitions :=
  churns_repeat World.initial World.small smallParameters Config.standard rfl rfl (by decide)
    (by decide) (by decide)

end ContextCache.Trial.Churn
