import Mathlib.Data.List.Nodup
import ContextCache.Proofs.Reader.Pieces
import ContextCache.Proofs.Trial.Score

/-!
Contract: the cache of a churn follows the course of the churn.

Between two steps a definition of the pool is bound to an allocation of its modelled value,
and is unbound where the model has none. Nothing else is bound in the context. Every access
keeps this up, whatever the table looks like, so no check that the churn makes ever fails.

Owns:
- what ties a churn's cache to its model between two steps;
- that every access, check and step keeps it and follows the course of the churn;
- the same of all steps together.

Does not own: how a churn is set up, and what it reports.
-/

set_option autoImplicit false

namespace ContextCache.Trial.Churn

/-! ### The pool -/

/-- The pool is neither empty nor too great for the values of computations, and lists no
definition twice. -/
structure Setup.Proper (setup : Setup) : Prop where
  nonempty : 0 < setup.definitions.size
  small : setup.definitions.size ≤ 2 ^ 31
  distinct : setup.definitions.toList.Nodup

section Pool

variable {setup : Setup} {index other : Nat}

theorem Setup.place_of_lt (below : index < setup.definitions.size) :
    setup.place index = ⟨setup.definitions[index], setup.context⟩ := by
  unfold Setup.place
  rw [Array.getD_eq_getD_getElem?, Array.getElem?_eq_getElem below]
  rfl

theorem Setup.Proper.place_ne (proper : setup.Proper) (below : index < setup.definitions.size)
    (otherBelow : other < setup.definitions.size) (differs : other ≠ index) :
    setup.place other ≠ setup.place index := by
  rw [place_of_lt below, place_of_lt otherBelow]
  intro same
  apply differs
  have sameKey : setup.definitions.toList[other] = setup.definitions.toList[index] :=
    congrArg Place.definition same
  exact (List.Nodup.getElem_inj_iff proper.distinct).mp sameKey

/-- The generator only ever draws places in the pool. -/
theorem Setup.Proper.drawn_lt (proper : setup.Proper) (random : Random) :
    ((random.below (UInt64.ofNat setup.definitions.size)).1.getD 0).toNat <
      setup.definitions.size := by
  have size : (UInt64.ofNat setup.definitions.size).toNat = setup.definitions.size := by
    apply UInt64.toNat_ofNat_of_lt'
    have small := proper.small
    show setup.definitions.size < 2 ^ 64
    omega
  have nonzero : UInt64.ofNat setup.definitions.size ≠ 0 := by
    intro zero
    rw [zero] at size
    exact absurd size (Nat.ne_of_lt proper.nonempty)
  unfold Random.below
  dsimp only
  rw [if_neg nonzero, Option.getD_some, UInt64.toNat_mod, size]
  exact Nat.mod_lt _ proper.nonempty

end Pool

/-! ### The tie between cache and model -/

/-- A place is bound to an allocation of the expected value, or unbound if none is. -/
def Agrees (running : Running Heap) (place : Place) : Option UInt64 → Prop
  | none => running.world.binding? place = none
  | some value => ∃ allocation, running.world.value? place = some allocation ∧
      allocation.serial < running.own.values.size ∧ running.own.value allocation = value

/-- Allocations keep their values. -/
def Heap.Grows (heap later : Heap) : Prop :=
  ∀ allocation, allocation.serial < heap.values.size →
    allocation.serial < later.values.size ∧ later.value allocation = heap.value allocation

def State.score (state : State) : Score :=
  { heap := state.running.own
    random := state.random
    model := state.model
    gets := state.gets
    removes := state.removes
    puts := state.puts }

/-- What holds between the steps of a churn on a context with this configuration. -/
structure Tracks (setup : Setup) (config : Config) (state : State) : Prop where
  serves : ∀ index, index < setup.definitions.size →
    state.running.world.Serves (setup.place index)
  configured : (state.running.world.openStore setup.context).store.config = config
  measured : (state.running.world.openStore setup.context).store.Measured
  keyed : (state.running.world.openStore setup.context).store.Keyed
  owned : ∀ key entry,
    (state.running.world.openStore setup.context).store.binding? key = some entry →
      key ∈ setup.definitions
  sized : state.model.size = setup.definitions.size
  agrees : ∀ index, index < setup.definitions.size →
    Agrees state.running (setup.place index) (state.model.getD index none)
  peak : state.peakLoad ≤ (state.running.world.snapshot setup.context).capacity

theorem Heap.Grows.refl (heap : Heap) : heap.Grows heap :=
  fun _ allocated => ⟨allocated, rfl⟩

theorem Heap.grows_allocate (heap : Heap) (value : UInt64) :
    heap.Grows (heap.allocate value).2 := by
  intro allocation allocated
  refine ⟨?_, heap.value_allocate_of_lt value allocated⟩
  simp only [allocate, Array.size_push]
  omega

theorem Heap.grows_compute (heap : Heap) (definition : Nat) :
    heap.Grows (heap.compute definition).2 :=
  Heap.grows_allocate { heap with calls := heap.calls.modify definition (· + 1) } _

theorem Heap.allocated_lt (heap : Heap) (value : UInt64) :
    (heap.allocate value).1.serial < (heap.allocate value).2.values.size := by
  simp [allocate]

theorem value?_of_unbound {world : World} {place : Place}
    (unbound : world.binding? place = none) : world.value? place = none :=
  OpenStore.value?_of_unbound unbound

/-- A place where nothing happened agrees as before, although more is allocated. -/
theorem Agrees.grow {running later : Running Heap} {place : Place} {value : Option UInt64}
    (agrees : Agrees running place value)
    (same : later.world.binding? place = running.world.binding? place)
    (grows : running.own.Grows later.own) : Agrees later place value := by
  cases value with
  | none => exact same.trans agrees
  | some value =>
      obtain ⟨allocation, held, allocated, carries⟩ := agrees
      obtain ⟨allocatedStill, kept⟩ := grows allocation allocated
      exact ⟨allocation, (World.value?_eq_of_binding? same).trans held, allocatedStill,
        kept.trans carries⟩

variable {setup : Setup} {config : Config} {state next : State} {index : Nat}

/-- Work on one place of the pool keeps the tie if it leaves that place as modelled. -/
theorem Tracks.work {value : Option UInt64} (tracks : Tracks setup config state)
    (proper : setup.Proper) (below : index < setup.definitions.size)
    (works : World.Works (setup.place index) state.running.world next.running.world)
    (grows : state.running.own.Grows next.running.own)
    (model : next.model = state.model.setIfInBounds index value)
    (peak : next.peakLoad = state.peakLoad)
    (agrees : Agrees next.running (setup.place index) value) : Tracks setup config next := by
  have serves := tracks.serves index below
  have spares := works.spares serves
  have edited : Store.Edited (setup.place index).definition
      (state.running.world.openStore setup.context).store
      (next.running.world.openStore setup.context).store := works.edited serves
  refine ⟨?_, ?_, edited.measured tracks.measured, edited.keyed tracks.keyed, ?_, ?_, ?_, ?_⟩
  · intro other otherBelow
    have before := tracks.serves other otherBelow
    refine ⟨⟨(spares.alive _).trans before.usable.alive, ?_⟩, (works.serves serves).sound⟩
    rw [spares.contexts]
    exact before.usable.listed
  · exact edited.lengthens.1.trans tracks.configured
  · intro key entry bound
    by_cases same : key = (setup.place index).definition
    · rw [same, Setup.place_of_lt below]
      exact Array.getElem_mem below
    · exact tracks.owned key entry (edited.binding? same bound)
  · rw [model, Array.size_setIfInBounds]
    exact tracks.sized
  · intro other otherBelow
    rw [model, Array.getD_eq_getD_getElem?, Array.getElem?_setIfInBounds]
    split
    · next same =>
        subst same
        rw [if_pos (by rwa [tracks.sized]), Option.getD_some]
        exact agrees
    · next differs =>
        rw [← Array.getD_eq_getD_getElem?]
        apply (tracks.agrees other otherBelow).grow ?_ grows
        exact spares.binding _ (proper.place_ne below otherBelow (Ne.symm differs))
          (tracks.serves other otherBelow).usable.alive
  · rw [peak]
    exact Nat.le_trans tracks.peak (works.capacity_le serves)

/-! ### Accesses -/

/-- Without promises, a removal leaves its place unbound in any case. -/
theorem Tracks.unbound_remove (tracks : Tracks setup config state)
    (below : index < setup.definitions.size) :
    (state.running.world.remove (setup.place index)).binding? (setup.place index) = none := by
  have serves := tracks.serves index below
  have agrees := tracks.agrees index below
  generalize state.model.getD index none = value at agrees
  cases value with
  | none =>
      have vacant : state.running.world.value? (setup.place index) = none :=
        value?_of_unbound agrees
      exact (World.remove_vacant serves vacant).trans agrees
  | some value =>
      obtain ⟨allocation, held, -⟩ := agrees
      exact World.remove_value serves held

theorem Tracks.remove (tracks : Tracks setup config state) (proper : setup.Proper)
    (below : index < setup.definitions.size) : Tracks setup config (state.remove setup index) := by
  have agrees : Agrees (state.remove setup index).running (setup.place index) none :=
    tracks.unbound_remove below
  exact tracks.work proper below (World.works_remove _ _) (Heap.Grows.refl _) rfl rfl agrees

theorem Tracks.put (tracks : Tracks setup config state) (proper : setup.Proper)
    (below : index < setup.definitions.size) (value : UInt64) :
    Tracks setup config (state.put setup index value) := by
  have serves := tracks.serves index below
  have bound := World.put_value serves (state.running.own.allocate value).1
  have agrees : Agrees (state.put setup index value).running (setup.place index) (some value) :=
    ⟨_, bound, state.running.own.allocated_lt value, state.running.own.value_allocate_self value⟩
  exact tracks.work proper below (World.works_put _ _ _) (state.running.own.grows_allocate value)
    rfl rfl agrees

theorem compare_self (definition : Nat) (value : UInt64) :
    State.compare definition (some value) value = .ok () := by
  simp [State.compare]

/-- A read of a place with a modelled value returns it. -/
theorem Tracks.get_value (tracks : Tracks setup config state) (proper : setup.Proper)
    (below : index < setup.definitions.size) {value : UInt64}
    (modelled : state.model.getD index none = some value) :
    ∃ next, state.get setup index = .ok next ∧ next.score = state.score.get index ∧
      Tracks setup config next := by
  have agrees := tracks.agrees index below
  rw [modelled] at agrees
  obtain ⟨allocation, held, allocated, carries⟩ := agrees
  subst carries
  obtain ⟨begun, returns, works, heldStill⟩ :=
    World.beginRead_value (tracks.serves index below) held
  have reads : state.running.read (computation index) 1 (setup.place index) =
      (.ok allocation, { state.running with world := begun }) := by
    unfold Running.read
    rw [returns]
  have accepted :
      State.compare index (state.model.getD index none) (state.running.own.value allocation) =
        .ok () := by
    rw [modelled]
    exact compare_self index _
  let next : State :=
    { state with
      running := { state.running with world := begun }
      model := state.model.setIfInBounds index (some (state.running.own.value allocation))
      gets := state.gets + 1 }
  refine ⟨next, ?_, ?_, ?_⟩
  · unfold State.get
    rw [reads]
    dsimp only
    rw [accepted]
  · unfold Score.get Score.read
    rw [show state.score.model.getD index none = _ from modelled]
    rfl
  · have agreesStill : Agrees next.running (setup.place index)
        (some (state.running.own.value allocation)) :=
      ⟨allocation, heldStill, allocated, rfl⟩
    exact tracks.work proper below works (Heap.Grows.refl _) rfl rfl agreesStill

/-- A read of a place without one computes, and binds what it computed. -/
theorem Tracks.get_vacant (tracks : Tracks setup config state) (proper : setup.Proper)
    (below : index < setup.definitions.size)
    (few : state.running.own.calls.getD index 0 < 2 ^ 32)
    (unmodelled : state.model.getD index none = none) :
    ∃ next, state.get setup index = .ok next ∧ next.score = state.score.get index ∧
      Tracks setup config next := by
  have serves := tracks.serves index below
  have agrees := tracks.agrees index below
  rw [unmodelled] at agrees
  obtain ⟨token, begun, returns, works, promised⟩ :=
    World.beginRead_vacant serves (value?_of_unbound agrees)
  obtain ⟨finished, publishes, worksOn, held⟩ :=
    World.publish_promised (works.serves serves) promised (state.running.own.compute index).1
  have reads : state.running.read (computation index) 1 (setup.place index) =
      (.ok (state.running.own.compute index).1,
        ⟨finished, (state.running.own.compute index).2⟩) := by
    unfold Running.read
    rw [returns]
    show Running.settle (computation index) (setup.place index) 1 (.promise token)
      { state.running with world := begun } = _
    unfold Running.settle computation
    dsimp only
    rw [publishes]
  have computed := state.running.own.value_compute index
  have accepted :
      State.compare index (state.model.getD index none)
        ((state.running.own.compute index).2.value (state.running.own.compute index).1) =
        .ok () := by
    rw [unmodelled, computed]
    exact compare_computed (Nat.lt_of_lt_of_le below proper.small) few
  let next : State :=
    { state with
      running := ⟨finished, (state.running.own.compute index).2⟩
      model := state.model.setIfInBounds index
        (some ((state.running.own.compute index).2.value (state.running.own.compute index).1))
      gets := state.gets + 1 }
  refine ⟨next, ?_, ?_, ?_⟩
  · unfold State.get
    rw [reads]
    dsimp only
    rw [accepted]
  · unfold Score.get Score.read
    rw [show state.score.model.getD index none = none from unmodelled]
    rfl
  · have agreesStill : Agrees next.running (setup.place index)
        (some ((state.running.own.compute index).2.value (state.running.own.compute index).1)) :=
      ⟨_, held, Heap.allocated_lt _ _, rfl⟩
    exact tracks.work proper below (works.trans worksOn) (Heap.grows_compute _ _) rfl rfl
      agreesStill

theorem Tracks.get (tracks : Tracks setup config state) (proper : setup.Proper)
    (below : index < setup.definitions.size)
    (few : state.running.own.calls.getD index 0 < 2 ^ 32) :
    ∃ next, state.get setup index = .ok next ∧ next.score = state.score.get index ∧
      Tracks setup config next := by
  cases modelled : state.model.getD index none with
  | some value => exact tracks.get_value proper below modelled
  | none => exact tracks.get_vacant proper below few modelled

theorem Tracks.draw (tracks : Tracks setup config state) (random : Random) :
    Tracks setup config { state with random } :=
  ⟨tracks.serves, tracks.configured, tracks.measured, tracks.keyed, tracks.owned, tracks.sized,
    tracks.agrees, tracks.peak⟩

theorem Tracks.access (tracks : Tracks setup config state) (proper : setup.Proper) (step : Nat)
    (few : state.running.own.computations < 2 ^ 32) :
    ∃ next, state.access setup step = .ok next ∧
      next.score = state.score.access setup.definitions.size step ∧ Tracks setup config next := by
  have below := proper.drawn_lt state.random
  unfold State.access Score.access
  rw [show state.score.random = state.random from rfl]
  generalize state.random.below (UInt64.ofNat setup.definitions.size) = drawn at below ⊢
  obtain ⟨definition, random⟩ := drawn
  dsimp only at below ⊢
  generalize random.below 8 = chosen
  obtain ⟨choice, random⟩ := chosen
  dsimp only
  have drawn := tracks.draw random
  split
  · exact ⟨_, rfl, rfl, drawn.remove proper below⟩
  · split
    · exact ⟨_, rfl, rfl, drawn.put proper below _⟩
    · apply drawn.get proper below
      exact Nat.lt_of_le_of_lt (state.running.own.calls_le_computations _) few

/-! ### Checks -/

theorem boundDefinitions_eq (world : World) (context : ContextKey) :
    (world.context context).boundDefinitions = (world.openStore context).store.size := by
  unfold Context.boundDefinitions World.openStore
  dsimp only
  cases (world.context context).store with
  | none => rfl
  | some store => rfl

theorem expectedBindings_eq (state : State) : state.expectedBindings = state.score.modelled := by
  have counted : ∀ (values : List (Option UInt64)) (count : Nat),
      values.foldl (fun count value => if value.isSome then count + 1 else count) count =
        count + values.countP Option.isSome := by
    intro values
    induction values with
    | nil => exact fun count => rfl
    | cons head tail inductionHypothesis =>
        intro count
        rw [List.foldl_cons, inductionHypothesis, List.countP_cons]
        cases head with
        | none => rfl
        | some value =>
            show count + 1 + tail.countP Option.isSome = count + (tail.countP Option.isSome + 1)
            omega
  unfold State.expectedBindings
  rw [← Array.foldl_toList, counted, Nat.zero_add]
  rfl

theorem isSome_binding?_of_value? {world : World} {place : Place} {allocation : Allocation}
    (held : world.value? place = some allocation) : (world.binding? place).isSome = true := by
  obtain ⟨entry, bound, -⟩ := Option.bind_eq_some_iff.mp held
  exact Option.isSome_of_eq_some bound

theorem Agrees.isSome_binding? {running : Running Heap} {place : Place} {value : Option UInt64}
    (agrees : Agrees running place value) :
    (running.world.binding? place).isSome = value.isSome := by
  cases value with
  | none =>
      rw [show running.world.binding? place = none from agrees]
      rfl
  | some value =>
      obtain ⟨allocation, held, -⟩ := agrees
      exact isSome_binding?_of_value? held

/-- As many definitions are bound as the model has values for. -/
theorem Tracks.bindings (tracks : Tracks setup config state) (proper : setup.Proper) :
    (state.running.world.context setup.context).boundDefinitions = state.score.modelled := by
  let bound := fun key =>
    ((state.running.world.openStore setup.context).store.binding? key).isSome
  have owned : ∀ key entry,
      (state.running.world.openStore setup.context).store.binding? key = some entry →
        key ∈ setup.definitions.toList :=
    fun key entry found => Array.mem_toList_iff.mpr (tracks.owned key entry found)
  have same : setup.definitions.toList.map bound = state.model.toList.map Option.isSome := by
    apply List.ext_getElem
    · rw [List.length_map, List.length_map, Array.length_toList, Array.length_toList, tracks.sized]
    · intro index inPool inModel
      have below : index < setup.definitions.size := by simpa using inPool
      have belowModel : index < state.model.size := by rwa [tracks.sized]
      have agrees := (tracks.agrees index below).isSome_binding?
      rw [Setup.place_of_lt below, Array.getD_eq_getD_getElem?,
        Array.getElem?_eq_getElem belowModel] at agrees
      rw [List.getElem_map, List.getElem_map]
      exact agrees
  calc (state.running.world.context setup.context).boundDefinitions
      = (state.running.world.openStore setup.context).store.size := boundDefinitions_eq _ _
    _ = setup.definitions.toList.countP bound :=
        tracks.keyed.size_eq_countP proper.distinct owned
    _ = (setup.definitions.toList.map bound).countP id := by rw [List.countP_map, Function.id_comp]
    _ = (state.model.toList.map Option.isSome).countP id := by rw [same]
    _ = state.score.modelled := by rw [List.countP_map, Function.id_comp]; rfl

theorem Tracks.sound (tracks : Tracks setup config state) (proper : setup.Proper) :
    (state.running.world.openStore setup.context).Sound :=
  (tracks.serves 0 proper.nonempty).sound

/-- No check fails. -/
theorem Tracks.inspect (tracks : Tracks setup config state) (proper : setup.Proper) :
    ∃ next, state.inspect setup = .ok next ∧ next.score = state.score ∧
      Tracks setup config next := by
  have audited := World.audit_snapshot_of_sound (tracks.sound proper) tracks.measured
  have counted := (tracks.bindings proper).trans (expectedBindings_eq state).symm
  have within : (state.running.world.snapshot setup.context).load ≤
      (state.running.world.snapshot setup.context).capacity :=
    World.load_snapshot_le tracks.measured
  let next : State :=
    { state with
      peakLoad := max state.peakLoad (state.running.world.snapshot setup.context).load }
  refine ⟨next, ?_, rfl, ?_⟩
  · unfold State.inspect
    dsimp only
    rw [audited]
    dsimp only
    rw [if_neg (not_not_intro counted)]
  · exact ⟨tracks.serves, tracks.configured, tracks.measured, tracks.keyed, tracks.owned,
      tracks.sized, tracks.agrees, Nat.max_le.mpr ⟨tracks.peak, within⟩⟩

/-! ### Steps -/

theorem Tracks.advance (tracks : Tracks setup config state) (proper : setup.Proper) (step : Nat)
    (few : state.running.own.computations < 2 ^ 32) :
    ∃ next, state.advance setup step = .ok next ∧
      next.score = state.score.access setup.definitions.size step ∧ Tracks setup config next := by
  obtain ⟨accessed, accesses, follows, tracked⟩ := tracks.access proper step few
  obtain ⟨next, inspects, same, tracksNext⟩ := tracked.inspect proper
  refine ⟨next, ?_, same.trans follows, tracksNext⟩
  unfold State.advance
  rw [accesses]
  exact inspects

/-- All steps of a churn succeed, and its cache follows the course. -/
theorem Tracks.runSteps (tracks : Tracks setup config state) (proper : setup.Proper)
    {remaining step : Nat} (tallied : state.score.Tallied setup.definitions.size step)
    (brief : step + remaining ≤ 2 ^ 32) :
    ∃ final, state.runSteps setup remaining step = .ok final ∧
      final.score = state.score.run setup.definitions.size remaining step ∧
      Tracks setup config final := by
  induction remaining generalizing state step with
  | zero => exact ⟨state, rfl, rfl, tracks⟩
  | succ remaining inductionHypothesis =>
      have few : state.running.own.computations < 2 ^ 32 := by
        have computed : state.running.own.computations ≤ state.gets := tallied.computed
        have counted : state.gets + state.removes + state.puts = step := tallied.tallied
        omega
      obtain ⟨next, advances, follows, tracksNext⟩ := tracks.advance proper step few
      have talliedNext : next.score.Tallied setup.definitions.size (step + 1) := by
        rw [follows]
        exact tallied.access
      obtain ⟨final, runs, followsOn, tracksFinal⟩ :=
        inductionHypothesis tracksNext talliedNext (by omega)
      refine ⟨final, ?_, ?_, tracksFinal⟩
      · rw [State.runSteps, advances]
        exact runs
      · rw [followsOn, follows, Score.run_succ]

end ContextCache.Trial.Churn
