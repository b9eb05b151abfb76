import ContextCache.Proofs.Crowd.Nesting
import ContextCache.Proofs.Reader.Routines
import ContextCache.Proofs.Store.Tallies
import ContextCache.Proofs.World.Limits
import Mathlib.Data.List.Perm.Subperm

/-!
Contract: how many bindings of dropped definitions a context may have.

A definition that is being read is not dropped, so a dropped definition is bound to a value or
not at all. What is bound to a value has been put into the table since the last load
reduction, or has been kept by it. As long as every value takes an empty slot, the load reaches
its limit before there are more of them than slots. Dropped definitions beyond that number
have come about in one of the ways that the context's tally lists.

Owns:
- the tallies of all contexts over a run;
- the bound on bindings of dropped definitions, and runs that need each of its terms.

Does not own: how a step is tallied.
-/

set_option autoImplicit false

namespace ContextCache

namespace Store

/-- The bound definitions that have been dropped. -/
def dropped (store : Store) (registry : Registry) : List DefinitionKey :=
  (store.bindings.map Prod.fst).filter fun key => !registry.isAlive key

/-- The bound definitions that exist. -/
def surviving (store : Store) (registry : Registry) : List DefinitionKey :=
  (store.bindings.map Prod.fst).filter fun key => registry.isAlive key

theorem size_eq_surviving_add_dropped (store : Store) (registry : Registry) :
    store.size = (store.surviving registry).length + (store.dropped registry).length := by
  unfold size surviving dropped
  rw [← List.length_map Prod.fst]
  exact List.length_eq_length_filter_add fun key => registry.isAlive key

theorem mem_dropped_iff {store : Store} {registry : Registry} {key : DefinitionKey} :
    key ∈ store.dropped registry ↔
      (store.binding? key).isSome = true ∧ registry.isAlive key = false := by
  unfold dropped
  rw [List.mem_filter, mem_bindings_iff, Bool.not_eq_true']

end Store

/-! ### What a tally allows -/

namespace Tally

variable {tally : Tally} {store : Store} {dropped : List DefinitionKey}

/-- How many of these definitions need no seat of their own: the reduction has kept them, they
have been put into slots in use, or their slots have been freed. -/
def excess (tally : Tally) (dropped : List DefinitionKey) : Nat :=
  let unseated := dropped.filter fun key => key ∉ tally.seated
  (unseated.countP fun key => key ∈ tally.kept) +
    (unseated.countP fun key => key ∈ tally.reused) + tally.freed

/-- Seated definitions are covered by the load, and the other ones are kept or reused. -/
theorem Seats.length_le (seats : tally.Seats store.table.load) (distinct : dropped.Nodup)
    (knows : ∀ key ∈ dropped, tally.Knows key) :
    dropped.length ≤ store.table.load + tally.excess dropped := by
  let seated := dropped.filter fun key => key ∈ tally.seated
  let unseated := dropped.filter fun key => key ∉ tally.seated
  have covered := seats.covered
  have seatedFew : seated.length ≤ tally.seated.length := by
    have inside : seated ⊆ tally.seated := fun key member => by
      simpa using (List.mem_filter.mp member).2
    exact (List.Nodup.subperm (distinct.filter _) inside).length_le
  have apart : dropped.length = seated.length + unseated.length := by
    simpa [seated, unseated] using
      List.length_eq_length_filter_add (l := dropped) fun key => key ∈ tally.seated
  have either : unseated.length ≤ (unseated.countP fun key => key ∈ tally.kept) +
      (unseated.countP fun key => key ∈ tally.reused) := by
    rw [List.length_eq_countP_add_countP fun key => key ∈ tally.kept]
    refine Nat.add_le_add_left (List.countP_mono_left fun key member => ?_) _
    have known := knows key (List.mem_filter.mp member).1
    have unseatedKey : key ∉ tally.seated := by simpa using (List.mem_filter.mp member).2
    rcases known with kept | seatedKey | reused
    · simp [kept]
    · exact absurd seatedKey unseatedKey
    · simp [reused]
  show dropped.length ≤ store.table.load + ((unseated.countP fun key => key ∈ tally.kept) +
    (unseated.countP fun key => key ∈ tally.reused) + tally.freed)
  omega

end Tally

namespace World

variable {world after : World} {event : Event} {tallies : ContextKey → Tally}

/-- The tallies of all contexts after an event. -/
def tallied (world : World) (tallies : ContextKey → Tally) : Event → ContextKey → Tally
  | .operated place operation _, context =>
    if context = place.context then
      let opened := world.openStore context
      opened.tally place.definition (opened.operate place.definition operation) (tallies context)
    else tallies context
  | .passed, context => tallies context

/-- A world that has come about, with the tallies of its contexts. -/
inductive Tallied : World → (ContextKey → Tally) → Prop where
  | initial : Tallied World.initial fun _ => .fresh
  | next {before after : World} {event : Event} {tallies : ContextKey → Tally}
      (earlier : Tallied before tallies) (step : Step before event after) :
      Tallied after (before.tallied tallies event)

theorem Tallied.reachable (tallied : Tallied world tallies) : Reachable world := by
  induction tallied with
  | initial => exact .initial
  | next _ step inductionHypothesis => exact inductionHypothesis.next step

theorem Reachable.exists_tallied (reachable : Reachable world) :
    ∃ tallies, Tallied world tallies := by
  induction reachable with
  | initial => exact ⟨_, .initial⟩
  | next _ step inductionHypothesis =>
      obtain ⟨tallies, tallied⟩ := inductionHypothesis
      exact ⟨_, tallied.next step⟩

/-- A context that has not been added is a fresh one. -/
theorem openStore_of_size_le {context : ContextKey} (new : world.contexts.size ≤ context) :
    world.openStore context = ⟨world.shared, Store.create Config.standard⟩ := by
  unfold openStore World.context
  rw [Array.getD_eq_getD_getElem?, Array.getElem?_eq_none new]
  rfl

theorem Tallied.covers (tallied : Tallied world tallies) (context : ContextKey) :
    (tallies context).Covers (world.openStore context).store := by
  induction tallied with
  | initial => exact Tally.covers_create _
  | @next before after event tallies earlier step inductionHypothesis =>
      have reachable := earlier.reachable
      have elsewhere : after.contexts = before.contexts →
          (tallies context).Covers (after.openStore context).store := by
        intro contexts
        unfold openStore World.context at inductionHypothesis ⊢
        rwa [contexts]
      cases step with
      | @operated place operation usable =>
          unfold World.tallied
          dsimp only
          by_cases same : context = place.context
          · subst same
            rw [if_pos rfl, openStore_operate usable]
            exact OpenStore.covers_operate inductionHypothesis (reachable.sound place.context)
              (reachable.measured.store place.context) usable.alive operation
          · rw [if_neg same, store_operate_ne same]
            exact inductionHypothesis
      | contextAdded accepted =>
          rcases openStore_addContext accepted context with same | ⟨fresh, new⟩
          · rw [same]
            exact inductionHypothesis
          · have seats := inductionHypothesis.seats
            rw [openStore_of_size_le new] at seats
            rw [fresh]
            exact ⟨fun _ _ bound => (by cases bound), seats⟩
      | defined => exact elsewhere (contexts_withRegistry _ _)
      | dropped key => exact elsewhere rfl
      | held key => exact elsewhere rfl
      | released key => exact elsewhere rfl
      | counted counter => exact elsewhere rfl

theorem Reachable.keyed (reachable : Reachable world) :
    ∀ context, (world.openStore context).store.Keyed := by
  induction reachable with
  | initial => exact fun _ => Store.keyed_create _
  | @next event before after reachable step inductionHypothesis =>
      have shares : ∀ {opened later : OpenStore}, opened.store.Keyed → opened.Sound →
          later.store = opened.store → opened.registry.Leads later.registry →
          later.store.Keyed := by
        intro opened later keyed _ same _
        rwa [same]
      refine reachable.sound.step_every step shares (fun _ _ => Store.keyed_create _) ?_
        inductionHypothesis
      intro place operation _ _ usable
      exact (edited_operate usable operation place.context).keyed
        (inductionHypothesis place.context)

theorem boundDefinitions_eq (world : World) (context : ContextKey) :
    (world.context context).boundDefinitions = (world.openStore context).store.size := by
  unfold Context.boundDefinitions openStore
  dsimp only
  cases (world.context context).store with
  | some store => rfl
  | none => rfl

end World

/-! ### One client -/

namespace Crowd

/-- What a single client does, one thing after the other. A read computes a value. -/
inductive Deed where
  | errand (chosen : Errand)
  | read (place : Place)

/-- Reads a place, whose computation returns at once. -/
def reading (place : Place) : Task :=
  .get place 1 (fun _ => .finish (.ok ⟨place.definition⟩)) .finish

/-- What the deed needs is there. -/
def Deed.possible (world : World) : Deed → Bool
  | .errand (.remove place) => world.Usable place
  | .errand (.put place _) => world.Usable place
  | .errand _ => true
  | .read place => world.Usable place

def Deed.run (world : World) : Deed → World
  | .errand chosen => (chosen.run world).2
  | .read place => ((reading place).run Running.machine ⟨world, []⟩).2.world

/-- The world in which the deeds have been done, if all of them were possible. -/
def perform (world : World) : List Deed → Option World
  | [] => some world
  | deed :: rest => if deed.possible world then perform (deed.run world) rest else none

/-- Nobody is reading. -/
def quiet (world : World) : Crowd :=
  { world, stage := fun _ => .idle }

theorem Reachable.errand {world : World} (reachable : Reachable (quiet world)) (chosen : Errand)
    (possible : (Deed.errand chosen).possible world = true) :
    Reachable (quiet (chosen.run world).2) := by
  have passes : ∀ {after : World}, World.Step world .passed after → Reachable (quiet after) :=
    fun step => reachable.next (.other step rfl fun _ _ reads => by cases reads)
  cases chosen with
  | remove place =>
      obtain ⟨_, run⟩ := (reachable.sound.unfolds_remove (of_decide_eq_true possible)).run
      exact reachable.run run
  | put place allocation =>
      have usable : (quiet world).world.Usable place := of_decide_eq_true possible
      obtain ⟨_, run⟩ := (reachable.sound.unfolds_operate usable (.change allocation) rfl).run
      exact reachable.run run
  | define => exact passes .defined
  | drop key => exact passes (.dropped key)
  | hold key => exact passes (.held key)
  | release key => exact passes (.released key)
  | addContext config =>
      unfold Errand.run
      dsimp only
      cases accepted : world.addContext config with
      | error error => exact reachable
      | ok added => exact passes (.contextAdded accepted)

theorem Reachable.deed {world : World} (reachable : Reachable (quiet world)) (deed : Deed)
    (possible : deed.possible world = true) : Reachable (quiet (deed.run world)) := by
  cases deed with
  | errand chosen => exact reachable.errand chosen possible
  | read place =>
      have within : (reading place).Within world.Usable :=
        ⟨of_decide_eq_true possible, fun _ => trivial, fun _ => trivial⟩
      exact reachable.run_task (reading place) within []

/-- A client that does what is possible never leaves anything under way. -/
theorem Reachable.perform {world after : World} {deeds : List Deed}
    (reachable : Reachable (quiet world)) (performed : perform world deeds = some after) :
    Reachable (quiet after) := by
  induction deeds generalizing world with
  | nil =>
      cases performed
      exact reachable
  | cons deed rest inductionHypothesis =>
      unfold Crowd.perform at performed
      split at performed
      · next possible => exact inductionHypothesis (reachable.deed deed possible) performed
      · cases performed

/-- Definitions with their homes, over and over, in the slots 0, 3, 2 and 1, and a table of four
slots that never grows. -/
def fourSlots (definitions : Nat) : List Deed :=
  List.replicate definitions (.errand .define) ++
    [.errand (.addContext
      { initialEntries := 4, probeLimit := 2, loadPercent := 100, maxEntries := 4 })]

/-- Five definitions with the same home, each of which is dropped before the next one is read. -/
def sharing : List Deed :=
  fourSlots 17 ++ [0, 4, 8, 12, 16].flatMap fun key =>
    [.read ⟨key, 0⟩, .errand (.drop key)]

/-- Five definitions that are all dropped after the last one has been read. -/
def outliving : List Deed :=
  fourSlots 5 ++ [0, 1, 2, 3, 4].map (fun key => .read ⟨key, 0⟩) ++
    [0, 1, 2, 3, 4].map fun key => .errand (.drop key)

/-- Five definitions, the slot of each of which is freed by the removal of another one. -/
def sweeping : List Deed :=
  fourSlots 20 ++ [3, 7, 11, 15, 19].flatMap fun key =>
    [.read ⟨0, 0⟩, .read ⟨key, 0⟩, .errand (.drop key), .errand (.remove ⟨0, 0⟩)]

end Crowd

/-! ### The bound -/

theorem OpenStore.bindings_reduceLoad (opened : OpenStore) :
    opened.reduceLoad.store.bindings =
      opened.store.bindings.filter fun bound => opened.registry.isAlive bound.1 := by
  unfold reduceLoad
  dsimp only
  split
  · rfl
  · unfold grow
    dsimp only
    split <;> rfl

namespace Crowd

variable {crowd : Crowd}

/-- A promise is bound only while its definition is being read, so not once it is gone. -/
theorem Reachable.value_of_dropped (reachable : Reachable crowd) {place : Place} {entry : Entry}
    (bound : crowd.world.binding? place = some entry)
    (gone : crowd.world.registry.isAlive place.definition = false) : entry.isPromise = false := by
  cases entry with
  | promise token =>
      obtain ⟨reader, computes⟩ := reachable.attended place token bound
      have alive := (reachable.sound.usable_computing computes).alive
      exact absurd (alive.symm.trans gone) (by decide)
  | minted => rfl
  | tombstone => rfl

/-- Bindings of dropped definitions are bounded. A load reduction gives up all of them and no
others. In between there are at most as many as the table has slots in use, besides those that
the tally of the context allows: definitions that the last reduction kept, definitions that have
been put into slots in use since, and slots that have been freed. So a context binds no more
than its surviving definitions, the length of its table and these. -/
theorem dropped_definitions_are_bounded (reachable : Reachable crowd) :
    (∃ tallies, World.Tallied crowd.world tallies) ∧
    ∀ tallies, World.Tallied crowd.world tallies → ∀ context,
      let opened := crowd.world.openStore context
      let dropped := opened.store.dropped opened.registry
      let excess := (tallies context).excess dropped
      opened.reduceLoad.store.bindings =
          opened.store.bindings.filter (fun bound => opened.registry.isAlive bound.1) ∧
        dropped.length ≤ opened.store.table.load + excess ∧
        dropped.length ≤ opened.store.table.capacity + excess ∧
        (crowd.world.context context).boundDefinitions ≤
          (opened.store.surviving opened.registry).length + opened.store.table.capacity +
            excess := by
  have world := reachable.sound.reachable
  refine ⟨world.exists_tallied, fun tallies tallied context => ?_⟩
  intro opened dropped excess
  have covers := tallied.covers context
  have knows : ∀ key ∈ dropped, (tallies context).Knows key := by
    intro key member
    obtain ⟨isBound, gone⟩ := Store.mem_dropped_iff.mp member
    obtain ⟨entry, isBound⟩ := Option.isSome_iff_exists.mp isBound
    have bound : crowd.world.binding? ⟨key, context⟩ = some entry := isBound
    exact covers.accounts key entry bound (reachable.value_of_dropped bound gone)
  have keyed : (opened.store.bindings.map Prod.fst).Nodup := world.keyed context
  have distinct : dropped.Nodup := keyed.filter _
  have load := (world.measured.store context).load_le_capacity
  have few := covers.seats.length_le distinct knows
  have fewer : dropped.length ≤ opened.store.table.capacity + excess :=
    Nat.le_trans few (Nat.add_le_add_right load _)
  refine ⟨opened.bindings_reduceLoad, few, fewer, ?_⟩
  rw [World.boundDefinitions_eq, Store.size_eq_surviving_add_dropped _ opened.registry,
    Nat.add_assoc]
  exact Nat.add_le_add_left fewer _

/-- How many slots the first context has, and how many of its bindings are of dropped
definitions. -/
def slotsAndDropped (world : World) : Nat × Nat :=
  let opened := world.openStore 0
  (opened.store.table.capacity, (opened.store.dropped opened.registry).length)

/-- The deeds are possible, and lead to four slots and five bindings of dropped definitions. -/
def Exceeds (deeds : List Deed) : Prop :=
  ∃ world, perform World.initial deeds = some world ∧ Reachable (quiet world) ∧
    slotsAndDropped world = (4, 5)

theorem exceeds_of_slotsAndDropped {deeds : List Deed}
    (numbers : (perform World.initial deeds).map slotsAndDropped = some (4, 5)) :
    Exceeds deeds := by
  obtain ⟨world, performed, numbers⟩ := Option.map_eq_some_iff.mp numbers
  have start : Reachable (quiet World.initial) := .initial
  exact ⟨world, performed, start.perform performed, numbers⟩

/-- Bindings of dropped definitions may outnumber the slots, in each of the ways that a tally
lists. -/
theorem dropped_definitions_exceed_slots :
    Exceeds sharing ∧ Exceeds outliving ∧ Exceeds sweeping :=
  ⟨exceeds_of_slotsAndDropped (by decide +kernel), exceeds_of_slotsAndDropped (by decide +kernel),
    exceeds_of_slotsAndDropped (by decide +kernel)⟩

/-- Where definitions have shared a slot, the tally allows for what exceeds the slots. -/
theorem dropped_definitions_are_bounded_sharing :
    ∃ world tallies, perform World.initial sharing = some world ∧
      World.Tallied world tallies ∧
      5 ≤ 4 + (tallies 0).excess ((world.openStore 0).store.dropped world.registry) := by
  obtain ⟨world, performed, reachable, numbers⟩ : Exceeds sharing :=
    exceeds_of_slotsAndDropped (by decide +kernel)
  obtain ⟨capacity, dropped⟩ := Prod.mk.inj numbers
  obtain ⟨⟨tallies, tallied⟩, bounded⟩ := dropped_definitions_are_bounded reachable
  obtain ⟨-, -, few, -⟩ := bounded tallies tallied 0
  refine ⟨world, tallies, performed, tallied, ?_⟩
  calc 5
    _ = ((world.openStore 0).store.dropped world.registry).length := dropped.symm
    _ ≤ (world.openStore 0).store.table.capacity + _ := few
    _ = 4 + _ := congrArg (fun slots => slots + _) capacity

end Crowd

end ContextCache
