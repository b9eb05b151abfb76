import ContextCache.Proofs.Reader.Beside
import ContextCache.Proofs.Reader.Routines
import ContextCache.Proofs.World.Removal

/-!
Contract: a read that fails is what its computation has done, and nothing more.

While a computation runs, its promise lies in the store that the computation works on: other
reads sweep and grow the table around it, give up bindings next to it, and end the
generation that it is for. Still the computation cannot tell that it runs under a promise,
and taking that promise back leaves the world that the computation alone would have left.

Owns:
- that a routine runs the same with a read under way;
- the beginning and the failing end of that read;
- failed reads as a whole.

Does not own: reads that end with a value.
-/

set_option autoImplicit false

namespace ContextCache

/-! ### Routines under a promise -/

section

variable {ρ : Type} {discount : Discount} {place worked : Place} {token : Token}
  {computation : Computation (Progress ρ)} {nested alone : Running (Progress ρ)}

/-- The runs have gone through the same, except that `nested` has a read of the place under
way, which has computed once more. -/
structure Alongside (discount : Discount) (place : Place) (token : Token)
    (nested alone : Running (Progress ρ)) : Prop where
  worlds : World.Beside discount place token nested.world alone.world
  own : nested.own = alone.own.call place.definition

/-- Both computations have ended the same way, alongside each other. -/
structure Ends (discount : Discount) (place : Place) (token : Token)
    (nested alone : Except Failure Allocation × Running (Progress ρ)) : Prop where
  returned : nested.1 = alone.1
  alongside : Alongside discount place token nested.2 alone.2

/-- What goes on after both ends goes on with the same result. -/
@[elab_as_elim]
theorem Ends.elim {first second : Except Failure Allocation × Running (Progress ρ)}
    {motive : Except Failure Allocation × Running (Progress ρ) →
      Except Failure Allocation × Running (Progress ρ) → Prop}
    (ends : Ends discount place token first second)
    (step : ∀ result nested alone, Alongside discount place token nested alone →
      motive (result, nested) (result, alone)) : motive first second := by
  obtain ⟨result, nested⟩ := first
  obtain ⟨other, alone⟩ := second
  obtain ⟨rfl, alongside⟩ := ends
  exact step result nested alone alongside

/-- The computation does the same with the read under way. -/
def Follows (discount : Discount) (place : Place) (token : Token)
    (computation : Computation (Progress ρ)) : Prop :=
  ∀ nested alone, Alongside discount place token nested alone →
    Ends discount place token (computation nested) (computation alone)

theorem Progress.call_comm (progress : Progress ρ) (key other : DefinitionKey) :
    (progress.call key).call other = (progress.call other).call key := by
  unfold call
  rw [Progress.mk.injEq]
  refine ⟨funext fun seen => ?_, rfl⟩
  dsimp only
  split <;> split <;> rfl

theorem Alongside.call (alongside : Alongside discount place token nested alone)
    (key : DefinitionKey) :
    Alongside discount place token { nested with own := nested.own.call key }
      { alone with own := alone.own.call key } where
  worlds := alongside.worlds
  own := by
    dsimp only
    rw [alongside.own, Progress.call_comm]

theorem Alongside.fail (alongside : Alongside discount place token nested alone)
    (differs : worked ≠ place) (promise : Entry) (failure : Failure) :
    Ends discount place token (nested.fail worked promise failure)
      (alone.fail worked promise failure) :=
  ⟨rfl, alongside.worlds.retract differs promise, alongside.own⟩

theorem Follows.settle (follows : Follows discount place token computation)
    (differs : worked ≠ place) (attempts : Nat) :
    ∀ promise, Follows discount place token
      (Running.settle computation worked attempts promise) := by
  induction attempts with
  | zero => exact fun promise _ _ alongside => alongside.fail differs promise .abandoned
  | succ attempts inductionHypothesis =>
      intro promise nested alone alongside
      unfold Running.settle
      refine (follows nested alone alongside).elim fun result nested alone alongside => ?_
      cases result with
      | error failure => exact alongside.fail differs promise failure
      | ok allocation =>
          dsimp only
          refine (alongside.worlds.publish differs promise allocation).elim
            fun step world worldAlone beside => ?_
          cases step with
          | answered answer => exact ⟨rfl, beside, alongside.own⟩
          | compute next => exact inductionHypothesis next _ _ ⟨beside, alongside.own⟩

/-- A read of another place does the same. -/
theorem Follows.read (follows : Follows discount place token computation)
    (differs : worked ≠ place) (attempts : Nat) :
    Follows discount place token (Running.read computation attempts worked) := by
  intro nested alone alongside
  unfold Running.read
  refine (alongside.worlds.beginRead differs).elim fun step world worldAlone beside => ?_
  cases step with
  | answered answer => exact ⟨rfl, beside, alongside.own⟩
  | compute promise => exact follows.settle differs attempts promise _ _ ⟨beside, alongside.own⟩

theorem World.Beside.errand {nested alone : World}
    (beside : Beside discount place token nested alone) {chosen : Errand}
    (avoids : chosen.Avoids place) :
    Agree discount place token (chosen.run nested) (chosen.run alone) := by
  cases chosen with
  | remove worked => exact ⟨rfl, beside.remove avoids⟩
  | put worked allocation => exact ⟨rfl, beside.put avoids allocation⟩
  | define =>
      have known := Registry.lt_size_of_isAlive beside.alive
      have defined := beside.withRegistry Registry.define
        ((Registry.isAlive_define known).trans beside.alive)
      exact ⟨congrArg some defined.returned, defined.beside⟩
  | drop key =>
      have spared : (nested.registry.drop key).isAlive place.definition = true := by
        rw [Registry.isAlive_drop, beside.alive]
        simpa using Ne.symm avoids
      exact beside.withRegistry (fun registry => (none, registry.drop key)) spared
  | hold key => exact beside.withRegistry (fun registry => (none, registry.hold key)) beside.alive
  | release key =>
      exact beside.withRegistry (fun registry => (none, registry.release key)) beside.alive
  | addContext config =>
      unfold Errand.run World.addContext
      dsimp only
      cases config.validate with
      | error error => exact ⟨rfl, beside⟩
      | ok => exact ⟨congrArg some beside.size, beside.push _⟩

theorem Alongside.own_own (alongside : Alongside discount place token nested alone) :
    nested.own.own = alone.own.own := by
  rw [alongside.own]
  rfl

/-- So does the computation of any definition. -/
theorem Follows.compute {body : ρ → Routine ρ}
    (follows : ∀ own, Follows discount place token (body own).run) (key : DefinitionKey) :
    Follows discount place token fun begun => (body begun.own.own).compute key begun := by
  intro nested alone alongside
  dsimp only
  rw [alongside.own_own]
  exact follows _ _ _ (alongside.call key)

/-- A routine that leaves the place alone does not notice the read under way. -/
theorem Routine.follows (routine : Routine ρ) (avoids : routine.Avoids place) :
    Follows discount place token routine.run := by
  induction routine with
  | finish result => exact fun _ _ alongside => ⟨rfl, alongside⟩
  | note change next inductionHypothesis =>
      intro nested alone alongside
      unfold run
      apply inductionHypothesis avoids
      refine ⟨alongside.worlds, ?_⟩
      rw [alongside.own]
      rfl
  | errand chosen next inductionHypothesis =>
      obtain ⟨avoidsChosen, avoidsNext⟩ := avoids
      intro nested alone alongside
      unfold run
      refine (alongside.worlds.errand avoidsChosen).elim fun created world worldAlone beside => ?_
      dsimp only
      rw [alongside.own_own]
      exact inductionHypothesis _ _ (avoidsNext _ _) _ _ ⟨beside, alongside.own⟩
  | get worked attempts body next followsBody followsNext =>
      obtain ⟨differs, avoidsBody, avoidsNext⟩ := avoids
      have follows := Follows.compute (fun own => followsBody own (avoidsBody own)) worked.definition
      intro nested alone alongside
      rw [run_get, run_get]
      refine (follows.read differs attempts nested alone alongside).elim
        fun result nested alone alongside => ?_
      dsimp only
      rw [alongside.own_own]
      exact followsNext _ _ (avoidsNext _ _) _ _ alongside

end

/-! ### The beginning and the end of the read -/

namespace World

variable {world nested alone : World} {place : Place} {token : Token}

/-- The world after a read of an unbound place has begun to compute. -/
def underway (world : World) (place : Place) : World :=
  let missed := world.count .mapLookups
  let promise := Entry.promise (world.registry.current place.definition)
  (missed.closeStore place.context
    ((missed.openStore place.context).bind place.definition promise)).count .computations

theorem beginRead_unbound (serves : world.Serves place) (unbound : world.binding? place = none) :
    world.beginRead place =
      (.compute (.promise (world.registry.current place.definition)), world.underway place) := by
  have starts : ((world.count .mapLookups).openStore place.context).start place.definition =
      (.promise (world.registry.current place.definition), _) :=
    OpenStore.start_unbound unbound
  unfold beginRead
  rw [lookup_vacant serves (OpenStore.value?_of_unbound unbound)]
  dsimp only
  unfold startEntry withStore
  dsimp only
  rw [starts]
  rfl

theorem store_underway (listed : place.context < world.contexts.size) :
    ((world.underway place).openStore place.context).store =
      (world.openStore place.context).store.bind place.definition
        (.promise (world.registry.current place.definition)) := by
  have listedMissed : place.context < (world.count .mapLookups).contexts.size := listed
  exact congrArg OpenStore.store (openStore_closeStore_self listedMissed _)

/-- Nothing but the read itself tells the worlds before and after its beginning apart. -/
theorem beside_underway (serves : world.Serves place) (unbound : world.binding? place = none) :
    Beside Discount.ofRead place (world.registry.current place.definition)
      (world.underway place) world where
  shared := (Shared.discounted_ofRead world.shared).symm
  size := (size_closeStore (world.count .mapLookups) place.context _).symm
  listed := by
    refine serves.usable.listed.trans_eq ?_
    exact (size_closeStore (world.count .mapLookups) place.context _).symm
  alive := serves.usable.alive
  elsewhere := fun other differs => (context_closeStore_ne differs _).symm
  config := (config_closeStore (world.count .mapLookups) place.context place.context _).symm
  created := by
    have listed : place.context < (world.count .mapLookups).contexts.size := serves.usable.listed
    exact congrArg (fun seen => seen.store.isSome) (context_closeStore_self listed _)
  store := by
    rw [store_underway serves.usable.listed, Store.unbind_bind unbound]
  promised := by
    unfold binding?
    rw [store_underway serves.usable.listed, Store.binding?_bind, if_pos rfl]

/-- Taking the promise back leaves the world where the read has never begun, with the read's
events counted and its context's store created. -/
theorem Beside.retract_own (beside : Beside Discount.ofRead place token nested alone) :
    nested.retract place (.promise token) =
      (((alone.opened place.context).count .mapLookups).count .computations).count
        .computeFailures := by
  have bound : ((nested.count .computeFailures).openStore place.context).store.binding?
      place.definition = some (.promise token) := beside.promised
  have retracts : nested.retract place (.promise token) =
      (nested.count .computeFailures).closeStore place.context
        (((nested.count .computeFailures).openStore place.context).unbind place.definition) :=
    congrArg (fun finished : Option Entry × OpenStore =>
      (nested.count .computeFailures).closeStore place.context finished.2)
      (OpenStore.finish_bound bound)
  rw [retracts]
  have listed : place.context < (nested.count .computeFailures).contexts.size := beside.listed
  have listedAlone : place.context < alone.contexts.size := beside.size ▸ beside.listed
  apply ext_context
  · show nested.shared.count .computeFailures 1 =
      ((alone.shared.count .mapLookups 1).count .computations 1).count .computeFailures 1
    rw [beside.shared, Shared.count_discounted]
  · refine (size_closeStore _ _ _).trans (beside.size.symm.trans ?_)
    exact (size_closeStore alone place.context _).symm
  · intro other
    show _ = (alone.opened place.context).context other
    unfold opened
    by_cases same : other = place.context
    · subst same
      rw [context_closeStore_self listed, context_closeStore_self listedAlone, beside.store,
        Context.mk.injEq]
      exact ⟨beside.config.symm, rfl⟩
    · rw [context_closeStore_ne same, context_closeStore_ne same]
      exact (beside.elsewhere other same).symm

end World

/-! ### The whole read -/

section

variable {ρ : Type} {world : World} {place : Place} {routine : Routine ρ} {progress : Progress ρ}
  {failure : Failure}

/-- A read whose first computation fails takes its promise back and passes the failure on. -/
theorem Running.read_failed {computation : Computation ρ} {running : Running ρ} {promise : Entry}
    {begun : World} (begins : running.world.beginRead place = (.compute promise, begun))
    (fails : (computation { running with world := begun }).1 = .error failure) (attempts : Nat) :
    Running.read computation (attempts + 1) place running =
      (computation { running with world := begun }).2.fail place promise failure := by
  unfold Running.read
  rw [begins]
  dsimp only
  unfold Running.settle
  generalize computation { running with world := begun } = ended at fails ⊢
  obtain ⟨result, computed⟩ := ended
  dsimp only at fails
  rw [fails]

/-- A failed read of an unbound definition is what its computation has done, and nothing
more. It leaves the state that the computation alone leaves, except that the definition has
computed once more, that the lookup, the computation and its failure are counted, and that
the context has a store: an empty one, if the computation has not created any. The failure is
passed on unchanged. -/
theorem failed_reads_are_their_steps (reachable : World.Reachable world)
    (usable : world.Usable place) (unbound : world.binding? place = none)
    (avoids : routine.Avoids place) (fails : (routine.run ⟨world, progress⟩).1 = .error failure)
    (attempts : Nat) :
    let alone := (routine.run ⟨world, progress⟩).2
    Running.read (routine.compute place.definition) (attempts + 1) place ⟨world, progress⟩ =
        (.error failure,
          { world := (((alone.world.opened place.context).count .mapLookups).count
              .computations).count .computeFailures
            own := alone.own.call place.definition }) ∧
      (∀ context, (alone.world.opened place.context).openStore context =
        alone.world.openStore context) ∧
      ∀ context, context ≠ place.context ∨ (alone.world.store? context).isSome = true →
        (alone.world.opened place.context).context context = alone.world.context context := by
  refine ⟨?_, World.openStore_opened _ _, fun _ => World.context_opened⟩
  have serves := reachable.serves usable
  have ends : Ends Discount.ofRead place (world.registry.current place.definition)
      (routine.run ⟨world.underway place, progress.call place.definition⟩)
      (routine.run ⟨world, progress⟩) :=
    routine.follows avoids _ _ ⟨World.beside_underway serves unbound, rfl⟩
  have begins := World.beginRead_unbound serves unbound
  rw [Running.read_failed begins (ends.returned.trans fails) attempts]
  unfold Running.fail Routine.compute
  dsimp only
  rw [ends.alongside.worlds.retract_own, ends.alongside.own]

end

/-- Computes the other definition again, and then halts. -/
def halting : Routine Unit :=
  .errand (.remove ⟨1, 0⟩) fun _ _ =>
    .get ⟨1, 0⟩ 1 (fun _ => .finish (.ok ⟨9⟩)) fun _ _ => .finish (.error (.panic "halted"))

/-- In the small world with two definitions, where the first one has been removed: a read of
it that halts leaves the second one with the value that it has read on the way. -/
theorem failed_reads_are_their_steps_small :
    let start : Running (Progress Unit) :=
      ⟨(World.smallPair.operate ⟨0, 0⟩ .remove).2, ⟨fun _ => 0, ()⟩⟩
    let (result, reached) := Running.read (halting.compute 0) 1 ⟨0, 0⟩ start
    result = .error (.panic "halted") ∧ reached.world.value? ⟨1, 0⟩ = some ⟨9⟩ ∧
      reached.world.binding? ⟨0, 0⟩ = none ∧ reached.world.registry.generation 1 = 1 ∧
      reached.own.calls 0 = 1 ∧ reached.own.calls 1 = 1 := by
  have removable : World.smallPair.Usable ⟨0, 0⟩ := ⟨by decide, by decide⟩
  have usable : (World.smallPair.operate ⟨0, 0⟩ .remove).2.Usable ⟨0, 0⟩ :=
    ⟨by decide, by decide⟩
  have elsewhere : (⟨1, 0⟩ : Place) ≠ ⟨0, 0⟩ := by decide
  have avoids : halting.Avoids ⟨0, 0⟩ :=
    ⟨elsewhere, fun _ _ => ⟨elsewhere, fun _ => trivial, fun _ _ => trivial⟩⟩
  have ends := failed_reads_are_their_steps
    (World.reachable_smallPair.operate removable .remove) usable rfl avoids
    (show (halting.run ⟨_, ⟨fun _ => 0, ()⟩⟩).1 = .error (.panic "halted") from rfl) 0
  dsimp only at ends ⊢
  rw [ends.1]
  exact ⟨rfl, by decide, by decide, by decide, by decide, by decide⟩

end ContextCache
