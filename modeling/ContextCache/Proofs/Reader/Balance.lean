import ContextCache.Proofs.Reader.Homecoming
import ContextCache.Proofs.Reader.Ledgers
import ContextCache.Proofs.Store.Counters

/-!
Contract: the counters of a program balance, and so do its generations.

Every call moves a few counters and enters a few items into the ledger, and each time these
fit together: a read has hit its table or gone on to its store, a hit behind the home slot has
been moved, and a computation that has begun fails, is thrown away, is accepted or is under
way. Reads nest, so the sums are those of a run with some number of computations under way,
and a computation gives back what it was given.

Owns:
- what each piece of a read, a removal and a put counts;
- the sums as an invariant of reads and routines;
- that they balance when no computation is under way.

Does not own: how housekeeping counts.
-/

set_option autoImplicit false

namespace ContextCache

/-- What a lookup finds behind the home slot is moved. -/
theorem OpenStore.promote_of_probeBackup {opened : OpenStore} {key : DefinitionKey}
    {answer : Nat × Allocation}
    (answered : opened.store.table.probeBackup opened.store.config.probeLimit
      (opened.registry.hash key) (opened.registry.current key) = some answer) :
    (opened.promote key opened.store.table.capacity).1 = true := by
  obtain ⟨occupied, found, first⟩ := find?_of_probeBackup answered
  obtain ⟨oldHome, atHome⟩ := Option.isSome_iff_exists.mp occupied
  unfold promote
  rw [if_pos rfl]
  unfold Table.promote
  dsimp only
  rw [atHome, first]

namespace World

variable {world before middle after : World} {place : Place} {opened : OpenStore}

/-! ### What is counted -/

/-- Of reads, computations and invalidations exactly these events have been counted. -/
def Counts (before after : World) (counters : List Counter) : Prop :=
  ∀ counter, counter.isBalanced = true →
    after.metrics.get counter =
      before.metrics.get counter + UInt64.ofNat (counters.count counter)

/-- These events have been counted, and no generation has ended. -/
structure Passes (before after : World) (counters : List Counter) : Prop where
  counts : Counts before after counters
  registry : after.registry = before.registry

theorem counts_of_eq
    (same : ∀ counter, counter.isBalanced = true →
      after.metrics.get counter = before.metrics.get counter) : Counts before after [] := by
  intro counter balanced
  rw [same counter balanced]
  exact (UInt64.add_zero _).symm

theorem passes_rest (world : World) : Passes world world [] :=
  ⟨counts_of_eq fun _ _ => rfl, rfl⟩

theorem passes_count (world : World) (counter : Counter) :
    Passes world (world.count counter) [counter] := by
  refine ⟨?_, rfl⟩
  intro other _
  show (world.shared.metrics.add counter (UInt64.ofNat 1)).get other =
    world.shared.metrics.get other + _
  rw [Metrics.get_add]
  split
  · next same => simp [same]
  · next differs =>
      rw [List.count_eq_zero_of_not_mem (by simpa using differs)]
      exact (UInt64.add_zero _).symm

theorem Counts.trans {earlier later : List Counter} (first : Counts before middle earlier)
    (second : Counts middle after later) : Counts before after (earlier ++ later) := by
  intro counter balanced
  rw [second counter balanced, first counter balanced, List.count_append, UInt64.ofNat_add,
    UInt64.add_assoc]

theorem Passes.trans {earlier later : List Counter} (first : Passes before middle earlier)
    (second : Passes middle after later) : Passes before after (earlier ++ later) :=
  ⟨first.counts.trans second.counts, second.registry.trans first.registry⟩

theorem passes_closeStore
    (uncounted : OpenStore.Uncounted (world.openStore place.context) opened)
    (registry : opened.registry = world.registry) :
    Passes world (world.closeStore place.context opened) [] :=
  ⟨counts_of_eq uncounted, registry⟩

/-! ### Pieces of a read -/

/-- A lookup counts what it has found, and a move for everything that it finds behind its home
slot. -/
theorem passes_lookup (world : World) (place : Place) :
    ((world.lookup place).1 = none ∧ Passes world (world.lookup place).2 []) ∨
      ∃ allocation, (world.lookup place).1 = some allocation ∧
        (Passes world (world.lookup place).2 [.homeHits] ∨
          Passes world (world.lookup place).2 [.backupHits, .relocations]) := by
  rw [lookup_eq]
  unfold lookupIn
  dsimp only
  split
  · next allocation answered =>
      exact Or.inr ⟨allocation, rfl, Or.inl (passes_count world .homeHits)⟩
  · split
    · exact Or.inl ⟨rfl, passes_rest world⟩
    · next position allocation answered =>
        refine Or.inr ⟨allocation, rfl, Or.inr ?_⟩
        let counted := world.count .backupHits
        let opened := counted.openStore place.context
        have moved : (opened.promote place.definition opened.store.table.capacity).1 = true :=
          OpenStore.promote_of_probeBackup answered
        have promotes : Passes counted
            (counted.closeStore place.context
              (opened.promote place.definition opened.store.table.capacity).2) [] :=
          passes_closeStore (OpenStore.uncounted_promote opened place.definition _)
            (OpenStore.keeps_promote opened place.definition _).registry
        have relocated := ((passes_count world .backupHits).trans promotes).trans
          (passes_count _ .relocations)
        show Passes world (if (opened.promote place.definition opened.store.table.capacity).1
          then _ else _) _
        rw [if_pos moved]
        exact relocated

theorem passes_start (world : World) (place : Place) :
    Passes world (world.operate place .start).2 [] :=
  passes_closeStore (OpenStore.uncounted_start _ place.definition)
    (OpenStore.registry_start _ place.definition)

/-- A start that gives no value counts the computation that it asks for. -/
theorem passes_startEntry (world : World) (place : Place) :
    (∃ allocation after, world.startEntry place = (.answered allocation, after) ∧
        Passes world after []) ∨
      ∃ promise after, world.startEntry place = (.compute promise, after) ∧
        Passes world after [.computations] := by
  have starts := passes_start world place
  rw [startEntry_eq]
  split
  · exact Or.inl ⟨_, _, rfl, starts⟩
  · exact Or.inr ⟨_, _, rfl, starts.trans (passes_count _ .computations)⟩

theorem passes_beginRead (world : World) (place : Place) :
    (∃ allocation after counters, world.beginRead place = (.answered allocation, after) ∧
        Passes world after counters ∧
        counters ∈ [[Counter.homeHits], [.backupHits, .relocations], [.mapLookups]]) ∨
      ∃ promise after, world.beginRead place = (.compute promise, after) ∧
        Passes world after [.mapLookups, .computations] := by
  have looks := passes_lookup world place
  unfold beginRead
  generalize world.lookup place = looked at looks ⊢
  obtain ⟨answer, found⟩ := looked
  rcases looks with ⟨rfl, missed⟩ | ⟨allocation, rfl, hit | hit⟩
  · have turns : Passes world (found.count .mapLookups) [.mapLookups] :=
      missed.trans (passes_count found .mapLookups)
    rcases passes_startEntry (found.count .mapLookups) place with
      ⟨allocation, after, returns, starts⟩ | ⟨promise, after, returns, starts⟩
    · exact Or.inl ⟨allocation, after, _, returns, turns.trans starts, by decide⟩
    · exact Or.inr ⟨promise, after, returns, turns.trans starts⟩
  · exact Or.inl ⟨allocation, found, _, rfl, hit, by decide⟩
  · exact Or.inl ⟨allocation, found, _, rfl, hit, by decide⟩

theorem publish_eq_of_minted {promise : Entry} {allocation : Allocation}
    {minted : Entry × OpenStore}
    (mints : ((world.openStore place.context).mint fun serial =>
      promise.fulfil serial allocation) = minted) :
    world.publish place promise allocation =
      match (minted.2.finish place.definition minted.1).1 with
      | some _ => (.answered allocation,
          world.closeStore place.context (minted.2.finish place.definition minted.1).2)
      | none => ((world.closeStore place.context
          (minted.2.finish place.definition minted.1).2).count .publishRetries).startEntry
            place := by
  subst mints
  rfl

/-- A value that is accepted counts nothing, and one that is thrown away counts that and what
the new start counts. -/
theorem passes_publish (world : World) (place : Place) (promise : Entry)
    (allocation : Allocation) :
    (world.accepts place promise allocation = true ∧
        ∃ answer after, world.publish place promise allocation = (.answered answer, after) ∧
          Passes world after []) ∨
      (world.accepts place promise allocation = false ∧
        ((∃ answer after, world.publish place promise allocation = (.answered answer, after) ∧
            Passes world after [.publishRetries]) ∨
          ∃ next after, world.publish place promise allocation = (.compute next, after) ∧
            Passes world after [.publishRetries, .computations])) := by
  let opened := world.openStore place.context
  let minted := opened.mint fun serial => promise.fulfil serial allocation
  have finishes : Passes world
      (world.closeStore place.context (minted.2.finish place.definition minted.1).2) [] := by
    have mints : OpenStore.Uncounted opened minted.2 := OpenStore.Uncounted.of_eq rfl
    exact passes_closeStore
      (mints.trans (OpenStore.uncounted_finish minted.2 place.definition minted.1))
      (OpenStore.registry_finish minted.2 place.definition minted.1)
  show ((minted.2.finish place.definition minted.1).1.isSome = true ∧ _) ∨
    ((minted.2.finish place.definition minted.1).1.isSome = false ∧ _)
  rw [publish_eq_of_minted (rfl : _ = minted)]
  cases (minted.2.finish place.definition minted.1).1 with
  | some committed => exact Or.inl ⟨rfl, allocation, _, rfl, finishes⟩
  | none =>
      right
      refine ⟨rfl, ?_⟩
      have discards := finishes.trans (passes_count _ .publishRetries)
      rcases passes_startEntry _ place with
        ⟨answer, after, returns, starts⟩ | ⟨next, after, returns, starts⟩
      · exact Or.inl ⟨answer, after, returns, discards.trans starts⟩
      · exact Or.inr ⟨next, after, returns, discards.trans starts⟩

theorem passes_retract (world : World) (place : Place) (promise : Entry) :
    Passes world (world.retract place promise) [.computeFailures] := by
  let counted := world.count .computeFailures
  have finishes : Passes counted
      (counted.closeStore place.context
        ((counted.openStore place.context).finish place.definition promise).2) [] :=
    passes_closeStore (OpenStore.uncounted_finish _ place.definition promise)
      (OpenStore.registry_finish _ place.definition promise)
  exact (passes_count world .computeFailures).trans finishes

/-! ### Removing and putting -/

/-- The next generation starts if the definition exists. -/
theorem generation_bump (world : World) (place : Place) (key : DefinitionKey) :
    (world.registry.bump place.definition).generation key =
      world.registry.generation key +
        if place.definition == key && (world.finding place).defined then 1 else 0 := by
  by_cases same : place.definition = key
  · subst same
    by_cases defined : place.definition < world.registry.definitions.size
    · simp [Registry.generation_bump_self defined, finding, defined]
    · have undefined := Nat.le_of_not_lt defined
      have size : (world.registry.bump place.definition).definitions.size =
          world.registry.definitions.size := world.registry.size_modifyDefinition _ _
      rw [Registry.generation_eq_zero undefined, Registry.generation_eq_zero (size ▸ undefined)]
      simp [finding, defined]
  · simp [Registry.generation_bump_ne world.registry (Ne.symm same), same]

/-- A removal that finds no value counts nothing. One that does counts an invalidation and ends
the definition's generation. -/
theorem passes_remove (world : World) (place : Place) :
    ((world.finding place).isValue = false ∧ Passes world (world.remove place) []) ∨
      ((world.finding place).isValue = true ∧
        Counts world (world.remove place) [.invalidations] ∧
        (world.remove place).registry = world.registry.bump place.definition) := by
  cases found : world.store? place.context with
  | none =>
      rw [remove_of_no_store found]
      refine Or.inl ⟨?_, passes_rest world⟩
      have unbound : world.binding? place = none := by
        unfold store? at found
        unfold binding? openStore
        dsimp only
        rw [found]
        rfl
      simp [Finding.isValue, finding, unbound]
  | some store =>
      rw [remove_eq found]
      let opened := world.openStore place.context
      rcases opened.remove_cases place.definition with
        ⟨nothing, same⟩ | ⟨value, registry, uncounted⟩
      · refine Or.inl ⟨Bool.eq_false_iff.mpr nothing, ?_⟩
        refine passes_closeStore ?_ ?_
        · exact OpenStore.Uncounted.of_eq (congrArg (fun opened => opened.shared.metrics) same)
        · exact congrArg OpenStore.registry same
      · have counted := passes_count world .invalidations
        have removed : Counts (world.count .invalidations) (world.operate place .remove).2 [] :=
          counts_of_eq uncounted
        exact Or.inr ⟨value, counted.counts.trans removed, registry⟩

/-- A put counts nothing here. It ends the definition's generation if it finds the definition
bound, promised or not, and puts something else. -/
theorem counts_put (world : World) (place : Place) (allocation : Allocation) :
    Counts world (world.put place allocation) [] ∧
      (world.put place allocation).registry =
        if (world.finding place).binding.isSome ∧
            ¬ (world.finding place).isAlready allocation = true then
          world.registry.bump place.definition
        else world.registry := by
  let opened := world.openStore place.context
  refine ⟨counts_of_eq (opened.uncounted_change place.definition allocation), ?_⟩
  have changes := opened.registry_change place.definition allocation
  rw [OpenStore.isBoundTo_eq] at changes
  exact changes

end World

/-! ### Sums -/

/-- The counted events and the entered items of a piece of a run fit together. `underway`
computations are under way before it, and `later` ones after it. -/
structure Fits (underway later : Nat) (counters : List Counter) (items : Ledger) : Prop where
  gets : items.countP Item.isGet =
    counters.count .homeHits + counters.count .backupHits + counters.count .mapLookups
  relocations : counters.count .relocations = counters.count .backupHits
  begun : counters.count .computations = items.countP Item.isBegun
  computations : underway + counters.count .computations =
    counters.count .computeFailures + counters.count .publishRetries +
      items.countP Item.isCommit + later
  invalidations : counters.count .invalidations = items.countP Item.isEffectiveRemoval

/-- A run from the beginning of a program up to a moment with `underway` computations under
way: what has been counted fits what has been entered, the counters show it, and every
generation is the number of calls that have superseded one. -/
structure Balanced (underway : Nat) (world : World) (ledger : Ledger)
    (counted : List Counter) : Prop where
  fits : Fits 0 underway counted ledger
  words : ∀ counter, counter.isBalanced = true →
    world.metrics.get counter = UInt64.ofNat (counted.count counter)
  generations : ∀ key, world.registry.generation key = ledger.countP (Item.supersedes key)

/-- What the ledger of a running program says balances. -/
def Running.Balances {ρ : Type} (underway : Nat) (running : Running (Kept ρ)) : Prop :=
  ∃ counted, Balanced underway running.world running.own.ledger counted

section Sums

variable {underway later : Nat} {world after : World} {ledger : Ledger}
  {counted counters : List Counter}

theorem balanced_initial : Balanced 0 World.initial [] [] where
  fits := ⟨rfl, rfl, rfl, rfl, rfl⟩
  words := by
    intro counter _
    cases counter <;> rfl
  generations := fun _ => rfl

/-- Pieces of a run that fit make a run that fits. -/
theorem Balanced.advance (balanced : Balanced underway world ledger counted) (items : Ledger)
    (counts : World.Counts world after counters) (fits : Fits underway later counters items)
    (generations : ∀ key, after.registry.generation key =
      world.registry.generation key + items.countP (Item.supersedes key)) :
    Balanced later after (items ++ ledger) (counters ++ counted) := by
  obtain ⟨before, words, earlier⟩ := balanced
  refine ⟨?_, ?_, ?_⟩
  · have gets := fits.gets
    have relocations := fits.relocations
    have begun := fits.begun
    have computations := fits.computations
    have invalidations := fits.invalidations
    have getsBefore := before.gets
    have relocationsBefore := before.relocations
    have begunBefore := before.begun
    have computationsBefore := before.computations
    have invalidationsBefore := before.invalidations
    constructor <;> simp only [List.countP_append, List.count_append] <;> omega
  · intro counter balances
    rw [counts counter balances, words counter balances, List.count_append, UInt64.ofNat_add,
      UInt64.add_comm]
  · intro key
    rw [generations, earlier, List.countP_append, Nat.add_comm]

/-- A piece that ends no generation enters no call that supersedes one. -/
theorem Balanced.pass (balanced : Balanced underway world ledger counted) (items : Ledger)
    (passes : World.Passes world after counters) (fits : Fits underway later counters items)
    (leaves : ∀ key, items.countP (Item.supersedes key) = 0) :
    Balanced later after (items ++ ledger) (counters ++ counted) := by
  refine balanced.advance items passes.counts fits fun key => ?_
  rw [passes.registry, leaves]
  rfl

end Sums

/-! ### Reads -/

namespace Running

variable {ρ : Type} {underway : Nat} {running : Running (Kept ρ)}
  {computation : Computation (Kept ρ)} {place : Place}

/-- A computation gives the sums back as it was given them, however many others are under
way. -/
def Settles (computation : Computation (Kept ρ)) : Prop :=
  ∀ underway running, Balances underway running → Balances underway (computation running).2

theorem Balances.fail (balances : Balances (underway + 1) running) (place : Place)
    (promise : Entry) (failure : Failure) :
    Balances underway (running.fail place promise failure).2 := by
  obtain ⟨counted, balanced⟩ := balances
  refine ⟨_, balanced.pass [] (World.passes_retract _ _ _) ?_ fun _ => rfl⟩
  constructor <;> simp
  omega

/-- A computation that is under way is concluded, however often it is begun anew. -/
theorem Settles.settle (settles : Settles computation) (place : Place) (attempts : Nat) :
    ∀ {underway : Nat} (promise : Entry) (running : Running (Kept ρ)),
      Balances (underway + 1) running →
      Balances underway (settleKept computation place attempts promise running).2 := by
  induction attempts with
  | zero => exact fun promise running balances => balances.fail place promise .abandoned
  | succ attempts inductionHypothesis =>
      intro underway promise running balances
      have computes := settles (underway + 1) running balances
      unfold settleKept
      generalize computation running = ended at computes ⊢
      obtain ⟨result, computed⟩ := ended
      cases result with
      | error failure => exact computes.fail place promise failure
      | ok allocation =>
          obtain ⟨counted, balanced⟩ := computes
          dsimp only at balanced ⊢
          rcases World.passes_publish computed.world place promise allocation with
            ⟨accepted, answer, after, returns, passes⟩ |
            ⟨refused, ⟨answer, after, returns, passes⟩ | ⟨next, after, returns, passes⟩⟩
          · rw [returns, accepted]
            refine ⟨_, balanced.pass [.committed place] passes ?_ fun _ => rfl⟩
            constructor <;> simp
            omega
          · rw [returns, refused]
            refine ⟨_, balanced.pass [] passes ?_ fun _ => rfl⟩
            constructor <;> simp
            omega
          · rw [returns]
            apply inductionHypothesis
            refine ⟨_, balanced.pass [.began place] passes ?_ fun _ => rfl⟩
            constructor <;> simp
            omega

/-- A read concludes the computation that it begins, if it begins one. -/
theorem Settles.read (settles : Settles computation) (attempts : Nat) (place : Place) :
    Settles (readKept computation attempts place) := by
  rintro underway running ⟨counted, balanced⟩
  unfold readKept
  dsimp only
  rcases World.passes_beginRead running.world place with
    ⟨answer, after, counters, returns, passes, hit⟩ | ⟨promise, after, returns, passes⟩
  · rw [returns]
    refine ⟨_, balanced.pass [.got place] passes ?_ fun _ => rfl⟩
    simp only [List.mem_cons, List.not_mem_nil, or_false] at hit
    rcases hit with rfl | rfl | rfl <;> constructor <;> simp
  · rw [returns]
    apply settles.settle
    refine ⟨_, balanced.pass [.began place, .got place] passes ?_ fun _ => rfl⟩
    constructor <;> simp [List.countP_cons]

/-! ### Routines -/

theorem Balances.remove (balances : Balances underway running) (place : Place) :
    Balances underway
      ({ running with world := running.world.remove place : Running (Kept ρ) }.enlist
        (.removed place (running.world.finding place))) := by
  obtain ⟨counted, balanced⟩ := balances
  have bumps := running.world.generation_bump place
  rcases running.world.passes_remove place with ⟨vacant, passes⟩ | ⟨value, counts, registry⟩
  · refine ⟨_, balanced.pass [.removed place (running.world.finding place)] passes ?_ ?_⟩
    · constructor <;> simp [vacant]
    · simp [vacant]
  · refine ⟨_, balanced.advance [.removed place (running.world.finding place)] counts ?_ ?_⟩
    · constructor <;> simp [value]
    · intro key
      show (running.world.remove place).registry.generation key = _
      rw [registry, bumps]
      simp [value, List.countP_cons]

theorem Balances.put (balances : Balances underway running) (place : Place)
    (allocation : Allocation) :
    Balances underway
      ({ running with world := running.world.put place allocation : Running (Kept ρ) }.enlist
        (.put place allocation (running.world.finding place))) := by
  obtain ⟨counted, balanced⟩ := balances
  have bumps := running.world.generation_bump place
  obtain ⟨counts, registry⟩ := running.world.counts_put place allocation
  refine ⟨_, balanced.advance [.put place allocation (running.world.finding place)] counts ?_ ?_⟩
  · constructor <;> simp
  · intro key
    show (running.world.put place allocation).registry.generation key = _
    rw [registry]
    generalize running.world.finding place = finding at bumps ⊢
    split
    · next effective =>
        rw [bumps]
        simp [effective.1, Bool.eq_false_iff.mpr effective.2, List.countP_cons]
    · next ineffective =>
        rw [Classical.not_and_iff_not_or_not, Classical.not_not] at ineffective
        rcases ineffective with unbound | already
        · simp [unbound]
        · simp [already]

/-- Everything else that a program can ask for counts nothing and ends no generation. -/
theorem Balances.errand (balances : Balances underway running) (chosen : Errand) :
    let done := { running with world := (chosen.run running.world).2 : Running (Kept ρ) }
    Balances underway (((chosen.item? running.world).map done.enlist).getD done) := by
  have passed : ∀ after : World, after.metrics = running.world.metrics →
      (∀ key, after.registry.generation key = running.world.registry.generation key) →
      Balances underway { running with world := after } := by
    intro after metrics same
    obtain ⟨counted, balanced⟩ := balances
    have counts : World.Counts running.world after [] :=
      World.counts_of_eq fun counter _ => congrArg (fun metrics => metrics.get counter) metrics
    refine ⟨_, balanced.advance [] counts ?_ same⟩
    constructor <;> simp
  have changed : ∀ registry : Registry,
      (∀ key, registry.generation key = running.world.registry.generation key) →
      Balances underway
        { running with
          world := { running.world with shared := { running.world.shared with registry } } } := by
    intro registry same
    apply passed
    · rfl
    · exact same
  cases chosen with
  | remove place => exact balances.remove place
  | put place allocation => exact balances.put place allocation
  | define => exact changed _ (running.world.registry.generation_define ·)
  | drop key => exact changed _ (running.world.registry.generation_drop key)
  | hold key => exact changed (running.world.registry.hold key) fun _ => rfl
  | release key => exact changed (running.world.registry.release key) fun _ => rfl
  | addContext config =>
      have added : ((Errand.addContext config).run running.world).2.shared =
          running.world.shared := by
        simp only [Errand.run, World.addContext]
        cases config.validate <;> rfl
      apply passed
      · exact congrArg Shared.metrics added
      · exact fun key => congrArg (fun shared => shared.registry.generation key) added

end Running

theorem Routine.settles_keep {ρ : Type} (routine : Routine ρ) :
    Running.Settles routine.keep := by
  induction routine with
  | finish result => exact fun _ _ balances => balances
  | note change next inductionHypothesis =>
      exact fun underway running balances => inductionHypothesis underway _ balances
  | errand chosen next inductionHypothesis =>
      intro underway running balances
      unfold Routine.keep
      exact inductionHypothesis _ _ underway _ (balances.errand chosen)
  | get place attempts body next bodyHypothesis nextHypothesis =>
      intro underway running balances
      let computation := fun begun : Running (Kept (Progress ρ)) =>
        (body begun.own.own.own).keep
          { begun with
            own := { begun.own with own := begun.own.own.call place.definition } }
      have settles : Running.Settles computation :=
        fun underway begun balances => bodyHypothesis _ underway _ balances
      unfold Routine.keep
      exact nextHypothesis _ _ underway _ (settles.read attempts place underway running balances)

/-! ### Programs -/

namespace Metrics

/-- The sums of a ledger in the counters' own words, which begin again at zero when they are
full. -/
structure Tallies (metrics : Metrics) (ledger : Ledger) : Prop where
  gets : UInt64.ofNat (ledger.countP Item.isGet) =
    metrics.homeHits + metrics.backupHits + metrics.mapLookups
  relocations : metrics.relocations = metrics.backupHits
  computations : metrics.computations = metrics.computeFailures + metrics.publishRetries +
    UInt64.ofNat (ledger.countP Item.isCommit)
  invalidations : metrics.invalidations = UInt64.ofNat (ledger.countP Item.isEffectiveRemoval)

/-- The same sums as numbers. -/
structure TalliesExactly (metrics : Metrics) (ledger : Ledger) : Prop where
  gets : ledger.countP Item.isGet =
    metrics.homeHits.toNat + metrics.backupHits.toNat + metrics.mapLookups.toNat
  relocations : metrics.relocations.toNat = metrics.backupHits.toNat
  computations : metrics.computations.toNat = metrics.computeFailures.toNat +
    metrics.publishRetries.toNat + ledger.countP Item.isCommit
  invalidations : metrics.invalidations.toNat = ledger.countP Item.isEffectiveRemoval

end Metrics

section Programs

variable {world : World} {ledger : Ledger} {counted : List Counter}

theorem Balanced.tallies (balanced : Balanced 0 world ledger counted) :
    world.metrics.Tallies ledger := by
  obtain ⟨fits, words, -⟩ := balanced
  refine ⟨?_, ?_, ?_, ?_⟩
  · calc UInt64.ofNat (ledger.countP Item.isGet)
        = UInt64.ofNat (counted.count .homeHits) + UInt64.ofNat (counted.count .backupHits) +
            UInt64.ofNat (counted.count .mapLookups) := by
          rw [fits.gets, UInt64.ofNat_add, UInt64.ofNat_add]
      _ = world.metrics.get .homeHits + world.metrics.get .backupHits +
            world.metrics.get .mapLookups := by
          rw [words .homeHits rfl, words .backupHits rfl, words .mapLookups rfl]
  · calc world.metrics.get .relocations
        = UInt64.ofNat (counted.count .backupHits) := by
          rw [words .relocations rfl, fits.relocations]
      _ = world.metrics.get .backupHits := (words .backupHits rfl).symm
  · have begun := fits.computations
    rw [Nat.zero_add, Nat.add_zero] at begun
    calc world.metrics.get .computations
        = UInt64.ofNat (counted.count .computeFailures) +
            UInt64.ofNat (counted.count .publishRetries) +
            UInt64.ofNat (ledger.countP Item.isCommit) := by
          rw [words .computations rfl, begun, UInt64.ofNat_add, UInt64.ofNat_add]
      _ = world.metrics.get .computeFailures + world.metrics.get .publishRetries +
            UInt64.ofNat (ledger.countP Item.isCommit) := by
          rw [words .computeFailures rfl, words .publishRetries rfl]
  · calc world.metrics.get .invalidations
        = UInt64.ofNat (counted.count .invalidations) := words .invalidations rfl
      _ = UInt64.ofNat (ledger.countP Item.isEffectiveRemoval) := by rw [fits.invalidations]

/-- No counter has been full as long as the ledger is shorter than that. -/
theorem Balanced.talliesExactly (balanced : Balanced 0 world ledger counted)
    (short : ledger.length < UInt64.size) : world.metrics.TalliesExactly ledger := by
  obtain ⟨⟨gets, relocated, began, computed, invalidated⟩, words, -⟩ := balanced
  have total : ∀ counter, counter.isBalanced = true → counted.count counter ≤ ledger.length →
      (world.metrics.get counter).toNat = counted.count counter := by
    intro counter balances below
    rw [words counter balances, UInt64.toNat_ofNat_of_lt' (Nat.lt_of_le_of_lt below short)]
  have calls : ledger.countP Item.isGet ≤ ledger.length := List.countP_le_length
  have begun : ledger.countP Item.isBegun ≤ ledger.length := List.countP_le_length
  have removals : ledger.countP Item.isEffectiveRemoval ≤ ledger.length := List.countP_le_length
  have homeHits : world.metrics.homeHits.toNat = _ := total .homeHits rfl (by omega)
  have backupHits : world.metrics.backupHits.toNat = _ := total .backupHits rfl (by omega)
  have relocations : world.metrics.relocations.toNat = _ := total .relocations rfl (by omega)
  have mapLookups : world.metrics.mapLookups.toNat = _ := total .mapLookups rfl (by omega)
  have computations : world.metrics.computations.toNat = _ := total .computations rfl (by omega)
  have computeFailures : world.metrics.computeFailures.toNat = _ :=
    total .computeFailures rfl (by omega)
  have publishRetries : world.metrics.publishRetries.toNat = _ :=
    total .publishRetries rfl (by omega)
  have invalidations : world.metrics.invalidations.toNat = _ :=
    total .invalidations rfl (by omega)
  constructor <;> omega

/-- Run any program from the beginning, with all the contexts and definitions that it makes,
and its computations nested in each other, failing, halting or begun anew. Enter each of its
calls into a ledger, which it does not notice. Whenever no computation is under way, and that
is where a routine may end, the counters balance. Every read is a hit at home, a hit behind
it or a turn to a store, every hit behind has been moved, every computation has failed, been
thrown away or been accepted, and the invalidations are the removals that found a value. The
counters are words, and these sums are exact until one of them is full. And each definition's
generation is the number of calls that superseded a value or a promise of it, in all contexts
together, so nothing else ends a generation. -/
theorem counters_and_generations_balance {ρ : Type} (routine : Routine ρ) (own : Progress ρ) :
    let ended := routine.keep ⟨World.initial, ⟨[], own⟩⟩
    let ledger := ended.2.own.ledger
    let world := (routine.run ⟨World.initial, own⟩).2.world
    (ended.1, ended.2.forget) = routine.run ⟨World.initial, own⟩ ∧
      world.metrics.Tallies ledger ∧
      (ledger.length < UInt64.size → world.metrics.TalliesExactly ledger) ∧
      ∀ key, world.registry.generation key = ledger.countP (Item.supersedes key) := by
  intro ended ledger world
  have same : (ended.1, ended.2.forget) = routine.run ⟨World.initial, own⟩ :=
    routine.forgets_keep ⟨World.initial, ⟨[], own⟩⟩
  have worlds : ended.2.world = world := congrArg (fun ended => ended.2.world) same
  obtain ⟨counted, balanced⟩ : ended.2.Balances 0 :=
    routine.settles_keep 0 _ ⟨[], balanced_initial⟩
  rw [worlds] at balanced
  exact ⟨same, balanced.tallies, balanced.talliesExactly, balanced.generations⟩

end Programs

/-- The first computation of definition 0 puts a value itself, so its own comes too late, and
one of definition 1 halts in it. Then that value is removed, and definition 1 is read. -/
def restless : Routine Unit :=
  .errand .define fun _ _ => .errand .define fun _ _ =>
    .errand (.addContext Config.standard) fun _ _ =>
      .get ⟨0, 0⟩ 2
        (fun _ => .errand (.put ⟨0, 0⟩ ⟨5⟩) fun _ _ =>
          .get ⟨1, 0⟩ 1 (fun _ => .finish (.error (.panic "halted"))) fun _ _ =>
            .finish (.ok ⟨6⟩))
        fun _ _ => .errand (.remove ⟨0, 0⟩) fun _ _ =>
          .get ⟨1, 0⟩ 1 (fun _ => .finish (.ok ⟨7⟩)) fun result _ => .finish result

/-- Three reads, whose computations fail, are thrown away and are accepted once each. -/
theorem counters_and_generations_balance_restless :
    let own : Progress Unit := ⟨fun _ => 0, ()⟩
    let ledger := (restless.keep ⟨World.initial, ⟨[], own⟩⟩).2.own.ledger
    let world := (restless.run ⟨World.initial, own⟩).2.world
    ledger.length < UInt64.size ∧ world.metrics.TalliesExactly ledger ∧
      ledger.countP Item.isGet = 3 ∧ world.metrics.mapLookups = 3 ∧
      world.metrics.computations = 3 ∧ world.metrics.computeFailures = 1 ∧
      world.metrics.publishRetries = 1 ∧ ledger.countP Item.isCommit = 1 ∧
      world.metrics.invalidations = 1 ∧ world.registry.generation 0 = 2 ∧
      ledger.countP (Item.supersedes 0) = 2 := by
  intro own ledger world
  have short : ledger.length < UInt64.size := by decide +kernel
  refine ⟨short, (counters_and_generations_balance restless own).2.2.1 short, ?_⟩
  decide +kernel

end ContextCache
