import ContextCache.Proofs.World.Works
import ContextCache.Reader

/-!
Contract: what the pieces of a read do to a world.

A read is made of steps of the protocol, so it only leads to worlds that can come about.
For whoever composes reads, each piece is described by what its place is bound to before
and afterwards; it is work on that place, so all other places keep what they are bound to.

Owns:
- what work on a place means for the places of a world that has come about;
- the effect of looking up, starting, publishing and retracting;
- the effect of removing and putting;
- that the bound on attempts does not show in a read that ends.

Does not own: what nested computations do to each other.
-/

set_option autoImplicit false

namespace ContextCache

namespace World

/-- The second world has come from the first one by work on one place at most. -/
structure Moves (place : Place) (before after : World) : Prop where
  reachable : Reachable after
  usable : ∀ other, before.Usable other → after.Usable other
  binding : ∀ other, other ≠ place → before.Usable other →
    after.binding? other = before.binding? other

/-- The second world has come from the first one, and nothing is bound otherwise. -/
structure Rests (before after : World) : Prop where
  reachable : Reachable after
  usable : ∀ other, before.Usable other → after.Usable other
  binding : ∀ other, before.Usable other → after.binding? other = before.binding? other

variable {world before after : World} {place : Place} {token : Token} {allocation : Allocation}

theorem Rests.moves (rests : Rests before after) (place : Place) : Moves place before after :=
  ⟨rests.reachable, rests.usable, fun other _ usable => rests.binding other usable⟩

theorem Works.moves (works : Works place world after) (reachable : Reachable world)
    (usable : world.Usable place) : Moves place world after := by
  have spares := works.spares (reachable.serves usable)
  refine ⟨works.reachable reachable usable, ?_, ?_⟩
  · intro other usableOther
    refine ⟨(spares.alive other.definition).trans usableOther.alive, ?_⟩
    rw [spares.contexts]
    exact usableOther.listed
  · exact fun other differs usableOther => spares.binding other differs usableOther.alive

theorem Reachable.moves (reachable : Reachable world) (usable : world.Usable place)
    (operation : Operation) : Moves place world (world.operate place operation).2 :=
  (Works.rests.operated operation).moves reachable usable

/-- Work that leaves its own place alone too leaves everything alone. -/
theorem Works.leaves (works : Works place world after) (reachable : Reachable world)
    (usable : world.Usable place) (same : after.binding? place = world.binding? place) :
    Rests world after := by
  have moves := works.moves reachable usable
  refine ⟨moves.reachable, moves.usable, ?_⟩
  intro other usableOther
  by_cases worked : other = place
  · rw [worked]
    exact same
  · exact moves.binding other worked usableOther

theorem value?_eq_of_binding? (same : after.binding? place = before.binding? place) :
    after.value? place = before.value? place :=
  congrArg (fun bound => bound.bind Entry.value?) same

/-! ### Starting -/

theorem startEntry_eq (world : World) (place : Place) :
    world.startEntry place =
      match ((world.openStore place.context).start place.definition).1.value? with
      | some allocation => (.answered allocation, (world.operate place .start).2)
      | none =>
        (.compute ((world.openStore place.context).start place.definition).1,
          (world.operate place .start).2.count .computations) :=
  rfl

/-- A start at a place without a value binds a promise and asks for a computation. -/
theorem startEntry_vacant (serves : world.Serves place) (vacant : world.value? place = none) :
    ∃ token started, world.startEntry place = (.compute (.promise token), started) ∧
      Works place world started ∧ started.binding? place = some (.promise token) := by
  have effect := serves.effect_operate .start
  generalize outcome : (world.operate place .start).1 = result at effect
  cases effect with
  | promised _ registry bound =>
      refine ⟨_, _, ?_, (Works.rests.operated .start).counted .computations, bound⟩
      have returned : ((world.openStore place.context).start place.definition).1 = _ :=
        Outcome.started.inj outcome
      rw [startEntry_eq, returned]
      rfl
  | answered held => exact absurd (vacant.symm.trans held) (by simp)

/-- A start at a place with a value returns it. -/
theorem startEntry_value (serves : world.Serves place)
    (held : world.value? place = some allocation) :
    ∃ started, world.startEntry place = (.answered allocation, started) ∧
      Works place world started ∧ started.value? place = some allocation := by
  have effect := serves.effect_operate .start
  generalize outcome : (world.operate place .start).1 = result at effect
  cases effect with
  | promised vacant => exact absurd (vacant.symm.trans held) (by simp)
  | @answered serial carried known registry bound =>
      have same : carried = allocation := Option.some.inj (known.symm.trans held)
      subst same
      refine ⟨_, ?_, Works.rests.operated .start, OpenStore.value?_of_binding? bound⟩
      have returned : ((world.openStore place.context).start place.definition).1 = _ :=
        Outcome.started.inj outcome
      rw [startEntry_eq, returned]
      rfl

/-! ### Looking up -/

/-- A lookup in a context with the given store. -/
def lookupIn (world : World) (place : Place) (store : Store) : Option Allocation × World :=
  let hash := world.registry.hash place.definition
  let token := world.registry.current place.definition
  match store.table.probeHome hash token with
  | some allocation => (some allocation, world.count .homeHits)
  | none =>
    match store.table.probeBackup store.config.probeLimit hash token with
    | none => (none, world)
    | some (_, allocation) =>
      let (moved, promoted) := (world.count .backupHits).withStore place.context fun opened =>
        opened.promote place.definition store.table.capacity
      (some allocation, if moved then promoted.count .relocations else promoted)

/-- A context without a store answers like one with an empty table. -/
theorem lookup_eq (world : World) (place : Place) :
    world.lookup place = world.lookupIn place (world.openStore place.context).store := by
  unfold lookup
  cases found : world.store? place.context with
  | some store =>
      rw [store?_eq_openStore found]
      rfl
  | none =>
      have nothing : ∀ {token : Token} {allocation : Allocation},
          ¬ (world.openStore place.context).store.table.Offers token allocation := by
        rintro token allocation ⟨entry, holds, -⟩
        unfold store? at found
        unfold openStore at holds
        dsimp only at holds
        rw [found] at holds
        exact Table.not_holds_empty _ holds
      unfold lookupIn
      dsimp only
      split
      · next answered => exact absurd (Table.offers_of_probeHome answered) nothing
      · split
        · rfl
        · next answered => exact absurd (Table.offers_of_probeBackup answered) nothing

/-- Everything that a lookup can do. -/
inductive Looked (world : World) (place : Place) : Option Allocation × World → Prop where
  | missed (nothing : (world.openStore place.context).answer? place.definition = none) :
      Looked world place (none, world)
  | atHome {allocation : Allocation}
      (answered : (world.openStore place.context).answer? place.definition = some allocation) :
      Looked world place (some allocation, world.count .homeHits)
  | behind {allocation : Allocation} {searched : Nat} {moved : Bool} {promoted : World}
      (answered : (world.openStore place.context).answer? place.definition = some allocation)
      (operated : (world.count .backupHits).operate place (.promote searched) =
        (.promoted moved, promoted)) :
      Looked world place
        (some allocation, if moved then promoted.count .relocations else promoted)

theorem answer?_eq (world : World) (place : Place) :
    let store := (world.openStore place.context).store
    (world.openStore place.context).answer? place.definition =
      store.table.search store.config.probeLimit (world.registry.hash place.definition)
        (world.registry.current place.definition) :=
  rfl

theorem looked (world : World) (place : Place) : Looked world place (world.lookup place) := by
  rw [lookup_eq]
  have answers := answer?_eq world place
  dsimp only at answers
  generalize (world.openStore place.context).store = store at answers ⊢
  unfold Table.search at answers
  unfold lookupIn
  dsimp only
  generalize store.table.probeHome (world.registry.hash place.definition)
    (world.registry.current place.definition) = atHome at answers ⊢
  cases atHome with
  | some allocation => exact .atHome answers
  | none =>
      dsimp only
      generalize store.table.probeBackup store.config.probeLimit
        (world.registry.hash place.definition) (world.registry.current place.definition) = behind
        at answers ⊢
      cases behind with
      | none => exact .missed answers
      | some answer => exact .behind answers rfl

theorem Serves.value?_of_answer (serves : world.Serves place)
    (answered : (world.openStore place.context).answer? place.definition = some allocation) :
    world.value? place = some allocation :=
  serves.sound.value?_of_answer serves.usable.alive answered

/-- Where there is no value a lookup finds nothing and changes nothing. -/
theorem lookup_vacant (serves : world.Serves place) (vacant : world.value? place = none) :
    world.lookup place = (none, world) := by
  have looked := looked world place
  generalize world.lookup place = found at looked
  cases looked with
  | missed => rfl
  | atHome answered => exact absurd (vacant.symm.trans (serves.value?_of_answer answered)) nofun
  | behind answered => exact absurd (vacant.symm.trans (serves.value?_of_answer answered)) nofun

theorem binding?_promote (serves : world.Serves place) (searched : Nat) :
    (world.operate place (.promote searched)).2.binding? place = world.binding? place := by
  have effect := serves.effect_operate (.promote searched)
  generalize (world.operate place (.promote searched)).1 = outcome at effect
  cases effect with
  | promoted kept => exact kept.binding place.definition serves.usable.alive

/-- Finding a value behind its home slot moves it there and binds nothing. -/
theorem works_relocation (serves : world.Serves place) {searched : Nat} {moved : Bool}
    {promoted : World} (operated : (world.count .backupHits).operate place (.promote searched) =
      (.promoted moved, promoted)) :
    let relocated := if moved then promoted.count .relocations else promoted
    Works place world relocated ∧ relocated.binding? place = world.binding? place := by
  have works : Works place world ((world.count .backupHits).operate place (.promote searched)).2 :=
    (Works.rests.counted .backupHits).operated (.promote searched)
  have same := binding?_promote (serves.count .backupHits) searched
  rw [operated] at works same
  cases moved with
  | true => exact ⟨works.counted .relocations, same⟩
  | false => exact ⟨works, same⟩

/-- A lookup binds nothing, and answers only with what is bound. -/
theorem lookup_works (serves : world.Serves place) :
    Works place world (world.lookup place).2 ∧
      (world.lookup place).2.binding? place = world.binding? place ∧
      ∀ answer, (world.lookup place).1 = some answer → world.value? place = some answer := by
  have looked := looked world place
  generalize world.lookup place = found at looked ⊢
  cases looked with
  | missed => exact ⟨.rests, rfl, nofun⟩
  | atHome answered =>
      refine ⟨Works.rests.counted .homeHits, rfl, fun answer same => ?_⟩
      cases same
      exact serves.value?_of_answer answered
  | behind answered operated =>
      obtain ⟨works, same⟩ := works_relocation serves operated
      refine ⟨works, same, fun answer same => ?_⟩
      cases same
      exact serves.value?_of_answer answered

/-! ### Beginning a read -/

theorem beginRead_value (serves : world.Serves place)
    (held : world.value? place = some allocation) :
    ∃ begun, world.beginRead place = (.answered allocation, begun) ∧
      Works place world begun ∧ begun.value? place = some allocation := by
  obtain ⟨works, same, answers⟩ := lookup_works serves
  unfold beginRead
  generalize world.lookup place = looked at works same answers
  obtain ⟨answer, found⟩ := looked
  have still := (value?_eq_of_binding? same).trans held
  cases answer with
  | some answer =>
      have agrees : answer = allocation :=
        Option.some.inj ((answers answer rfl).symm.trans held)
      subst agrees
      exact ⟨found, rfl, works, still⟩
  | none =>
      have missed := works.counted .mapLookups
      obtain ⟨started, returns, starts, bound⟩ := startEntry_value (missed.serves serves) still
      exact ⟨started, returns, missed.trans starts, bound⟩

theorem beginRead_vacant (serves : world.Serves place) (vacant : world.value? place = none) :
    ∃ token begun, world.beginRead place = (.compute (.promise token), begun) ∧
      Works place world begun ∧ begun.binding? place = some (.promise token) := by
  obtain ⟨works, same, answers⟩ := lookup_works serves
  unfold beginRead
  generalize world.lookup place = looked at works same answers
  obtain ⟨answer, found⟩ := looked
  cases answer with
  | some answer => exact absurd ((answers answer rfl).symm.trans vacant) (by simp)
  | none =>
      have missed := works.counted .mapLookups
      have still := (value?_eq_of_binding? same).trans vacant
      obtain ⟨token, started, returns, starts, bound⟩ :=
        startEntry_vacant (missed.serves serves) still
      exact ⟨token, started, returns, missed.trans starts, bound⟩

/-! ### Concluding -/

theorem publish_eq (world : World) (place : Place) (token : Token) (allocation : Allocation) :
    world.publish place (.promise token) allocation =
      match ((world.openStore place.context).commit place.definition token allocation).1 with
      | some _ => (.answered allocation, (world.operate place (.commit token allocation)).2)
      | none =>
        ((world.operate place (.commit token allocation)).2.count .publishRetries).startEntry
          place :=
  rfl

/-- The value of a computation is bound if its promise still is. -/
theorem publish_promised (serves : world.Serves place)
    (promised : world.binding? place = some (.promise token)) (allocation : Allocation) :
    ∃ finished, world.publish place (.promise token) allocation = (.answered allocation, finished) ∧
      Works place world finished ∧ finished.value? place = some allocation := by
  have effect := serves.effect_operate (.commit token allocation)
  generalize outcome : (world.operate place (.commit token allocation)).1 = result at effect
  cases effect with
  | committed _ registry bound =>
      refine ⟨_, ?_, Works.rests.operated (.commit token allocation),
        OpenStore.value?_of_binding? bound⟩
      have returned :
          ((world.openStore place.context).commit place.definition token allocation).1 = _ :=
        Outcome.finished.inj outcome
      rw [publish_eq, returned]
  | discarded superseded => exact absurd promised superseded

/-- Otherwise the read starts over, with its place bound as it was. -/
theorem publish_superseded (serves : world.Serves place)
    (superseded : world.binding? place ≠ some (.promise token)) (allocation : Allocation) :
    ∃ discarded, world.publish place (.promise token) allocation = discarded.startEntry place ∧
      Works place world discarded ∧ discarded.binding? place = world.binding? place := by
  have effect := serves.effect_operate (.commit token allocation)
  generalize outcome : (world.operate place (.commit token allocation)).1 = result at effect
  cases effect with
  | committed promised => exact absurd promised superseded
  | discarded _ registry same =>
      have returned :
          ((world.openStore place.context).commit place.definition token allocation).1 = _ :=
        Outcome.finished.inj outcome
      refine ⟨_, ?_, (Works.rests.operated (.commit token allocation)).counted .publishRetries, ?_⟩
      · rw [publish_eq, returned]
      · exact congrArg (fun store => store.binding? place.definition) same

theorem retract_eq (world : World) (place : Place) (token : Token) :
    world.retract place (.promise token) =
      ((world.count .computeFailures).operate place (.retract token)).2 :=
  rfl

theorem works_retract (world : World) (place : Place) (token : Token) :
    Works place world (world.retract place (.promise token)) :=
  (Works.rests.counted .computeFailures).operated (.retract token)

/-- A retracted promise leaves its place unbound. -/
theorem retract_promised (serves : world.Serves place)
    (promised : world.binding? place = some (.promise token)) :
    (world.retract place (.promise token)).binding? place = none := by
  have effect := (serves.count .computeFailures).effect_operate (.retract token)
  generalize ((world.count .computeFailures).operate place (.retract token)).1 = outcome at effect
  cases effect with
  | retracted _ registry unbound => exact unbound
  | ignored superseded => exact absurd promised superseded

theorem retract_superseded (serves : world.Serves place)
    (superseded : world.binding? place ≠ some (.promise token)) :
    (world.retract place (.promise token)).binding? place = world.binding? place := by
  have effect := (serves.count .computeFailures).effect_operate (.retract token)
  generalize ((world.count .computeFailures).operate place (.retract token)).1 = outcome at effect
  cases effect with
  | retracted promised => exact absurd promised superseded
  | ignored _ same => exact congrArg (fun opened => opened.store.binding? place.definition) same

/-! ### Removing and putting -/

theorem remove_eq {store : Store} (found : world.store? place.context = some store) :
    world.remove place = (world.operate place .remove).2 := by
  unfold remove
  rw [found]
  rfl

theorem remove_of_no_store (absent : world.store? place.context = none) :
    world.remove place = world := by
  unfold remove
  rw [absent]

theorem works_remove (world : World) (place : Place) : Works place world (world.remove place) := by
  cases found : world.store? place.context with
  | none =>
      rw [remove_of_no_store found]
      exact .rests
  | some store =>
      rw [remove_eq found]
      exact Works.rests.operated .remove

theorem value?_of_no_store (absent : world.store? place.context = none) :
    world.value? place = none := by
  unfold store? at absent
  unfold value? openStore
  dsimp only
  rw [absent]
  rfl

/-- After the removal of a value its place is unbound. -/
theorem remove_value (serves : world.Serves place)
    (held : world.value? place = some allocation) :
    (world.remove place).binding? place = none := by
  cases found : world.store? place.context with
  | none => exact absurd ((value?_of_no_store found).symm.trans held) (by simp)
  | some store =>
      rw [remove_eq found]
      have effect := serves.effect_operate .remove
      generalize (world.operate place .remove).1 = outcome at effect
      cases effect with
      | removed _ unbound advanced => exact unbound
      | absent vacant => exact absurd (vacant.symm.trans held) (by simp)

/-- Where there is no value a removal changes nothing. -/
theorem remove_vacant (serves : world.Serves place) (vacant : world.value? place = none) :
    (world.remove place).binding? place = world.binding? place := by
  cases found : world.store? place.context with
  | none => rw [remove_of_no_store found]
  | some store =>
      rw [remove_eq found]
      have effect := serves.effect_operate .remove
      generalize (world.operate place .remove).1 = outcome at effect
      cases effect with
      | removed held => exact absurd (vacant.symm.trans held) (by simp)
      | absent _ same => exact congrArg (fun opened => opened.store.binding? place.definition) same

theorem put_eq (world : World) (place : Place) (allocation : Allocation) :
    world.put place allocation = (world.operate place (.change allocation)).2 :=
  rfl

theorem works_put (world : World) (place : Place) (allocation : Allocation) :
    Works place world (world.put place allocation) :=
  Works.rests.operated (.change allocation)

/-- After a put the value is bound. -/
theorem put_value (serves : world.Serves place) (allocation : Allocation) :
    (world.put place allocation).value? place = some allocation := by
  have effect := serves.effect_operate (.change allocation)
  generalize (world.operate place (.change allocation)).1 = outcome at effect
  cases effect with
  | changed unbacked advanced bound => exact OpenStore.value?_of_binding? bound
  | unchanged backs same =>
      have held : world.value? place = some allocation := OpenStore.value?_of_backs backs
      exact (congrArg (fun opened => opened.store.value? place.definition) same).trans held

end World

/-! ### Attempts -/

namespace Running

variable {ρ : Type} {computation : Computation ρ} {place : Place}

theorem settle_add (attempts more : Nat) :
    ∀ (promise : Entry) (running : Running ρ),
      (settle computation place attempts promise running).1 ≠ .error .abandoned →
      settle computation place (attempts + more) promise running =
        settle computation place attempts promise running := by
  induction attempts with
  | zero =>
      intro promise running kept
      exact absurd rfl kept
  | succ attempts inductionHypothesis =>
      intro promise running kept
      rw [Nat.succ_add]
      unfold settle at kept ⊢
      generalize computation running = result at kept ⊢
      obtain ⟨result, computed⟩ := result
      cases result with
      | error failure => rfl
      | ok allocation =>
          dsimp only at kept ⊢
          generalize computed.world.publish place promise allocation = published at kept ⊢
          obtain ⟨step, world⟩ := published
          cases step with
          | answered answer => rfl
          | compute next => exact inductionHypothesis next _ kept

/-- The bound on a read's attempts matters only to a read that gives up: one that does not
ends the same way with any greater bound. -/
theorem read_add (attempts more : Nat) (running : Running ρ)
    (kept : (read computation attempts place running).1 ≠ .error .abandoned) :
    read computation (attempts + more) place running =
      read computation attempts place running := by
  unfold read at kept ⊢
  generalize running.world.beginRead place = begun at kept ⊢
  obtain ⟨step, world⟩ := begun
  cases step with
  | answered answer => rfl
  | compute promise => exact settle_add attempts more promise _ kept

end Running

end ContextCache
