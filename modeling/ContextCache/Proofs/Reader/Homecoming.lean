import ContextCache.Proofs.Reader.Refinement
import ContextCache.Proofs.World.Invalidation

/-!
Contract: a read that returns a value leaves it where the next read looks first.

There are four ways to a value: it is at home, it is found behind its home and promoted, it is
bound and put into the table again, or it is computed and committed. Each ends with an entry of
the current generation in the home slot. Whatever is pushed out of that slot goes elsewhere,
and neither a sweep nor a longer table comes after it.

Owns:
- values that are bound under the current generation and sit at home;
- that lookups, starts and commits with a value, and hence reads and puts, end with one;
- that a read of such a value does nothing but count a hit.

Does not own: which value a read returns.
-/

set_option autoImplicit false

namespace ContextCache

namespace OpenStore

variable {opened after : OpenStore} {key : DefinitionKey} {allocation : Allocation}

/-- The definition is bound to the value under its current generation, and its home slot holds
a live entry with the value. -/
structure AtHome (opened : OpenStore) (key : DefinitionKey) (allocation : Allocation) : Prop where
  bound : ∃ serial, opened.store.binding? key =
    some (.minted serial (some (opened.registry.current key)) (some allocation))
  seated : ∃ entry,
    opened.store.table.slot (opened.store.table.home (opened.registry.hash key)) = some entry ∧
      entry.isLive opened.registry = true ∧
      entry.tag? = some (opened.registry.current key) ∧ entry.value? = some allocation

theorem AtHome.probeHome (home : opened.AtHome key allocation) :
    opened.store.table.probeHome (opened.registry.hash key) (opened.registry.current key) =
      some allocation := by
  obtain ⟨entry, found, -, tagged, carries⟩ := home.seated
  unfold Table.probeHome
  rw [Table.slot_congr Table.hash_modEq_home, found]
  simp [Entry.hasTag, tagged, carries]

/-- Whoever sits at home with a value under the current generation says what is bound. -/
theorem Sound.atHome_of_slot (sound : opened.Sound) (alive : opened.registry.isAlive key = true)
    {entry : Entry}
    (found : opened.store.table.slot (opened.store.table.home (opened.registry.hash key)) =
      some entry)
    (tagged : entry.tag? = some (opened.registry.current key))
    (carries : entry.value? = some allocation) : opened.AtHome key allocation where
  bound := sound.coherent _ allocation ⟨entry, ⟨_, found⟩, tagged, carries⟩
    (Registry.isLive_current _ alive)
  seated :=
    ⟨entry, found, (Entry.isLive_of_tag? tagged).trans (Registry.isLive_current _ alive), tagged,
      carries⟩

/-! ### Looking up -/

theorem Sound.atHome_of_probeHome (sound : opened.Sound)
    (alive : opened.registry.isAlive key = true)
    (answered : opened.store.table.probeHome (opened.registry.hash key)
      (opened.registry.current key) = some allocation) : opened.AtHome key allocation := by
  unfold Table.probeHome at answered
  rw [Table.slot_congr Table.hash_modEq_home] at answered
  split at answered
  · next entry found =>
      split at answered
      · next tagged =>
          exact sound.atHome_of_slot alive found (by simpa [Entry.hasTag] using tagged) answered
      · cases answered
  · cases answered

/-- What a lookup finds behind the home slot can be promoted. -/
theorem find?_of_probeBackup {table : Table} {probeLimit position : Nat} {hash : UInt32}
    {token : Token}
    (answered : table.probeBackup probeLimit hash token = some (position, allocation)) :
    table.isOccupied (table.home hash) = true ∧
      ∃ found, (table.backupRun probeLimit (table.home hash)).find? (Table.isPromotable token) =
        some found := by
  unfold Table.probeBackup at answered
  dsimp only at answered
  split at answered
  · next occupied =>
      refine ⟨occupied, ?_⟩
      obtain ⟨found, member, answers⟩ := List.exists_of_findSome?_eq_some answered
      have promotable : Table.isPromotable token found = true := by
        unfold Table.backupAnswer at answers
        split at answers
        · next tagged =>
            obtain ⟨carried, carries, -⟩ := Option.map_eq_some_iff.mp answers
            unfold Table.isPromotable
            cases entryEq : found.2 with
            | promise => simp [entryEq, Entry.value?] at carries
            | tombstone => simp [entryEq, Entry.value?] at carries
            | minted serial tag value =>
                rw [entryEq] at tagged
                rw [tagged]
                rfl
        · cases answers
      exact Option.isSome_iff_exists.mp (List.find?_isSome.mpr ⟨found, member, promotable⟩)
  · cases answered

/-- A value found behind the home slot is promoted. -/
theorem Sound.atHome_promote (sound : opened.Sound) (alive : opened.registry.isAlive key = true)
    {position : Nat}
    (answered : opened.store.table.probeBackup opened.store.config.probeLimit
      (opened.registry.hash key) (opened.registry.current key) = some (position, allocation)) :
    (opened.promote key opened.store.table.capacity).1 = true ∧
      (opened.promote key opened.store.table.capacity).2.AtHome key allocation := by
  have offered := sound.value?_of_offers alive (Table.offers_of_probeBackup answered)
  obtain ⟨occupied, found, first⟩ := find?_of_probeBackup answered
  have soundAfter := sound.promote key opened.store.table.capacity
  unfold OpenStore.promote at soundAfter ⊢
  rw [if_pos rfl] at soundAfter ⊢
  obtain ⟨moved, seated⟩ : (opened.store.table.promote opened.registry
      opened.store.config.probeLimit (opened.registry.hash key)
      (opened.registry.current key)).1 = true ∧ _ :=
    Table.slot_promote_home sound.roomy occupied first
  refine ⟨moved, ?_⟩
  have promotable := List.find?_some first
  simp only [Table.isPromotable, Bool.and_eq_true] at promotable
  have tagged : found.2.tag? = some (opened.registry.current key) := by
    simpa [Entry.hasTag] using promotable.1
  obtain ⟨-, -, -, -, there, -⟩ := Table.mem_backupRun_iff.mp (List.mem_of_find?_eq_some first)
  obtain ⟨-, serial, carried, carries, bound⟩ := sound.binding?_of_live ⟨_, there⟩ tagged
    (Registry.isLive_current _ alive)
  have same : carried = allocation :=
    Option.some.inj ((value?_of_binding? bound).symm.trans offered)
  subst same
  refine soundAfter.atHome_of_slot alive ?_ tagged carries
  rw [← seated]
  exact congrArg _ (Table.home_congr (Table.capacity_promote _ _ _ _ _))

/-! ### Putting in -/

/-- A step that ends with a value leaves it at home. -/
theorem Arranged.atHome {operation : Operation} {outcome : Outcome}
    (arranged : Arranged opened after key operation outcome) (sound : opened.Sound)
    (alive : after.registry.isAlive key = true) (valued : outcome.isValued = true)
    (held : after.store.value? key = some allocation) : after.AtHome key allocation := by
  cases arranged with
  | kept unvalued => exact absurd (valued.symm.trans unvalued) (by decide)
  | @published middle serial carried _ housekept inserted bound earlier =>
      have same : carried = allocation :=
        Option.some.inj ((value?_of_binding? bound).symm.trans held)
      subst same
      have live : (Entry.minted serial (some (after.registry.current key))
          (some carried)).isLive after.registry = true := Registry.isLive_current _ alive
      refine ⟨⟨serial, bound⟩, _, ?_, live, rfl, rfl⟩
      rw [inserted, Table.home_congr (Table.capacity_add _ _ _ _ _)]
      exact Table.slot_add_home (housekept.roomy sound.roomy).nonempty live

end OpenStore

namespace World

variable {world after : World} {place : Place} {allocation : Allocation}

/-- The place is bound to the value under the current generation, and the definition's home
slot in the context's table holds a live entry with the value. -/
def AtHome (world : World) (place : Place) (allocation : Allocation) : Prop :=
  (world.openStore place.context).AtHome place.definition allocation

theorem AtHome.count (home : world.AtHome place allocation) (counter : Counter) :
    (world.count counter).AtHome place allocation :=
  ⟨home.bound, home.seated⟩

/-- A value at home is found there, and nothing but the hit is counted. -/
theorem AtHome.lookup (home : world.AtHome place allocation) :
    world.lookup place = (some allocation, world.count .homeHits) := by
  have answers : (world.openStore place.context).store.table.probeHome
      (world.registry.hash place.definition) (world.registry.current place.definition) =
        some allocation := home.probeHome
  rw [lookup_eq]
  unfold lookupIn
  dsimp only
  rw [answers]

/-! ### Pieces of a read -/

theorem Reachable.atHome_operate (reachable : Reachable world) (usable : world.Usable place)
    {operation : Operation} (valued : (world.operate place operation).1.isValued = true)
    (held : (world.operate place operation).2.value? place = some allocation) :
    (world.operate place operation).2.AtHome place allocation :=
  (reachable.arranged usable operation).atHome (reachable.sound place.context)
    ((reachable.serves usable).operate operation).usable.alive valued held

/-- A value that is found behind its home slot is promoted, and counted as moved. -/
theorem Reachable.lookup_behind (reachable : Reachable world) (usable : world.Usable place)
    {position : Nat}
    (missed : (world.openStore place.context).store.table.probeHome
      (world.registry.hash place.definition) (world.registry.current place.definition) = none)
    (answered : (world.openStore place.context).store.table.probeBackup
      (world.openStore place.context).store.config.probeLimit
      (world.registry.hash place.definition) (world.registry.current place.definition) =
        some (position, allocation)) :
    ∃ promoted, (world.count .backupHits).operate place
        (.promote (world.openStore place.context).store.table.capacity) =
          (.promoted true, promoted) ∧
      world.lookup place = (some allocation, promoted.count .relocations) ∧
      promoted.AtHome place allocation := by
  have counted := reachable.count .backupHits
  have usableStill := usable.count .backupHits
  obtain ⟨moved, home⟩ := (counted.sound place.context).atHome_promote usableStill.alive answered
  refine ⟨_, Prod.ext (congrArg Outcome.promoted moved) rfl, ?_, ?_⟩
  · rw [lookup_eq]
    unfold lookupIn
    dsimp only
    rw [missed, answered]
    dsimp only
    exact congrArg (Prod.mk _) (if_pos moved)
  · unfold AtHome
    rw [openStore_operate usableStill]
    exact home

theorem Reachable.atHome_lookup (reachable : Reachable world) (usable : world.Usable place)
    (answers : (world.lookup place).1 = some allocation) :
    (world.lookup place).2.AtHome place allocation := by
  cases atHome : (world.openStore place.context).store.table.probeHome
      (world.registry.hash place.definition) (world.registry.current place.definition) with
  | some answer =>
      have home : world.AtHome place answer :=
        (reachable.sound place.context).atHome_of_probeHome usable.alive atHome
      rw [home.lookup] at answers ⊢
      cases answers
      exact home.count .homeHits
  | none =>
      cases behind : (world.openStore place.context).store.table.probeBackup
          (world.openStore place.context).store.config.probeLimit
          (world.registry.hash place.definition) (world.registry.current place.definition) with
      | some answer =>
          obtain ⟨promoted, -, looked, home⟩ := reachable.lookup_behind usable atHome behind
          rw [looked] at answers ⊢
          cases answers
          exact home.count .relocations
      | none =>
          rw [lookup_eq] at answers
          unfold lookupIn at answers
          dsimp only at answers
          rw [atHome, behind] at answers
          cases answers

/-- A read that has not failed at a place has its value there, or is about to compute. -/
inductive Arrives (place : Place) (world : World) : ReadStep × World → Prop where
  | home {allocation : Allocation} {after : World} (works : Works place world after)
      (home : after.AtHome place allocation) : Arrives place world (.answered allocation, after)
  | computes {token : Token} {after : World} (works : Works place world after) :
      Arrives place world (.compute (.promise token), after)

theorem Arrives.works {step : ReadStep × World} (arrives : Arrives place world step) :
    Works place world step.2 := by
  cases arrives with
  | home works home => exact works
  | computes works => exact works

theorem Arrives.following {middle : World} {step : ReadStep × World}
    (arrives : Arrives place middle step) (earlier : Works place world middle) :
    Arrives place world step := by
  cases arrives with
  | home works home => exact .home (earlier.trans works) home
  | computes works => exact .computes (earlier.trans works)

theorem Reachable.arrives_startEntry (reachable : Reachable world) (usable : world.Usable place) :
    Arrives place world (world.startEntry place) := by
  cases held : world.value? place with
  | none =>
      obtain ⟨token, started, returns, works, -⟩ :=
        startEntry_vacant (reachable.serves usable) held
      rw [returns]
      exact .computes works
  | some allocation =>
      obtain ⟨started, returns, works, still⟩ := startEntry_value (reachable.serves usable) held
      rw [startEntry_eq] at returns
      split at returns
      · next answer carries =>
          cases returns
          rw [startEntry_eq, carries]
          refine .home (Works.rests.operated .start) (reachable.atHome_operate usable ?_ still)
          show (((world.openStore place.context).start place.definition).1.value?).isSome = true
          rw [carries]
          rfl
      · cases returns

theorem Reachable.arrives_beginRead (reachable : Reachable world) (usable : world.Usable place) :
    Arrives place world (world.beginRead place) := by
  obtain ⟨works, -⟩ := lookup_works (reachable.serves usable)
  have homes : ∀ allocation, (world.lookup place).1 = some allocation →
      (world.lookup place).2.AtHome place allocation :=
    fun _ answers => reachable.atHome_lookup usable answers
  unfold beginRead
  generalize world.lookup place = looked at works homes ⊢
  obtain ⟨answer, found⟩ := looked
  cases answer with
  | some allocation => exact .home works (homes allocation rfl)
  | none =>
      have missed := works.counted .mapLookups
      have serves := missed.serves (reachable.serves usable)
      exact ((missed.reachable reachable usable).arrives_startEntry serves.usable).following missed

theorem Reachable.arrives_publish (reachable : Reachable world) (usable : world.Usable place)
    (token : Token) (allocation : Allocation) :
    Arrives place world (world.publish place (.promise token) allocation) := by
  by_cases promised : world.binding? place = some (.promise token)
  · obtain ⟨finished, returns, works, held⟩ :=
      publish_promised (reachable.serves usable) promised allocation
    rw [publish_eq] at returns ⊢
    split at returns
    · next entry committed =>
        cases returns
        refine .home works (reachable.atHome_operate usable ?_ held)
        show (((world.openStore place.context).commit place.definition token
          allocation).1).isSome = true
        rw [committed]
        rfl
    · next refused =>
        have effect := (reachable.serves usable).effect_operate (.commit token allocation)
        have outcome : (world.operate place (.commit token allocation)).1 = .finished none :=
          congrArg Outcome.finished refused
        rw [outcome] at effect
        cases effect with
        | discarded superseded => exact absurd promised superseded
  · obtain ⟨discarded, restarts, works, -⟩ :=
      publish_superseded (reachable.serves usable) promised allocation
    have serves := works.serves (reachable.serves usable)
    rw [restarts]
    exact ((works.reachable reachable usable).arrives_startEntry serves.usable).following works

/-- A put that changes anything leaves its value at home. -/
theorem Reachable.atHome_put (reachable : Reachable world) (usable : world.Usable place)
    (effective : (world.operate place (.change allocation)).1 = .changed true) :
    (world.put place allocation).AtHome place allocation := by
  have held : (world.operate place (.change allocation)).2.value? place = some allocation :=
    put_value (reachable.serves usable) allocation
  have valued : (world.operate place (.change allocation)).1.isValued = true := by
    rw [effective]
    rfl
  exact reachable.atHome_operate usable valued held

end World

/-! ### Whole reads -/

namespace Running

variable {ρ : Type} {places : Place → Prop} {computation : Computation ρ} {place : Place}
  {running ended : Running ρ} {allocation : Allocation}

/-- The computation leads from worlds that can come about to worlds that can come about, and
leaves the definitions and contexts of these places there. -/
def Sustains (places : Place → Prop) (computation : Computation ρ) : Prop :=
  ∀ running, World.Reachable running.world → (∀ place, places place → running.world.Usable place) →
    World.Reachable (computation running).2.world ∧
      ∀ place, places place → (computation running).2.world.Usable place

/-- A read of a value at home does nothing but count a hit. -/
theorem read_atHome (home : running.world.AtHome place allocation) (attempts : Nat) :
    read computation attempts place running =
      (.ok allocation, { running with world := running.world.count .homeHits }) := by
  unfold read World.beginRead
  rw [home.lookup]

theorem Sustains.settle (sustains : Sustains places computation) (inside : places place)
    (attempts : Nat) :
    ∀ (token : Token) (running : Running ρ), World.Reachable running.world →
      (∀ place, places place → running.world.Usable place) →
      settle computation place attempts (.promise token) running = (.ok allocation, ended) →
        ended.world.AtHome place allocation := by
  induction attempts with
  | zero =>
      intro token running _ _ returned
      cases returned
  | succ attempts inductionHypothesis =>
      intro token running reachable usable returned
      obtain ⟨reached, still⟩ := sustains running reachable usable
      unfold Running.settle at returned
      generalize computation running = computed at reached still returned
      obtain ⟨result, computed⟩ := computed
      cases result with
      | error failure => cases returned
      | ok candidate =>
          have arrives := reached.arrives_publish (still place inside) token candidate
          dsimp only at returned
          generalize computed.world.publish place (.promise token) candidate = published
            at arrives returned
          cases arrives with
          | home works home =>
              cases returned
              exact home
          | computes works =>
              have moves := works.moves reached (still place inside)
              exact inductionHypothesis _ _ moves.reachable
                (fun other within => moves.usable other (still other within)) returned

theorem Sustains.atHome_read (sustains : Sustains places computation) (inside : places place)
    (reachable : World.Reachable running.world)
    (usable : ∀ place, places place → running.world.Usable place) {attempts : Nat}
    (returned : read computation attempts place running = (.ok allocation, ended)) :
    ended.world.AtHome place allocation := by
  have arrives := reachable.arrives_beginRead (usable place inside)
  unfold read at returned
  generalize running.world.beginRead place = begun at arrives returned
  cases arrives with
  | home works home =>
      cases returned
      exact home
  | computes works =>
      have moves := works.moves reachable (usable place inside)
      exact sustains.settle inside attempts _ _ moves.reachable
        (fun other within => moves.usable other (usable other within)) returned

/-- Tasks are computations of this kind, for the places that they work on. -/
theorem sustains_task (task : Task) (within : task.Within places) :
    Sustains places (task.run machine) := by
  intro running reachable usable
  have matched : Matches places running ⟨running.world.cell, running.own⟩ :=
    ⟨reachable, usable, rfl, fun _ _ => rfl⟩
  have returns := simulates_run task within running _ matched
  exact ⟨returns.matched.reachable, returns.matched.usable⟩

end Running

/-- Reads end at home. In every world that can come about, whenever a read returns a value,
whatever its computations have done to the world, its place is bound to the value under the
current generation and the definition's home slot holds a live entry with the value; so the
same read done again at once, with whatever computation, returns the value and only counts a
hit. The same is true after every put that changes anything. And a lookup that finds a value
behind its home slot always moves it there. -/
theorem reads_end_at_home {ρ : Type} {places : Place → Prop} {computation : Computation ρ}
    {place : Place} {running : Running ρ} (sustains : Running.Sustains places computation)
    (inside : places place) (reachable : World.Reachable running.world)
    (usable : ∀ place, places place → running.world.Usable place) :
    (∀ attempts allocation ended,
      Running.read computation attempts place running = (.ok allocation, ended) →
        ended.world.AtHome place allocation ∧
        ∀ (again : Computation ρ) more, Running.read again more place ended =
          (.ok allocation, { ended with world := ended.world.count .homeHits })) ∧
    (∀ allocation, (running.world.operate place (.change allocation)).1 = .changed true →
      (running.world.put place allocation).AtHome place allocation ∧
      ∀ (again : Computation ρ) more own,
        Running.read again more place ⟨running.world.put place allocation, own⟩ =
          (.ok allocation, ⟨(running.world.put place allocation).count .homeHits, own⟩)) ∧
    ∀ position allocation,
      (running.world.openStore place.context).store.table.probeHome
        (running.world.registry.hash place.definition)
        (running.world.registry.current place.definition) = none →
      (running.world.openStore place.context).store.table.probeBackup
        (running.world.openStore place.context).store.config.probeLimit
        (running.world.registry.hash place.definition)
        (running.world.registry.current place.definition) = some (position, allocation) →
      ∃ promoted, (running.world.count .backupHits).operate place
          (.promote (running.world.openStore place.context).store.table.capacity) =
            (.promoted true, promoted) ∧
        running.world.lookup place = (some allocation, promoted.count .relocations) ∧
        promoted.AtHome place allocation := by
  refine ⟨?_, ?_, ?_⟩
  · intro attempts allocation ended returned
    have home := sustains.atHome_read inside reachable usable returned
    exact ⟨home, fun again more => Running.read_atHome home more⟩
  · intro allocation effective
    have home := reachable.atHome_put (usable place inside) effective
    exact ⟨home, fun again more own => Running.read_atHome home more⟩
  · intro position allocation missed answered
    exact reachable.lookup_behind (usable place inside) missed answered

/-- In the small world a computation that puts a value where it is computed itself is overtaken
by it. The value is at home afterwards, and a computation that would fail is not run. -/
theorem reads_end_at_home_small :
    let computation := (Task.put ⟨0, 0⟩ ⟨9⟩ (.finish (.ok ⟨7⟩))).run Running.machine
    let ended := (Running.read computation 2 ⟨0, 0⟩ ⟨World.small, []⟩).2
    ended.world.AtHome ⟨0, 0⟩ ⟨9⟩ ∧
      (Running.read ((Task.finish (.error (.error "unreached"))).run Running.machine) 1 ⟨0, 0⟩
        ended).1 = .ok ⟨9⟩ := by
  have within : (Task.put ⟨0, 0⟩ ⟨9⟩ (.finish (.ok ⟨7⟩))).Within (· = ⟨0, 0⟩) := ⟨rfl, trivial⟩
  have ends := reads_end_at_home (Running.sustains_task _ within) rfl
    (show World.Reachable (Running.mk World.small []).world from World.reachable_small)
    (by rintro place rfl; exact World.usable_small)
  obtain ⟨home, again⟩ := ends.1 2 ⟨9⟩ _ (Prod.ext rfl rfl)
  exact ⟨home, congrArg Prod.fst (again _ 1)⟩

end ContextCache
