import ContextCache.Proofs.Reader.Pieces
import ContextCache.Proofs.Reader.Tasks

/-!
Contract: tables, generations and growth cannot be observed.

The two machines are run side by side. A cell tells whether its place is unbound, promised
or bound to a value, and not under which generation. What carries the argument over nested
reads is that a computation leaves no promise behind: a promise that is bound when it ends
was bound when it began. So a read that finds a promise after its computation finds its own.

Owns:
- the cells of a world;
- that a read on contexts does what a read on cells does, if its computation does;
- that whole tasks return the same and observe the same.

Does not own: several clients at once.
-/

set_option autoImplicit false

namespace ContextCache

/-- What a binding is to a reader. -/
def Cell.of : Option Entry → Cell
  | none => .unbound
  | some entry =>
    match entry.value? with
    | some allocation => .bound allocation
    | none => .pending

/-- What a place is to a reader. -/
def World.cell (world : World) (place : Place) : Cell :=
  Cell.of (world.binding? place)

namespace World

variable {world before after : World} {place : Place} {token : Token} {allocation : Allocation}

/-! ### Cells -/

theorem cell_of_value? (held : world.value? place = some allocation) :
    world.cell place = .bound allocation := by
  obtain ⟨entry, bound, carries⟩ := Option.bind_eq_some_iff.mp held
  unfold cell binding?
  rw [bound]
  simp [Cell.of, carries]

theorem cell_of_promise (promised : world.binding? place = some (.promise token)) :
    world.cell place = .pending := by
  unfold cell
  rw [promised]
  rfl

theorem cell_of_unbound (unbound : world.binding? place = none) : world.cell place = .unbound := by
  unfold cell
  rw [unbound]
  rfl

theorem value?_of_promise (promised : world.binding? place = some (.promise token)) :
    world.value? place = none :=
  OpenStore.value?_of_binding? promised

/-- A place without a value is unbound or promised. -/
theorem Reachable.vacant (reachable : Reachable world) (vacant : world.value? place = none) :
    world.binding? place = none ∨ ∃ token, world.binding? place = some (.promise token) :=
  (reachable.sound place.context).vacant vacant

/-! ### Promises -/

/-- Every promise at these places was there before. -/
def Settles (places : Place → Prop) (before after : World) : Prop :=
  ∀ place, places place → ∀ token, after.binding? place = some (.promise token) →
    before.binding? place = some (.promise token)

/-- The same, at all places but one. -/
def SettlesElsewhere (places : Place → Prop) (place : Place) (before after : World) : Prop :=
  Settles (fun other => places other ∧ other ≠ place) before after

variable {places : Place → Prop}

theorem Settles.trans {first second third : World} (earlier : Settles places first second)
    (later : Settles places second third) : Settles places first third :=
  fun place inside token promised =>
    earlier place inside token (later place inside token promised)

theorem Settles.refl (places : Place → Prop) (world : World) : Settles places world world :=
  fun _ _ _ promised => promised

theorem SettlesElsewhere.trans {first second third : World}
    (earlier : SettlesElsewhere places place first second)
    (later : SettlesElsewhere places place second third) :
    SettlesElsewhere places place first third :=
  Settles.trans earlier later

theorem Settles.elsewhere (settles : Settles places before after) (place : Place) :
    SettlesElsewhere places place before after :=
  fun other inside => settles other inside.1

theorem Moves.settlesElsewhere (moves : Moves place before after)
    (usable : ∀ other, places other → before.Usable other) :
    SettlesElsewhere places place before after := by
  intro other inside token promised
  rw [← moves.binding other inside.2 (usable other inside.1)]
  exact promised

/-- A place that ends without a promise settles with all others. -/
theorem SettlesElsewhere.settles (settles : SettlesElsewhere places place before after)
    (unpromised : ∀ token, after.binding? place ≠ some (.promise token)) :
    Settles places before after := by
  intro other inside token promised
  by_cases same : other = place
  · subst same
    exact absurd promised (unpromised token)
  · exact settles other ⟨inside, same⟩ token promised

theorem unpromised_of_value? (held : world.value? place = some allocation) :
    ∀ token, world.binding? place ≠ some (.promise token) := by
  intro token promised
  exact absurd ((value?_of_promise promised).symm.trans held) (by simp)

end World

/-! ### Two machines side by side -/

/-- A world and a map of cells that cannot be told apart at these places. -/
structure Matches (places : Place → Prop) (running : Running Log) (plain : Plain) : Prop where
  reachable : World.Reachable running.world
  usable : ∀ place, places place → running.world.Usable place
  own : running.own = plain.own
  cells : ∀ place, places place → running.world.cell place = plain.cells place

/-- Both machines have returned the same, still cannot be told apart, and no promise is left
that was not there before. -/
structure Returns (places : Place → Prop) (before : World)
    (actual : Except Failure Allocation × Running Log)
    (expected : Except Failure Allocation × Plain) : Prop where
  same : actual.1 = expected.1
  matched : Matches places actual.2 expected.2
  settles : World.Settles places before actual.2.world

/-- What the first does on a world is what the second does on cells. -/
def Simulates (places : Place → Prop) (actual : Computation Log)
    (expected : Plain → Except Failure Allocation × Plain) : Prop :=
  ∀ running plain, Matches places running plain →
    Returns places running.world (actual running) (expected plain)

variable {places : Place → Prop} {running : Running Log} {plain : Plain} {place : Place}
  {before after : World} {token : Token} {allocation : Allocation}

/-- Work on one place is matched by setting its cell. -/
theorem Matches.move (matched : Matches places running plain)
    (moves : World.Moves place running.world after) {cell : Cell}
    (same : after.cell place = cell) :
    Matches places { running with world := after } (plain.set place cell) where
  reachable := moves.reachable
  usable := fun other inside => moves.usable other (matched.usable other inside)
  own := matched.own
  cells := by
    intro other inside
    unfold Plain.set
    dsimp only
    split
    · next worked =>
        rw [worked]
        exact same
    · next elsewhere =>
        have kept := moves.binding other elsewhere (matched.usable other inside)
        exact (congrArg Cell.of kept).trans (matched.cells other inside)

/-- Work that binds nothing needs no match. -/
theorem Matches.rest (matched : Matches places running plain)
    (rests : World.Rests running.world after) :
    Matches places { running with world := after } plain where
  reachable := rests.reachable
  usable := fun other inside => rests.usable other (matched.usable other inside)
  own := matched.own
  cells := fun other inside =>
    (congrArg Cell.of (rests.binding other (matched.usable other inside))).trans
      (matched.cells other inside)

/-- Setting a cell to what it is changes nothing. -/
theorem Plain.set_self (plain : Plain) (place : Place) :
    plain.set place (plain.cells place) = plain := by
  unfold Plain.set
  cases plain with
  | mk cells own =>
      simp only [Plain.mk.injEq, and_true]
      funext other
      split
      · next same => rw [same]
      · rfl

theorem Matches.note (matched : Matches places running plain) (observation : Observation) :
    Matches places (Running.machine.note observation running)
      (Plain.machine.note observation plain) where
  reachable := matched.reachable
  usable := matched.usable
  own := congrArg (List.cons observation) matched.own
  cells := matched.cells

theorem Matches.enter_value (matched : Matches places running plain) (inside : places place)
    (held : running.world.value? place = some allocation) :
    plain.enter place = (some allocation, plain) := by
  have cell := (matched.cells place inside).symm.trans (World.cell_of_value? held)
  unfold Plain.enter
  rw [cell]

theorem Matches.enter_vacant (matched : Matches places running plain) (inside : places place)
    (vacant : running.world.value? place = none) :
    plain.enter place = (none, plain.set place .pending) := by
  have cell := matched.cells place inside
  unfold Plain.enter
  rw [← cell]
  rcases matched.reachable.vacant vacant with unbound | ⟨token, promised⟩
  · rw [World.cell_of_unbound unbound]
  · rw [World.cell_of_promise promised]

theorem Matches.pending_iff (matched : Matches places running plain) (inside : places place) :
    plain.cells place = .pending ↔
      ∃ token, running.world.binding? place = some (.promise token) := by
  rw [← matched.cells place inside]
  constructor
  · intro pending
    cases held : running.world.value? place with
    | some allocation =>
        rw [World.cell_of_value? held] at pending
        cases pending
    | none =>
        rcases matched.reachable.vacant held with unbound | promised
        · rw [World.cell_of_unbound unbound] at pending
          cases pending
        · exact promised
  · rintro ⟨token, promised⟩
    exact World.cell_of_promise promised

/-! ### One read -/

/-- Failing takes the promise back if it is still bound, and withdraws a pending cell. -/
theorem Matches.fail (matched : Matches places running plain) (inside : places place)
    (own : ∀ other, running.world.binding? place = some (.promise other) → other = token)
    (settles : World.SettlesElsewhere places place before running.world) (failure : Failure) :
    Returns places before (running.fail place (.promise token) failure)
      (.error failure, plain.withdraw place) := by
  have usable := matched.usable place inside
  by_cases promised : running.world.binding? place = some (.promise token)
  · have moves := (World.works_retract running.world place token).moves matched.reachable usable
    have unbound := World.retract_promised (matched.reachable.serves usable) promised
    have withdraws : plain.withdraw place = plain.set place .unbound :=
      if_pos ((matched.pending_iff inside).mpr ⟨token, promised⟩)
    rw [withdraws]
    refine ⟨rfl, matched.move moves (World.cell_of_unbound unbound), ?_⟩
    apply (settles.trans (moves.settlesElsewhere matched.usable)).settles
    intro other promisedStill
    exact absurd (unbound.symm.trans promisedStill) (by simp)
  · have unpromised : ∀ other, running.world.binding? place ≠ some (.promise other) := by
      intro other promisedToo
      apply promised
      rwa [← own other promisedToo]
    have rests := (World.works_retract running.world place token).leaves matched.reachable usable
      (World.retract_superseded (matched.reachable.serves usable) promised)
    have withdraws : plain.withdraw place = plain := by
      apply if_neg
      intro pending
      obtain ⟨other, promisedToo⟩ := (matched.pending_iff inside).mp pending
      exact unpromised other promisedToo
    rw [withdraws]
    refine ⟨rfl, matched.rest rests, ?_⟩
    apply (settles.trans ((rests.moves place).settlesElsewhere matched.usable)).settles
    intro other promisedStill
    apply unpromised other
    rw [← rests.binding place usable]
    exact promisedStill

/-- A value that answers a read settles its place. -/
theorem Matches.answer (matched : Matches places running plain)
    (settles : World.SettlesElsewhere places place before running.world)
    (moves : World.Moves place running.world after) (bound : after.value? place = some allocation)
    {cell : Plain} (cells : cell = plain.set place (.bound allocation)) :
    Returns places before (.ok allocation, { running with world := after }) (.ok allocation, cell) := by
  subst cells
  refine ⟨rfl, matched.move moves (World.cell_of_value? bound), ?_⟩
  exact (settles.trans (moves.settlesElsewhere matched.usable)).settles
    (World.unpromised_of_value? bound)

theorem Matches.set_value (matched : Matches places running plain) (inside : places place)
    (held : running.world.value? place = some allocation) :
    plain = plain.set place (.bound allocation) := by
  have cell := (matched.cells place inside).symm.trans (World.cell_of_value? held)
  rw [← cell]
  exact (plain.set_self place).symm

/-- Where a read of the place has got to on both machines: it has its answer, or it computes
under a promise that is bound. -/
inductive Enters (places : Place → Prop) (place : Place) (before : World) (own : Log) :
    ReadStep × World → Option Allocation × Plain → Prop where
  | answered {allocation : Allocation} {world : World} {plain : Plain}
      (returns : Returns places before (.ok allocation, ⟨world, own⟩) (.ok allocation, plain)) :
      Enters places place before own (.answered allocation, world) (some allocation, plain)
  | computes {token : Token} {world : World} {plain : Plain}
      (matched : Matches places ⟨world, own⟩ plain)
      (promised : world.binding? place = some (.promise token))
      (settles : World.SettlesElsewhere places place before world) :
      Enters places place before own (.compute (.promise token), world) (none, plain)

/-- A read that returns the value there is, and computes where there is none. -/
theorem Matches.enters {step : ReadStep × World} (matched : Matches places running plain)
    (inside : places place)
    (settles : World.SettlesElsewhere places place before running.world)
    (returns : ∀ allocation, running.world.value? place = some allocation →
      ∃ begun, step = (.answered allocation, begun) ∧ World.Works place running.world begun ∧
        begun.value? place = some allocation)
    (computes : running.world.value? place = none →
      ∃ token begun, step = (.compute (.promise token), begun) ∧
        World.Works place running.world begun ∧ begun.binding? place = some (.promise token)) :
    Enters places place before running.own step (plain.enter place) := by
  have usable := matched.usable place inside
  cases held : running.world.value? place with
  | some allocation =>
      obtain ⟨begun, same, works, bound⟩ := returns allocation held
      rw [same, matched.enter_value inside held]
      exact .answered (matched.answer settles (works.moves matched.reachable usable) bound
        (matched.set_value inside held))
  | none =>
      obtain ⟨token, begun, same, works, bound⟩ := computes held
      have moves := works.moves matched.reachable usable
      rw [same, matched.enter_vacant inside held]
      exact .computes (matched.move moves (World.cell_of_promise bound)) bound
        (settles.trans (moves.settlesElsewhere matched.usable))

theorem Matches.enters_beginRead (matched : Matches places running plain) (inside : places place)
    (settles : World.SettlesElsewhere places place before running.world) :
    Enters places place before running.own (running.world.beginRead place) (plain.enter place) :=
  have serves := matched.reachable.serves (matched.usable place inside)
  matched.enters inside settles (fun _ => World.beginRead_value serves)
    (World.beginRead_vacant serves)

theorem Matches.enters_startEntry (matched : Matches places running plain) (inside : places place)
    (settles : World.SettlesElsewhere places place before running.world) :
    Enters places place before running.own (running.world.startEntry place) (plain.enter place) :=
  have serves := matched.reachable.serves (matched.usable place inside)
  matched.enters inside settles (fun _ => World.startEntry_value serves)
    (World.startEntry_vacant serves)

/-- A value is bound while its place is pending. Otherwise the place is entered again. -/
def Plain.publish (plain : Plain) (place : Place) (allocation : Allocation) :
    Option Allocation × Plain :=
  if plain.cells place = .pending then (some allocation, plain.set place (.bound allocation))
  else plain.enter place

/-- A value that is handed in answers the read if its promise is still bound. Otherwise the
place is entered again. -/
theorem Matches.enters_publish (matched : Matches places running plain) (inside : places place)
    (own : ∀ other, running.world.binding? place = some (.promise other) → other = token)
    (settles : World.SettlesElsewhere places place before running.world)
    (allocation : Allocation) :
    Enters places place before running.own (running.world.publish place (.promise token) allocation)
      (plain.publish place allocation) := by
  have usable := matched.usable place inside
  have serves := matched.reachable.serves usable
  unfold Plain.publish
  by_cases promised : running.world.binding? place = some (.promise token)
  · obtain ⟨finished, publishes, works, bound⟩ := World.publish_promised serves promised allocation
    rw [publishes, if_pos ((matched.pending_iff inside).mpr ⟨token, promised⟩)]
    exact .answered
      (matched.answer settles (works.moves matched.reachable usable) bound rfl)
  · obtain ⟨discarded, publishes, works, same⟩ :=
      World.publish_superseded serves promised allocation
    have unpending : ¬ plain.cells place = .pending := by
      intro pending
      obtain ⟨other, promisedToo⟩ := (matched.pending_iff inside).mp pending
      apply promised
      rwa [← own other promisedToo]
    have rests := works.leaves matched.reachable usable same
    rw [publishes, if_neg unpending]
    exact (matched.rest rests).enters_startEntry inside
      (settles.trans ((rests.moves place).settlesElsewhere matched.usable))

variable {computation : Computation Log}
  {plainComputation : Plain → Except Failure Allocation × Plain}

/-- One round of the loop on cells. -/
theorem Plain.settle_succ (attempts : Nat) (plain : Plain) :
    Plain.settle plainComputation place (attempts + 1) plain =
      match plainComputation plain with
      | (.error failure, computed) => (.error failure, computed.withdraw place)
      | (.ok allocation, computed) =>
        match computed.publish place allocation with
        | (some answer, entered) => (.ok answer, entered)
        | (none, entered) => Plain.settle plainComputation place attempts entered := by
  rw [Plain.settle]
  generalize plainComputation plain = ended
  obtain ⟨result, computed⟩ := ended
  cases result with
  | error failure => rfl
  | ok allocation =>
      dsimp only
      unfold publish
      split <;> rfl

/-- The loop around the computations of one read. The promise that is handed on is bound
whenever a computation begins, and no other promise of the place is bound when it ends. -/
theorem Simulates.settle (simulates : Simulates places computation plainComputation)
    (inside : places place) (attempts : Nat) :
    ∀ (running : Running Log) (plain : Plain) (token : Token), Matches places running plain →
      running.world.binding? place = some (.promise token) →
      World.SettlesElsewhere places place before running.world →
      Returns places before (Running.settle computation place attempts (.promise token) running)
        (Plain.settle plainComputation place attempts plain) := by
  induction attempts with
  | zero =>
      intro running plain token matched promised settles
      apply matched.fail inside ?_ settles
      intro other promisedToo
      exact (Entry.promise.inj (Option.some.inj (promised.symm.trans promisedToo))).symm
  | succ attempts inductionHypothesis =>
      intro running plain token matched promised settles
      obtain ⟨same, matchedAfter, settlesAfter⟩ := simulates running plain matched
      rw [Plain.settle_succ]
      unfold Running.settle
      generalize computation running = actual at same matchedAfter settlesAfter
      generalize plainComputation plain = expected at same matchedAfter
      obtain ⟨result, computed⟩ := actual
      obtain ⟨plainResult, plainComputed⟩ := expected
      dsimp only at same matchedAfter settlesAfter
      subst same
      -- The computation left no promise of its own, so a promise found now is the old one.
      have own : ∀ other, computed.world.binding? place = some (.promise other) →
          other = token := by
        intro other promisedToo
        have promisedBefore := settlesAfter place inside other promisedToo
        exact (Entry.promise.inj (Option.some.inj (promised.symm.trans promisedBefore))).symm
      have settlesThen := settles.trans (settlesAfter.elsewhere place)
      cases result with
      | error failure => exact matchedAfter.fail inside own settlesThen failure
      | ok allocation =>
          have enters := matchedAfter.enters_publish inside own settlesThen allocation
          dsimp only
          generalize computed.world.publish place (.promise token) allocation = step at enters ⊢
          generalize plainComputed.publish place allocation = entered at enters ⊢
          cases enters with
          | answered returns => exact returns
          | computes matched promised settles =>
              exact inductionHypothesis _ _ _ matched promised settles

/-- A read on contexts does what a read on cells does, if its computation does. -/
theorem Simulates.read (simulates : Simulates places computation plainComputation)
    (inside : places place) (attempts : Nat) :
    Simulates places (Running.read computation attempts place)
      (Plain.get plainComputation attempts place) := by
  intro running plain matched
  have settled := (World.Settles.refl places running.world).elsewhere place
  have enters := matched.enters_beginRead inside settled
  unfold Running.read Plain.get
  generalize running.world.beginRead place = step at enters ⊢
  generalize plain.enter place = entered at enters ⊢
  cases enters with
  | answered returns => exact returns
  | computes matched promised settles =>
      exact simulates.settle inside attempts _ _ _ matched promised settles

/-! ### Removing and putting -/

theorem Matches.remove (matched : Matches places running plain) (inside : places place) :
    Matches places (Running.machine.remove place running) (plain.remove place) ∧
      World.Settles places running.world (Running.machine.remove place running).world := by
  have usable := matched.usable place inside
  have works := World.works_remove running.world place
  have settled := (World.Settles.refl places running.world).elsewhere place
  cases held : running.world.value? place with
  | some allocation =>
      have moves := works.moves matched.reachable usable
      have unbound := World.remove_value (matched.reachable.serves usable) held
      have cell := (matched.cells place inside).symm.trans (World.cell_of_value? held)
      have removes : plain.remove place = plain.set place .unbound := by
        unfold Plain.remove
        rw [cell]
      rw [removes]
      refine ⟨matched.move moves (World.cell_of_unbound unbound), ?_⟩
      apply (settled.trans (moves.settlesElsewhere matched.usable)).settles
      intro token promised
      exact absurd (unbound.symm.trans promised) (by simp)
  | none =>
      have rests := works.leaves matched.reachable usable
        (World.remove_vacant (matched.reachable.serves usable) held)
      have removes : plain.remove place = plain := by
        unfold Plain.remove
        rw [← matched.cells place inside]
        rcases matched.reachable.vacant held with unbound | ⟨token, promised⟩
        · rw [World.cell_of_unbound unbound]
        · rw [World.cell_of_promise promised]
      rw [removes]
      refine ⟨matched.rest rests, ?_⟩
      intro other insideToo token promised
      exact (rests.binding other (matched.usable other insideToo)).symm.trans promised

theorem Matches.put (matched : Matches places running plain) (inside : places place)
    (allocation : Allocation) :
    Matches places (Running.machine.put place allocation running)
        (Plain.machine.put place allocation plain) ∧
      World.Settles places running.world (Running.machine.put place allocation running).world := by
  have usable := matched.usable place inside
  have settled := (World.Settles.refl places running.world).elsewhere place
  have moves := (World.works_put running.world place allocation).moves matched.reachable usable
  have bound := World.put_value (matched.reachable.serves usable) allocation
  refine ⟨matched.move moves (World.cell_of_value? bound), ?_⟩
  exact (settled.trans (moves.settlesElsewhere matched.usable)).settles
    (World.unpromised_of_value? bound)

/-! ### Tasks -/

/-- What comes after work that leaves no promise behind settles with it. -/
theorem Returns.following {middle : World} {actual : Except Failure Allocation × Running Log}
    {expected : Except Failure Allocation × Plain} (returns : Returns places middle actual expected)
    (settles : World.Settles places before middle) : Returns places before actual expected :=
  ⟨returns.same, returns.matched, settles.trans returns.settles⟩

/-- Every task does the same on both machines. -/
theorem simulates_run (task : Task) (within : task.Within places) :
    Simulates places (task.run Running.machine) (task.run Plain.machine) := by
  induction task with
  | finish result =>
      intro running plain matched
      exact ⟨rfl, matched, World.Settles.refl places running.world⟩
  | get place attempts body next bodyHypothesis nextHypothesis =>
      intro running plain matched
      obtain ⟨inside, bodyWithin, nextWithin⟩ := within
      let actual : Computation Log := fun begun =>
        let noted := Running.machine.note (.began place) begun
        (body noted.own).run Running.machine noted
      let expected : Plain → Except Failure Allocation × Plain := fun begun =>
        let noted := Plain.machine.note (.began place) begun
        (body noted.own).run Plain.machine noted
      have computes : Simulates places actual expected := by
        intro begun plainBegun matchedBegun
        have noted := matchedBegun.note (.began place)
        have sameLog : (Running.machine.note (.began place) begun).own =
            (Plain.machine.note (.began place) plainBegun).own := noted.own
        show Returns places begun.world _ ((body _).run Plain.machine _)
        rw [← sameLog]
        exact bodyHypothesis _ (bodyWithin _) _ _ noted
      obtain ⟨same, reached, settles⟩ := computes.read inside attempts running plain matched
      show Returns places running.world
        ((next (Running.read actual attempts place running).1).run Running.machine
          (Running.machine.note (.got place (Running.read actual attempts place running).1)
            (Running.read actual attempts place running).2))
        ((next (Plain.get expected attempts place plain).1).run Plain.machine
          (Plain.machine.note (.got place (Plain.get expected attempts place plain).1)
            (Plain.get expected attempts place plain).2))
      rw [same]
      have noted := reached.note (.got place (Plain.get expected attempts place plain).1)
      have continued := nextHypothesis (Plain.get expected attempts place plain).1
        (nextWithin _) _ _ noted
      exact continued.following settles
  | remove place next inductionHypothesis =>
      intro running plain matched
      obtain ⟨removed, settles⟩ := matched.remove within.1
      exact (inductionHypothesis within.2 _ _ (removed.note (.removed place))).following settles
  | put place allocation next inductionHypothesis =>
      intro running plain matched
      obtain ⟨changed, settles⟩ := matched.put within.1 allocation
      exact (inductionHypothesis within.2 _ _ (changed.note (.put place allocation))).following settles

theorem matches_cell {world : World} (reachable : World.Reachable world) (log : Log) :
    Matches world.Usable ⟨world, log⟩ ⟨world.cell, log⟩ :=
  ⟨reachable, fun _ usable => usable, rfl, fun _ _ => rfl⟩

/-- Tasks take steps of the protocol only, so whatever holds of all worlds that can come about
holds of those that tasks leave behind. -/
theorem World.Reachable.run_task {world : World} (reachable : World.Reachable world) (task : Task)
    (within : task.Within world.Usable) (log : Log) :
    World.Reachable (task.run Running.machine ⟨world, log⟩).2.world :=
  (simulates_run task within _ _ (matches_cell reachable log)).matched.reachable

/-- Contexts refine plain cells. From every world that can come about, every task returns
what it returns on cells, observes the same in all its nested reads, and leaves every place
as it leaves the cell. -/
theorem contexts_refine_cells {world : World} (reachable : World.Reachable world) (task : Task)
    (within : task.Within world.Usable) (log : Log) :
    (task.run Running.machine ⟨world, log⟩).1 = (task.run Plain.machine ⟨world.cell, log⟩).1 ∧
      (task.run Running.machine ⟨world, log⟩).2.own =
        (task.run Plain.machine ⟨world.cell, log⟩).2.own ∧
      ∀ place, world.Usable place →
        (task.run Running.machine ⟨world, log⟩).2.world.cell place =
          (task.run Plain.machine ⟨world.cell, log⟩).2.cells place := by
  obtain ⟨same, ended, -⟩ := simulates_run task within _ _ (matches_cell reachable log)
  exact ⟨same, ended.own, ended.cells⟩

/-- A computation that puts a value where it is computed itself. -/
def overtaken : Task :=
  .get ⟨0, 0⟩ 2 (fun _ => .put ⟨0, 0⟩ ⟨9⟩ (.finish (.ok ⟨7⟩))) .finish

/-- In the small world the value that was put is returned, as it is on cells. -/
theorem contexts_refine_cells_small :
    (overtaken.run Running.machine ⟨World.small, []⟩).1 = .ok ⟨9⟩ :=
  (contexts_refine_cells World.reachable_small overtaken
    ⟨World.usable_small, fun _ => ⟨World.usable_small, trivial⟩, fun _ => trivial⟩ []).1.trans rfl

end ContextCache
