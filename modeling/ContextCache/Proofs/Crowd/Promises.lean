import ContextCache.Proofs.Crowd.Steps
import ContextCache.Proofs.World.Inspection

/-!
Contract: no promise is bound that nobody is computing under.

Promises are shared: all readers of a generation get the same one, whoever bound it, and it
may be replaced while they compute. A promise is nevertheless attended as long as it is
bound, because the last reader that lets go of it hands it in, and handing in takes away
what is bound or finds that it is bound no more.

Owns:
- the promises that may be bound after a step;
- that every bound promise is attended in every crowd that can come about.

Does not own: what becomes of the values that readers hand in.
-/

set_option autoImplicit false

namespace ContextCache

/-- Whether the step gives up the promise of the token, with a value or without one. -/
def Operation.handsIn (token : Token) : Operation → Bool
  | .commit own _ => own == token
  | .retract own => own == token
  | _ => false

namespace OpenStore

variable {before after : OpenStore} {key : DefinitionKey} {operation : Operation}
  {outcome : Outcome} {token : Token}

/-- A promise that a step leaves bound was bound before and has not been handed in, or is the
one that the step has started. -/
theorem Effect.promised_before (effect : Effect before after key operation outcome)
    (alive : before.registry.isAlive key = true)
    (promised : after.store.binding? key = some (.promise token)) :
    before.store.binding? key = some (.promise token) ∧ operation.handsIn token = false ∨
      operation = .start ∧ outcome = .started (.promise token) := by
  cases effect with
  | probed same => exact Or.inl ⟨same ▸ promised, rfl⟩
  | promoted kept => exact Or.inl ⟨(kept.binding key alive).symm.trans promised, rfl⟩
  | promised vacant registry bound =>
      have same := Option.some.inj (bound.symm.trans promised)
      exact Or.inr ⟨rfl, congrArg Outcome.started same⟩
  | answered held registry bound => exact absurd (bound.symm.trans promised) (by simp)
  | committed promisedBefore registry bound =>
      exact absurd (bound.symm.trans promised) (by simp)
  | @discarded own allocation superseded registry same =>
      rw [same] at promised
      refine Or.inl ⟨promised, beq_eq_false_iff_ne.mpr ?_⟩
      rintro rfl
      exact superseded promised
  | retracted promisedBefore registry unbound =>
      exact absurd (unbound.symm.trans promised) (by simp)
  | @ignored own superseded same =>
      rw [same] at promised
      refine Or.inl ⟨promised, beq_eq_false_iff_ne.mpr ?_⟩
      rintro rfl
      exact superseded promised
  | removed held unbound advanced => exact absurd (unbound.symm.trans promised) (by simp)
  | absent vacant same => exact Or.inl ⟨same ▸ promised, rfl⟩
  | changed unbacked advanced bound => exact absurd (bound.symm.trans promised) (by simp)
  | unchanged backs same => exact Or.inl ⟨same ▸ promised, rfl⟩

end OpenStore

namespace World

variable {world after : World} {place other : Place} {operation : Operation} {token : Token}
  {event : Event}

/-- A step binds nothing new to another place, whether the definition there exists or not. -/
theorem binding?_of_operate (usable : world.Usable place) (differs : other ≠ place)
    {entry : Entry} (bound : (world.operate place operation).2.binding? other = some entry) :
    world.binding? other = some entry := by
  by_cases sameContext : other.context = place.context
  · have elsewhere : other.definition ≠ place.definition := by
      intro sameDefinition
      apply differs
      cases other
      cases place
      simp_all
    exact (edited_operate usable operation other.context).binding? elsewhere bound
  · unfold binding? at bound ⊢
    rwa [store_operate_ne sameContext] at bound

theorem Sound.promised_before (sound : world.Sound) (usable : world.Usable place)
    (promised : (world.operate place operation).2.binding? other = some (.promise token)) :
    world.binding? other = some (.promise token) ∧
        (other = place → operation.handsIn token = false) ∨
      other = place ∧ operation = .start ∧
        (world.operate place operation).1 = .started (.promise token) := by
  by_cases same : other = place
  · subst same
    rcases (sound.effect_operate usable operation).promised_before usable.alive promised with
      ⟨before, kept⟩ | ⟨starts, started⟩
    · exact Or.inl ⟨before, fun _ => kept⟩
    · exact Or.inr ⟨rfl, starts, started⟩
  · exact Or.inl ⟨binding?_of_operate usable same promised, fun absurdly => absurd absurdly same⟩

/-- Without readers no promise is bound anew. -/
theorem Sound.promised_before_unread (sound : world.Sound) (step : Step world event after)
    (unread : event.isOfRead = false)
    (promised : after.binding? place = some (.promise token)) :
    world.binding? place = some (.promise token) := by
  cases step with
  | operated operation usable =>
      rcases sound.promised_before usable promised with ⟨before, -⟩ | ⟨-, starts, -⟩
      · exact before
      · rw [starts] at unread
        cases unread
  | contextAdded accepted =>
      unfold binding? at promised ⊢
      rcases openStore_addContext accepted place.context with same | ⟨fresh, -⟩
      · rwa [same] at promised
      · rw [fresh] at promised
        cases promised
  | defined => exact (binding?_of_contexts_eq (contexts_withRegistry _ _) place).symm.trans promised
  | _ => exact (binding?_of_contexts_eq rfl place).symm.trans promised

end World

namespace Crowd

variable {crowd after : Crowd} {reader : ReaderKey} {place : Place} {token : Token}
  {happening : Happening}

/-! ### Attended promises -/

/-- Whenever a promise is bound, some reader is computing under it for that place. -/
def Attended (crowd : Crowd) : Prop :=
  ∀ place token, crowd.world.binding? place = some (.promise token) →
    ∃ reader, crowd.stage reader = .computing place token

theorem attended_initial : Crowd.initial.Attended := by
  intro place token promised
  cases promised

/-- One reader moves: it may take up a promise, and must not let go of one that stays bound. -/
theorem Attended.move {world : World} {stage : Stage} (attended : crowd.Attended)
    (handsOver : ∀ place token, world.binding? place = some (.promise token) →
      crowd.world.binding? place = some (.promise token) ∧
          crowd.stage reader ≠ .computing place token ∨
        stage = .computing place token) :
    (crowd.move reader world stage).Attended := by
  intro place token promised
  rcases handsOver place token promised with ⟨before, other⟩ | taken
  · obtain ⟨attendant, computes⟩ := attended place token before
    have differs : attendant ≠ reader := by
      rintro rfl
      exact other computes
    exact ⟨attendant, (stage_move_ne crowd differs _ _).trans computes⟩
  · exact ⟨reader, (stage_move_self crowd reader _ _).trans taken⟩

/-- A reader that holds no promise moves, and leaves the world alone. -/
theorem Attended.rest {stage : Stage} (attended : crowd.Attended)
    (holdsNone : ∀ place token, crowd.stage reader ≠ .computing place token) :
    (crowd.move reader crowd.world stage).Attended :=
  attended.move fun place token promised => Or.inl ⟨promised, holdsNone place token⟩

/-- A reader that hands in its promise leaves it bound nowhere. -/
theorem Attended.handIn {stage : Stage} {operation : Operation} (attended : crowd.Attended)
    (sound : crowd.Sound) (computes : crowd.stage reader = .computing place token)
    (finishes : operation ≠ .start) (handsIn : operation.handsIn token = true) :
    (crowd.move reader (crowd.world.operate place operation).2 stage).Attended := by
  apply attended.move
  intro other promised bound
  rcases sound.reachable.sound.promised_before (sound.usable_computing computes) bound with
    ⟨before, kept⟩ | ⟨-, starts, -⟩
  · refine Or.inl ⟨before, fun computesToo => ?_⟩
    -- The promise would be the one that has just been handed in.
    obtain ⟨rfl, rfl⟩ := Stage.computing.inj (computes.symm.trans computesToo)
    exact absurd (handsIn.symm.trans (kept rfl)) (by decide)
  · exact absurd starts finishes

/-- A reader that has no promise yet starts. -/
theorem Attended.start {stage : Stage} (attended : crowd.Attended) (sound : crowd.Sound)
    (waits : crowd.stage reader = .missed place)
    (takes : ∀ token, (crowd.world.operate place .start).1 = .started (.promise token) →
      stage = .computing place token) :
    (crowd.move reader (crowd.world.operate place .start).2 stage).Attended := by
  apply attended.move
  intro other token bound
  rcases sound.reachable.sound.promised_before (sound.usable_missed waits) bound with
    ⟨before, -⟩ | ⟨rfl, -, started⟩
  · refine Or.inl ⟨before, fun computes => ?_⟩
    cases waits.symm.trans computes
  · exact Or.inr (takes token started)

theorem Attended.step (attended : crowd.Attended) (sound : crowd.Sound)
    (step : Step crowd happening after) : after.Attended := by
  cases step with
  | found free usable answers =>
      exact attended.rest fun _ _ computes => by cases free.symm.trans computes
  | missed free usable =>
      exact attended.rest fun _ _ computes => by cases free.symm.trans computes
  | answered waits started carries =>
      apply attended.start sound waits
      intro token promised
      have entry := Outcome.started.inj (started.symm.trans promised)
      rw [entry] at carries
      cases carries
  | began waits started =>
      apply attended.start sound waits
      intro token promised
      have entry := Outcome.started.inj (started.symm.trans promised)
      rw [Entry.promise.inj entry]
  | committed computes accepted =>
      exact attended.handIn sound computes nofun (beq_self_eq_true _)
  | discarded computes refused =>
      exact attended.handIn sound computes nofun (beq_self_eq_true _)
  | failed computes => exact attended.handIn sound computes nofun (beq_self_eq_true _)
  | returned holds =>
      exact attended.rest fun _ _ computes => by cases holds.symm.trans computes
  | other step unread kept =>
      intro place token promised
      exact attended place token
        (sound.reachable.sound.promised_before_unread step unread promised)

/-- Every crowd that can come about attends to its promises. -/
theorem Reachable.attended (reachable : Reachable crowd) : crowd.Attended := by
  induction reachable with
  | initial => exact attended_initial
  | next reachable step inductionHypothesis =>
      exact inductionHypothesis.step reachable.sound step

end Crowd

end ContextCache
