import ContextCache.Proofs.Crowd.Promises

/-!
Contract: why a value that has been computed comes too late.

A reader's value is accepted exactly if its promise is still bound. Its promise gives way to
a value that somebody else binds; but the promise is not the reader's own. All readers of the
generation have been given the same one, so another reader of the place may hand it in
without a value, or may start under a newer generation and replace it.

Owns:
- what may happen to a bound promise in one step, and over a run;
- the reasons for which a value is thrown away, and that none of them can be left out.

Does not own: how often a reader starts over.
-/

set_option autoImplicit false

namespace ContextCache

/-- What a step does that takes the token's promise away. -/
inductive Outdoes (token : Token) : Operation → Outcome → Prop where
  | renewed {newer : Token} (advanced : token.generation < newer.generation) :
      Outdoes token .start (.started (.promise newer))
  | committed {allocation : Allocation} {entry : Entry} :
      Outdoes token (.commit token allocation) (.finished (some entry))
  | retracted {outcome : Outcome} : Outdoes token (.retract token) outcome
  | changed {allocation : Allocation} : Outdoes token (.change allocation) (.changed true)

namespace OpenStore

variable {before after : OpenStore} {key : DefinitionKey} {operation : Operation}
  {outcome : Outcome} {token : Token}

/-- The promise that is bound belongs to the current generation or to an earlier one. -/
theorem Sound.eq_or_lt_of_promise {opened : OpenStore} (sound : opened.Sound)
    (promised : opened.store.binding? key = some (.promise token)) :
    token = opened.registry.current key ∨
      token.generation < (opened.registry.current key).generation := by
  cases sound.bindable key _ promised with
  | promise own known =>
      subst own
      rcases Nat.lt_or_eq_of_le known.reached with older | current
      · exact Or.inr older
      · exact Or.inl (congrArg (Token.mk token.definition) current)

/-- A bound promise stays bound unless the step takes it away. -/
theorem Effect.promise_after (effect : Effect before after key operation outcome)
    (sound : before.Sound) (alive : before.registry.isAlive key = true)
    (promised : before.store.binding? key = some (.promise token)) :
    after.store.binding? key = some (.promise token) ∨ Outdoes token operation outcome := by
  have vacant : before.store.value? key = none := value?_of_binding? promised
  have own : ∀ other, before.store.binding? key = some (.promise other) → other = token :=
    fun other promisedToo => Entry.promise.inj (Option.some.inj (promisedToo.symm.trans promised))
  cases effect with
  | probed same => exact Or.inl (same ▸ promised)
  | promoted kept => exact Or.inl ((kept.binding key alive).trans promised)
  | promised _ registry bound =>
      rcases sound.eq_or_lt_of_promise promised with current | older
      · rw [← current] at bound
        exact Or.inl bound
      · exact Or.inr (.renewed older)
  | answered held => exact absurd (vacant.symm.trans held) (by simp)
  | @committed serial other allocation promisedToo registry bound =>
      rw [own other promisedToo]
      exact Or.inr .committed
  | discarded superseded registry same =>
      rw [same]
      exact Or.inl promised
  | @retracted other promisedToo registry unbound =>
      rw [own other promisedToo]
      exact Or.inr .retracted
  | ignored superseded same => exact Or.inl (same ▸ promised)
  | removed held => exact absurd (vacant.symm.trans held) (by simp)
  | absent _ same => exact Or.inl (same ▸ promised)
  | changed unbacked advanced bound => exact Or.inr .changed
  | unchanged backs same => exact Or.inl (same ▸ promised)

end OpenStore

namespace World

variable {world : World} {place other : Place} {token : Token}

theorem Sound.promise_after (sound : world.Sound) (usable : world.Usable place)
    (operation : Operation) (usableOther : world.Usable other)
    (promised : world.binding? other = some (.promise token)) :
    (world.operate place operation).2.binding? other = some (.promise token) ∨
      other = place ∧ Outdoes token operation (world.operate place operation).1 := by
  by_cases same : other = place
  · subst same
    exact ((sound.effect_operate usable operation).promise_after (sound other.context)
      usable.alive promised).imp_right fun outdoes => ⟨rfl, outdoes⟩
  · left
    rw [(sound.spares_operate usable operation).binding other same usableOther.alive]
    exact promised

end World

namespace Crowd

variable {crowd start after : Crowd} {reader : ReaderKey} {place : Place} {token : Token}
  {happening : Happening} {happenings : List Happening}

/-! ### What displaces a promise -/

/-- A value is bound to the place. -/
inductive BindsValue (place : Place) : Happening → Prop where
  | committed (reader : ReaderKey) (allocation : Allocation) :
      BindsValue place (.read reader place (.committed allocation))
  | changed (allocation : Allocation) :
      BindsValue place (.other (.operated place (.change allocation) (.changed true)))

/-- A reader of the place whose computation has failed hands in this very promise. -/
inductive HandsBack (place : Place) (token : Token) : Happening → Prop where
  | failed (reader : ReaderKey) : HandsBack place token (.read reader place (.failed token))

/-- A reader of the place begins to compute under the promise of a newer generation. -/
inductive Renews (place : Place) (token : Token) : Happening → Prop where
  | began (reader : ReaderKey) {newer : Token} (advanced : token.generation < newer.generation) :
      Renews place token (.read reader place (.began newer))

/-- A promise stays bound unless a value is bound, or another reader hands the promise back or
renews it. -/
theorem Step.promise_after (step : Step crowd happening after) (sound : crowd.Sound)
    (usable : crowd.world.Usable place)
    (promised : crowd.world.binding? place = some (.promise token)) :
    after.world.binding? place = some (.promise token) ∨ BindsValue place happening ∨
      HandsBack place token happening ∨ Renews place token happening := by
  have world := sound.reachable.sound
  cases step with
  | found | missed | returned => exact Or.inl promised
  | answered waits started carries =>
      rcases world.promise_after (sound.usable_missed waits) .start usable promised with
        kept | ⟨rfl, outdoes⟩
      · exact Or.inl kept
      · rw [started] at outdoes
        cases outdoes
        cases carries
  | began waits started =>
      rcases world.promise_after (sound.usable_missed waits) .start usable promised with
        kept | ⟨rfl, outdoes⟩
      · exact Or.inl kept
      · rw [started] at outdoes
        cases outdoes with
        | renewed advanced => exact Or.inr (Or.inr (Or.inr (.began _ advanced)))
  | @committed _ _ own allocation _ computes accepted =>
      rcases world.promise_after (sound.usable_computing computes) (.commit own allocation) usable
        promised with
        kept | ⟨rfl, -⟩
      · exact Or.inl kept
      · exact Or.inr (Or.inl (.committed _ _))
  | @discarded _ _ own allocation computes refused =>
      rcases world.promise_after (sound.usable_computing computes) (.commit own allocation) usable
        promised with
        kept | ⟨rfl, outdoes⟩
      · exact Or.inl kept
      · rw [refused] at outdoes
        cases outdoes
  | @failed _ _ own computes =>
      rcases world.promise_after (sound.usable_computing computes) (.retract own) usable
        promised with
        kept | ⟨rfl, outdoes⟩
      · exact Or.inl kept
      · cases outdoes with
        | retracted => exact Or.inr (Or.inr (Or.inl (.failed _)))
  | @other event later step unread kept =>
      rcases step.worked_or_elsewhere place with ⟨operation, workable, rfl, rfl⟩ | elsewhere
      · rcases world.promise_after workable operation usable promised with kept | ⟨-, outdoes⟩
        · exact Or.inl kept
        · generalize (crowd.world.operate place operation).1 = outcome at outdoes
          cases outdoes with
          | changed => exact Or.inr (Or.inl (.changed _))
          | _ => cases unread
      · exact Or.inl ((world.binding?_step step usable elsewhere).trans promised)

theorem Run.promise_after (run : Run start happenings after) (sound : start.Sound)
    (elsewhere : ∀ happening ∈ happenings, happening.reader? ≠ some reader)
    (computes : start.stage reader = .computing place token)
    (promised : start.world.binding? place = some (.promise token)) :
    after.world.binding? place = some (.promise token) ∨
      ∃ happening ∈ happenings, BindsValue place happening ∨ HandsBack place token happening ∨
        Renews place token happening := by
  induction run with
  | here => exact Or.inl promised
  | @next earlier latest before after run step inductionHypothesis =>
      have elsewhereBefore : ∀ happening ∈ earlier, happening.reader? ≠ some reader :=
        fun happening member => elsewhere happening (List.mem_cons_of_mem latest member)
      rcases inductionHypothesis elsewhereBefore with kept | ⟨happening, member, displaced⟩
      · have soundBefore := sound.run run
        have stands := (run.stage_eq elsewhereBefore).trans computes
        rcases step.promise_after soundBefore (soundBefore.usable_computing stands) kept with
          still | displaced
        · exact Or.inl still
        · exact Or.inr ⟨latest, List.mem_cons_self .., displaced⟩
      · exact Or.inr ⟨happening, List.mem_cons_of_mem latest member, displaced⟩

/-! ### Values that are thrown away -/

/-- A reader begins to compute for a place under a promise and hands in a value, which is not
accepted. The happenings are what happens meanwhile. -/
inductive Discarded (reader : ReaderKey) (place : Place) (token : Token)
    (happenings : List Happening) : Prop where
  | late {start begun before after : Crowd} {allocation : Allocation}
      (reachable : Reachable start) (began : Step start (.read reader place (.began token)) begun)
      (run : Run begun happenings before)
      (elsewhere : ∀ happening ∈ happenings, happening.reader? ≠ some reader)
      (refused : Step before (.read reader place (.discarded allocation)) after) :
      Discarded reader place token happenings

/-- A reader that begins to compute has its promise bound. -/
theorem Step.began_promise (began : Step crowd (.read reader place (.began token)) after)
    (sound : crowd.Sound) :
    after.stage reader = .computing place token ∧
      after.world.binding? place = some (.promise token) := by
  cases began with
  | began waits started =>
      obtain ⟨-, -, bound⟩ :=
        sound.reachable.sound.start_promised (sound.usable_missed waits) started
      exact ⟨stage_move_self crowd reader _ _, bound⟩

/-- A value is refused only where its reader's promise is not bound. -/
theorem Step.discarded_promise {allocation : Allocation}
    (refused : Step crowd (.read reader place (.discarded allocation)) after)
    (sound : crowd.Sound) (computes : crowd.stage reader = .computing place token) :
    crowd.world.binding? place ≠ some (.promise token) := by
  cases refused with
  | discarded computesToo refused =>
      obtain ⟨-, same⟩ := Stage.computing.inj (computesToo.symm.trans computes)
      rw [same] at refused
      exact (sound.reachable.sound.commit_refused (sound.usable_computing computes) refused).1

/-- Values are thrown away for a reason. Unless another reader of the place has handed back
the very promise under which the value was computed, or has begun under a newer generation,
somebody has bound a value to the place since the reader began. -/
theorem discards_have_reasons (discarded : Discarded reader place token happenings) :
    ∃ happening ∈ happenings, BindsValue place happening ∨ HandsBack place token happening ∨
      Renews place token happening := by
  obtain ⟨reachable, began, run, elsewhere, refused⟩ := discarded
  have reached := reachable.next began
  obtain ⟨computes, promised⟩ := began.began_promise reachable.sound
  have superseded := refused.discarded_promise (reached.run run).sound
    ((run.stage_eq elsewhere).trans computes)
  exact (run.promise_after reached.sound elsewhere computes promised).resolve_left superseded

/-- A second reader has joined the first one, and computes under the same promise. -/
def smallJoined : Crowd :=
  (smallBegun.move 1 smallBegun.world (.missed ⟨0, 0⟩)).move 1
    (smallBegun.world.operate ⟨0, 0⟩ .start).2 (.computing ⟨0, 0⟩ ⟨0, 0⟩)

theorem run_smallJoined :
    Run smallBegun [.read 1 ⟨0, 0⟩ (.began ⟨0, 0⟩), .read 1 ⟨0, 0⟩ .missed] smallJoined := by
  have missed : Step smallBegun (.read 1 ⟨0, 0⟩ .missed) _ := .missed rfl ⟨by decide, by decide⟩
  exact (Run.here.next missed).next (.began (stage_move_self ..) (by decide))

/-- The second reader fails and takes the promise away from the first one. -/
def smallAbandoned : Crowd :=
  smallJoined.move 1 (smallJoined.world.operate ⟨0, 0⟩ (.retract ⟨0, 0⟩)).2 .idle

theorem discarded_after_failure :
    Discarded 0 ⟨0, 0⟩ ⟨0, 0⟩
      [.read 1 ⟨0, 0⟩ (.failed ⟨0, 0⟩), .read 1 ⟨0, 0⟩ (.began ⟨0, 0⟩),
        .read 1 ⟨0, 0⟩ .missed] := by
  have failed : Step smallJoined (.read 1 ⟨0, 0⟩ (.failed ⟨0, 0⟩)) smallAbandoned :=
    .failed (stage_move_self ..)
  have refused : Step smallAbandoned (.read 0 ⟨0, 0⟩ (.discarded ⟨7⟩)) _ :=
    .discarded rfl (by decide)
  exact .late reachable_smallMissed began_smallBegun (run_smallJoined.next failed) (by decide)
    refused

/-- In the small crowd it is the second reader's failure that the first one's value is thrown
away for. -/
theorem discards_have_reasons_small :
    ∃ happening ∈ [.read 1 ⟨0, 0⟩ (.failed ⟨0, 0⟩), .read 1 ⟨0, 0⟩ (.began ⟨0, 0⟩),
        .read 1 ⟨0, 0⟩ .missed],
      BindsValue ⟨0, 0⟩ happening ∨ HandsBack ⟨0, 0⟩ ⟨0, 0⟩ happening ∨
        Renews ⟨0, 0⟩ ⟨0, 0⟩ happening :=
  discards_have_reasons discarded_after_failure

/-! ### No reason can be left out -/

/-- A second context is added to the world in which the first reader computes. -/
def smallWidened : Crowd :=
  { smallBegun with
    world :=
      { smallBegun.world with
        contexts := smallBegun.world.contexts.push ⟨World.smallConfig, none⟩ } }

/-- A value is put into the second context. -/
def smallPut : Crowd :=
  { smallWidened with world := (smallWidened.world.operate ⟨0, 1⟩ (.change ⟨9⟩)).2 }

/-- The value is removed from there again, which ends the generation. -/
def smallBumped : Crowd :=
  { smallPut with world := (smallPut.world.operate ⟨0, 1⟩ .remove).2 }

theorem run_smallBumped :
    Run smallBegun
      [.other (.operated ⟨0, 1⟩ .remove (.removed true)),
        .other (.operated ⟨0, 1⟩ (.change ⟨9⟩) (.changed true)), .other .passed] smallBumped := by
  have accepted : smallBegun.world.addContext World.smallConfig = .ok (1, smallWidened.world) := rfl
  have widened : Step smallBegun (.other .passed) smallWidened :=
    .other (.contextAdded accepted) rfl fun reader place reads =>
      (reachable_smallBegun.sound.usable reader place reads).alive
  have sound := reachable_smallBegun.sound.step widened
  have put : Step smallWidened (.other (.operated ⟨0, 1⟩ (.change ⟨9⟩) (.changed true))) smallPut :=
    sound.step_operate ⟨by decide, by decide⟩ rfl (by decide)
  have removed : Step smallPut (.other (.operated ⟨0, 1⟩ .remove (.removed true))) smallBumped :=
    (sound.step put).step_operate ⟨by decide, by decide⟩ rfl (by decide)
  exact ((Run.here.next widened).next put).next removed

/-- The second reader begins under the new generation and takes the promise away. -/
def smallRenewed : Crowd :=
  (smallBumped.move 1 smallBumped.world (.missed ⟨0, 0⟩)).move 1
    (smallBumped.world.operate ⟨0, 0⟩ .start).2 (.computing ⟨0, 0⟩ ⟨0, 1⟩)

theorem discarded_after_renewal :
    Discarded 0 ⟨0, 0⟩ ⟨0, 0⟩
      [.read 1 ⟨0, 0⟩ (.began ⟨0, 1⟩), .read 1 ⟨0, 0⟩ .missed,
        .other (.operated ⟨0, 1⟩ .remove (.removed true)),
        .other (.operated ⟨0, 1⟩ (.change ⟨9⟩) (.changed true)), .other .passed] := by
  have missed : Step smallBumped (.read 1 ⟨0, 0⟩ .missed) _ := .missed rfl ⟨by decide, by decide⟩
  have began : Step _ (.read 1 ⟨0, 0⟩ (.began ⟨0, 1⟩)) smallRenewed :=
    .began (stage_move_self ..) (by decide)
  have refused : Step smallRenewed (.read 0 ⟨0, 0⟩ (.discarded ⟨7⟩)) _ :=
    .discarded rfl (by decide)
  exact .late reachable_smallMissed began_smallBegun ((run_smallBumped.next missed).next began)
    (by decide) refused

/-- Either of the other readers' reasons may stand alone, with no value bound at all. -/
theorem discards_without_values :
    (∃ happenings, Discarded 0 ⟨0, 0⟩ ⟨0, 0⟩ happenings ∧
      ∀ happening ∈ happenings, ¬ BindsValue ⟨0, 0⟩ happening ∧
        ¬ Renews ⟨0, 0⟩ ⟨0, 0⟩ happening) ∧
    ∃ happenings, Discarded 0 ⟨0, 0⟩ ⟨0, 0⟩ happenings ∧
      ∀ happening ∈ happenings, ¬ BindsValue ⟨0, 0⟩ happening ∧
        ¬ HandsBack ⟨0, 0⟩ ⟨0, 0⟩ happening := by
  refine ⟨⟨_, discarded_after_failure, ?_⟩, ⟨_, discarded_after_renewal, ?_⟩⟩
  · intro happening member
    simp only [List.mem_cons, List.not_mem_nil, or_false] at member
    rcases member with rfl | rfl | rfl
    · exact ⟨nofun, nofun⟩
    · refine ⟨nofun, ?_⟩
      rintro ⟨_, advanced⟩
      exact absurd advanced (by decide)
    · exact ⟨nofun, nofun⟩
  · intro happening member
    simp only [List.mem_cons, List.not_mem_nil, or_false] at member
    rcases member with rfl | rfl | rfl | rfl | rfl <;> exact ⟨nofun, nofun⟩

end Crowd

end ContextCache
