import ContextCache.Proofs.Store.Effects

/-!
Contract: every step of the protocol is sound, and its effect is one of the listed ones.

Each step is taken apart once, by what its definition is bound to. Whatever comes after
argues from the effect and never opens a step again.

Owns:
- soundness and effect of every step.

Does not own: what follows over many steps.
-/

set_option autoImplicit false

namespace ContextCache

namespace OpenStore

variable {opened : OpenStore} {key : DefinitionKey}

/-- What is known once a step has been taken. -/
structure Sensible (opened : OpenStore) (key : DefinitionKey) (operation : Operation)
    (result : Outcome × OpenStore) : Prop where
  effect : Effect opened result.2 key operation result.1
  sound : result.2.Sound

/-! ### Binding and publishing a value -/

/-- A value of the current generation may be bound and published once the definition is
silent. -/
theorem Sound.bind_publish (sound : opened.Sound) (alive : opened.registry.isAlive key = true)
    (silent : opened.Silent key) {serial : Nat} (issued : serial < opened.shared.entriesMinted)
    (allocation : Allocation) :
    ((opened.bind key (.minted serial (some (opened.registry.current key)) (some allocation))).publish
      key (.minted serial (some (opened.registry.current key)) (some allocation))).Sound := by
  have known := Registry.knows_current (Registry.lt_size_of_isAlive alive)
  have bindable : Entry.Bindable opened.shared key
      (.minted serial (some (opened.registry.current key)) (some allocation)) :=
    .value rfl known issued
  exact (sound.bind bindable silent).publish alive rfl (binding?_bind_self opened key _)

theorem binding?_bind_publish (alive : opened.registry.isAlive key = true) (entry : Entry) :
    ((opened.bind key entry).publish key entry).store.binding? key = some entry := by
  rw [(keeps_publish (opened.bind key entry) key entry).binding key alive]
  exact binding?_bind_self opened key entry

theorem registry_bind_publish (opened : OpenStore) (key : DefinitionKey) (entry : Entry) :
    ((opened.bind key entry).publish key entry).registry = opened.registry :=
  (keeps_publish (opened.bind key entry) key entry).registry

/-! ### Numbering -/

/-- Only the numbering of entries may have moved on. -/
structure Renumbers (before after : OpenStore) : Prop where
  store : after.store = before.store
  registry : after.registry = before.registry
  minted : before.shared.entriesMinted ≤ after.shared.entriesMinted

theorem Renumbers.trans {first second third : OpenStore} (earlier : Renumbers first second)
    (later : Renumbers second third) : Renumbers first third where
  store := later.store.trans earlier.store
  registry := later.registry.trans earlier.registry
  minted := Nat.le_trans earlier.minted later.minted

theorem Sound.renumber {after : OpenStore} (sound : opened.Sound)
    (renumbers : Renumbers opened after) : after.Sound :=
  sound.advance renumbers.store (Registry.leads_of_eq renumbers.registry) renumbers.minted

theorem Silent.renumber {after : OpenStore} (silent : opened.Silent key)
    (renumbers : Renumbers opened after) : after.Silent key := by
  intro token allocation own offers
  rw [renumbers.store] at offers
  rw [renumbers.registry]
  exact silent token allocation own offers

theorem renumbers_mint (opened : OpenStore) (make : Nat → Entry) :
    Renumbers opened (opened.mint make).2 :=
  ⟨rfl, rfl, Nat.le_succ _⟩

/-- Bringing a value up to date yields it under the current generation, with a serial
number that has been given out, and leaves a current entry as it is. -/
theorem upToDate_value (opened : OpenStore) (key : DefinitionKey) {serial : Nat} (token : Token)
    (allocation : Allocation) (issued : serial < opened.shared.entriesMinted) :
    ∃ latest updated,
      opened.upToDate key (.minted serial (some token) (some allocation)) =
        (.minted latest (some (opened.registry.current key)) (some allocation), updated) ∧
      (token = opened.registry.current key → latest = serial) ∧
      latest < updated.shared.entriesMinted ∧ Renumbers opened updated := by
  by_cases same : token = opened.registry.current key
  · subst same
    refine ⟨serial, opened, ?_, fun _ => rfl, issued, rfl, rfl, Nat.le_refl _⟩
    simp [upToDate, Entry.hasTag, Entry.tag?]
  · let make := fun serial => Entry.minted serial (some (opened.registry.current key))
      (some allocation)
    refine ⟨opened.shared.entriesMinted, (opened.mint make).2, ?_,
      fun current => absurd current same, ?_, renumbers_mint opened make⟩
    · simp only [OpenStore.upToDate, Entry.hasTag, Entry.tag?, beq_iff_eq, Option.some.injEq, same,
        if_false]
      rfl
    · exact Nat.lt_succ_self _

/-! ### Starting -/

theorem start_unbound (unbound : opened.store.binding? key = none) :
    opened.start key = (.promise (opened.registry.current key),
      opened.bind key (.promise (opened.registry.current key))) := by
  unfold start
  rw [unbound]

theorem start_promised {token : Token} (promised : opened.store.binding? key = some (.promise token)) :
    opened.start key = (.promise (opened.registry.current key),
      if Entry.promise token = .promise (opened.registry.current key) then opened
      else opened.bind key (.promise (opened.registry.current key))) := by
  unfold start
  rw [promised]
  rfl

theorem start_value {serial : Nat} {tag : Option Token} {value : Option Allocation} {latest : Entry}
    {updated : OpenStore} (bound : opened.store.binding? key = some (.minted serial tag value))
    (upToDate : opened.upToDate key (.minted serial tag value) = (latest, updated)) :
    opened.start key = (latest,
      (if latest = .minted serial tag value then updated else updated.bind key latest).publish
        key latest) := by
  unfold start
  rw [bound]
  dsimp only
  rw [upToDate]
  rfl

theorem Sound.bind_promise (sound : opened.Sound) (alive : opened.registry.isAlive key = true)
    (silent : opened.Silent key) :
    (opened.bind key (.promise (opened.registry.current key))).Sound :=
  sound.bind (.promise rfl (Registry.knows_current (Registry.lt_size_of_isAlive alive))) silent

theorem sensible_start_unbound (sound : opened.Sound) (alive : opened.registry.isAlive key = true)
    (unbound : opened.store.binding? key = none) :
    Sensible opened key .start ((opened.start key).map .started id) := by
  rw [start_unbound unbound]
  refine ⟨?_, sound.bind_promise alive (sound.silent_of_unbound unbound)⟩
  apply Effect.promised
  · exact value?_of_unbound unbound
  · rfl
  · exact binding?_bind_self opened key _

theorem sensible_start_promised (sound : opened.Sound)
    (alive : opened.registry.isAlive key = true) {token : Token}
    (promised : opened.store.binding? key = some (.promise token)) :
    Sensible opened key .start ((opened.start key).map .started id) := by
  rw [start_promised promised]
  have vacant : opened.store.value? key = none := value?_of_binding? promised
  split
  · next same =>
      rw [same] at promised
      exact ⟨.promised vacant rfl promised, sound⟩
  · refine ⟨?_, sound.bind_promise alive (sound.silent_of_promise promised)⟩
    apply Effect.promised vacant
    · rfl
    exact binding?_bind_self opened key _

theorem sensible_start_value (sound : opened.Sound) (alive : opened.registry.isAlive key = true)
    {serial : Nat} {token : Token} {allocation : Allocation}
    (issued : serial < opened.shared.entriesMinted)
    (bound : opened.store.binding? key = some (.minted serial (some token) (some allocation))) :
    Sensible opened key .start ((opened.start key).map .started id) := by
  obtain ⟨latest, updated, brought, kept, numbered, renumbers⟩ :=
    upToDate_value opened key token allocation issued
  rw [start_value bound brought]
  have held : opened.store.value? key = some allocation := value?_of_binding? bound
  have aliveStill : updated.registry.isAlive key = true := by rwa [renumbers.registry]
  split
  · next same =>
      have boundStill : updated.store.binding? key = some (.minted latest
          (some (opened.registry.current key)) (some allocation)) := by
        rw [renumbers.store, same]
        exact bound
      have kept := keeps_publish updated key
        (.minted latest (some (opened.registry.current key)) (some allocation))
      refine ⟨?_, ?_⟩
      · apply Effect.answered held
        · exact kept.registry.trans renumbers.registry
        · exact (kept.binding key aliveStill).trans boundStill
      · apply (sound.renumber renumbers).publish aliveStill ?_ boundStill
        rw [renumbers.registry]
  · next differs =>
      -- Only an old entry is replaced, so the table has nothing under the current token.
      have outdated : opened.Silent key := by
        apply sound.silent_of_outdated bound
        have old : token ≠ opened.registry.current key := by
          intro current
          apply differs
          rw [kept current, current]
        simpa [Entry.hasTag, Entry.tag?] using old
      refine ⟨?_, ?_⟩
      · apply Effect.answered held
        · exact (registry_bind_publish _ _ _).trans renumbers.registry
        · exact binding?_bind_publish aliveStill _
      · have published := (sound.renumber renumbers).bind_publish aliveStill
          (outdated.renumber renumbers) numbered allocation
        rwa [renumbers.registry] at published

theorem Sound.sensible_start (sound : opened.Sound) (alive : opened.registry.isAlive key = true) :
    Sensible opened key .start ((opened.start key).map .started id) := by
  cases bound : opened.store.binding? key with
  | none => exact sensible_start_unbound sound alive bound
  | some existing =>
      cases sound.bindable key existing bound with
      | promise own known => exact sensible_start_promised sound alive bound
      | value own known issued => exact sensible_start_value sound alive issued bound

/-! ### Finishing -/

theorem finish_promised {serial : Nat} {token : Token} {allocation : Allocation} {latest : Entry}
    {updated : OpenStore} (promised : opened.store.binding? key = some (.promise token))
    (upToDate : opened.upToDate key (.minted serial (some token) (some allocation)) =
      (latest, updated)) :
    opened.finish key (.minted serial (some token) (some allocation)) =
      (some latest, (updated.bind key latest).publish key latest) := by
  have sameTag : (Entry.promise token).sameTag (.minted serial (some token) (some allocation)) =
      true := by
    simp [Entry.sameTag, Entry.tag?]
  unfold finish
  rw [promised]
  dsimp only
  rw [if_neg (by simp), sameTag, upToDate]
  rfl

/-- The bound entry itself, handed in again, is taken back. -/
theorem finish_bound {entry : Entry} (bound : opened.store.binding? key = some entry) :
    opened.finish key entry = (none, opened.unbind key) := by
  unfold finish
  rw [bound]
  dsimp only
  rw [if_pos rfl]

/-- A value for a promise that is not bound comes to nothing, unless it is bound already. -/
theorem finish_superseded {serial : Nat} {token : Token} {allocation : Allocation}
    (superseded : opened.store.binding? key ≠ some (.promise token))
    (fresh : opened.store.binding? key ≠ some (.minted serial (some token) (some allocation))) :
    opened.finish key (.minted serial (some token) (some allocation)) = (none, opened) := by
  unfold finish
  cases bound : opened.store.binding? key with
  | none => rfl
  | some existing =>
      have other : existing ≠ .minted serial (some token) (some allocation) := by
        rintro rfl
        exact fresh bound
      cases existing with
      | promise promised =>
          have differs : promised ≠ token := by
            rintro rfl
            exact superseded bound
          simp [Entry.isPromise, Entry.sameTag, Entry.tag?, differs]
      | tombstone => simp [Entry.isPromise]
      | minted serial tag value =>
          dsimp only
          rw [if_neg other]
          simp [Entry.isPromise]

theorem Sound.sensible_commit (sound : opened.Sound) (alive : opened.registry.isAlive key = true)
    (token : Token) (allocation : Allocation) :
    Sensible opened key (.commit token allocation)
      ((opened.commit key token allocation).map .finished id) := by
  let make := fun serial => (Entry.promise token).fulfil serial allocation
  have mints : Renumbers opened (opened.mint make).2 := renumbers_mint opened make
  rw [show opened.commit key token allocation = (opened.mint make).2.finish key
    (.minted opened.shared.entriesMinted (some token) (some allocation)) from rfl]
  by_cases promised : opened.store.binding? key = some (.promise token)
  · have promisedStill : (opened.mint make).2.store.binding? key = some (.promise token) := promised
    obtain ⟨latest, updated, brought, -, numbered, renumbers⟩ :=
      upToDate_value (opened.mint make).2 key token allocation
        (Nat.lt_succ_self opened.shared.entriesMinted)
    rw [finish_promised promisedStill brought]
    have updates := mints.trans renumbers
    have aliveStill : updated.registry.isAlive key = true := by rwa [updates.registry]
    refine ⟨?_, ?_⟩
    · apply Effect.committed promised
      · exact (registry_bind_publish _ _ _).trans updates.registry
      · exact binding?_bind_publish aliveStill _
    · have published := (sound.renumber updates).bind_publish aliveStill
        ((sound.silent_of_promise promised).renumber updates) numbered allocation
      rwa [updates.registry] at published
  · have supersededStill : (opened.mint make).2.store.binding? key ≠ some (.promise token) :=
      promised
    -- A bound entry has an earlier serial number, so the candidate is not handed in twice.
    have fresh : (opened.mint make).2.store.binding? key ≠
        some (.minted opened.shared.entriesMinted (some token) (some allocation)) := by
      intro bound
      cases sound.bindable key _ bound with
      | value own known issued => exact Nat.lt_irrefl _ issued
    rw [finish_superseded supersededStill fresh]
    exact ⟨.discarded promised rfl rfl, sound.renumber mints⟩

theorem Sound.sensible_retract (sound : opened.Sound) (token : Token) :
    Sensible opened key (.retract token)
      ((opened.finish key (.promise token)).map .finished id) := by
  by_cases promised : opened.store.binding? key = some (.promise token)
  · rw [finish_bound promised]
    have silent : opened.Silent key := sound.silent_of_promise promised
    refine ⟨?_, sound.unbind silent⟩
    apply Effect.retracted promised
    · rfl
    · exact binding?_unbind_self opened key
  · have ignores : opened.finish key (.promise token) = (none, opened) := by
      unfold finish
      cases bound : opened.store.binding? key with
      | none => rfl
      | some existing =>
          have other : existing ≠ .promise token := by
            rintro rfl
            exact promised bound
          simp [other, Entry.isPromise]
    rw [ignores]
    exact ⟨.ignored promised rfl, sound⟩

/-! ### Removing and changing -/

theorem keeps_swept_count (opened : OpenStore) (key : DefinitionKey) (counter : Counter) :
    Keeps opened ((opened.count counter 1).sweepAround key) :=
  (keeps_count opened counter 1).trans (keeps_sweepAround _ key)

/-- A sweep offers nothing new. -/
theorem Silent.sweepAround (silent : opened.Silent key) (around : DefinitionKey) :
    (opened.sweepAround around).Silent key := by
  rintro token allocation own ⟨entry, holds, tagged, carries⟩
  rcases Table.holds_sweep holds with rfl | before
  · cases tagged
  · exact silent token allocation own ⟨entry, before, tagged, carries⟩

theorem remove_value {serial : Nat} {tag : Option Token} {value : Option Allocation}
    (bound : opened.store.binding? key = some (.minted serial tag value)) :
    opened.remove key =
      (true, (((opened.bump key).unbind key).count .invalidations 1).sweepAround key) := by
  unfold remove
  rw [bound]
  rfl

theorem Sound.remove_vacant (sound : opened.Sound) (vacant : opened.store.value? key = none) :
    opened.remove key = (false, opened) := by
  unfold OpenStore.remove
  rcases sound.vacant vacant with unbound | ⟨token, promised⟩
  · rw [unbound]
  · rw [promised]
    rfl

theorem Sound.sensible_remove (sound : opened.Sound) (alive : opened.registry.isAlive key = true) :
    Sensible opened key .remove ((opened.remove key).map .removed id) := by
  cases held : opened.store.value? key with
  | none =>
      rw [sound.remove_vacant held]
      exact ⟨.absent held rfl, sound⟩
  | some allocation =>
      have bound : ∃ serial tag value,
          opened.store.binding? key = some (.minted serial tag value) := by
        obtain ⟨entry, bound, carries⟩ := Option.bind_eq_some_iff.mp held
        cases entry with
        | minted serial tag value => exact ⟨serial, tag, value, bound⟩
        | promise => cases carries
        | tombstone => cases carries
      obtain ⟨serial, tag, value, bound⟩ := bound
      rw [remove_value bound]
      have kept := keeps_swept_count ((opened.bump key).unbind key) key .invalidations
      have aliveStill : ((opened.bump key).unbind key).registry.isAlive key = true :=
        (Registry.isAlive_bump _ key key).trans alive
      refine ⟨?_, ?_⟩
      · apply Effect.removed held
        · apply (kept.binding key aliveStill).trans
          exact binding?_unbind_self (opened.bump key) key
        · exact (congrArg (fun registry => registry.generation key) kept.registry).trans
            (Registry.generation_bump_self (Registry.lt_size_of_isAlive alive))
      · have silent : (opened.bump key).Silent key := sound.silent_bump key
        exact (((sound.bump key).unbind silent).count _ _).sweepAround key

theorem isBoundTo_iff (sound : opened.Sound) {allocation : Allocation} :
    opened.isBoundTo key allocation = true ↔
      opened.store.Backs (opened.registry.current key) allocation := by
  unfold isBoundTo Store.Backs
  rw [show (opened.registry.current key).definition = key from rfl]
  cases bound : opened.store.binding? key with
  | none => simp
  | some existing =>
      cases sound.bindable key existing bound with
      | promise own known => simp [Entry.holds, Entry.value?]
      | value own known issued =>
          simp [Entry.holds, Entry.hasTag, Entry.value?, Entry.tag?, and_comm]

theorem Sound.supersede (sound : opened.Sound) (key : DefinitionKey) :
    (opened.supersede key).Sound := by
  unfold OpenStore.supersede
  split
  · exact (sound.bump key).sweepAround key
  · exact sound

theorem Sound.silent_supersede (sound : opened.Sound) (key : DefinitionKey) :
    (opened.supersede key).Silent key := by
  unfold OpenStore.supersede
  split
  · exact (sound.silent_bump key).sweepAround key
  · next unbound => exact sound.silent_of_unbound (by simpa using unbound)

theorem generation_supersede (alive : opened.registry.isAlive key = true) :
    (opened.supersede key).registry.generation key = opened.registry.generation key +
      if (opened.store.binding? key).isSome then 1 else 0 := by
  unfold supersede
  split
  · rw [(keeps_sweepAround (opened.bump key) key).registry]
    exact Registry.generation_bump_self (Registry.lt_size_of_isAlive alive)
  · rfl

theorem Sound.sensible_change (sound : opened.Sound) (alive : opened.registry.isAlive key = true)
    (allocation : Allocation) :
    Sensible opened key (.change allocation) ((opened.change key allocation).map .changed id) := by
  cases backed : opened.isBoundTo key allocation with
  | true =>
      rw [show opened.change key allocation = (false, opened) from if_pos backed]
      exact ⟨.unchanged ((isBoundTo_iff sound).mp backed) rfl, sound⟩
  | false =>
      let counted := (opened.supersede key).count .puts 1
      let make := fun serial => Entry.minted serial (some (counted.registry.current key))
        (some allocation)
      let minted := (counted.mint make).2
      let after := (minted.bind key (make counted.shared.entriesMinted)).publish key
        (make counted.shared.entriesMinted)
      have changes : opened.change key allocation = (true, after) := by
        unfold change
        rw [backed]
        rfl
      have spared : Spares key opened minted :=
        ((spares_supersede opened key).trans ((keeps_count _ _ _).spares key)).trans
          (spares_mint counted key make)
      have aliveStill : minted.registry.isAlive key = true := (spared.alive key).trans alive
      have silent : minted.Silent key := sound.silent_supersede key
      have registry : after.registry = counted.registry := registry_bind_publish minted key _
      rw [changes]
      refine ⟨?_, ?_⟩
      · have unbacked : ¬ opened.store.Backs (opened.registry.current key) allocation := by
          rw [← isBoundTo_iff sound, backed]
          decide
        have advanced : after.registry.generation key = opened.registry.generation key +
            if (opened.store.binding? key).isSome then 1 else 0 := by
          rw [registry]
          exact generation_supersede alive
        have bound : after.store.binding? key = some (.minted counted.shared.entriesMinted
            (some (after.registry.current key)) (some allocation)) := by
          rw [registry]
          exact binding?_bind_publish aliveStill _
        exact .changed unbacked advanced bound
      · exact (((sound.supersede key).count _ _).mint make).bind_publish aliveStill silent
          (Nat.lt_succ_self _) allocation

/-! ### All steps -/

theorem Sound.operate (sound : opened.Sound) (alive : opened.registry.isAlive key = true)
    (operation : Operation) :
    Sensible opened key operation (opened.operate key operation) := by
  cases operation with
  | probe => exact ⟨.probed rfl, sound⟩
  | promote searched =>
      exact ⟨.promoted (keeps_promote opened key searched), sound.promote key searched⟩
  | start => exact sound.sensible_start alive
  | commit token allocation => exact sound.sensible_commit alive token allocation
  | retract token => exact sound.sensible_retract token
  | remove => exact sound.sensible_remove alive
  | change allocation => exact sound.sensible_change alive allocation

end OpenStore

end ContextCache
