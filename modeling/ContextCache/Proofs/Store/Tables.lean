import ContextCache.Proofs.Store.Edits
import ContextCache.Proofs.Store.Steps
import ContextCache.Proofs.Table.Confinement
import ContextCache.Proofs.Table.Copies

/-!
Contract: what a step of the protocol does to its store's table.

A step keeps the table in order by sweeping, promoting and growing, all of them under the
registry that the step leaves. A step that ends with a value puts it in at its home, as the
last thing that it does. Unless the value was bound before, nothing of any generation of its
definition is in the table at that moment: a definition without a value has left the table,
and a step that ends a generation sweeps the window of its definition.

Owns:
- work on a table that puts nothing in;
- what each step does to the table, once and for all;
- stores that have forgotten every definition without a value, kept by every step.

Does not own: what the worlds around a store do.
-/

set_option autoImplicit false

namespace ContextCache

namespace Table

variable {registry : Registry} {probeLimit : Nat} {table kept : Table} {entry : Entry}
  {key : DefinitionKey}

/-- The second table has come from the first one by work that puts nothing in. -/
inductive Housekept (registry : Registry) (probeLimit : Nat) (table : Table) : Table → Prop where
  | untouched : Housekept registry probeLimit table table
  | swept {kept : Table} (earlier : Housekept registry probeLimit table kept)
      (start count : Nat) :
      Housekept registry probeLimit table (kept.sweep registry probeLimit start count).table
  | promoted {kept : Table} (earlier : Housekept registry probeLimit table kept)
      (key : DefinitionKey) :
      Housekept registry probeLimit table
        (kept.promote registry probeLimit (registry.hash key) (registry.current key)).2
  | grown {kept : Table} (earlier : Housekept registry probeLimit table kept) :
      Housekept registry probeLimit table
        (OpenStore.regrown registry probeLimit (kept.capacity * 2) kept)

/-! ### Work that puts nothing in -/

theorem Housekept.trans {first second third : Table}
    (earlier : Housekept registry probeLimit first second)
    (later : Housekept registry probeLimit second third) :
    Housekept registry probeLimit first third := by
  induction later with
  | untouched => exact earlier
  | swept _ start count still => exact still.swept start count
  | promoted _ key still => exact still.promoted key
  | grown _ still => exact still.grown

theorem Housekept.roomy (housekept : Housekept registry probeLimit table kept)
    (roomy : table.Roomy probeLimit) : kept.Roomy probeLimit := by
  induction housekept with
  | untouched => exact roomy
  | swept _ start count still => exact still.congr (capacity_sweep _ _ _ _ _)
  | promoted _ key still => exact still.congr (capacity_promote _ _ _ _ _)
  | @grown kept _ still =>
      refine ⟨still.positive, ?_⟩
      rw [OpenStore.capacity_regrown]
      exact Nat.le_trans still.fits (Nat.le_mul_of_pos_right _ (by decide))

theorem Housekept.holds (housekept : Housekept registry probeLimit table kept)
    (holds : kept.Holds entry) : entry = .tombstone ∨ table.Holds entry := by
  induction housekept with
  | untouched => exact Or.inr holds
  | swept _ start count before => exact (holds_sweep holds).elim Or.inl before
  | promoted _ key before => exact (holds_promote holds).elim Or.inl before
  | grown _ before => exact before (holds_regrown holds)

theorem Housekept.forgets (housekept : Housekept registry probeLimit table kept)
    (forgets : table.Forgets key) : kept.Forgets key := by
  intro entry token holds tagged
  rcases housekept.holds holds with rfl | before
  · cases tagged
  · exact forgets entry token before tagged

theorem Housekept.confined (housekept : Housekept registry probeLimit table kept)
    (roomy : table.Roomy probeLimit) (confined : table.Confined registry probeLimit) :
    kept.Confined registry probeLimit := by
  induction housekept with
  | untouched => exact confined
  | swept earlier start count still => exact still.sweep (earlier.roomy roomy)
  | promoted earlier key still => exact still.promote (earlier.roomy roomy) rfl
  | grown earlier still =>
      have roomyStill := earlier.roomy roomy
      exact confined_regrown roomyStill.positive
        (Nat.le_trans roomyStill.fits (Nat.le_mul_of_pos_right _ (by decide)))

/-- There are no more live entries of any kind than before. -/
theorem Housekept.countP_le (housekept : Housekept registry probeLimit table kept)
    (roomy : table.Roomy probeLimit) (counts : Entry → Bool)
    (lives : ∀ entry, counts entry = true → entry.isLive registry = true) :
    kept.entries.countP counts ≤ table.entries.countP counts := by
  have tombstone : counts .tombstone = false := by
    cases counted : counts .tombstone with
    | false => rfl
    | true => exact nomatch lives _ counted
  induction housekept with
  | untouched => exact Nat.le_refl _
  | swept earlier start count fewer =>
      rw [countP_sweep (earlier.roomy roomy) counts lives]
      exact fewer
  | promoted earlier key fewer =>
      exact Nat.le_trans (countP_promote_le (earlier.roomy roomy) _ _ counts tombstone) fewer
  | grown earlier fewer =>
      have nonempty := (earlier.roomy roomy).nonempty
      exact Nat.le_trans (countP_regrown_le (by omega) counts) fewer

theorem Confined.transfer {later : Registry} (confined : table.Confined registry probeLimit)
    (same : ∀ entry token, table.Holds entry → entry.tag? = some token →
      later.hash token.definition = registry.hash token.definition) :
    table.Confined later probeLimit := by
  intro position entry token found tagged
  rw [same entry token ⟨position, found⟩ tagged]
  exact confined position entry token found tagged

end Table

/-- The step ends with a value. -/
def Outcome.isValued : Outcome → Bool
  | .started entry => entry.value?.isSome
  | .finished committed => committed.isSome
  | .changed effective => effective
  | _ => false

namespace OpenStore

/-- A table that holds nothing outside the windows, and nothing of an existing definition
without a value. -/
structure Forgetful (opened : OpenStore) : Prop where
  confined : opened.store.table.Confined opened.registry opened.store.config.probeLimit
  forgets : ∀ key, opened.registry.isAlive key = true → opened.store.value? key = none →
    opened.store.table.Forgets key

/-- Everything that a step can do to the table. -/
inductive Arranged (before after : OpenStore) (key : DefinitionKey) :
    Operation → Outcome → Prop where
  | kept {operation : Operation} {outcome : Outcome} (unvalued : outcome.isValued = false)
      (housekept : before.store.table.Housekept after.registry before.store.config.probeLimit
        after.store.table)
      (settled : after.store.binding? key = before.store.binding? key ∨
        after.store.table.Forgets key) : Arranged before after key operation outcome
  | published {operation : Operation} {outcome : Outcome} {middle : Table} {serial : Nat}
      {allocation : Allocation} (valued : outcome.isValued = true)
      (housekept : before.store.table.Housekept after.registry before.store.config.probeLimit
        middle)
      (inserted : after.store.table =
        middle.add after.registry before.store.config.probeLimit (after.registry.hash key)
          (.minted serial (some (after.registry.current key)) (some allocation)))
      (bound : after.store.binding? key =
        some (.minted serial (some (after.registry.current key)) (some allocation)))
      (earlier : (operation = .start ∧ (after.store.binding? key = before.store.binding? key ∨
        before.Silent key)) ∨ middle.Forgets key) :
      Arranged before after key operation outcome

variable {opened : OpenStore} {key : DefinitionKey}

/-! ### Relief and publishing -/

theorem housekept_relieve (opened : OpenStore) :
    opened.store.table.Housekept opened.registry opened.store.config.probeLimit
      opened.relieve.store.table := by
  have swept : opened.store.table.Housekept opened.registry opened.store.config.probeLimit
      opened.expunge.sweepAll.store.table := Table.Housekept.untouched.swept _ _
  unfold relieve reduceLoad
  dsimp only
  split
  · split
    · exact swept
    · unfold grow
      dsimp only
      split
      · exact swept
      · exact swept.grown
  · exact .untouched

theorem table_publish (opened : OpenStore) (key : DefinitionKey) (entry : Entry) :
    (opened.publish key entry).store.table =
      opened.relieve.store.table.add opened.registry opened.store.config.probeLimit
        (opened.registry.hash key) entry := by
  have kept := keeps_relieve opened
  show opened.relieve.store.table.add opened.relieve.registry
    opened.relieve.store.config.probeLimit (opened.relieve.registry.hash key) entry = _
  rw [kept.registry, kept.config]

/-- A value that has been bound under the current generation is published after relief. -/
theorem arranged_publish {before bound : OpenStore} {operation : Operation} {outcome : Outcome}
    {serial : Nat} {allocation : Allocation} (valued : outcome.isValued = true)
    (alive : bound.registry.isAlive key = true)
    (config : bound.store.config = before.store.config)
    (housekept : before.store.table.Housekept bound.registry before.store.config.probeLimit
      bound.store.table)
    (binds : bound.store.binding? key =
      some (.minted serial (some (bound.registry.current key)) (some allocation)))
    (earlier : (operation = .start ∧ (bound.store.binding? key = before.store.binding? key ∨
      before.Silent key)) ∨ bound.store.table.Forgets key) :
    Arranged before
      (bound.publish key
        (.minted serial (some (bound.registry.current key)) (some allocation)))
      key operation outcome := by
  have kept := keeps_publish bound key
    (.minted serial (some (bound.registry.current key)) (some allocation))
  have relieved := housekept_relieve bound
  have inserted := table_publish bound key
    (.minted serial (some (bound.registry.current key)) (some allocation))
  rw [config] at relieved inserted
  generalize bound.publish key
    (.minted serial (some (bound.registry.current key)) (some allocation)) = after at kept inserted
  rw [← kept.registry] at housekept relieved inserted
  have still := kept.binding key alive
  have same := still.trans binds
  rw [← kept.registry] at same
  rw [← still] at earlier
  exact .published valued (housekept.trans relieved) inserted same
    (earlier.imp_right relieved.forgets)

/-! ### Steps -/

/-- A step that leaves the table alone, and binds its definition otherwise only if the table
has forgotten it. -/
theorem arranged_of_table_eq {after : OpenStore} {operation : Operation} {outcome : Outcome}
    (unvalued : outcome.isValued = false) (table : after.store.table = opened.store.table)
    (settled : after.store.binding? key = opened.store.binding? key ∨
      opened.store.table.Forgets key) :
    Arranged opened after key operation outcome := by
  rw [← table] at settled
  refine .kept unvalued ?_ settled
  rw [table]
  exact .untouched

theorem Sound.arranged_start (sound : opened.Sound) (forgetful : opened.Forgetful)
    (alive : opened.registry.isAlive key = true) :
    Arranged opened (opened.start key).2 key .start (.started (opened.start key).1) := by
  cases bound : opened.store.binding? key with
  | none =>
      rw [start_unbound bound]
      exact arranged_of_table_eq rfl rfl
        (Or.inr (forgetful.forgets key alive (value?_of_unbound bound)))
  | some existing =>
      cases sound.bindable key existing bound with
      | promise own known =>
          rw [start_promised bound]
          have forgets := forgetful.forgets key alive (value?_of_binding? bound)
          dsimp only
          split
          · exact arranged_of_table_eq rfl rfl (Or.inl rfl)
          · exact arranged_of_table_eq rfl rfl (Or.inr forgets)
      | @value serial token allocation own known issued =>
          obtain ⟨latest, updated, brought, kept, -, renumbers⟩ :=
            upToDate_value opened key token allocation issued
          rw [start_value bound brought, ← renumbers.registry]
          rw [← renumbers.registry] at alive
          split
          · next same =>
              have boundStill : updated.store.binding? key = opened.store.binding? key := by
                rw [renumbers.store]
              refine arranged_publish rfl alive (by rw [renumbers.store]) ?_ ?_
                (Or.inl ⟨rfl, Or.inl boundStill⟩)
              · rw [renumbers.store]
                exact .untouched
              · rw [boundStill, bound, ← same]
          · next differs =>
              -- The bound value is outdated, or else it would have been kept as it is.
              have silent : opened.Silent key := by
                apply sound.silent_of_outdated bound
                have old : token ≠ opened.registry.current key := by
                  intro current
                  apply differs
                  rw [kept current, current, renumbers.registry]
                simpa [Entry.hasTag, Entry.tag?] using old
              refine arranged_publish rfl alive ?_ ?_ (binding?_bind_self updated key _)
                (Or.inl ⟨rfl, Or.inr silent⟩)
              · show updated.store.config = _
                rw [renumbers.store]
              · show opened.store.table.Housekept _ _ updated.store.table
                rw [renumbers.store]
                exact .untouched

theorem Sound.arranged_commit (sound : opened.Sound) (forgetful : opened.Forgetful)
    (alive : opened.registry.isAlive key = true) (token : Token) (allocation : Allocation) :
    Arranged opened (opened.commit key token allocation).2 key (.commit token allocation)
      (.finished (opened.commit key token allocation).1) := by
  let make := fun serial => (Entry.promise token).fulfil serial allocation
  have mints : Renumbers opened (opened.mint make).2 := renumbers_mint opened make
  by_cases promised : opened.store.binding? key = some (.promise token)
  · rw [show opened.commit key token allocation = (opened.mint make).2.finish key
      (.minted opened.shared.entriesMinted (some token) (some allocation)) from rfl]
    have promisedStill : (opened.mint make).2.store.binding? key = some (.promise token) := promised
    obtain ⟨latest, updated, brought, -, -, renumbers⟩ :=
      upToDate_value (opened.mint make).2 key token allocation
        (Nat.lt_succ_self opened.shared.entriesMinted)
    rw [finish_promised promisedStill brought]
    have updates := mints.trans renumbers
    rw [← renumbers.registry]
    rw [← updates.registry] at alive
    refine arranged_publish rfl alive ?_ ?_ (binding?_bind_self updated key _) (Or.inr ?_)
    · show updated.store.config = _
      rw [updates.store]
    · show opened.store.table.Housekept _ _ updated.store.table
      rw [updates.store]
      exact .untouched
    · show updated.store.table.Forgets key
      rw [updates.store]
      rw [updates.registry] at alive
      exact forgetful.forgets key alive (value?_of_binding? promised)
  · have effect : Effect opened (opened.commit key token allocation).2 key
        (.commit token allocation) (.finished (opened.commit key token allocation).1) :=
      (sound.operate alive (.commit token allocation)).effect
    generalize opened.commit key token allocation = result at effect ⊢
    obtain ⟨returned, after⟩ := result
    cases effect with
    | committed bound => exact absurd bound promised
    | discarded _ registry same =>
        exact arranged_of_table_eq rfl (congrArg Store.table same)
          (Or.inl (congrArg (fun store => store.binding? key) same))

theorem Sound.arranged_retract (sound : opened.Sound) (forgetful : opened.Forgetful)
    (alive : opened.registry.isAlive key = true) (token : Token) :
    Arranged opened (opened.finish key (.promise token)).2 key (.retract token)
      (.finished (opened.finish key (.promise token)).1) := by
  by_cases promised : opened.store.binding? key = some (.promise token)
  · rw [finish_bound promised]
    exact arranged_of_table_eq rfl rfl
      (Or.inr (forgetful.forgets key alive (value?_of_binding? promised)))
  · have effect : Effect opened (opened.finish key (.promise token)).2 key (.retract token)
        (.finished (opened.finish key (.promise token)).1) := (sound.sensible_retract token).effect
    generalize opened.finish key (.promise token) = result at effect ⊢
    obtain ⟨returned, after⟩ := result
    cases effect with
    | retracted bound => exact absurd bound promised
    | ignored _ same =>
        exact arranged_of_table_eq rfl (congrArg (fun opened => opened.store.table) same)
          (Or.inl (congrArg (fun opened => opened.store.binding? key) same))

theorem Sound.knows_of_holds (sound : opened.Sound) {entry : Entry} {token : Token}
    (holds : opened.store.table.Holds entry) (tagged : entry.tag? = some token) :
    opened.registry.Knows token := by
  cases sound.shelved entry holds with
  | tombstone => cases tagged
  | value known =>
      cases tagged
      exact known

/-- Whatever the table holds of a definition is outdated once its generation has ended, and a
sweep of its window takes it out. -/
theorem Sound.forgets_bump (sound : opened.Sound) (forgetful : opened.Forgetful)
    (key : DefinitionKey) : ((opened.bump key).sweepAround key).store.table.Forgets key := by
  have confined : opened.store.table.Confined (opened.registry.bump key)
      opened.store.config.probeLimit :=
    forgetful.confined.transfer fun _ token _ _ => Registry.hash_bump _ key token.definition
  refine Table.forgets_sweepAround confined sound.roomy ?_
  intro entry token holds tagged own
  rw [← own]
  exact Registry.isLive_bump_of_knows (sound.knows_of_holds holds tagged)

theorem Sound.arranged_remove (sound : opened.Sound) (forgetful : opened.Forgetful) :
    Arranged opened (opened.remove key).2 key .remove (.removed (opened.remove key).1) := by
  cases held : opened.store.value? key with
  | none =>
      rw [sound.remove_vacant held]
      exact arranged_of_table_eq rfl rfl (Or.inl rfl)
  | some allocation =>
      obtain ⟨entry, bound, carries⟩ := Option.bind_eq_some_iff.mp held
      cases sound.bindable key entry bound with
      | promise own known => cases carries
      | value own known issued =>
          rw [remove_value bound]
          exact .kept rfl (Table.Housekept.untouched.swept _ _)
            (Or.inr (sound.forgets_bump forgetful key))

/-- Before a value is put, nothing of its definition is left in the table. -/
theorem Sound.forgets_supersede (sound : opened.Sound) (forgetful : opened.Forgetful)
    (alive : opened.registry.isAlive key = true) :
    (opened.supersede key).store.table.Forgets key := by
  unfold OpenStore.supersede
  split
  · exact sound.forgets_bump forgetful key
  · next unbound => exact forgetful.forgets key alive (value?_of_unbound (by simpa using unbound))

theorem housekept_supersede (opened : OpenStore) (key : DefinitionKey) :
    opened.store.table.Housekept (opened.supersede key).registry opened.store.config.probeLimit
      (opened.supersede key).store.table := by
  unfold supersede
  split
  · exact Table.Housekept.untouched.swept _ _
  · exact .untouched

theorem Sound.arranged_change (sound : opened.Sound) (forgetful : opened.Forgetful)
    (alive : opened.registry.isAlive key = true) (allocation : Allocation) :
    Arranged opened (opened.change key allocation).2 key (.change allocation)
      (.changed (opened.change key allocation).1) := by
  unfold OpenStore.change
  split
  · exact arranged_of_table_eq rfl rfl (Or.inl rfl)
  · let minted := (((opened.supersede key).count .puts 1).mint fun serial => Entry.minted serial
      (some (((opened.supersede key).count .puts 1).registry.current key)) (some allocation)).2
    let entry := Entry.minted ((opened.supersede key).count .puts 1).shared.entriesMinted
      (some (minted.registry.current key)) (some allocation)
    have spared := spares_supersede opened key
    have aliveStill : (opened.supersede key).registry.isAlive key = true :=
      (spared.alive key).trans alive
    have config : (opened.supersede key).store.config = opened.store.config :=
      (edited_supersede opened key).lengthens.1
    have published : Arranged opened ((minted.bind key entry).publish key entry) key
        (.change allocation) (.changed true) :=
      arranged_publish rfl aliveStill config (housekept_supersede opened key)
        (binding?_bind_self minted key entry)
        (Or.inr (sound.forgets_supersede forgetful alive))
    exact published

theorem arranged_promote (opened : OpenStore) (key : DefinitionKey) (searched : Nat) :
    Arranged opened (opened.promote key searched).2 key (.promote searched)
      (.promoted (opened.promote key searched).1) := by
  unfold promote
  split
  · exact .kept rfl (Table.Housekept.untouched.promoted key) (Or.inl rfl)
  · exact arranged_of_table_eq rfl rfl (Or.inl rfl)

/-- Every step arranges the table in one of the listed ways. -/
theorem Sound.arranged (sound : opened.Sound) (forgetful : opened.Forgetful)
    (alive : opened.registry.isAlive key = true) (operation : Operation) :
    Arranged opened (opened.operate key operation).2 key operation
      (opened.operate key operation).1 := by
  cases operation with
  | probe => exact arranged_of_table_eq rfl rfl (Or.inl rfl)
  | promote searched => exact arranged_promote opened key searched
  | start => exact sound.arranged_start forgetful alive
  | commit token allocation => exact sound.arranged_commit forgetful alive token allocation
  | retract token => exact sound.arranged_retract forgetful alive token
  | remove => exact sound.arranged_remove forgetful
  | change allocation => exact sound.arranged_change forgetful alive allocation

/-! ### Forgetting -/

/-- What happens to the shared state brings nothing back. -/
theorem Forgetful.advance {later : OpenStore} (forgetful : opened.Forgetful) (sound : opened.Sound)
    (same : later.store = opened.store) (leads : opened.registry.Leads later.registry) :
    later.Forgetful where
  confined := by
    rw [same]
    exact forgetful.confined.transfer fun _ token holds tagged =>
      leads.hash token.definition (sound.knows_of_holds holds tagged).defined
  forgets := by
    intro key alive vacant entry token holds tagged own
    rw [same] at vacant holds
    have known := sound.knows_of_holds holds tagged
    have aliveBefore := leads.alive key (own ▸ known.defined) alive
    exact forgetful.forgets key aliveBefore vacant entry token holds tagged own

theorem forgetful_create (config : Config) (shared : Shared) :
    (OpenStore.mk shared (Store.create config)).Forgetful where
  confined := Table.confined_empty _
  forgets := fun _ _ _ _ _ holds => absurd holds (Table.not_holds_empty _)

theorem Spares.value? {before after : OpenStore} {other : DefinitionKey}
    (spares : Spares key before after) (differs : other ≠ key)
    (alive : after.registry.isAlive other = true) :
    before.registry.isAlive other = true ∧
      after.store.value? other = before.store.value? other := by
  have aliveBefore := (spares.alive other).symm.trans alive
  refine ⟨aliveBefore, ?_⟩
  unfold Store.value?
  rw [spares.binding other differs aliveBefore]

/-- Every step keeps a store forgetful. -/
theorem Sound.forgetful_operate (sound : opened.Sound) (forgetful : opened.Forgetful)
    (alive : opened.registry.isAlive key = true) (operation : Operation) :
    (opened.operate key operation).2.Forgetful := by
  have spares := spares_operate opened key operation
  have config := (edited_operate opened key operation).lengthens.1
  have arranged := sound.arranged forgetful alive operation
  have passed : (OpenStore.mk (opened.operate key operation).2.shared opened.store).Forgetful :=
    forgetful.advance sound rfl spares.leads
  generalize (opened.operate key operation).1 = outcome at arranged
  generalize (opened.operate key operation).2 = after at spares config arranged passed ⊢
  cases arranged with
  | kept unvalued housekept settled =>
      constructor
      · rw [config]
        exact housekept.confined sound.roomy passed.confined
      · intro other aliveOther vacant
        by_cases same : other = key
        · subst same
          rcases settled with unchanged | forgets
          · unfold Store.value? at vacant
            rw [unchanged] at vacant
            exact housekept.forgets (forgetful.forgets other alive vacant)
          · exact forgets
        · obtain ⟨aliveBefore, value⟩ := spares.value? same aliveOther
          exact housekept.forgets (forgetful.forgets other aliveBefore (value.symm.trans vacant))
  | @published middle serial allocation valued housekept inserted bound earlier =>
      have roomy := housekept.roomy sound.roomy
      constructor
      · rw [config, inserted]
        refine (housekept.confined sound.roomy passed.confined).add roomy fun token tagged => ?_
        cases tagged
        rfl
      · intro other aliveOther vacant entry token holds tagged
        have differs : other ≠ key := by
          rintro rfl
          cases (value?_of_binding? bound).symm.trans vacant
        obtain ⟨aliveBefore, value⟩ := spares.value? differs aliveOther
        have forgets :=
          housekept.forgets (forgetful.forgets other aliveBefore (value.symm.trans vacant))
        rw [inserted] at holds
        rcases Table.holds_add holds with rfl | before
        · cases tagged
          exact fun own => differs own.symm
        · exact forgets entry token before tagged

end OpenStore

end ContextCache
