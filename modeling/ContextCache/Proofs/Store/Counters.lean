import ContextCache.Proofs.Store.Edits

/-!
Contract: which counters a step on a store moves.

Reads count themselves, and so do their computations. Below them, in the store, sweeping,
expunging and growing count what they have done, and a put counts itself. The one other event
is an invalidation by a removal. So most steps leave the counters of reads, computations and
invalidations alone, however much housekeeping they do.

Owns:
- the counters that housekeeping does not move;
- what each step does to them, and when a removal or a put ends a generation.

Does not own: what a read counts.
-/

set_option autoImplicit false

namespace ContextCache

/-- Counters of reads, of computations and of invalidations. The other ones count puts and
housekeeping. -/
def Counter.isBalanced : Counter → Bool
  | .puts => false
  | .staleEvictions => false
  | .resizes => false
  | .expungedBindings => false
  | _ => true

namespace OpenStore

/-- No counter of reads, computations or invalidations has moved. -/
def Uncounted (before after : OpenStore) : Prop :=
  ∀ counter, counter.isBalanced = true →
    after.shared.metrics.get counter = before.shared.metrics.get counter

variable {opened before middle after : OpenStore}

theorem Uncounted.of_eq (same : after.shared.metrics = before.shared.metrics) :
    Uncounted before after := by
  intro counter _
  rw [same]

theorem Uncounted.trans (earlier : Uncounted before middle) (later : Uncounted middle after) :
    Uncounted before after :=
  fun counter balanced => (later counter balanced).trans (earlier counter balanced)

/-! ### Housekeeping -/

theorem uncounted_count (opened : OpenStore) {counter : Counter}
    (housekeeping : counter.isBalanced = false) (amount : Nat) :
    Uncounted opened (opened.count counter amount) := by
  intro other balanced
  show (opened.shared.metrics.add counter _).get other = _
  rw [Metrics.get_add, if_neg]
  rintro rfl
  exact absurd (balanced.symm.trans housekeeping) (by decide)

theorem uncounted_adopt (opened : OpenStore) (swept : Table.Swept) :
    Uncounted opened (opened.adopt swept) :=
  uncounted_count (opened.withTable swept.table) rfl swept.evicted

theorem uncounted_sweepAround (opened : OpenStore) (key : DefinitionKey) :
    Uncounted opened (opened.sweepAround key) :=
  uncounted_adopt opened _

theorem uncounted_expunge (opened : OpenStore) : Uncounted opened opened.expunge := by
  let kept := opened.store.bindings.filter fun bound => opened.registry.isAlive bound.1
  exact uncounted_count { opened with store := { opened.store with bindings := kept } } rfl _

theorem uncounted_grow (opened : OpenStore) : Uncounted opened opened.grow := by
  unfold grow
  dsimp only
  split
  · exact Uncounted.of_eq rfl
  · let grown : OpenStore :=
      { opened with
        store :=
          { opened.store with
            table := regrown opened.registry opened.store.config.probeLimit
              (opened.store.table.capacity * 2) opened.store.table
            loadLimit := opened.store.config.loadLimitFor (opened.store.table.capacity * 2) } }
    exact uncounted_count grown rfl 1

theorem uncounted_relieve (opened : OpenStore) : Uncounted opened opened.relieve := by
  have swept : Uncounted opened opened.expunge.sweepAll :=
    (uncounted_expunge opened).trans (uncounted_adopt _ _)
  unfold relieve reduceLoad
  dsimp only
  split
  · split
    · exact swept
    · exact swept.trans (uncounted_grow _)
  · exact Uncounted.of_eq rfl

theorem uncounted_publish (opened : OpenStore) (key : DefinitionKey) (entry : Entry) :
    Uncounted opened (opened.publish key entry) :=
  (uncounted_relieve opened).trans (Uncounted.of_eq rfl)

/-! ### Steps of a read -/

theorem uncounted_upToDate (opened : OpenStore) (key : DefinitionKey) (entry : Entry) :
    Uncounted opened (opened.upToDate key entry).2 := by
  unfold upToDate
  dsimp only
  split <;> exact Uncounted.of_eq rfl

theorem uncounted_start (opened : OpenStore) (key : DefinitionKey) :
    Uncounted opened (opened.start key).2 := by
  unfold start
  dsimp only
  split
  · exact Uncounted.of_eq rfl
  · next existing found =>
      split
      · dsimp only
        split <;> exact Uncounted.of_eq rfl
      · have updated := uncounted_upToDate opened key existing
        refine updated.trans (Uncounted.trans ?_ (uncounted_publish _ _ _))
        split <;> exact Uncounted.of_eq rfl

theorem uncounted_finish (opened : OpenStore) (key : DefinitionKey) (candidate : Entry) :
    Uncounted opened (opened.finish key candidate).2 := by
  unfold finish
  split
  · exact Uncounted.of_eq rfl
  · split
    · exact Uncounted.of_eq rfl
    · split
      · refine (uncounted_upToDate opened key candidate).trans ?_
        exact uncounted_publish ((opened.upToDate key candidate).2.bind key _) key _
      · exact Uncounted.of_eq rfl

theorem uncounted_promote (opened : OpenStore) (key : DefinitionKey) (searched : Nat) :
    Uncounted opened (opened.promote key searched).2 := by
  unfold promote
  split <;> exact Uncounted.of_eq rfl

/-! ### Removing and putting -/

/-- A removal that finds a value ends the definition's generation and counts that; any other
one changes nothing. -/
theorem remove_cases (opened : OpenStore) (key : DefinitionKey) :
    (¬ (opened.store.binding? key).any (fun bound => !bound.isPromise) = true ∧
        (opened.remove key).2 = opened) ∨
      ((opened.store.binding? key).any (fun bound => !bound.isPromise) = true ∧
        (opened.remove key).2.registry = opened.registry.bump key ∧
        Uncounted (opened.count .invalidations 1) (opened.remove key).2) := by
  unfold remove
  cases bound : opened.store.binding? key with
  | none => exact Or.inl ⟨by simp, rfl⟩
  | some existing =>
      dsimp only
      split
      · next promise => exact Or.inl ⟨by simp [promise], rfl⟩
      · next value =>
          refine Or.inr ⟨by simpa using value, (keeps_sweepAround _ key).registry, ?_⟩
          exact uncounted_sweepAround (((opened.unbind key).bump key).count .invalidations 1) key

/-- The allocation is bound already, under the current generation. -/
theorem isBoundTo_eq (opened : OpenStore) (key : DefinitionKey) (allocation : Allocation) :
    opened.isBoundTo key allocation = (opened.store.binding? key).any fun bound =>
      bound.holds allocation && bound.hasTag (opened.registry.current key) := by
  unfold isBoundTo
  cases opened.store.binding? key <;> rfl

theorem registry_supersede (opened : OpenStore) (key : DefinitionKey) :
    (opened.supersede key).registry =
      if (opened.store.binding? key).isSome then opened.registry.bump key
      else opened.registry := by
  unfold supersede
  split
  · exact (keeps_sweepAround (opened.bump key) key).registry
  · rfl

theorem uncounted_supersede (opened : OpenStore) (key : DefinitionKey) :
    Uncounted opened (opened.supersede key) := by
  unfold supersede
  split
  · exact uncounted_sweepAround (opened.bump key) key
  · exact Uncounted.of_eq rfl

/-- A put ends the generation of a definition that is bound, promised or not, unless it puts
what is bound already. -/
theorem registry_change (opened : OpenStore) (key : DefinitionKey) (allocation : Allocation) :
    (opened.change key allocation).2.registry =
      if (opened.store.binding? key).isSome ∧ ¬ opened.isBoundTo key allocation = true then
        opened.registry.bump key
      else opened.registry := by
  unfold change
  split
  · next unchanged =>
      rw [if_neg fun effective => effective.2 unchanged]
  · next effective =>
      dsimp only
      rw [registry_publish]
      show (opened.supersede key).registry = _
      rw [registry_supersede]
      simp [effective]

theorem uncounted_change (opened : OpenStore) (key : DefinitionKey) (allocation : Allocation) :
    Uncounted opened (opened.change key allocation).2 := by
  unfold change
  split
  · exact Uncounted.of_eq rfl
  · let counted := (opened.supersede key).count .puts 1
    let minted := counted.mint fun serial =>
      .minted serial (some (counted.registry.current key)) (some allocation)
    have puts : Uncounted opened counted :=
      (uncounted_supersede opened key).trans (uncounted_count _ rfl 1)
    have binds : Uncounted counted (minted.2.bind key minted.1) := Uncounted.of_eq rfl
    exact (puts.trans binds).trans (uncounted_publish _ key _)

end OpenStore

end ContextCache
