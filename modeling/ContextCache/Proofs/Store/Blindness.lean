import Mathlib.Data.List.Basic
import ContextCache.Proofs.Store.Effects

/-!
Contract: a step does not notice what other definitions are bound to.

Take some bindings of existing definitions out of a store, and take an event off the
counters. A step on a definition that was left in does there what it does on the full store:
it returns the same, leaves the same table, numbers entries alike, and its changes commute
with taking the others out. Sweeps look at tokens, relief at loads, and expunging gives up
what has been dropped, so none of them depends on a promise that is bound next to them.

Owns:
- stores with some bindings taken out, and counters without one read that is under way;
- that every step of the protocol commutes with taking out.

Does not own: which bindings are taken out, and why.
-/

set_option autoImplicit false

namespace ContextCache

namespace Metrics

variable {first second : Metrics}

theorem ext_get (same : ∀ counter, first.get counter = second.get counter) : first = second := by
  cases first
  cases second
  rw [Metrics.mk.injEq]
  exact ⟨same .homeHits, same .backupHits, same .relocations, same .mapLookups,
    same .computations, same .computeFailures, same .publishRetries, same .invalidations,
    same .puts, same .staleEvictions, same .resizes, same .expungedBindings⟩

/-- The order in which events are counted does not matter. -/
theorem add_right_comm (metrics : Metrics) (counter other : Counter) (amount more : UInt64) :
    (metrics.add counter amount).add other more =
      (metrics.add other more).add counter amount := by
  apply ext_get
  intro seen
  rw [get_add, get_add, get_add, get_add]
  split
  · split
    · rw [UInt64.add_assoc, UInt64.add_assoc, UInt64.add_comm amount more]
    · rfl
  · rfl

theorem add_neg_add (metrics : Metrics) (counter : Counter) (amount : UInt64) :
    (metrics.add counter (-amount)).add counter amount = metrics := by
  apply ext_get
  intro seen
  rw [get_add, get_add]
  split
  · rw [UInt64.add_assoc, UInt64.add_left_neg, UInt64.add_zero]
  · rfl

end Metrics

/-- A way of taking events off the counters that leaves later counting alone. -/
structure Discount where
  apply : Metrics → Metrics
  apply_add : ∀ (metrics : Metrics) (counter : Counter) (amount : UInt64),
    apply (metrics.add counter amount) = (apply metrics).add counter amount

/-- Takes off one read that has missed its table and begun to compute. -/
def Discount.ofRead : Discount where
  apply metrics :=
    (metrics.add .mapLookups (-UInt64.ofNat 1)).add .computations (-UInt64.ofNat 1)
  apply_add := by
    intro metrics counter amount
    rw [Metrics.add_right_comm _ counter .mapLookups, Metrics.add_right_comm _ counter .computations]

/-- Counting the read again gives back what was taken off. -/
theorem Discount.count_ofRead (metrics : Metrics) :
    ((ofRead.apply metrics).add .mapLookups (UInt64.ofNat 1)).add .computations
      (UInt64.ofNat 1) = metrics := by
  unfold ofRead
  dsimp only
  rw [Metrics.add_right_comm _ .computations .mapLookups, Metrics.add_neg_add,
    Metrics.add_neg_add]

/-- The shared state with events taken off its counters. -/
def Shared.discounted (shared : Shared) (discount : Discount) : Shared :=
  { shared with metrics := discount.apply shared.metrics }

/-- Taking off the events of a read that has just begun gives back the counters before. -/
theorem Shared.discounted_ofRead (shared : Shared) :
    ((shared.count .mapLookups 1).count .computations 1).discounted Discount.ofRead = shared := by
  unfold Shared.count Shared.discounted
  dsimp only
  rw [Discount.apply_add, Discount.apply_add, Discount.count_ofRead]

/-- Counting the events of a read again gives back what was taken off. -/
theorem Shared.count_discounted (shared : Shared) :
    ((shared.discounted Discount.ofRead).count .mapLookups 1).count .computations 1 = shared := by
  unfold Shared.count Shared.discounted
  dsimp only
  rw [Discount.count_ofRead]

/-- The store with some of its bindings only. -/
def Store.keeping (keep : DefinitionKey → Bool) (store : Store) : Store :=
  { store with bindings := store.bindings.filter fun bound => keep bound.1 }

theorem Store.unbind_of_unbound {store : Store} {key : DefinitionKey}
    (unbound : store.binding? key = none) : store.unbind key = store := by
  have kept : ∀ bound ∈ store.bindings, (bound.1 != key) = true := by
    intro bound member
    exact bne_iff_ne.mpr fun same =>
      absurd (List.lookup_eq_none_iff.mp unbound bound member) (by simp [same])
  unfold unbind
  rw [List.filter_eq_self.mpr kept]

/-- A promise that is bound and taken back leaves the store as it was. -/
theorem Store.unbind_bind {store : Store} {key : DefinitionKey}
    (unbound : store.binding? key = none) (entry : Entry) :
    (store.bind key entry).unbind key = store := by
  refine Eq.trans ?_ (unbind_of_unbound unbound)
  unfold bind unbind
  simp

namespace OpenStore

/-- The open store with some of its bindings only, and with events taken off the counters. -/
def bare (discount : Discount) (keep : DefinitionKey → Bool) (opened : OpenStore) : OpenStore :=
  ⟨opened.shared.discounted discount, opened.store.keeping keep⟩

variable {discount : Discount} {keep : DefinitionKey → Bool} {opened : OpenStore}
  {key : DefinitionKey}

/-- Only bindings of existing definitions are taken out. -/
def Hides (keep : DefinitionKey → Bool) (opened : OpenStore) : Prop :=
  ∀ other, keep other = false → opened.registry.isAlive other = true

/-! ### The smallest changes -/

theorem bare_count (counter : Counter) (amount : Nat) :
    (opened.bare discount keep).count counter amount = (opened.count counter amount).bare discount keep := by
  unfold count bare Shared.count Shared.discounted
  dsimp only
  rw [discount.apply_add]

theorem binding?_bare (kept : keep key = true) :
    (opened.bare discount keep).store.binding? key = opened.store.binding? key :=
  (lookup_filter_keys keep opened.store.bindings key).trans (if_pos kept)

theorem bare_unbind : (opened.bare discount keep).unbind key = (opened.unbind key).bare discount keep := by
  unfold unbind bare Store.unbind Store.keeping
  dsimp only
  rw [List.filter_comm]

theorem bare_bind (kept : keep key = true) (entry : Entry) :
    (opened.bare discount keep).bind key entry = (opened.bind key entry).bare discount keep := by
  unfold bind bare Store.bind Store.keeping
  dsimp only
  rw [List.filter_cons, if_pos kept, List.filter_comm]

theorem bare_bump : (opened.bare discount keep).bump key = (opened.bump key).bare discount keep :=
  rfl

theorem bare_mint (make : Nat → Entry) :
    (opened.bare discount keep).mint make = ((opened.mint make).1, (opened.mint make).2.bare discount keep) :=
  rfl

theorem bare_withTable (table : Table) :
    (opened.bare discount keep).withTable table = (opened.withTable table).bare discount keep :=
  rfl

/-! ### Housekeeping -/

theorem bare_insert (entry : Entry) :
    (opened.bare discount keep).insert key entry = (opened.insert key entry).bare discount keep :=
  rfl

theorem bare_adopt (swept : Table.Swept) :
    (opened.bare discount keep).adopt swept = (opened.adopt swept).bare discount keep := by
  unfold adopt
  rw [bare_withTable, bare_count]

theorem bare_sweepAround :
    (opened.bare discount keep).sweepAround key = (opened.sweepAround key).bare discount keep :=
  bare_adopt _

theorem bare_sweepAll : (opened.bare discount keep).sweepAll = opened.sweepAll.bare discount keep :=
  bare_adopt _

/-- As many bindings are given up with the others taken out, because these would stay. -/
theorem expunged_bare (hides : opened.Hides keep) :
    (opened.bare discount keep).store.bindings.length -
        ((opened.bare discount keep).store.bindings.filter fun bound =>
          opened.registry.isAlive bound.1).length =
      opened.store.bindings.length -
        (opened.store.bindings.filter fun bound => opened.registry.isAlive bound.1).length := by
  let alive := fun bound : DefinitionKey × Entry => opened.registry.isAlive bound.1
  have dropped : ∀ bindings : List (DefinitionKey × Entry),
      bindings.length - (bindings.filter alive).length =
        bindings.countP fun bound => decide ¬ alive bound = true := by
    intro bindings
    rw [← List.countP_eq_length_filter, List.length_eq_countP_add_countP alive]
    exact Nat.add_sub_cancel_left ..
  rw [dropped, dropped]
  show (opened.store.bindings.filter _).countP _ = _
  rw [List.countP_filter]
  apply List.countP_congr
  intro bound _
  cases kept : keep bound.1 with
  | true => simp
  | false =>
      have stays : alive bound = true := hides bound.1 kept
      simp [stays]

theorem bare_expunge (hides : opened.Hides keep) :
    (opened.bare discount keep).expunge = opened.expunge.bare discount keep := by
  unfold expunge
  dsimp only
  rw [show (opened.bare discount keep).registry = opened.registry from rfl, expunged_bare hides,
    ← bare_count]
  unfold bare Store.keeping
  dsimp only
  rw [List.filter_comm]

theorem bare_grow : (opened.bare discount keep).grow = opened.grow.bare discount keep := by
  unfold grow
  rw [apply_ite (bare discount keep), ← bare_count]
  rfl

theorem bare_reduceLoad (hides : opened.Hides keep) :
    (opened.bare discount keep).reduceLoad = opened.reduceLoad.bare discount keep := by
  unfold reduceLoad
  rw [bare_expunge hides, bare_sweepAll]
  dsimp only
  rw [bare_grow, apply_ite (bare discount keep)]
  rfl

theorem bare_relieve (hides : opened.Hides keep) :
    (opened.bare discount keep).relieve = opened.relieve.bare discount keep := by
  unfold relieve
  rw [bare_reduceLoad hides, apply_ite (bare discount keep)]
  rfl

theorem bare_publish (hides : opened.Hides keep) (entry : Entry) :
    (opened.bare discount keep).publish key entry = (opened.publish key entry).bare discount keep := by
  unfold publish
  rw [bare_relieve hides, bare_insert]

/-! ### The steps of the protocol -/

theorem bare_upToDate (entry : Entry) :
    (opened.bare discount keep).upToDate key entry =
      ((opened.upToDate key entry).1, (opened.upToDate key entry).2.bare discount keep) := by
  unfold upToDate
  dsimp only
  rw [show (opened.bare discount keep).registry = opened.registry from rfl]
  split
  · rfl
  · exact bare_mint _

theorem Hides.spares {after : OpenStore} (hides : opened.Hides keep)
    (spares : Spares key opened after) : after.Hides keep :=
  fun other hidden => (spares.alive other).trans (hides other hidden)

theorem bare_bind_publish (kept : keep key = true) (hides : opened.Hides keep) (entry : Entry) :
    ((opened.bare discount keep).bind key entry).publish key entry =
      ((opened.bind key entry).publish key entry).bare discount keep := by
  rw [bare_bind kept, bare_publish (hides.spares (spares_bind opened key entry))]

/-- Work on a definition that spares the others and does not notice what they are bound to. -/
structure Blind {α : Type} (key : DefinitionKey) (work : OpenStore → α × OpenStore) : Prop where
  commutes : ∀ (discount : Discount) (keep : DefinitionKey → Bool) (opened : OpenStore),
    keep key = true → opened.Hides keep →
      work (opened.bare discount keep) = ((work opened).1, (work opened).2.bare discount keep)
  spares : ∀ opened, Spares key opened (work opened).2

theorem blind_start (key : DefinitionKey) : Blind key fun opened => opened.start key where
  commutes := by
    intro discount keep opened kept hides
    unfold start
    dsimp only
    rw [binding?_bare kept, show (opened.bare discount keep).registry = opened.registry from rfl]
    cases opened.store.binding? key with
    | none =>
        dsimp only
        rw [bare_bind kept]
    | some existing =>
        dsimp only
        rw [bare_upToDate]
        have hidesStill := hides.spares (spares_upToDate opened key existing)
        by_cases promised : existing.isPromise = true
        · rw [if_pos promised, if_pos promised, bare_bind kept, ← apply_ite (bare discount keep)]
        · rw [if_neg promised, if_neg promised]
          by_cases same : (opened.upToDate key existing).1 = existing
          · dsimp only
            rw [if_pos same, if_pos same, bare_publish hidesStill]
          · dsimp only
            rw [if_neg same, if_neg same, bare_bind_publish kept hidesStill]
  spares := fun opened => spares_start opened key

theorem blind_finish (key : DefinitionKey) (candidate : Entry) :
    Blind key fun opened => opened.finish key candidate where
  commutes := by
    intro discount keep opened kept hides
    unfold finish
    rw [binding?_bare kept]
    cases opened.store.binding? key with
    | none => rfl
    | some existing =>
        dsimp only
        by_cases retracted : existing = candidate
        · rw [if_pos retracted, if_pos retracted, bare_unbind]
        · rw [if_neg retracted, if_neg retracted, bare_upToDate]
          have hidesStill := hides.spares (spares_upToDate opened key candidate)
          split
          · dsimp only
            rw [bare_bind_publish kept hidesStill]
          · rfl
  spares := fun opened => spares_finish opened key candidate

/-- Handing in the value of a computation. -/
theorem blind_fulfil (key : DefinitionKey) (promise : Entry) (allocation : Allocation) :
    Blind key fun opened =>
      let (candidate, minted) := opened.mint fun serial => promise.fulfil serial allocation
      minted.finish key candidate where
  commutes := by
    intro discount keep opened kept hides
    rw [bare_mint]
    have minted := spares_mint opened key fun serial => promise.fulfil serial allocation
    exact (blind_finish key _).commutes discount keep _ kept (hides.spares minted)
  spares := fun opened =>
    (spares_mint opened key fun serial => promise.fulfil serial allocation).trans
      (spares_finish _ key _)

theorem blind_remove (key : DefinitionKey) : Blind key fun opened => opened.remove key where
  commutes := by
    intro discount keep opened kept hides
    unfold remove
    rw [binding?_bare kept]
    cases opened.store.binding? key with
    | none => rfl
    | some existing =>
        dsimp only
        rw [bare_unbind, bare_bump, bare_count, bare_sweepAround]
        split <;> rfl
  spares := fun opened => spares_remove opened key

theorem bare_supersede (kept : keep key = true) :
    (opened.bare discount keep).supersede key = (opened.supersede key).bare discount keep := by
  unfold supersede
  rw [binding?_bare kept, bare_bump, bare_sweepAround, apply_ite (bare discount keep)]

theorem isBoundTo_bare (kept : keep key = true) (allocation : Allocation) :
    (opened.bare discount keep).isBoundTo key allocation = opened.isBoundTo key allocation := by
  unfold isBoundTo
  rw [binding?_bare kept]
  rfl

theorem blind_change (key : DefinitionKey) (allocation : Allocation) :
    Blind key fun opened => opened.change key allocation where
  commutes := by
    intro discount keep opened kept hides
    unfold change
    rw [isBoundTo_bare kept, bare_supersede kept, bare_count]
    split
    · rfl
    · let counted := (opened.supersede key).count .puts 1
      have counts : Spares key opened counted :=
        (spares_supersede opened key).trans ((keeps_count _ .puts 1).spares key)
      have mints := counts.trans (spares_mint counted key fun serial =>
        .minted serial (some (counted.registry.current key)) (some allocation))
      dsimp only
      rw [bare_mint, show (((opened.supersede key).count .puts 1).bare discount keep).registry =
        counted.registry from rfl]
      dsimp only
      rw [bare_bind_publish kept (hides.spares mints)]
  spares := fun opened => spares_change opened key allocation

theorem blind_promote (key : DefinitionKey) (searched : Nat) :
    Blind key fun opened => opened.promote key searched where
  commutes := by
    intro discount keep opened kept hides
    unfold promote
    dsimp only
    rw [show (opened.bare discount keep).store.table = opened.store.table from rfl]
    split <;> rfl
  spares := fun opened => (keeps_promote opened key searched).spares key

end OpenStore

end ContextCache
