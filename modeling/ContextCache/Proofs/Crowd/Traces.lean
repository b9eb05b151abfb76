import Mathlib.Algebra.Order.BigOperators.Group.Finset
import ContextCache.Proofs.Crowd.Steps

/-!
Contract: what single readers have done in a run, and how much that adds up to.

A run is one list of happenings. Every reader has its own actions in it, and so has every
place. As long as a place is read by certain readers only, and these read nothing else, what
has been done at the place is what its readers have done.

Owns:
- the actions of a reader and the actions at a place;
- the happenings that leave a place to its readers;
- that the counts at a place are the sums of its readers' counts.

Does not own: which actions a reader can have done.
-/

set_option autoImplicit false

namespace ContextCache

namespace Action

/-- The reader starts to compute. -/
def begins : Action → Bool
  | began _ => true
  | _ => false

/-- The reader's value is accepted. -/
def commits : Action → Bool
  | committed _ => true
  | _ => false

/-- The reader's value is thrown away. -/
def discards : Action → Bool
  | discarded _ => true
  | _ => false

/-- No computation has failed, and the reader has not gone away. -/
def succeeds : Action → Bool
  | failed _ => false
  | returned => false
  | _ => true

end Action

/-- What the reader has done in this happening. -/
def Happening.actionOf? (reader : ReaderKey) : Happening → Option Action
  | read mover _ action => if mover = reader then some action else none
  | other _ => none

/-- What has been done for a read of the place in this happening. -/
def Happening.actionAt? (place : Place) : Happening → Option Action
  | read _ worked action => if worked = place then some action else none
  | other _ => none

@[simp] theorem Happening.actionOf?_read_self (reader : ReaderKey) (place : Place)
    (action : Action) : (Happening.read reader place action).actionOf? reader = some action :=
  if_pos rfl

theorem Happening.actionOf?_read_ne {reader mover : ReaderKey} (differs : reader ≠ mover)
    (place : Place) (action : Action) :
    (Happening.read mover place action).actionOf? reader = none :=
  if_neg (Ne.symm differs)

@[simp] theorem Happening.actionAt?_read_self (reader : ReaderKey) (place : Place)
    (action : Action) : (Happening.read reader place action).actionAt? place = some action :=
  if_pos rfl

theorem Happening.actionAt?_read_ne (reader : ReaderKey) {place worked : Place}
    (differs : worked ≠ place) (action : Action) :
    (Happening.read reader worked action).actionAt? place = none :=
  if_neg differs

/-- The steps that look a value up in a table, and move it there. -/
def Operation.isLookup : Operation → Bool
  | .probe => true
  | .promote _ => true
  | _ => false

namespace Crowd

variable {reader : ReaderKey} {readers : Nat} {place : Place} {happening : Happening}
  {happenings : List Happening}

/-- All that a reader has done, the latest first. -/
def actionsOf (reader : ReaderKey) (happenings : List Happening) : List Action :=
  happenings.filterMap (Happening.actionOf? reader)

/-- All that has been done for reads of a place, the latest first. -/
def actionsAt (place : Place) (happenings : List Happening) : List Action :=
  happenings.filterMap (Happening.actionAt? place)

theorem actionsOf_cons_of_none (elsewhere : happening.actionOf? reader = none) :
    actionsOf reader (happening :: happenings) = actionsOf reader happenings :=
  List.filterMap_cons_none elsewhere

theorem actionsOf_cons_of_some {action : Action}
    (moves : happening.actionOf? reader = some action) :
    actionsOf reader (happening :: happenings) = action :: actionsOf reader happenings :=
  List.filterMap_cons_some moves

/-! ### Readers of one place -/

/-- A happening that leaves the definition of the place to its readers: the first `readers`
readers read the place, and compute without failing; everybody else works on other
definitions, or looks something up. -/
inductive Leaves (place : Place) (readers : Nat) : Happening → Prop where
  | reads {reader : ReaderKey} {action : Action} (among : reader < readers)
      (succeeds : action.succeeds = true) : Leaves place readers (.read reader place action)
  | readsElsewhere {reader : ReaderKey} {worked : Place} {action : Action}
      (apart : readers ≤ reader) (elsewhere : worked.definition ≠ place.definition) :
      Leaves place readers (.read reader worked action)
  | worksElsewhere {worked : Place} {operation : Operation} {outcome : Outcome}
      (elsewhere : worked.definition ≠ place.definition) :
      Leaves place readers (.other (.operated worked operation outcome))
  | looksUp {worked : Place} {operation : Operation} {outcome : Outcome}
      (lookup : operation.isLookup = true) :
      Leaves place readers (.other (.operated worked operation outcome))
  | passed : Leaves place readers (.other .passed)

theorem countP_actionsOf_cons (kind : Action → Bool) (reader : ReaderKey) (happening : Happening)
    (happenings : List Happening) :
    (actionsOf reader (happening :: happenings)).countP kind =
      (actionsOf reader happenings).countP kind +
        if (happening.actionOf? reader).any kind then 1 else 0 := by
  unfold actionsOf
  rw [List.filterMap_cons]
  split
  · next nothing => rw [nothing]; rfl
  · next action moves => rw [moves, List.countP_cons]; rfl

theorem countP_actionsAt_cons (kind : Action → Bool) (place : Place) (happening : Happening)
    (happenings : List Happening) :
    (actionsAt place (happening :: happenings)).countP kind =
      (actionsAt place happenings).countP kind +
        if (happening.actionAt? place).any kind then 1 else 0 := by
  unfold actionsAt
  rw [List.filterMap_cons]
  split
  · next nothing => rw [nothing]; rfl
  · next action moves => rw [moves, List.countP_cons]; rfl

/-- What is done at the place is done by exactly one of its readers. -/
theorem Leaves.sum_any (leaves : Leaves place readers happening) (kind : Action → Bool) :
    (∑ reader ∈ Finset.range readers,
      if (happening.actionOf? reader).any kind then 1 else 0) =
      if (happening.actionAt? place).any kind then 1 else 0 := by
  cases leaves with
  | @reads mover action among succeeds =>
      rw [Finset.sum_eq_single_of_mem mover (Finset.mem_range.mpr among),
        Happening.actionOf?_read_self, Happening.actionAt?_read_self]
      intro reader _ differs
      rw [Happening.actionOf?_read_ne differs]
      rfl
  | @readsElsewhere mover worked action apart elsewhere =>
      have differs : worked ≠ place := fun same => elsewhere (congrArg Place.definition same)
      rw [Happening.actionAt?_read_ne mover differs]
      apply Finset.sum_eq_zero
      intro reader member
      have among : reader < readers := Finset.mem_range.mp member
      rw [Happening.actionOf?_read_ne (Nat.ne_of_lt (Nat.lt_of_lt_of_le among apart))]
      rfl
  | _ => exact Finset.sum_const_zero

/-- What has been done at the place is what its readers have done. -/
theorem countP_actionsAt (leaves : ∀ happening ∈ happenings, Leaves place readers happening)
    (kind : Action → Bool) :
    (actionsAt place happenings).countP kind =
      ∑ reader ∈ Finset.range readers, (actionsOf reader happenings).countP kind := by
  induction happenings with
  | nil => exact Finset.sum_const_zero.symm
  | cons latest earlier inductionHypothesis =>
      rw [countP_actionsAt_cons, inductionHypothesis fun happening member =>
        leaves happening (List.mem_cons_of_mem latest member)]
      rw [← (leaves latest (List.mem_cons_self ..)).sum_any kind, ← Finset.sum_add_distrib]
      exact Finset.sum_congr rfl fun reader _ =>
        (countP_actionsOf_cons kind reader latest earlier).symm

end Crowd

end ContextCache
