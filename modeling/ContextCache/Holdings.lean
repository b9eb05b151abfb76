import ContextCache.Datum
import ContextCache.Entry

/-!
Contract: the contents of allocations.

The cache only hands allocations around. Whoever allocates values keeps their
contents here, and a list of the allocations that may be named again.

Owns:
- allocation, contents, and the list of shared allocations;
- elements of a list by an index that may be out of range.

Does not own: where allocations are bound.
-/

namespace ContextCache

/-- Where a value comes from. A shared allocation that does not exist is replaced
by a new one. -/
inductive Source where
  | fresh (value : Datum)
  | shared (index : Int) (otherwise : Datum)
deriving Repr

/-- All allocated values, and the allocations that can be named by an index. -/
structure Holdings where
  contents : Array Datum
  shared : Array Allocation
deriving Repr

/-- An element by an index that may be negative or too great. -/
def elementAt? {α : Type} (items : Array α) (index : Int) : Option α :=
  if index < 0 then none else items[index.toNat]?

namespace Holdings

def empty : Holdings :=
  { contents := #[], shared := #[] }

def allocate (holdings : Holdings) (value : Datum) : Allocation × Holdings :=
  (⟨holdings.contents.size⟩, { holdings with contents := holdings.contents.push value })

def content (holdings : Holdings) (allocation : Allocation) : Datum :=
  holdings.contents.getD allocation.serial .null

/-- Lists an allocation among the shared ones. -/
def share (holdings : Holdings) (allocation : Allocation) : Holdings :=
  { holdings with shared := holdings.shared.push allocation }

def allocateShared (holdings : Holdings) (value : Datum) : Allocation × Holdings :=
  let (allocation, allocated) := holdings.allocate value
  (allocation, allocated.share allocation)

def shared? (holdings : Holdings) (index : Int) : Option Allocation :=
  elementAt? holdings.shared index

end Holdings

end ContextCache
