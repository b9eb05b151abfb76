import ContextCache.Table.Basic

/-!
Contract: looking a definition up in a table.

Only an entry of exactly the definition's current generation answers. A lookup
that finds nothing costs its caller a trip to the store and is never wrong.

Owns:
- the lookup at the home slot and along the rest of the probe window.

Does not own: moving what was found.
-/

namespace ContextCache

namespace Table

/-- The value at the home slot, if it belongs to `token`. -/
def probeHome (table : Table) (hash : UInt32) (token : Token) : Option Allocation :=
  match table.slot hash.toNat with
  | some entry => if entry.hasTag token then entry.value? else none
  | none => none

/-- The value that a backup position answers with, if it belongs to `token`. -/
def backupAnswer (token : Token) (found : Nat × Entry) : Option (Nat × Allocation) :=
  if found.2.hasTag token then found.2.value?.map fun allocation => (found.1, allocation)
  else none

/-- The first value for `token` behind the home slot and where it was found. The
search ends at the first empty slot, the home slot included. -/
def probeBackup (table : Table) (probeLimit : Nat) (hash : UInt32) (token : Token) :
    Option (Nat × Allocation) :=
  let home := table.home hash
  if table.isOccupied home then
    (table.backupRun probeLimit home).findSome? (backupAnswer token)
  else
    none

end Table

end ContextCache
