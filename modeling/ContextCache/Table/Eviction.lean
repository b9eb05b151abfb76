import ContextCache.Table.Basic

/-!
Contract: sweeping entries out of a table that are no longer live.

Emptying a slot in the middle of a run would hide the entries behind it. So a
freed slot is refilled with a later live entry that may sit there, and only a
slot for which there is none becomes empty.

Owns:
- the choice of the entry that refills a freed slot;
- the sweep of a range of positions, of one probe window and of the whole table.

Does not own: when to sweep.
-/

namespace ContextCache

namespace Table

/-- How many entries a sweep took out, and the table that it left. -/
structure Swept where
  evicted : Nat
  table : Table
deriving DecidableEq, Repr

/-- The live entries behind a hole that sit away from home, within a probe
window and before the next empty slot. -/
def movable (registry : Registry) (probeLimit hole : Nat) (table : Table) :
    List (Nat × Entry) :=
  (table.backupRun probeLimit hole).filter fun found =>
    found.2.isLive registry && table.dislocation registry found.1 found.2 != 0

/-- The entry that should move into a hole: the last one whose home is exactly
the hole, or else the last one whose home lies before it. -/
def replacement? (registry : Registry) (probeLimit hole : Nat) (table : Table) :
    Option (Nat × Entry) :=
  let candidates := (table.movable registry probeLimit hole).reverse
  let ownHole := candidates.find? fun found =>
    found.1 == hole + table.dislocation registry found.1 found.2
  ownHole.or <| candidates.find? fun found =>
    found.1 < hole + table.dislocation registry found.1 found.2

/-- Empties an occupied slot, which lowers the load. -/
def clear (table : Table) (position : Nat) : Table :=
  { table.store position none with load := table.load - 1 }

/-- Takes a moving entry's old position out of use: a tombstone where the run
goes on behind it, an empty slot where it ends. -/
def vacate (table : Table) (position : Nat) : Table :=
  if table.isOccupied (position + 1) then
    table.store position (some .tombstone)
  else
    table.clear position

/-- Frees one position and refills it if an entry may move there. -/
def evict (registry : Registry) (probeLimit position : Nat) (table : Table) : Table :=
  match table.replacement? registry probeLimit position with
  | none => table.clear position
  | some (source, entry) => (table.vacate source).store position (some entry)

/-- Sweeps `count` positions from `start` on, one after the other. -/
def sweep (registry : Registry) (probeLimit : Nat) : Nat → Nat → Table → Swept
  | _, 0, table => ⟨0, table⟩
  | start, count + 1, table =>
    match table.slot start with
    | none => sweep registry probeLimit (start + 1) count table
    | some entry =>
      if entry.isLive registry then
        sweep registry probeLimit (start + 1) count table
      else
        let swept := sweep registry probeLimit (start + 1) count
          (table.evict registry probeLimit start)
        ⟨swept.evicted + 1, swept.table⟩

/-- Sweeps the probe window of a hash. -/
def sweepAround (registry : Registry) (probeLimit : Nat) (hash : UInt32) (table : Table) :
    Swept :=
  table.sweep registry probeLimit hash.toNat probeLimit

/-- Sweeps every slot, and goes on far enough past the end to finish the runs
that cross it. -/
def sweepAll (registry : Registry) (probeLimit : Nat) (table : Table) : Swept :=
  table.sweep registry probeLimit 0 (table.capacity + probeLimit - 1)

@[simp] theorem capacity_clear (table : Table) (position : Nat) :
    (table.clear position).capacity = table.capacity :=
  capacity_store table position none

@[simp] theorem capacity_vacate (table : Table) (position : Nat) :
    (table.vacate position).capacity = table.capacity := by
  unfold vacate
  split <;> simp

@[simp] theorem capacity_evict (registry : Registry) (probeLimit position : Nat)
    (table : Table) : (table.evict registry probeLimit position).capacity = table.capacity := by
  unfold evict
  split <;> simp

/-- A sweep does not change the number of slots. -/
@[simp] theorem capacity_sweep (registry : Registry) (probeLimit start count : Nat)
    (table : Table) :
    (table.sweep registry probeLimit start count).table.capacity = table.capacity := by
  induction count generalizing start table with
  | zero => rfl
  | succ count inductionHypothesis =>
    unfold sweep
    split
    · exact inductionHypothesis (start + 1) table
    · split
      · exact inductionHypothesis (start + 1) table
      · exact (inductionHypothesis (start + 1) _).trans
          (capacity_evict registry probeLimit start table)

end Table

end ContextCache
