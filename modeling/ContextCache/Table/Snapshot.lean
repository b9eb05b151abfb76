import ContextCache.Table.Basic

/-!
Contract: a table as it is shown to the outside.

A snapshot copies what can be seen of each slot at one moment: the state of its
entry and, while the entry's token can be reached, its hash and dislocation.

Owns:
- snapshots, the counts over them and their one-line text;
- the audit that a sound snapshot passes and the faults it can find.

Does not own: the table that a snapshot was taken from.
-/

namespace ContextCache

/-- One slot as seen from outside. An empty slot has no state; a hash and a
dislocation are shown while the token of the slot's entry can be reached. -/
structure SlotView where
  index : Nat
  state : Option EntryState
  hash : Option UInt32
  dislocation : Option Nat
deriving DecidableEq, Repr

/-- A copy of a table with the bookkeeping around it. -/
structure Snapshot where
  capacity : Nat
  load : Nat
  loadLimit : Nat
  probeLimit : Nat
  slots : List SlotView
deriving DecidableEq, Repr

def Table.slotView (registry : Registry) (table : Table) (index : Nat) : SlotView :=
  match table.slot index with
  | none => ⟨index, none, none, none⟩
  | some entry =>
    { index
      state := some (entry.state registry)
      hash := entry.hashOf? registry
      dislocation :=
        (entry.hashOf? registry).map fun _ => table.dislocation registry index entry }

def Table.snapshot (registry : Registry) (table : Table) (loadLimit probeLimit : Nat) :
    Snapshot :=
  { capacity := table.capacity
    load := table.load
    loadLimit
    probeLimit
    slots := (List.range table.capacity).map (table.slotView registry) }

/-- A fault that the audit of a snapshot can find. -/
inductive SnapshotFault where
  | promiseInTable
  | outsideWindow (indices : List Nat)
  | loadMismatch (load occupied capacity : Nat)
deriving DecidableEq, Repr

namespace SlotView

def isLive (view : SlotView) : Bool :=
  view.state == some .live

/-- A live entry at or beyond the probe limit, where no lookup finds it. -/
def isMisplaced (probeLimit : Nat) (view : SlotView) : Bool :=
  view.isLive &&
    match view.dislocation with
    | some dislocation => probeLimit ≤ dislocation
    | none => true

def stateLetter : EntryState → String
  | .promise => "P"
  | .dead => "D"
  | .stale => "S"
  | .live => "L"

/-- `-` for an empty slot; otherwise the state's letter, followed by the hash and
the dislocation while the token can be reached. -/
def text (view : SlotView) : String :=
  match view.state with
  | none => "-"
  | some state =>
    match view.hash, view.dislocation with
    | some hash, some dislocation =>
      stateLetter state ++ toString hash.toNat ++ "+" ++ toString dislocation
    | _, _ => stateLetter state

end SlotView

namespace Snapshot

/-- The snapshot of a context that has not allocated a table. -/
def unallocated (probeLimit : Nat) : Snapshot :=
  { capacity := 0, load := 0, loadLimit := 0, probeLimit, slots := [] }

def count (snapshot : Snapshot) (state : EntryState) : Nat :=
  snapshot.slots.countP fun view => view.state == some state

def liveSlots (snapshot : Snapshot) : Nat :=
  snapshot.count .live

def occupiedSlots (snapshot : Snapshot) : Nat :=
  snapshot.slots.countP fun view => view.state.isSome

def containsPromise (snapshot : Snapshot) : Bool :=
  snapshot.slots.any fun view => view.state == some .promise

/-- The live slots that lie outside their definition's probe window. -/
def misplacedSlots (snapshot : Snapshot) : List Nat :=
  (snapshot.slots.filter (SlotView.isMisplaced snapshot.probeLimit)).map SlotView.index

def liveSlotsFor (snapshot : Snapshot) (hash : UInt32) : Nat :=
  snapshot.slots.countP fun view => view.isLive && view.hash == some hash

def text (snapshot : Snapshot) : String :=
  " ".intercalate (snapshot.slots.map SlotView.text)

/-- A snapshot is sound if no slot holds a promise, every live slot lies inside
its probe window, and the load is the number of occupied slots. A context that
has allocated nothing is sound. The first fault found is reported. -/
def audit (snapshot : Snapshot) : Except SnapshotFault Unit :=
  if snapshot.capacity = 0 then
    .ok ()
  else if snapshot.containsPromise then
    .error .promiseInTable
  else if !snapshot.misplacedSlots.isEmpty then
    .error (.outsideWindow snapshot.misplacedSlots)
  else if snapshot.load ≠ snapshot.occupiedSlots ∨ snapshot.capacity < snapshot.load then
    .error (.loadMismatch snapshot.load snapshot.occupiedSlots snapshot.capacity)
  else
    .ok ()

end Snapshot

def SnapshotFault.message : SnapshotFault → String
  | .promiseInTable => "promise found in the cache array"
  | .outsideWindow indices =>
    "live entries outside their probe window at [" ++
      ", ".intercalate (indices.map toString) ++ "]"
  | .loadMismatch load occupied capacity =>
    "load " ++ toString load ++ " disagrees with " ++ toString occupied ++
      " occupied of " ++ toString capacity ++ " slots"

end ContextCache
