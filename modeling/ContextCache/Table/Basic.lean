import ContextCache.Entry

/-!
Contract: the small open-addressed table in which a context finds entries fast.

A table has a power of two of slots. Positions are plain numbers and wrap around
the table's end, so a run of positions can cross it. An entry's home is its
definition's hash taken as a position, and its dislocation is the distance from
that home to where it sits.

Owns:
- slots, reading and writing them by position, homes and dislocations;
- the load, a count of occupied slots that the writers keep;
- runs, the gap-free sequences of entries that probing walks along.

Does not own: the rules by which entries are placed or evicted.
-/

namespace ContextCache

/-- Slots with the number of them that are occupied, as its writers count it. -/
structure Table where
  slots : Array (Option Entry)
  load : Nat
deriving DecidableEq, Repr

namespace Table

/-- A table of `capacity` empty slots. -/
def empty (capacity : Nat) : Table :=
  ⟨Array.replicate capacity none, 0⟩

def capacity (table : Table) : Nat :=
  table.slots.size

/-- The occupant of the slot at a position. -/
def slot (table : Table) (position : Nat) : Option Entry :=
  (table.slots[position % table.capacity]?).join

def isOccupied (table : Table) (position : Nat) : Bool :=
  (table.slot position).isSome

/-- Overwrites the slot at a position and leaves the load alone. -/
def store (table : Table) (position : Nat) (occupant : Option Entry) : Table :=
  { table with slots := table.slots.setIfInBounds (position % table.capacity) occupant }

/-- The slot at which a definition with this hash is looked for first. -/
def home (table : Table) (hash : UInt32) : Nat :=
  hash.toNat % table.capacity

/-- The distance, going up and around the end, from the home of an entry with
this hash to a position. -/
def distance (table : Table) (hash : UInt32) (position : Nat) : Nat :=
  (position + (table.capacity - table.home hash)) % table.capacity

/-- The dislocation of an entry at a position. An entry whose token is gone has
no home any more and counts as sitting at home. -/
def dislocation (registry : Registry) (table : Table) (position : Nat) (entry : Entry) : Nat :=
  match entry.hashOf? registry with
  | some hash => table.distance hash position
  | none => 0

/-- The entries at the positions from `start` on, at most `count` of them, up to
the first empty slot. -/
def run (table : Table) : Nat → Nat → List (Nat × Entry)
  | _, 0 => []
  | start, count + 1 =>
    match table.slot start with
    | none => []
    | some entry => (start, entry) :: table.run (start + 1) count

/-- The entries behind a home slot within its probe window. -/
def backupRun (table : Table) (probeLimit home : Nat) : List (Nat × Entry) :=
  table.run (home + 1) (probeLimit - 1)

/-- All entries in the order of their slots. -/
def entries (table : Table) : List Entry :=
  table.slots.toList.filterMap id

/-- The slots that are occupied, counted afresh. -/
def occupied (table : Table) : Nat :=
  table.slots.toList.countP Option.isSome

@[simp] theorem capacity_store (table : Table) (position : Nat) (occupant : Option Entry) :
    (table.store position occupant).capacity = table.capacity := by
  simp [store, capacity]

@[simp] theorem load_store (table : Table) (position : Nat) (occupant : Option Entry) :
    (table.store position occupant).load = table.load := rfl

@[simp] theorem capacity_empty (capacity : Nat) : (empty capacity).capacity = capacity := by
  simp [empty, Table.capacity]

theorem slot_empty (capacity position : Nat) : (empty capacity).slot position = none := by
  unfold slot
  rw [capacity_empty]
  simp only [empty, Array.getElem?_replicate]
  split <;> rfl

theorem distance_lt (table : Table) (hash : UInt32) (position : Nat)
    (nonempty : 0 < table.capacity) : table.distance hash position < table.capacity :=
  Nat.mod_lt _ nonempty

/-- Reading back: the slot that was written, and any other slot. -/
theorem slot_store (table : Table) (position other : Nat) (occupant : Option Entry)
    (nonempty : 0 < table.capacity) :
    (table.store position occupant).slot other =
      if other % table.capacity = position % table.capacity then occupant
      else table.slot other := by
  have inBounds : position % table.capacity < table.slots.size := Nat.mod_lt _ nonempty
  unfold slot
  rw [capacity_store]
  unfold store
  simp only [Array.getElem?_setIfInBounds]
  by_cases same : position % table.capacity = other % table.capacity
  · simp [same, same ▸ inBounds]
  · simp [same, Ne.symm same]

end Table

end ContextCache
