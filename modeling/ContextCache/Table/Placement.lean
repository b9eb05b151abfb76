import ContextCache.Table.Basic

/-!
Contract: putting live entries into a table.

An entry always goes to its home slot. A live occupant that it pushes out moves
to the first slot of its own probe window that no other live entry holds, and
leaves the table when there is none. An entry found behind its home can be
promoted to the home slot.

Owns:
- insertion, re-insertion by an entry's own token, and promotion.

Does not own: eviction of entries that are no longer live.
-/

namespace ContextCache

namespace Table

/-- Fills an empty slot, which raises the load. -/
def fill (table : Table) (position : Nat) (entry : Entry) : Table :=
  { table.store position (some entry) with load := table.load + 1 }

/-- Writes an entry at its home and returns the live entry that it pushed out.
An entry that is there already stays, and nothing is pushed out. -/
def seat (registry : Registry) (table : Table) (home : Nat) (entry : Entry) :
    Option Entry × Table :=
  match table.slot home with
  | none => (none, table.fill home entry)
  | some occupant =>
    if occupant = entry then
      (none, table)
    else
      (if occupant.isLive registry then some occupant else none,
        table.store home (some entry))

/-- Writes an entry into the first of `count` positions from `position` on that
no other live entry holds; without such a position it is left out. -/
def shelter (registry : Registry) (entry : Entry) : Nat → Nat → Table → Table
  | _, 0, table => table
  | position, count + 1, table =>
    match table.slot position with
    | none => table.fill position entry
    | some occupant =>
      if occupant = entry then
        table
      else if occupant.isLive registry then
        shelter registry entry (position + 1) count table
      else
        table.store position (some entry)

/-- Inserts an entry at the home of `hash`. The live entry that had the slot is
sheltered in its own probe window, which may begin before the slot. -/
def add (registry : Registry) (probeLimit : Nat) (hash : UInt32) (entry : Entry)
    (table : Table) : Table :=
  let home := table.home hash
  match table.seat registry home entry with
  | (none, seated) => seated
  | (some displaced, seated) =>
    let ownHome := home + table.capacity - table.dislocation registry home displaced
    shelter registry displaced ownHome probeLimit seated

/-- Inserts an entry at the home that its own token names, if that token can
still be reached. -/
def readd (registry : Registry) (probeLimit : Nat) (table : Table) (entry : Entry) : Table :=
  match entry.hashOf? registry with
  | some hash => table.add registry probeLimit hash entry
  | none => table

/-- Whether a position of the backup run may be promoted for `token`. -/
def isPromotable (token : Token) (found : Nat × Entry) : Bool :=
  found.2.hasTag token && !found.2.isPromise

/-- Moves an entry of `token` from behind its home slot into the home slot.

The old occupant of the home slot takes the first position without a live entry
that the search passed, or else the promoted entry's old position, if that is
inside its own probe window. Otherwise a tombstone goes there, so that runs stay
unbroken and the load does not change. -/
def promote (registry : Registry) (probeLimit : Nat) (hash : UInt32) (token : Token)
    (table : Table) : Bool × Table :=
  let home := table.home hash
  let behind := table.backupRun probeLimit home
  match table.slot home, behind.find? (isPromotable token) with
  | some oldHome, some (position, entry) =>
    let passed := behind.takeWhile fun found => !isPromotable token found
    let vacancy := passed.find? fun found => !found.2.isLive registry
    let target := (vacancy.map Prod.fst).getD position
    let keepsOldHome :=
      oldHome.isLive registry && table.dislocation registry target oldHome < probeLimit
    let moved := if keepsOldHome then oldHome else .tombstone
    (true,
      ((table.store home (some entry)).store position (some .tombstone)).store target
        (some moved))
  | _, _ => (false, table)

@[simp] theorem capacity_fill (table : Table) (position : Nat) (entry : Entry) :
    (table.fill position entry).capacity = table.capacity :=
  capacity_store table position (some entry)

@[simp] theorem capacity_seat (registry : Registry) (table : Table) (home : Nat)
    (entry : Entry) : (table.seat registry home entry).2.capacity = table.capacity := by
  unfold seat
  split
  · simp
  · split <;> simp

@[simp] theorem capacity_shelter (registry : Registry) (entry : Entry) (position count : Nat)
    (table : Table) :
    (shelter registry entry position count table).capacity = table.capacity := by
  induction count generalizing position with
  | zero => rfl
  | succ count inductionHypothesis =>
    unfold shelter
    split
    · simp
    · split
      · rfl
      · split
        · exact inductionHypothesis (position + 1)
        · simp

/-- Insertion does not change the number of slots. -/
@[simp] theorem capacity_add (registry : Registry) (probeLimit : Nat) (hash : UInt32)
    (entry : Entry) (table : Table) :
    (table.add registry probeLimit hash entry).capacity = table.capacity := by
  have seated := capacity_seat registry table (table.home hash) entry
  unfold add
  dsimp only
  split
  · next found => rw [found] at seated; exact seated
  · next found => rw [found] at seated; rw [capacity_shelter]; exact seated

@[simp] theorem capacity_readd (registry : Registry) (probeLimit : Nat) (table : Table)
    (entry : Entry) : (table.readd registry probeLimit entry).capacity = table.capacity := by
  unfold readd
  split
  · simp
  · rfl

/-- Promotion does not change the number of slots. -/
@[simp] theorem capacity_promote (registry : Registry) (probeLimit : Nat) (hash : UInt32)
    (token : Token) (table : Table) :
    (table.promote registry probeLimit hash token).2.capacity = table.capacity := by
  unfold promote
  dsimp only
  split
  · simp
  · rfl

/-- Promotion moves entries and fills no slot. -/
@[simp] theorem load_promote (registry : Registry) (probeLimit : Nat) (hash : UInt32)
    (token : Token) (table : Table) :
    (table.promote registry probeLimit hash token).2.load = table.load := by
  unfold promote
  dsimp only
  split
  · simp
  · rfl

end Table

end ContextCache
