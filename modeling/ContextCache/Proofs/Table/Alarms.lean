import ContextCache.Proofs.Table.Load
import ContextCache.Table.Probe

/-!
Contract: work on a table that is watched.

A careful step does what the plain one does, and on its way checks everything that must hold
there: that a fresh table has a power of two of slots, that no promise is put in, that the
load is never lowered below zero, that positions fit into half a word, and that a home which
is worked out from a position and a dislocation lies in the window before that position. A
careful sweep keeps its own account of the slots that it has emptied and settles it at the
end, so the load is too high meanwhile; only slots that refilling entries leave are settled
at once.

Owns:
- alarms, and the careful steps on tables;
- that in a table with its invariants no alarm is raised and the careful steps are the plain
  ones.

Does not own: why tables have their invariants.
-/

set_option autoImplicit false

namespace ContextCache

/-- What must never come up. -/
inductive Alarm where
  /-- a table whose number of slots is no power of two -/
  | slots
  /-- a promise on its way into a table -/
  | promiseInserted
  /-- a promise that is to be brought up to date -/
  | promiseRetagged
  /-- a bound entry that is no promise and has no value -/
  | valueless
  /-- more slots to be emptied than the load counts -/
  | load
  /-- a position that half a word cannot hold -/
  | position
  /-- a home outside the window before the position from which it is worked out -/
  | home
  /-- work on a definition or in a context that does not exist -/
  | dangling
deriving DecidableEq, Repr

/-- Raises the alarm unless the condition holds. -/
def Alarm.unless (alarm : Alarm) (condition : Prop) [Decidable condition] :
    Except Alarm Unit :=
  if condition then .ok () else .error alarm

@[simp] theorem Alarm.unless_of_holds {alarm : Alarm} {condition : Prop} [Decidable condition]
    (holds : condition) : alarm.unless condition = .ok () :=
  if_pos holds

theorem Alarm.unless_of_not {alarm : Alarm} {condition : Prop} [Decidable condition]
    (fails : ¬ condition) : alarm.unless condition = .error alarm :=
  if_neg fails

/-- What is done with the result of a careful step raises no alarm. -/
theorem Alarm.map_eq_ok {α β : Type} {careful : Except Alarm α} {plain : α} (change : α → β)
    (agrees : careful = .ok plain) : change <$> careful = .ok (change plain) := by
  rw [agrees]
  rfl

/-- The positions of half a word. -/
def positionLimit : Nat := 2 ^ 63

theorem lt_positionLimit {position : Nat} (small : position ≤ 2 ^ 32) : position < positionLimit :=
  Nat.lt_of_le_of_lt small (by decide)

namespace Table

/-! ### Careful steps -/

def carefulEmpty (capacity : Nat) : Except Alarm Table := do
  Alarm.slots.unless capacity.isPowerOfTwo
  return empty capacity

def carefulAdd (registry : Registry) (probeLimit : Nat) (hash : UInt32) (entry : Entry)
    (table : Table) : Except Alarm Table := do
  Alarm.promiseInserted.unless (entry.isPromise = false)
  return table.add registry probeLimit hash entry

def carefulReadd (registry : Registry) (probeLimit : Nat) (table : Table) (entry : Entry) :
    Except Alarm Table :=
  match entry.hashOf? registry with
  | some hash => table.carefulAdd registry probeLimit hash entry
  | none => .ok table

def carefulProbeBackup (table : Table) (probeLimit : Nat) (hash : UInt32) (token : Token) :
    Except Alarm (Option (Nat × Allocation)) := do
  Alarm.position.unless (table.home hash + probeLimit < positionLimit)
  return table.probeBackup probeLimit hash token

def carefulPromote (registry : Registry) (probeLimit : Nat) (hash : UInt32) (token : Token)
    (table : Table) : Except Alarm (Bool × Table) := do
  Alarm.position.unless (table.home hash + probeLimit < positionLimit)
  return table.promote registry probeLimit hash token

/-- The home of an entry, worked out from its unmasked position. It is negative where the
window crosses the end of the table. -/
def recoveredHome (registry : Registry) (table : Table) (found : Nat × Entry) : Int :=
  (found.1 : Int) - (table.dislocation registry found.1 found.2 : Int)

/-- The home that is worked out for the entry lies in the window before its position. -/
def Recovers (registry : Registry) (probeLimit : Nat) (table : Table) (found : Nat × Entry) :
    Prop :=
  (found.1 : Int) - probeLimit < table.recoveredHome registry found ∧
    table.recoveredHome registry found ≤ found.1

instance (registry : Registry) (probeLimit : Nat) (table : Table) (found : Nat × Entry) :
    Decidable (table.Recovers registry probeLimit found) := by
  unfold Recovers
  infer_instance

/-- Goes through the movable entries. The last one whose home is exactly the hole is chosen,
or else the last one whose home lies before it. -/
def carefulChoice (registry : Registry) (probeLimit hole : Nat) (table : Table) :
    List (Nat × Entry) → Bool → Option (Nat × Entry) → Except Alarm (Option (Nat × Entry))
  | [], _, chosen => .ok chosen
  | found :: rest, exact, chosen => do
    Alarm.home.unless (table.Recovers registry probeLimit found)
    if table.recoveredHome registry found = hole then
      carefulChoice registry probeLimit hole table rest true (some found)
    else if table.recoveredHome registry found < hole ∧ exact = false then
      carefulChoice registry probeLimit hole table rest exact (some found)
    else
      carefulChoice registry probeLimit hole table rest exact chosen

/-- There is nothing to choose from in a window of one slot. -/
def carefulReplacement (registry : Registry) (probeLimit hole : Nat) (table : Table) :
    Except Alarm (Option (Nat × Entry)) :=
  if probeLimit ≤ 1 then
    .ok none
  else do
    Alarm.position.unless (hole + probeLimit < positionLimit)
    carefulChoice registry probeLimit hole table (table.movable registry probeLimit hole) false
      none

/-- A slot that is emptied here is taken off the load at once. -/
def carefulVacate (table : Table) (position : Nat) : Except Alarm Table :=
  if table.isOccupied (position + 1) then
    .ok (table.store position (some .tombstone))
  else do
    Alarm.load.unless (1 ≤ table.load)
    return table.clear position

/-- Frees one position and refills it if an entry may move there. Of the slots emptied before,
`removed` are still counted in the load, and so is this one if it stays empty. -/
def carefulEvict (registry : Registry) (probeLimit hole removed : Nat) (table : Table) :
    Except Alarm (Nat × Table) := do
  match ← table.carefulReplacement registry probeLimit hole with
  | none => return (removed + 1, table.store hole none)
  | some (source, moved) =>
    let vacated ← table.carefulVacate source
    return (removed, vacated.store hole (some moved))

/-- Sweeps on after `evicted` entries have been evicted, and settles at the end. -/
def carefulSweepOn (registry : Registry) (probeLimit : Nat) :
    Nat → Nat → Nat → Nat → Table → Except Alarm Swept
  | _, 0, evicted, removed, table => do
    Alarm.load.unless (removed ≤ table.load)
    return ⟨evicted, { table with load := table.load - removed }⟩
  | start, count + 1, evicted, removed, table =>
    match table.slot start with
    | none => carefulSweepOn registry probeLimit (start + 1) count evicted removed table
    | some entry =>
      if entry.isLive registry then
        carefulSweepOn registry probeLimit (start + 1) count evicted removed table
      else do
        let (owed, kept) ← table.carefulEvict registry probeLimit start removed
        carefulSweepOn registry probeLimit (start + 1) count (evicted + 1) owed kept

def carefulSweep (registry : Registry) (probeLimit start count : Nat) (table : Table) :
    Except Alarm Swept := do
  Alarm.position.unless (start + count < positionLimit)
  carefulSweepOn registry probeLimit start count 0 0 table

variable {registry : Registry} {probeLimit hole : Nat} {table : Table} {entry : Entry}
  {hash : UInt32} {found : Nat × Entry} {movable : List (Nat × Entry)}

/-! ### Inserting and searching -/

theorem carefulEmpty_eq {capacity : Nat} (power : capacity.isPowerOfTwo) :
    carefulEmpty capacity = .ok (empty capacity) := by
  rw [carefulEmpty, Alarm.unless_of_holds power]
  rfl

theorem carefulAdd_eq (hash : UInt32) (minted : entry.isPromise = false) (table : Table) :
    table.carefulAdd registry probeLimit hash entry =
      .ok (table.add registry probeLimit hash entry) := by
  rw [carefulAdd, Alarm.unless_of_holds minted]
  rfl

theorem carefulReadd_eq (minted : entry.isPromise = false) (table : Table) :
    table.carefulReadd registry probeLimit entry = .ok (table.readd registry probeLimit entry) := by
  unfold carefulReadd readd
  cases entry.hashOf? registry with
  | some hash => exact carefulAdd_eq hash minted table
  | none => rfl

theorem carefulProbeBackup_eq (token : Token)
    (small : table.home hash + probeLimit < positionLimit) :
    table.carefulProbeBackup probeLimit hash token = .ok (table.probeBackup probeLimit hash token) := by
  rw [carefulProbeBackup, Alarm.unless_of_holds small]
  rfl

theorem carefulPromote_eq (token : Token)
    (small : table.home hash + probeLimit < positionLimit) :
    table.carefulPromote registry probeLimit hash token =
      .ok (table.promote registry probeLimit hash token) := by
  rw [carefulPromote, Alarm.unless_of_holds small]
  rfl

/-! ### Choosing the entry that moves -/

/-- A live entry is within its window, so its home is too. -/
theorem Unbroken.recovers (unbroken : table.Unbroken registry probeLimit)
    (member : found ∈ table.movable registry probeLimit hole) :
    table.Recovers registry probeLimit found := by
  obtain ⟨behind, passes⟩ := List.mem_filter.mp member
  obtain ⟨steps, -, -, -, there, -⟩ := mem_backupRun_iff.mp behind
  rw [Bool.and_eq_true] at passes
  obtain ⟨hash, homed⟩ := Entry.exists_hashOf?_of_isLive passes.1
  have inside := (unbroken found.1 found.2 hash there passes.1 homed).inside
  have dislocation : table.dislocation registry found.1 found.2 = table.distance hash found.1 :=
    dislocation_eq homed
  unfold Recovers recoveredHome
  omega

/-- The last entry at whose home the hole is, or else the last one whose home lies before it. -/
def lastChoice (registry : Registry) (hole : Nat) (table : Table)
    (movable : List (Nat × Entry)) : Option (Nat × Entry) :=
  (movable.reverse.find? fun found =>
      found.1 == hole + table.dislocation registry found.1 found.2).or <|
    movable.reverse.find? fun found =>
      found.1 < hole + table.dislocation registry found.1 found.2

theorem carefulChoice_exact (recovers : ∀ found ∈ movable, table.Recovers registry probeLimit found)
    (chosen : Option (Nat × Entry)) :
    carefulChoice registry probeLimit hole table movable true chosen =
      .ok ((movable.reverse.find? fun found =>
        found.1 == hole + table.dislocation registry found.1 found.2).or chosen) := by
  induction movable generalizing chosen with
  | nil => rfl
  | cons found rest inductionHypothesis =>
      have others := fun other member => recovers other (List.mem_cons_of_mem found member)
      rw [carefulChoice, Alarm.unless_of_holds (recovers found (List.mem_cons_self ..)),
        List.reverse_cons, List.find?_append, List.find?_singleton, Option.or_assoc]
      show (if table.recoveredHome registry found = hole then _ else _) = _
      by_cases atHole : found.1 = hole + table.dislocation registry found.1 found.2
      · rw [if_pos (by unfold recoveredHome; omega), inductionHypothesis others,
          if_pos (beq_iff_eq.mpr atHole), Option.some_or]
      · rw [if_neg (by unfold recoveredHome; omega), if_neg (by simp), inductionHypothesis others,
          if_neg (mt beq_iff_eq.mp atHole), Option.none_or]

theorem carefulChoice_eq (recovers : ∀ found ∈ movable, table.Recovers registry probeLimit found)
    (chosen : Option (Nat × Entry)) :
    carefulChoice registry probeLimit hole table movable false chosen =
      .ok ((table.lastChoice registry hole movable).or chosen) := by
  induction movable generalizing chosen with
  | nil => rfl
  | cons found rest inductionHypothesis =>
      have others := fun other member => recovers other (List.mem_cons_of_mem found member)
      rw [carefulChoice, Alarm.unless_of_holds (recovers found (List.mem_cons_self ..)), lastChoice,
        List.reverse_cons, List.find?_append, List.find?_append, List.find?_singleton,
        List.find?_singleton]
      show (if table.recoveredHome registry found = hole then _ else _) = _
      by_cases atHole : found.1 = hole + table.dislocation registry found.1 found.2
      · rw [if_pos (by unfold recoveredHome; omega), carefulChoice_exact others,
          if_pos (beq_iff_eq.mpr atHole), Option.or_some]
        rfl
      · rw [if_neg (by unfold recoveredHome; omega), if_neg (mt beq_iff_eq.mp atHole),
          Option.or_none]
        by_cases before : found.1 < hole + table.dislocation registry found.1 found.2
        · rw [if_pos ⟨by unfold recoveredHome; omega, rfl⟩, inductionHypothesis others,
            if_pos (decide_eq_true before)]
          simp only [lastChoice, Option.or_assoc, Option.some_or]
        · rw [if_neg (by unfold recoveredHome; omega), inductionHypothesis others,
            if_neg (mt of_decide_eq_true before), Option.or_none]
          rfl

theorem carefulReplacement_eq (unbroken : table.Unbroken registry probeLimit)
    (small : hole + probeLimit < positionLimit) :
    table.carefulReplacement registry probeLimit hole =
      .ok (table.replacement? registry probeLimit hole) := by
  unfold carefulReplacement
  split
  · next single =>
      have nothing : table.movable registry probeLimit hole = [] := by
        unfold movable backupRun
        rw [show probeLimit - 1 = 0 by omega]
        rfl
      unfold replacement?
      rw [nothing]
      rfl
  · rw [Alarm.unless_of_holds small]
    show carefulChoice registry probeLimit hole table _ false none = _
    rw [carefulChoice_eq fun found member => unbroken.recovers member, Option.or_none]
    rfl

/-! ### Sweeping -/

/-- The table whose load also counts slots that have been emptied. -/
def owing (table : Table) (removed : Nat) : Table :=
  { table with load := table.load + removed }

theorem run_owing (table : Table) (removed start count : Nat) :
    (table.owing removed).run start count = table.run start count := by
  induction count generalizing start with
  | zero => rfl
  | succ count inductionHypothesis =>
      unfold run
      rw [show (table.owing removed).slot start = table.slot start from rfl]
      split
      · rfl
      · rw [inductionHypothesis]

/-- What is chosen does not depend on the load. -/
theorem carefulReplacement_owing_eq (unbroken : table.Unbroken registry probeLimit)
    (small : hole + probeLimit < positionLimit) (removed : Nat) :
    (table.owing removed).carefulReplacement registry probeLimit hole =
      .ok (table.replacement? registry probeLimit hole) := by
  have same : (table.owing removed).replacement? registry probeLimit hole =
      table.replacement? registry probeLimit hole := by
    unfold replacement? movable backupRun
    rw [run_owing]
    rfl
  have still : (table.owing removed).Unbroken registry probeLimit := unbroken.congr rfl
  rw [carefulReplacement_eq still small, same]

theorem Counted.load_pos (counted : table.Counted) (nonempty : 0 < table.capacity)
    {position : Nat} (occupied : table.isOccupied position = true) : 1 ≤ table.load := by
  have written := occupied_store nonempty position none
  rw [occupied] at written
  simp only [if_true, Option.isSome_none, Bool.false_eq_true, if_false] at written
  rw [counted]
  omega

theorem carefulVacate_owing_eq (counted : table.Counted) (nonempty : 0 < table.capacity)
    {position : Nat} (occupied : table.isOccupied position = true) (removed : Nat) :
    (table.owing removed).carefulVacate position = .ok ((table.vacate position).owing removed) := by
  have positive := counted.load_pos nonempty occupied
  unfold carefulVacate vacate
  rw [show (table.owing removed).isOccupied (position + 1) = table.isOccupied (position + 1) from
    rfl]
  split
  · rfl
  · rw [Alarm.unless_of_holds (show 1 ≤ (table.owing removed).load from
      Nat.le_trans positive (Nat.le_add_right _ _))]
    show Except.ok (Table.mk _ (table.load + removed - 1)) =
      .ok (Table.mk _ (table.load - 1 + removed))
    rw [Nat.sub_add_comm positive]
    rfl

/-- A slot that stays empty is owed, and one that a refilling entry leaves is not. -/
theorem carefulEvict_owing_eq (roomy : table.Roomy probeLimit)
    (unbroken : table.Unbroken registry probeLimit) (counted : table.Counted)
    (occupied : table.isOccupied hole = true) (small : hole + probeLimit < positionLimit)
    (removed : Nat) :
    ∃ owed, (table.owing removed).carefulEvict registry probeLimit hole removed =
      .ok (owed, (table.evict registry probeLimit hole).owing owed) := by
  have nonempty := roomy.nonempty
  unfold carefulEvict evict
  rw [carefulReplacement_owing_eq unbroken small removed]
  cases chosen : table.replacement? registry probeLimit hole with
  | none =>
      have positive := counted.load_pos nonempty occupied
      refine ⟨removed + 1, ?_⟩
      show Except.ok (removed + 1, Table.mk _ (table.load + removed)) =
        .ok (removed + 1, Table.mk _ (table.load - 1 + (removed + 1)))
      rw [show table.load - 1 + (removed + 1) = table.load + removed by omega]
      rfl
  | some found =>
      obtain ⟨source, moved⟩ := found
      obtain ⟨ahead, place, refills⟩ := refills_of_replacement? chosen
      dsimp only at place
      have vacates := carefulVacate_owing_eq counted nonempty
        (isOccupied_of_slot refills.slot) removed
      refine ⟨removed, ?_⟩
      show ((table.owing removed).carefulVacate source >>= _) = _
      rw [place, vacates]
      rfl

/-- A careful sweep that owes some slots is the sweep of the table that does not. What it owes
never exceeds its load, for the load of the other table is exact at every step. -/
theorem carefulSweepOn_owing_eq {start count : Nat} (roomy : table.Roomy probeLimit)
    (unbroken : table.Unbroken registry probeLimit) (counted : table.Counted)
    (small : start + count + probeLimit ≤ positionLimit) (evicted removed : Nat) :
    carefulSweepOn registry probeLimit start count evicted removed (table.owing removed) =
      .ok ⟨evicted + (table.sweep registry probeLimit start count).evicted,
        (table.sweep registry probeLimit start count).table⟩ := by
  induction count generalizing start table evicted removed with
  | zero =>
      have settles : removed ≤ (table.owing removed).load := Nat.le_add_left removed table.load
      rw [carefulSweepOn, Alarm.unless_of_holds settles]
      show Except.ok (Swept.mk evicted (Table.mk _ (table.load + removed - removed))) = _
      rw [Nat.add_sub_cancel]
      rfl
  | succ count inductionHypothesis =>
      unfold carefulSweepOn sweep
      rw [show (table.owing removed).slot start = table.slot start from rfl]
      cases found : table.slot start with
      | none => exact inductionHypothesis roomy unbroken counted (by omega) evicted removed
      | some entry =>
          dsimp only
          split
          · exact inductionHypothesis roomy unbroken counted (by omega) evicted removed
          · have occupied := isOccupied_of_slot found
            obtain ⟨owed, evicts⟩ := carefulEvict_owing_eq roomy unbroken counted occupied
              (by omega) removed
            rw [evicts]
            have continues := inductionHypothesis
              (roomy.congr (capacity_evict registry probeLimit start table))
              (unbroken_evict roomy unbroken) (counted.evict roomy occupied)
              (show start + 1 + count + probeLimit ≤ positionLimit by omega) (evicted + 1) owed
            rw [Nat.add_right_comm] at continues
            exact continues

/-- A sweep raises no alarm, whatever range it covers. -/
theorem carefulSweep_eq {start count : Nat} (roomy : table.Roomy probeLimit)
    (unbroken : table.Unbroken registry probeLimit) (counted : table.Counted)
    (small : start + count + probeLimit ≤ positionLimit) :
    table.carefulSweep registry probeLimit start count =
      .ok (table.sweep registry probeLimit start count) := by
  have positive := roomy.positive
  rw [carefulSweep, Alarm.unless_of_holds (show start + count < positionLimit by omega)]
  have sweeps := carefulSweepOn_owing_eq roomy unbroken counted small 0 0
  rw [Nat.zero_add] at sweeps
  exact sweeps

/-- A load that counts too few slots is noticed. -/
example : carefulSweep .initial 1 0 1 ⟨#[some .tombstone], 0⟩ = .error .load := by
  decide

end Table

end ContextCache
