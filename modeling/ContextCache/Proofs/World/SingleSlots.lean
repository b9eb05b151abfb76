import ContextCache.Proofs.World.Invalidation
import ContextCache.Proofs.World.Removal

/-!
Contract: how many slots of a store's table hold a live entry of one definition.

All of them hold the very entry that the definition is bound to. A step that puts a value in
finds the table without live entries of the definition, because the definition was unbound,
promised or outdated, or because the step has ended its generation. There is one exception: a
start puts the bound entry in again, and does not look whether the table holds it. If it is
there, behind its home slot, then it is in two slots afterwards.

Owns:
- that live slots hold what is bound;
- that steps keep a definition in one slot, and for starts exactly when they do.

Does not own: whether a start comes at a moment when the table holds the entry.
-/

set_option autoImplicit false

namespace ContextCache

theorem Entry.isLiveFor_iff {registry : Registry} {key : DefinitionKey} {entry : Entry} :
    entry.isLiveFor registry key = true ↔
      ∃ token, entry.tag? = some token ∧ registry.isLive token = true ∧
        token.definition = key := by
  unfold isLiveFor isLive
  cases entry.tag? with
  | none => simp
  | some token => simp

namespace Table

variable {registry : Registry} {probeLimit : Nat} {table : Table} {hash : UInt32}
  {entry other : Entry} {key : DefinitionKey} {first second : Nat}

/-! ### Live slots -/

theorem isLive_of_isLiveFor (counted : entry.isLiveFor registry key = true) :
    entry.isLive registry = true := by
  unfold Entry.isLiveFor at counted
  rw [Bool.and_eq_true] at counted
  exact counted.1

theorem liveSlotsOf_eq_zero_iff (nonempty : 0 < table.capacity) :
    table.liveSlotsOf registry key = 0 ↔
      ∀ entry, table.Holds entry → entry.isLiveFor registry key = false := by
  unfold liveSlotsOf
  rw [List.countP_eq_zero]
  constructor
  · intro none entry holds
    exact Bool.eq_false_iff.mpr (none entry (mem_entries_of_holds nonempty holds))
  · intro none entry member
    rw [none entry (holds_of_mem_entries member)]
    decide

theorem liveSlotsOf_eq_zero (nonempty : 0 < table.capacity)
    (absent : ∀ entry token, table.Holds entry → entry.tag? = some token →
      registry.isLive token = true → token.definition ≠ key) :
    table.liveSlotsOf registry key = 0 := by
  rw [liveSlotsOf_eq_zero_iff nonempty]
  intro entry holds
  rw [Bool.eq_false_iff]
  intro counted
  obtain ⟨token, tagged, live, own⟩ := Entry.isLiveFor_iff.mp counted
  exact absent entry token holds tagged live own

theorem liveSlotsOf_of_forgets (nonempty : 0 < table.capacity) (forgets : table.Forgets key) :
    table.liveSlotsOf registry key = 0 :=
  liveSlotsOf_eq_zero nonempty fun entry token holds tagged _ => forgets entry token holds tagged

/-- Insertion makes one more at most. -/
theorem liveSlotsOf_add_le (nonempty : 0 < table.capacity) :
    (table.add registry probeLimit hash entry).liveSlotsOf registry key ≤
      table.liveSlotsOf registry key + 1 := by
  have added : (table.add registry probeLimit hash entry).liveSlotsOf registry key ≤
      table.liveSlotsOf registry key + _ := countP_add_le nonempty _
  refine Nat.le_trans added (Nat.add_le_add_left ?_ _)
  split
  · exact Nat.le_refl _
  · exact Nat.zero_le _

theorem countP_entries_range (table : Table) (counts : Entry → Bool) :
    table.entries.countP counts =
      (List.range table.capacity).countP fun position => (table.slot position).any counts := by
  rw [countP_entries, toList_slots, List.countP_map]
  rfl

/-- Two slots make two. -/
theorem two_le_liveSlotsOf (nonempty : 0 < table.capacity)
    (apart : ¬ first ≡ second [MOD table.capacity]) (found : table.slot first = some entry)
    (foundToo : table.slot second = some other) (counted : entry.isLiveFor registry key = true)
    (countedToo : other.isLiveFor registry key = true) :
    2 ≤ table.liveSlotsOf registry key := by
  unfold liveSlotsOf
  rw [countP_entries_range, List.countP_eq_length_filter]
  have wrapped : ∀ {position : Nat} {held : Entry}, table.slot position = some held →
      held.isLiveFor registry key = true →
      position % table.capacity ∈ (List.range table.capacity).filter fun position =>
        (table.slot position).any (Entry.isLiveFor registry key) := by
    intro position held there counts
    refine List.mem_filter.mpr ⟨List.mem_range.mpr (Nat.mod_lt _ nonempty), ?_⟩
    rw [slot_congr (Nat.mod_modEq position _), there]
    exact counts
  have distinct : [first % table.capacity, second % table.capacity].Nodup := by
    rw [List.nodup_cons, List.mem_singleton]
    exact ⟨apart, by simp⟩
  have inside : [first % table.capacity, second % table.capacity] ⊆
      (List.range table.capacity).filter fun position =>
        (table.slot position).any (Entry.isLiveFor registry key) := by
    intro position member
    rcases List.mem_cons.mp member with rfl | member
    · exact wrapped found counted
    · rw [List.mem_singleton.mp member]
      exact wrapped foundToo countedToo
  exact List.Nodup.length_le_of_subset distinct inside

/-- No more live slots are counted for a hash than its definition has, if it is not shared. -/
theorem liveSlotsFor_snapshot_le
    (own : ∀ other, registry.isAlive other = true → registry.hash other = registry.hash key →
      other = key) (table : Table) (loadLimit probeLimit : Nat) :
    (table.snapshot registry loadLimit probeLimit).liveSlotsFor (registry.hash key) ≤
      table.liveSlotsOf registry key := by
  unfold Snapshot.liveSlotsFor snapshot liveSlotsOf
  rw [List.countP_map, countP_entries_range]
  apply List.countP_mono_left
  intro index _ counted
  simp only [Function.comp_apply, Bool.and_eq_true, beq_iff_eq] at counted
  obtain ⟨entry, hash, found, live, -, -⟩ := slotView_of_isLive counted.1
  unfold Entry.isLive at live
  split at live
  · next token tagged =>
      have shown : (table.slotView registry index).hash =
          some (registry.hash token.definition) := by
        unfold slotView
        rw [found]
        show entry.hashOf? registry = _
        unfold Entry.hashOf?
        rw [tagged]
        exact Registry.hashOf?_of_isLive live
      have same : token.definition = key :=
        own _ (Registry.isAlive_of_isLive live) (Option.some.inj (shown.symm.trans counted.2))
      rw [found]
      exact Entry.isLiveFor_iff.mpr ⟨token, tagged, live, same⟩
  · cases live

/-- An entry that is at home already is not inserted again. -/
theorem add_of_home (found : table.slot (table.home hash) = some entry) :
    table.add registry probeLimit hash entry = table := by
  unfold add seat
  dsimp only
  rw [found]
  dsimp only
  rw [if_pos rfl]

/-- With a live entry of the definition behind its home slot, inserting one makes two. -/
theorem two_le_liveSlotsOf_add {position : Nat} (nonempty : 0 < table.capacity)
    (found : table.slot position = some other) (countedToo : other.isLiveFor registry key = true)
    (apart : ¬ position ≡ table.home hash [MOD table.capacity])
    (counted : entry.isLiveFor registry key = true) :
    2 ≤ (table.add registry probeLimit hash entry).liveSlotsOf registry key :=
  two_le_liveSlotsOf (by simpa using nonempty) (by simpa using apart)
    (slot_add_of_live nonempty (isLive_of_isLiveFor countedToo) found apart)
    (slot_add_home nonempty (isLive_of_isLiveFor counted)) countedToo counted

/-- If the live entry of the definition, where there is one, is this entry in its home slot,
then inserting the entry keeps it the only one. -/
theorem liveSlotsOf_add_le_one (nonempty : 0 < table.capacity)
    (single : table.liveSlotsOf registry key ≤ 1)
    (only : ∀ position held, table.slot position = some held →
      held.isLiveFor registry key = true →
        position ≡ table.home hash [MOD table.capacity] ∧ held = entry) :
    (table.add registry probeLimit hash entry).liveSlotsOf registry key ≤ 1 := by
  by_cases home : table.slot (table.home hash) = some entry
  · rw [add_of_home home]
    exact single
  · have none : table.liveSlotsOf registry key = 0 := by
      rw [liveSlotsOf_eq_zero_iff nonempty]
      rintro held ⟨position, found⟩
      rw [Bool.eq_false_iff]
      intro counted
      obtain ⟨here, rfl⟩ := only position held found counted
      exact home ((slot_congr here).symm.trans found)
    refine Nat.le_trans (liveSlotsOf_add_le nonempty) ?_
    rw [none]

end Table

namespace OpenStore

variable {opened after : OpenStore} {key : DefinitionKey} {operation : Operation}
  {outcome : Outcome}

/-- Every live slot holds the entry that its definition is bound to. -/
def Faithful (opened : OpenStore) : Prop :=
  ∀ entry token, opened.store.table.Holds entry → entry.tag? = some token →
    opened.registry.isLive token = true → opened.store.binding? token.definition = some entry

/-- No definition has two live slots. -/
def Single (opened : OpenStore) : Prop :=
  ∀ key, opened.store.table.liveSlotsOf opened.registry key ≤ 1

theorem Sound.liveSlotsOf_le (sound : opened.Sound) {later : Registry}
    (leads : opened.registry.Leads later) (key : DefinitionKey) :
    opened.store.table.liveSlotsOf later key ≤
      opened.store.table.liveSlotsOf opened.registry key := by
  unfold Table.liveSlotsOf
  apply List.countP_mono_left
  intro entry member counted
  obtain ⟨token, tagged, live, own⟩ := Entry.isLiveFor_iff.mp counted
  have known := sound.knows_of_holds (Table.holds_of_mem_entries member) tagged
  exact Entry.isLiveFor_iff.mpr ⟨token, tagged, leads.isLive known live, own⟩

/-! ### Live slots hold what is bound -/

theorem Faithful.advance {later : OpenStore} (faithful : opened.Faithful) (sound : opened.Sound)
    (same : later.store = opened.store) (leads : opened.registry.Leads later.registry) :
    later.Faithful := by
  intro entry token holds tagged live
  rw [same] at holds ⊢
  exact faithful entry token holds tagged (leads.isLive (sound.knows_of_holds holds tagged) live)

theorem faithful_create (config : Config) (shared : Shared) :
    (OpenStore.mk shared (Store.create config)).Faithful :=
  fun _ _ holds => absurd holds (Table.not_holds_empty _)

/-- Every step keeps live slots faithful to the bindings. -/
theorem Arranged.faithful (arranged : Arranged opened after key operation outcome)
    (sound : opened.Sound) (faithful : opened.Faithful) (spares : Spares key opened after) :
    after.Faithful := by
  have before : ∀ entry token, opened.store.table.Holds entry → entry.tag? = some token →
      after.registry.isLive token = true → opened.registry.isLive token = true ∧
        opened.store.binding? token.definition = some entry := by
    intro entry token holds tagged live
    have liveBefore := spares.leads.isLive (sound.knows_of_holds holds tagged) live
    exact ⟨liveBefore, faithful entry token holds tagged liveBefore⟩
  have elsewhere : ∀ entry token, opened.store.table.Holds entry → entry.tag? = some token →
      after.registry.isLive token = true → token.definition ≠ key →
        after.store.binding? token.definition = some entry := by
    intro entry token holds tagged live differs
    obtain ⟨liveBefore, bound⟩ := before entry token holds tagged live
    exact (spares.binding _ differs (Registry.isAlive_of_isLive liveBefore)).trans bound
  intro entry token holds tagged live
  cases arranged with
  | kept unvalued housekept settled =>
      rcases housekept.holds holds with rfl | heldBefore
      · cases tagged
      by_cases own : token.definition = key
      · rcases settled with same | forgets
        · rw [own, same, ← own]
          exact (before entry token heldBefore tagged live).2
        · exact absurd own (forgets entry token holds tagged)
      · exact elsewhere entry token heldBefore tagged live own
  | published valued housekept inserted bound earlier =>
      rw [inserted] at holds
      rcases Table.holds_add holds with rfl | middle
      · cases tagged
        exact bound
      rcases housekept.holds middle with rfl | heldBefore
      · cases tagged
      by_cases own : token.definition = key
      · rcases earlier with ⟨-, same | silent⟩ | forgets
        · rw [own, same, ← own]
          exact (before entry token heldBefore tagged live).2
        · obtain ⟨liveBefore, backed⟩ := before entry token heldBefore tagged live
          obtain ⟨-, serial, allocation, carries, -⟩ :=
            sound.binding?_of_live heldBefore tagged liveBefore
          exact absurd (liveBefore.symm.trans
            (silent token allocation own ⟨entry, heldBefore, tagged, carries⟩)) (by decide)
        · exact absurd own (forgets entry token middle tagged)
      · exact elsewhere entry token heldBefore tagged live own

/-! ### Steps -/

theorem single_create {config : Config} (valid : config.Valid) (shared : Shared) :
    (OpenStore.mk shared (Store.create config)).Single := by
  intro key
  have nonempty := (sound_create valid shared).roomy.nonempty
  rw [Table.liveSlotsOf_of_forgets nonempty fun _ _ holds => absurd holds (Table.not_holds_empty _)]
  exact Nat.zero_le 1

theorem Single.advance {later : OpenStore} (single : opened.Single) (sound : opened.Sound)
    (same : later.store = opened.store) (leads : opened.registry.Leads later.registry) :
    later.Single := by
  intro key
  rw [same]
  exact Nat.le_trans (sound.liveSlotsOf_le leads key) (single key)

theorem Sound.liveSlotsOf_of_silent (sound : opened.Sound) (silent : opened.Silent key) :
    opened.store.table.liveSlotsOf opened.registry key = 0 := by
  refine Table.liveSlotsOf_eq_zero sound.roomy.nonempty ?_
  intro entry token holds tagged live own
  obtain ⟨-, serial, allocation, carries, -⟩ := sound.binding?_of_live holds tagged live
  exact absurd (live.symm.trans (silent token allocation own ⟨entry, holds, tagged, carries⟩))
    (by decide)

/-- A definition that the table does not answer for has no live slot. -/
theorem Sound.liveSlotsOf_of_missed (sound : opened.Sound) (missed : opened.answer? key = none) :
    opened.store.table.liveSlotsOf opened.registry key = 0 := by
  refine Table.liveSlotsOf_eq_zero sound.roomy.nonempty ?_
  rintro entry token holds tagged live rfl
  obtain ⟨answered, carries⟩ := sound.answer?_of_live holds tagged live
  rw [← answered, missed] at carries
  cases carries

theorem Sound.liveSlotsOf_housekept (sound : opened.Sound) {registry : Registry} {kept : Table}
    (leads : opened.registry.Leads registry)
    (housekept : opened.store.table.Housekept registry opened.store.config.probeLimit kept)
    (key : DefinitionKey) :
    kept.liveSlotsOf registry key ≤ opened.store.table.liveSlotsOf opened.registry key :=
  Nat.le_trans (housekept.countP_le sound.roomy _ fun _ => Table.isLive_of_isLiveFor)
    (sound.liveSlotsOf_le leads key)

/-- A step brings no definition but its own into more slots. -/
theorem Arranged.liveSlotsOf_ne (arranged : Arranged opened after key operation outcome)
    (sound : opened.Sound) (leads : opened.registry.Leads after.registry) {other : DefinitionKey}
    (differs : other ≠ key) :
    after.store.table.liveSlotsOf after.registry other ≤
      opened.store.table.liveSlotsOf opened.registry other := by
  cases arranged with
  | kept unvalued housekept settled => exact sound.liveSlotsOf_housekept leads housekept other
  | @published middle serial allocation valued housekept inserted bound earlier =>
      have nonempty := (housekept.roomy sound.roomy).nonempty
      let newcomer := Entry.minted serial (some (after.registry.current key)) (some allocation)
      have foreign : newcomer.isLiveFor after.registry other = false := by
        rw [Bool.eq_false_iff]
        intro counted
        obtain ⟨token, tagged, -, own⟩ := Entry.isLiveFor_iff.mp counted
        cases tagged
        exact differs own.symm
      have added : (middle.add after.registry opened.store.config.probeLimit
          (after.registry.hash key) newcomer).liveSlotsOf after.registry other ≤ _ :=
        Table.countP_add_le nonempty _
      rw [foreign] at added
      rw [inserted]
      exact Nat.le_trans added (sound.liveSlotsOf_housekept leads housekept other)

/-- A step brings its own definition into one slot, if the table had no live entry of it. -/
theorem Arranged.liveSlotsOf_le_one (arranged : Arranged opened after key operation outcome)
    (sound : opened.Sound) (leads : opened.registry.Leads after.registry)
    (none : opened.store.table.liveSlotsOf opened.registry key = 0) :
    after.store.table.liveSlotsOf after.registry key ≤ 1 := by
  cases arranged with
  | kept unvalued housekept settled =>
      have fewer := sound.liveSlotsOf_housekept leads housekept key
      omega
  | @published middle serial allocation valued housekept inserted bound earlier =>
      have fewer := sound.liveSlotsOf_housekept leads housekept key
      rw [inserted]
      refine Nat.le_trans (Table.liveSlotsOf_add_le (housekept.roomy sound.roomy).nonempty) ?_
      omega

/-- Steps keep every definition in one slot. Only a start may not: one that finds a value bound
under the current generation and live in the table. -/
theorem Arranged.single (arranged : Arranged opened after key operation outcome)
    (sound : opened.Sound) (leads : opened.registry.Leads after.registry)
    (single : opened.Single)
    (fresh : operation = .start →
      opened.store.table.liveSlotsOf opened.registry key = 0) : after.Single := by
  intro other
  by_cases own : other = key
  · subst own
    by_cases none : opened.store.table.liveSlotsOf opened.registry other = 0
    · exact arranged.liveSlotsOf_le_one sound leads none
    · cases arranged with
      | kept unvalued housekept settled =>
          exact Nat.le_trans (sound.liveSlotsOf_housekept leads housekept other) (single other)
      | @published middle serial allocation valued housekept inserted bound earlier =>
          rcases earlier with ⟨started, -⟩ | forgets
          · exact absurd (fresh started) none
          · have roomy := housekept.roomy sound.roomy
            rw [inserted]
            refine Nat.le_trans (Table.liveSlotsOf_add_le roomy.nonempty) ?_
            rw [Table.liveSlotsOf_of_forgets roomy.nonempty forgets]
  · exact Nat.le_trans (arranged.liveSlotsOf_ne sound leads own) (single other)

/-! ### Starting with a value that is bound already -/

/-- The table, once it has been relieved, holds a live entry of the definition behind its home
slot. -/
def Behind (opened : OpenStore) (key : DefinitionKey) : Prop :=
  ∃ position entry, opened.relieve.store.table.slot position = some entry ∧
    entry.isLiveFor opened.registry key = true ∧
    ¬ position ≡ opened.relieve.store.table.home (opened.registry.hash key)
      [MOD opened.relieve.store.table.capacity]

theorem behind_congr (same : after.store = opened.store)
    (registry : after.registry = opened.registry) : after.Behind key ↔ opened.Behind key := by
  have alike : Alike opened after := .of_eq registry same
  unfold Behind
  rw [alike.table_relieve, registry]

theorem start_current {serial : Nat} {allocation : Allocation}
    (bound : opened.store.binding? key =
      some (.minted serial (some (opened.registry.current key)) (some allocation))) :
    opened.start key =
      (.minted serial (some (opened.registry.current key)) (some allocation),
        opened.publish key
          (.minted serial (some (opened.registry.current key)) (some allocation))) := by
  have brought : opened.upToDate key
      (.minted serial (some (opened.registry.current key)) (some allocation)) =
        (.minted serial (some (opened.registry.current key)) (some allocation), opened) := by
    simp [upToDate, Entry.hasTag, Entry.tag?]
  rw [start_value bound brought, if_pos rfl]

theorem Sound.not_behind (sound : opened.Sound)
    (none : opened.store.table.liveSlotsOf opened.registry key = 0) : ¬ opened.Behind key := by
  rintro ⟨position, entry, found, counted, -⟩
  rw [Table.liveSlotsOf_eq_zero_iff sound.roomy.nonempty] at none
  rcases (housekept_relieve opened).holds ⟨position, found⟩ with rfl | holds
  · cases counted
  · exact absurd (counted.symm.trans (none entry holds)) (by decide)

/-- A start leaves every definition in one slot exactly if the relieved table does not hold the
definition behind its home slot: the entry that is there is the one that is put in again. -/
theorem Sound.single_start_iff (sound : opened.Sound) (forgetful : opened.Forgetful)
    (faithful : opened.Faithful) (single : opened.Single)
    (alive : opened.registry.isAlive key = true) :
    (opened.start key).2.Single ↔ ¬ opened.Behind key := by
  have arranged := sound.arranged_start forgetful alive
  have leads := (spares_start opened key).leads
  by_cases backed : ∃ allocation, opened.store.Backs (opened.registry.current key) allocation
  · obtain ⟨allocation, serial, bound⟩ := backed
    rw [show (opened.registry.current key).definition = key from rfl] at bound
    let entry := Entry.minted serial (some (opened.registry.current key)) (some allocation)
    have counted : entry.isLiveFor opened.registry key = true :=
      Entry.isLiveFor_iff.mpr ⟨_, rfl, Registry.isLive_current _ alive, rfl⟩
    have relieved := housekept_relieve opened
    have nonempty := (relieved.roomy sound.roomy).nonempty
    have registry : (opened.start key).2.registry = opened.registry := registry_start opened key
    have table : (opened.start key).2.store.table =
        opened.relieve.store.table.add opened.registry opened.store.config.probeLimit
          (opened.registry.hash key) entry := by
      rw [start_current bound]
      exact table_publish opened key entry
    constructor
    · rintro singleAfter ⟨position, other, found, countedToo, apart⟩
      have once := singleAfter key
      rw [registry, table] at once
      exact absurd (Table.two_le_liveSlotsOf_add nonempty found countedToo apart counted)
        (Nat.not_le_of_lt (Nat.lt_succ_of_le once))
    · intro atHome other
      by_cases own : other = key
      · subst own
        have fewer := sound.liveSlotsOf_housekept (Registry.Leads.refl _) relieved other
        rw [registry, table]
        refine Table.liveSlotsOf_add_le_one nonempty (Nat.le_trans fewer (single other)) ?_
        intro position held found countedToo
        refine ⟨?_, ?_⟩
        · by_contra apart
          exact atHome ⟨position, held, found, countedToo, apart⟩
        · obtain ⟨token, tagged, tokenLive, own⟩ := Entry.isLiveFor_iff.mp countedToo
          rcases relieved.holds ⟨position, found⟩ with rfl | holds
          · cases tagged
          · have same := faithful held token holds tagged tokenLive
            rw [own, bound] at same
            exact (Option.some.inj same).symm
      · exact Nat.le_trans (arranged.liveSlotsOf_ne sound leads own) (single other)
  · have silent : opened.Silent key :=
      sound.silent fun allocation backs => backed ⟨allocation, backs⟩
    have none := sound.liveSlotsOf_of_silent silent
    exact iff_of_true (arranged.single sound leads single fun _ => none) (sound.not_behind none)

end OpenStore

end ContextCache
