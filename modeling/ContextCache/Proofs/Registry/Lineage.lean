import ContextCache.Registry

/-!
Contract: how a registry changes over the life of a program.

Definitions are only added, keep their hash, never go back to an earlier generation
and never come back to life. A token that was once given out is therefore live later
only if it is live now: nothing that happens to a registry revives an old generation.

Owns:
- the tokens that a registry has given out so far;
- the order of registries in time, and the changes that advance it.

Does not own: which entries carry which tokens.
-/

set_option autoImplicit false

namespace ContextCache

namespace Registry

/-- A token that has been current at some time up to now. -/
structure Knows (registry : Registry) (token : Token) : Prop where
  defined : token.definition < registry.definitions.size
  reached : token.generation ≤ registry.generation token.definition

/-- The second registry is what the first one has become. -/
structure Leads (earlier later : Registry) : Prop where
  size : earlier.definitions.size ≤ later.definitions.size
  hash : ∀ key, key < earlier.definitions.size → later.hash key = earlier.hash key
  generation : ∀ key, earlier.generation key ≤ later.generation key
  alive : ∀ key, key < earlier.definitions.size → later.isAlive key = true →
    earlier.isAlive key = true

/-! ### Definitions and tokens -/

theorem lt_size_of_isAlive {registry : Registry} {key : DefinitionKey}
    (alive : registry.isAlive key = true) : key < registry.definitions.size := by
  unfold isAlive at alive
  split at alive
  · next found => exact (Array.getElem?_eq_some_iff.mp found).1
  · exact absurd alive (by decide)

theorem generation_eq_zero {registry : Registry} {key : DefinitionKey}
    (unknown : registry.definitions.size ≤ key) : registry.generation key = 0 := by
  unfold generation
  rw [Array.getElem?_eq_none unknown]

theorem knows_current {registry : Registry} {key : DefinitionKey}
    (defined : key < registry.definitions.size) : registry.Knows (registry.current key) :=
  ⟨defined, Nat.le_refl _⟩

theorem hashOf?_of_isLive {registry : Registry} {token : Token}
    (live : registry.isLive token = true) :
    registry.hashOf? token = some (registry.hash token.definition) := by
  unfold hashOf? isReachable
  rw [live, Bool.true_or, if_pos rfl]

theorem isAlive_of_isLive {registry : Registry} {token : Token}
    (live : registry.isLive token = true) : registry.isAlive token.definition = true := by
  simp only [isLive, Bool.and_eq_true] at live
  exact live.1

/-- A live token belongs to the generation that its definition is in. -/
theorem generation_of_isLive {registry : Registry} {token : Token}
    (live : registry.isLive token = true) :
    token.generation = registry.generation token.definition := by
  have same := eq_current_of_isLive live
  exact congrArg Token.generation same

/-! ### Time -/

theorem Leads.refl (registry : Registry) : Leads registry registry :=
  ⟨Nat.le_refl _, fun _ _ => rfl, fun _ => Nat.le_refl _, fun _ _ alive => alive⟩

theorem leads_of_eq {earlier later : Registry} (same : later = earlier) : Leads earlier later := by
  rw [same]
  exact Leads.refl earlier

theorem Leads.trans {first second third : Registry} (earlier : Leads first second)
    (later : Leads second third) : Leads first third where
  size := Nat.le_trans earlier.size later.size
  hash := fun key defined =>
    (later.hash key (Nat.lt_of_lt_of_le defined earlier.size)).trans (earlier.hash key defined)
  generation := fun key => Nat.le_trans (earlier.generation key) (later.generation key)
  alive := fun key defined alive =>
    earlier.alive key defined
      (later.alive key (Nat.lt_of_lt_of_le defined earlier.size) alive)

theorem Knows.mono {earlier later : Registry} {token : Token} (known : earlier.Knows token)
    (leads : Leads earlier later) : later.Knows token where
  defined := Nat.lt_of_lt_of_le known.defined leads.size
  reached := Nat.le_trans known.reached (leads.generation token.definition)

/-- No old generation comes back: a token that is live later is live now. -/
theorem Leads.isLive {earlier later : Registry} {token : Token} (leads : Leads earlier later)
    (known : earlier.Knows token) (live : later.isLive token = true) :
    earlier.isLive token = true := by
  have alive := leads.alive token.definition known.defined (isAlive_of_isLive live)
  have same : token.generation = earlier.generation token.definition := by
    have reached := known.reached
    have passed := leads.generation token.definition
    have latest := generation_of_isLive live
    omega
  have current : token = earlier.current token.definition := by
    cases token
    simpa [Registry.current] using same
  rw [current]
  exact isLive_current earlier alive

/-! ### Changes -/

theorem size_modifyDefinition (registry : Registry) (key : DefinitionKey)
    (change : Definition → Definition) :
    (registry.modifyDefinition key change).definitions.size = registry.definitions.size := by
  simp [modifyDefinition]

/-- An invalidation advances its own definition by one generation. -/
theorem generation_bump_self {registry : Registry} {key : DefinitionKey}
    (defined : key < registry.definitions.size) :
    (registry.bump key).generation key = registry.generation key + 1 := by
  unfold generation bump modifyDefinition
  rw [Array.getElem?_modify, if_pos rfl, Array.getElem?_eq_getElem defined]
  rfl

theorem generation_bump_ne (registry : Registry) {key other : DefinitionKey}
    (differs : other ≠ key) : (registry.bump key).generation other = registry.generation other := by
  unfold generation bump modifyDefinition
  rw [Array.getElem?_modify, if_neg (Ne.symm differs)]

/-- An invalidation leaves the tokens of other definitions as live as they were. -/
theorem isLive_bump_ne (registry : Registry) {key : DefinitionKey} {token : Token}
    (differs : token.definition ≠ key) : (registry.bump key).isLive token = registry.isLive token := by
  unfold isLive current
  rw [isAlive_bump, generation_bump_ne registry differs]

theorem leads_bump (registry : Registry) (key : DefinitionKey) :
    Leads registry (registry.bump key) where
  size := Nat.le_of_eq (size_modifyDefinition registry key _).symm
  hash := fun other _ => hash_bump registry key other
  generation := by
    intro other
    by_cases same : other = key
    · subst same
      by_cases defined : other < registry.definitions.size
      · rw [generation_bump_self defined]
        omega
      · rw [generation_eq_zero (Nat.le_of_not_lt defined)]
        exact Nat.zero_le _
    · exact Nat.le_of_eq (generation_bump_ne registry same).symm
  alive := fun other _ alive => (isAlive_bump registry key other).symm.trans alive

/-- After an invalidation every token that was given out for its definition is old. -/
theorem isLive_bump_of_knows {registry : Registry} {token : Token}
    (known : registry.Knows token) :
    (registry.bump token.definition).isLive token = false := by
  cases live : (registry.bump token.definition).isLive token with
  | false => rfl
  | true =>
      have latest := generation_of_isLive live
      rw [generation_bump_self known.defined] at latest
      have reached := known.reached
      omega

theorem generation_drop (registry : Registry) (key other : DefinitionKey) :
    (registry.drop key).generation other = registry.generation other := by
  unfold generation drop modifyDefinition
  rw [Array.getElem?_modify]
  by_cases same : key = other
  · rw [if_pos same]
    cases registry.definitions[other]? <;> rfl
  · rw [if_neg same]

theorem hash_drop (registry : Registry) (key other : DefinitionKey) :
    (registry.drop key).hash other = registry.hash other := by
  unfold hash drop modifyDefinition
  rw [Array.getElem?_modify]
  by_cases same : key = other
  · rw [if_pos same]
    cases registry.definitions[other]? <;> rfl
  · rw [if_neg same]

/-- Dropping takes one definition's life and no other. -/
theorem isAlive_drop (registry : Registry) (key other : DefinitionKey) :
    (registry.drop key).isAlive other = (registry.isAlive other && other != key) := by
  unfold isAlive drop modifyDefinition
  rw [Array.getElem?_modify]
  by_cases same : key = other
  · subst same
    rw [if_pos rfl]
    cases registry.definitions[key]? <;> simp
  · rw [if_neg same]
    have differs : (other != key) = true := by simpa using Ne.symm same
    rw [differs, Bool.and_true]

theorem leads_drop (registry : Registry) (key : DefinitionKey) :
    Leads registry (registry.drop key) where
  size := Nat.le_of_eq (size_modifyDefinition registry key _).symm
  hash := fun other _ => hash_drop registry key other
  generation := fun other => Nat.le_of_eq (generation_drop registry key other).symm
  alive := by
    intro other _ alive
    rw [isAlive_drop, Bool.and_eq_true] at alive
    exact alive.1

theorem definitions_define {registry : Registry} {key : DefinitionKey}
    (defined : key < registry.definitions.size) :
    registry.define.2.definitions[key]? = registry.definitions[key]? := by
  simp only [define]
  rw [Array.getElem?_push_lt defined, Array.getElem?_eq_getElem defined]

/-- A new definition begins with the generation that it has had while it did not exist. -/
theorem generation_define (registry : Registry) (key : DefinitionKey) :
    registry.define.2.generation key = registry.generation key := by
  rcases Nat.lt_trichotomy key registry.definitions.size with defined | rfl | beyond
  · unfold generation
    rw [definitions_define defined]
  · simp [generation, define]
  · rw [generation_eq_zero (Nat.le_of_lt beyond), generation_eq_zero]
    simp only [define, Array.size_push]
    exact beyond

theorem isAlive_define {registry : Registry} {key : DefinitionKey}
    (defined : key < registry.definitions.size) :
    registry.define.2.isAlive key = registry.isAlive key := by
  unfold isAlive
  rw [definitions_define defined]

theorem isAlive_define_self (registry : Registry) :
    registry.define.2.isAlive registry.define.1 = true := by
  simp [isAlive, define]

theorem leads_define (registry : Registry) : Leads registry registry.define.2 := by
  refine ⟨?_, ?_, ?_, ?_⟩
  · simp [define]
  · intro key defined
    unfold Registry.hash
    rw [definitions_define defined]
  · exact fun key => Nat.le_of_eq (generation_define registry key).symm
  · exact fun key defined alive => (isAlive_define defined).symm.trans alive

/-- Readers that take and let go of tokens change nothing about definitions. -/
theorem leads_of_definitions_eq {earlier later : Registry}
    (same : later.definitions = earlier.definitions) : Leads earlier later := by
  refine ⟨?_, ?_, ?_, ?_⟩
  · exact Nat.le_of_eq (congrArg Array.size same.symm)
  · intro key _
    unfold Registry.hash
    rw [same]
  · intro key
    apply Nat.le_of_eq
    unfold Registry.generation
    rw [same]
  · intro key _ alive
    unfold isAlive at alive ⊢
    rwa [same] at alive

end Registry

end ContextCache
