import ContextCache.Hash

/-!
Contract: the definitions of a program and their generations.

A definition is known by the order in which it was created. Its value in every
context belongs to one generation at a time; an invalidation starts the next
generation and the old one never returns. A token names one generation of one
definition. Cached entries only refer to tokens: a token can be reached while it
is the current one of a definition that still exists, or while a reader holds
it, and is gone otherwise.

Owns:
- tokens, definitions and the registry that holds all of them;
- the difference between a live token, a token that can still be reached, and
  one that is gone.

Does not own: values, contexts, or the decision when a generation ends.
-/

namespace ContextCache

/-- A definition's place in the order of creation. Keys are never reused. -/
abbrev DefinitionKey := Nat

/-- One generation of one definition. Two tokens are the same generation exactly
when they are equal. -/
structure Token where
  definition : DefinitionKey
  generation : Nat
deriving DecidableEq, Repr

/-- What the registry knows about one definition. -/
structure Definition where
  hash : UInt32
  generation : Nat
  dropped : Bool
deriving DecidableEq, Repr

/-- All definitions ever created, with the tokens that readers hold on to. -/
structure Registry where
  hashes : HashCounter
  firstIdentity : Nat
  definitions : Array Definition
  held : List Token
deriving Repr

namespace Registry

/-- The registry of a program that has not created a definition yet. -/
def initial : Registry :=
  { hashes := HashCounter.initial, firstIdentity := 1, definitions := #[], held := [] }

def identity (registry : Registry) (key : DefinitionKey) : Nat :=
  registry.firstIdentity + key

/-- Whether the definition was created and has not been dropped since. -/
def isAlive (registry : Registry) (key : DefinitionKey) : Bool :=
  match registry.definitions[key]? with
  | some definition => !definition.dropped
  | none => false

/-- The cache hash that the definition drew when it was created. -/
def hash (registry : Registry) (key : DefinitionKey) : UInt32 :=
  match registry.definitions[key]? with
  | some definition => definition.hash
  | none => 0

/-- The number of the definition's current generation. -/
def generation (registry : Registry) (key : DefinitionKey) : Nat :=
  match registry.definitions[key]? with
  | some definition => definition.generation
  | none => 0

/-- The token of the definition's current generation. -/
def current (registry : Registry) (key : DefinitionKey) : Token :=
  ⟨key, registry.generation key⟩

/-- A token is live while its definition exists and is in that generation. -/
def isLive (registry : Registry) (token : Token) : Bool :=
  registry.isAlive token.definition && token == registry.current token.definition

/-- A token can be reached while it is live or held by a reader. -/
def isReachable (registry : Registry) (token : Token) : Bool :=
  registry.isLive token || registry.held.contains token

/-- The hash of the token's definition, as long as the token can be reached. -/
def hashOf? (registry : Registry) (token : Token) : Option UInt32 :=
  if registry.isReachable token then some (registry.hash token.definition) else none

/-- Creates a definition: it draws one hash and one identity. -/
def define (registry : Registry) : DefinitionKey × Registry :=
  let drawn := registry.hashes.draw
  (registry.definitions.size,
    { registry with
      hashes := drawn.2
      definitions := registry.definitions.push ⟨drawn.1, 0, false⟩ })

def modifyDefinition (registry : Registry) (key : DefinitionKey)
    (change : Definition → Definition) : Registry :=
  { registry with definitions := registry.definitions.modify key change }

/-- Drops a definition; its current token stays only if a reader holds it. -/
def drop (registry : Registry) (key : DefinitionKey) : Registry :=
  registry.modifyDefinition key fun definition => { definition with dropped := true }

/-- Starts the definition's next generation. -/
def bump (registry : Registry) (key : DefinitionKey) : Registry :=
  registry.modifyDefinition key fun definition =>
    { definition with generation := definition.generation + 1 }

/-- Creates definitions and drops them again until one has its home at `home` in
a table of `length` slots, and returns that one; `attempts` bounds the search. -/
def defineUntilHome (home length : Nat) : Nat → Registry → DefinitionKey × Registry
  | 0, registry => registry.define
  | attempts + 1, registry =>
    let (key, defined) := registry.define
    if (defined.hash key).toNat &&& (length - 1) = home then
      (key, defined)
    else
      defineUntilHome home length attempts (defined.drop key)

/-- Creates a definition whose home is `home` in a table of `length` slots, or any
definition when `length` is zero. The increment of the hash counter is odd, so
within `length` draws, `length` being a power of two, every home comes up. -/
def defineAt (registry : Registry) (home length : Nat) : DefinitionKey × Registry :=
  if length = 0 then registry.define
  else defineUntilHome home length (2 * length) registry

/-- Lets a reader hold the definition's current token. -/
def hold (registry : Registry) (key : DefinitionKey) : Registry :=
  { registry with held := registry.held ++ [registry.current key] }

/-- The held tokens of one definition in the order in which they were taken. -/
def heldBy (registry : Registry) (key : DefinitionKey) : List Token :=
  registry.held.filter fun token => token.definition == key

/-- Lets go of every held token of one definition. -/
def release (registry : Registry) (key : DefinitionKey) : Registry :=
  { registry with held := registry.held.filter fun token => token.definition != key }

theorem isAlive_bump (registry : Registry) (key other : DefinitionKey) :
    (registry.bump key).isAlive other = registry.isAlive other := by
  unfold isAlive bump modifyDefinition
  rw [Array.getElem?_modify]
  by_cases same : key = other
  · rw [if_pos same]
    cases registry.definitions[other]? <;> rfl
  · rw [if_neg same]

theorem hash_bump (registry : Registry) (key other : DefinitionKey) :
    (registry.bump key).hash other = registry.hash other := by
  unfold hash bump modifyDefinition
  rw [Array.getElem?_modify]
  by_cases same : key = other
  · rw [if_pos same]
    cases registry.definitions[other]? <;> rfl
  · rw [if_neg same]

/-- The current token of a definition that exists is live. -/
theorem isLive_current (registry : Registry) {key : DefinitionKey}
    (alive : registry.isAlive key = true) : registry.isLive (registry.current key) = true := by
  simp [isLive, current, alive]

/-- A live token is the current token of its definition. -/
theorem eq_current_of_isLive {registry : Registry} {token : Token}
    (live : registry.isLive token = true) : token = registry.current token.definition := by
  simp only [isLive, Bool.and_eq_true, beq_iff_eq] at live
  exact live.2

end Registry

end ContextCache
