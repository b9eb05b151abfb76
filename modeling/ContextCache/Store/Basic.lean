import ContextCache.Config
import ContextCache.Metrics
import ContextCache.Table.Basic

/-!
Contract: what one context knows, and what all contexts share.

A store is the authority for one context: it binds definitions to entries, and
owns the table that finds them fast. A binding is a promise while its value is
being computed, and otherwise carries a value. All contexts share the registry
of definitions, the counters and the numbering of entries.

Owns:
- stores, their bindings, and the shared state;
- an open store, which is a store together with the shared state, and its
  smallest changes.

Does not own: the protocol by which bindings come and go.
-/

namespace ContextCache

/-- The state that all contexts of a program share. -/
structure Shared where
  registry : Registry
  metrics : Metrics
  entriesMinted : Nat
deriving Repr

/-- One context's authority. Each definition has at most one binding; the order of
the bindings means nothing. -/
structure Store where
  config : Config
  bindings : List (DefinitionKey × Entry)
  table : Table
  loadLimit : Nat
deriving Repr

/-- A store that is being worked on, with the shared state that its work may
change. Nothing else happens while a store is open. -/
structure OpenStore where
  shared : Shared
  store : Store
deriving Repr

namespace Shared

/-- The shared state at a program's start. -/
def initial : Shared :=
  { registry := Registry.initial, metrics := Metrics.zero, entriesMinted := 0 }

def count (shared : Shared) (counter : Counter) (amount : Nat) : Shared :=
  { shared with metrics := shared.metrics.add counter (UInt64.ofNat amount) }

/-- Gives out the next serial number of an entry. -/
def nextSerial (shared : Shared) : Nat × Shared :=
  (shared.entriesMinted, { shared with entriesMinted := shared.entriesMinted + 1 })

end Shared

namespace Store

/-- A store without bindings and with an empty table. -/
def create (config : Config) : Store :=
  { config
    bindings := []
    table := Table.empty config.initialEntries
    loadLimit := config.loadLimitFor config.initialEntries }

/-- The entry that a definition is bound to. -/
def binding? (store : Store) (key : DefinitionKey) : Option Entry :=
  store.bindings.lookup key

/-- Binds a definition, in place of what it was bound to. -/
def bind (store : Store) (key : DefinitionKey) (entry : Entry) : Store :=
  { store with bindings := (key, entry) :: store.bindings.filter fun bound => bound.1 != key }

def unbind (store : Store) (key : DefinitionKey) : Store :=
  { store with bindings := store.bindings.filter fun bound => bound.1 != key }

/-- The number of bound definitions. -/
def size (store : Store) : Nat :=
  store.bindings.length

/-- A debugging text. -/
def debugText (store : Store) : String :=
  "ValueMap \x7b bindings: " ++ toString store.size ++ ", capacity: " ++
    toString store.table.capacity ++ ", .. \x7d"

private theorem lookup_filter_ne (bindings : List (DefinitionKey × Entry))
    (key other : DefinitionKey) :
    (bindings.filter fun bound => bound.1 != key).lookup other =
      if other = key then none else bindings.lookup other := by
  induction bindings with
  | nil => simp
  | cons head tail inductionHypothesis =>
    obtain ⟨headKey, headEntry⟩ := head
    by_cases dropped : headKey = key
    · subst dropped
      by_cases same : other = headKey
      · simpa [same] using inductionHypothesis
      · have differs : (other == headKey) = false := by simpa using same
        simpa [same, List.lookup_cons, differs] using inductionHypothesis
    · by_cases same : other = headKey
      · subst same
        simp [dropped]
      · have differs : (other == headKey) = false := by simpa using same
        simpa [dropped, List.filter_cons, List.lookup_cons, differs] using inductionHypothesis

theorem binding?_bind (store : Store) (key other : DefinitionKey) (entry : Entry) :
    (store.bind key entry).binding? other =
      if other = key then some entry else store.binding? other := by
  by_cases same : other = key
  · simp [bind, binding?, same]
  · simp only [bind, binding?, List.lookup_cons, beq_eq_false_iff_ne.mpr same, same, if_false]
    rw [lookup_filter_ne, if_neg same]

theorem binding?_unbind (store : Store) (key other : DefinitionKey) :
    (store.unbind key).binding? other =
      if other = key then none else store.binding? other :=
  lookup_filter_ne store.bindings key other

end Store

namespace OpenStore

def registry (opened : OpenStore) : Registry :=
  opened.shared.registry

def count (opened : OpenStore) (counter : Counter) (amount : Nat) : OpenStore :=
  { opened with shared := opened.shared.count counter amount }

/-- Starts the definition's next generation. -/
def bump (opened : OpenStore) (key : DefinitionKey) : OpenStore :=
  { opened with
    shared := { opened.shared with registry := opened.shared.registry.bump key } }

def bind (opened : OpenStore) (key : DefinitionKey) (entry : Entry) : OpenStore :=
  { opened with store := opened.store.bind key entry }

def unbind (opened : OpenStore) (key : DefinitionKey) : OpenStore :=
  { opened with store := opened.store.unbind key }

def withTable (opened : OpenStore) (table : Table) : OpenStore :=
  { opened with store := { opened.store with table } }

/-- Mints an entry with the next serial number. -/
def mint (opened : OpenStore) (make : Nat → Entry) : Entry × OpenStore :=
  let (serial, shared) := opened.shared.nextSerial
  (make serial, { opened with shared })

end OpenStore

end ContextCache
