import ContextCache.Environment
import ContextCache.Store.Protocol
import ContextCache.Table.Snapshot

/-!
Contract: a whole program's contexts and definitions.

A context gets its store when the first value is read or bound in it. Removing a
value from a context without a store does nothing.

Owns:
- contexts, their creation and inspection, and opening and closing their stores;
- removing and putting a value.

Does not own: reading, which may run a computation in between.
-/

namespace ContextCache

/-- A context's place in the order of creation. -/
abbrev ContextKey := Nat

/-- One context: its configuration, and its store once it has been used. -/
structure Context where
  config : Config
  store : Option Store
deriving Repr

/-- All contexts, and what they share. -/
structure World where
  shared : Shared
  contexts : Array Context
deriving Repr

/-- A definition in a context: what is read, removed and put. -/
structure Place where
  definition : DefinitionKey
  context : ContextKey
deriving DecidableEq, Repr

namespace Context

/-- What is seen of a context, whose tokens `registry` knows. -/
def snapshot (registry : Registry) (context : Context) : Snapshot :=
  match context.store with
  | some store => store.table.snapshot registry store.loadLimit store.config.probeLimit
  | none => Snapshot.unallocated context.config.probeLimit

/-- The number of definitions with a binding, computed or promised. -/
def boundDefinitions (context : Context) : Nat :=
  match context.store with
  | some store => store.size
  | none => 0

end Context

namespace World

def initial : World :=
  { shared := Shared.initial, contexts := #[] }

def registry (world : World) : Registry :=
  world.shared.registry

def metrics (world : World) : Metrics :=
  world.shared.metrics

def count (world : World) (counter : Counter) : World :=
  { world with shared := world.shared.count counter 1 }

def withRegistry {α : Type} (world : World) (change : Registry → α × Registry) : α × World :=
  let (result, registry) := change world.registry
  (result, { world with shared := { world.shared with registry } })

def dropDefinition (world : World) (key : DefinitionKey) : World :=
  (world.withRegistry fun registry => ((), registry.drop key)).2

/-- Adds a context, if its configuration is valid. -/
def addContext (world : World) (config : Config) : Except ConfigError (ContextKey × World) :=
  match config.validate with
  | .error error => .error error
  | .ok () =>
    .ok (world.contexts.size,
      { world with contexts := world.contexts.push { config, store := none } })

/-- A context; one that does not exist is like a fresh one. -/
def context (world : World) (key : ContextKey) : Context :=
  world.contexts.getD key { config := Config.standard, store := none }

def store? (world : World) (key : ContextKey) : Option Store :=
  (world.context key).store

def snapshot (world : World) (key : ContextKey) : Snapshot :=
  (world.context key).snapshot world.registry

/-- Opens a context's store, which is created if the context has none. -/
def openStore (world : World) (key : ContextKey) : OpenStore :=
  let context := world.context key
  { shared := world.shared
    store := context.store.getD (Store.create context.config) }

/-- Closes the store of a context and takes over the shared state. -/
def closeStore (world : World) (key : ContextKey) (opened : OpenStore) : World :=
  { shared := opened.shared
    contexts := world.contexts.modify key fun context =>
      { context with store := some opened.store } }

def withStore {α : Type} (world : World) (key : ContextKey)
    (work : OpenStore → α × OpenStore) : α × World :=
  let (result, opened) := work (world.openStore key)
  (result, world.closeStore key opened)

/-- Forgets a definition's value in a context. -/
def remove (world : World) (place : Place) : World :=
  match world.store? place.context with
  | none => world
  | some _ => (world.withStore place.context fun opened => opened.remove place.definition).2

/-- Binds a value to a definition in a context. -/
def put (world : World) (place : Place) (allocation : Allocation) : World :=
  (world.withStore place.context fun opened => opened.change place.definition allocation).2

end World

end ContextCache
