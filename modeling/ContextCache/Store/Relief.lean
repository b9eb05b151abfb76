import ContextCache.Store.Basic
import ContextCache.Table.Eviction
import ContextCache.Table.Placement

/-!
Contract: keeping a store's table from filling up.

A table is relieved when its load reaches the store's load limit. Relief gives
up the bindings of dropped definitions, then sweeps the whole table, and if that
was not enough moves the live entries into a table of twice the length, unless
that would exceed the configured greatest length.

Owns:
- insertion into and sweeping of a store's table, with their counters;
- relief and growth.

Does not own: the protocol that asks for insertions.
-/

namespace ContextCache

namespace OpenStore

/-- Inserts an entry at the definition's home. -/
def insert (opened : OpenStore) (key : DefinitionKey) (entry : Entry) : OpenStore :=
  opened.withTable <|
    opened.store.table.add opened.registry opened.store.config.probeLimit
      (opened.registry.hash key) entry

/-- Takes over what a sweep left and counts what it took out. -/
def adopt (opened : OpenStore) (swept : Table.Swept) : OpenStore :=
  (opened.withTable swept.table).count .staleEvictions swept.evicted

/-- Sweeps the definition's probe window. -/
def sweepAround (opened : OpenStore) (key : DefinitionKey) : OpenStore :=
  opened.adopt <|
    opened.store.table.sweepAround opened.registry opened.store.config.probeLimit
      (opened.registry.hash key)

/-- Gives up the bindings of definitions that have been dropped. -/
def expunge (opened : OpenStore) : OpenStore :=
  let kept := opened.store.bindings.filter fun bound => opened.registry.isAlive bound.1
  { opened with store := { opened.store with bindings := kept } }.count .expungedBindings
    (opened.store.bindings.length - kept.length)

/-- Sweeps the whole table. -/
def sweepAll (opened : OpenStore) : OpenStore :=
  opened.adopt <| opened.store.table.sweepAll opened.registry opened.store.config.probeLimit

/-- The live entries of a table, inserted one after the other into an empty table
of `length` slots. -/
def regrown (registry : Registry) (probeLimit length : Nat) (table : Table) : Table :=
  (table.entries.filter fun entry => entry.isLive registry).foldl
    (Table.readd registry probeLimit) (Table.empty length)

/-- Moves the live entries into a table of twice the length, if the configuration
allows that length. -/
def grow (opened : OpenStore) : OpenStore :=
  let config := opened.store.config
  let length := opened.store.table.capacity * 2
  if config.maxEntries < length then
    opened
  else
    { opened with
      store :=
        { opened.store with
          table := regrown opened.registry config.probeLimit length opened.store.table
          loadLimit := config.loadLimitFor length } }.count .resizes 1

/-- Makes room: expunges, sweeps, and grows if the sweep left too many. -/
def reduceLoad (opened : OpenStore) : OpenStore :=
  let swept := opened.expunge.sweepAll
  if swept.store.table.load < swept.store.loadLimit then swept else swept.grow

/-- Makes room if the load has reached the limit. -/
def relieve (opened : OpenStore) : OpenStore :=
  if opened.store.loadLimit ≤ opened.store.table.load then opened.reduceLoad else opened

end OpenStore

end ContextCache
