import ContextCache.Store.Relief
import ContextCache.Table.Probe

/-!
Contract: how bindings of one context come and go.

A read that the table cannot answer starts an entry: it gets the bound value, or
the promise of the current generation and with it the duty to compute. Whoever
computes finishes the entry, with a value or with the promise itself, and the
value counts only while a promise of the same generation is still bound. Removal
and direct binding end the definition's generation and sweep its probe window.

Owns:
- the five steps on an open store: start, finish, remove, change and promote.

Does not own: the order of steps in a read, which is the reader's.
-/

namespace ContextCache

namespace OpenStore

/-- The entry with the value of `entry` under the current generation: the entry
itself if it belongs there already, and a re-tagged one otherwise. -/
def upToDate (opened : OpenStore) (key : DefinitionKey) (entry : Entry) : Entry × OpenStore :=
  let token := opened.registry.current key
  if entry.hasTag token then (entry, opened)
  else opened.mint fun serial => entry.retag serial token

/-- Makes room and inserts an entry at the definition's home. -/
def publish (opened : OpenStore) (key : DefinitionKey) (entry : Entry) : OpenStore :=
  opened.relieve.insert key entry

/-- Begins a read that the table could not answer.

An unbound definition is bound to its current promise. A bound promise of an
older generation is replaced by the current one. A bound value is brought up to
date and put into the table. The returned entry is what the definition is bound
to afterwards. -/
def start (opened : OpenStore) (key : DefinitionKey) : Entry × OpenStore :=
  let promise := Entry.promise (opened.registry.current key)
  match opened.store.binding? key with
  | none => (promise, opened.bind key promise)
  | some existing =>
    if existing.isPromise then
      (promise, if existing = promise then opened else opened.bind key promise)
    else
      let (entry, updated) := opened.upToDate key existing
      let bound := if entry = existing then updated else updated.bind key entry
      (entry, bound.publish key entry)

/-- Concludes a computation.

The bound entry itself, handed in again, is retracted. Any other candidate counts
only while a promise of its generation is bound; it is then brought up to date,
bound and put into the table. Nothing is returned, and nothing else happens, if
the promise has been superseded. -/
def finish (opened : OpenStore) (key : DefinitionKey) (candidate : Entry) :
    Option Entry × OpenStore :=
  match opened.store.binding? key with
  | none => (none, opened)
  | some existing =>
    if existing = candidate then
      (none, opened.unbind key)
    else if existing.isPromise && existing.sameTag candidate && !candidate.isPromise then
      let (entry, updated) := opened.upToDate key candidate
      (some entry, (updated.bind key entry).publish key entry)
    else
      (none, opened)

/-- Invalidates a bound value and returns whether there was one. A promise is left
alone: its computation will bind its value as usual. -/
def remove (opened : OpenStore) (key : DefinitionKey) : Bool × OpenStore :=
  match opened.store.binding? key with
  | none => (false, opened)
  | some existing =>
    if existing.isPromise then
      (false, opened)
    else
      (true, (((opened.unbind key).bump key).count .invalidations 1).sweepAround key)

/-- Ends the generation of a definition that is bound. -/
def supersede (opened : OpenStore) (key : DefinitionKey) : OpenStore :=
  if (opened.store.binding? key).isSome then (opened.bump key).sweepAround key else opened

/-- Whether this very allocation is bound under the current generation. -/
def isBoundTo (opened : OpenStore) (key : DefinitionKey) (allocation : Allocation) : Bool :=
  match opened.store.binding? key with
  | none => false
  | some existing => existing.holds allocation && existing.hasTag (opened.registry.current key)

/-- Binds a value without computing it, and returns whether that changed anything.
Binding the allocation that is already bound under the current generation does
not. -/
def change (opened : OpenStore) (key : DefinitionKey) (allocation : Allocation) :
    Bool × OpenStore :=
  if opened.isBoundTo key allocation then
    (false, opened)
  else
    let counted := (opened.supersede key).count .puts 1
    let token := counted.registry.current key
    let (entry, minted) := counted.mint fun serial => .minted serial (some token) (some allocation)
    (true, (minted.bind key entry).publish key entry)

/-- Moves a value found behind the definition's home slot into the home slot, in
the table that was searched, and returns whether that was done. A table is only
ever replaced by a longer one, so `searched`, its capacity, names it. -/
def promote (opened : OpenStore) (key : DefinitionKey) (searched : Nat) : Bool × OpenStore :=
  if opened.store.table.capacity = searched then
    let (moved, table) :=
      opened.store.table.promote opened.registry opened.store.config.probeLimit
        (opened.registry.hash key) (opened.registry.current key)
    (moved, opened.withTable table)
  else
    (false, opened)

end OpenStore

end ContextCache
