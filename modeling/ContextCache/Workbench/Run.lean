import ContextCache.Store.Protocol
import ContextCache.Workbench.Script

/-!
Contract: running steps on a workbench.

A step that names something that does not exist reports so and changes nothing.
Dropped definitions keep their index but count as missing; the tokens that are
held of them stay held.

Owns:
- the parts on the workbench, and what each step does to them.

Does not own: the parts' own rules.
-/

namespace ContextCache.Workbench

/-- A table that stands on its own, with the probe limit that its steps use. -/
structure LooseTable where
  table : Table
  probeLimit : Nat
deriving Repr

/-- Which table a store had when it was remembered. A store's tables differ in
their capacity. -/
structure Remembered where
  store : Nat
  capacity : Nat
deriving DecidableEq, Repr

structure Bench where
  shared : Shared
  holdings : Holdings
  definitions : Array DefinitionKey
  entries : Array Entry
  tables : Array LooseTable
  stores : Array Store
  remembered : Array Remembered
deriving Repr

namespace Bench

def initial : Bench :=
  { shared := Shared.initial
    holdings := Holdings.empty
    definitions := #[]
    entries := #[]
    tables := #[]
    stores := #[]
    remembered := #[] }

def registry (bench : Bench) : Registry :=
  bench.shared.registry

def withRegistry (bench : Bench) (registry : Registry) : Bench :=
  { bench with shared := { bench.shared with registry } }

def definition? (bench : Bench) (index : Int) : Option DefinitionKey :=
  (elementAt? bench.definitions index).filter bench.registry.isAlive

def entry? (bench : Bench) (index : Int) : Option Entry :=
  elementAt? bench.entries index

def table? (bench : Bench) (index : Int) : Option LooseTable :=
  elementAt? bench.tables index

def store? (bench : Bench) (index : Int) : Option OpenStore :=
  (elementAt? bench.stores index).map fun store => { shared := bench.shared, store }

def withTable (bench : Bench) (index : Int) (table : Table) : Bench :=
  { bench with
    tables := bench.tables.modify index.toNat fun loose => { loose with table } }

def closeStore (bench : Bench) (index : Int) (opened : OpenStore) : Bench :=
  { bench with
    shared := opened.shared
    stores := bench.stores.setIfInBounds index.toNat opened.store }

/-- The allocation that a step's value names, with its index. -/
def source (bench : Bench) : Source → (Allocation × Nat) × Bench
  | .fresh value =>
    let (allocation, holdings) := bench.holdings.allocateShared value
    ((allocation, bench.holdings.shared.size), { bench with holdings })
  | .shared index otherwise =>
    match bench.holdings.shared? index with
    | some allocation => ((allocation, index.toNat), bench)
    | none =>
      let (allocation, holdings) := bench.holdings.allocateShared otherwise
      ((allocation, bench.holdings.shared.size), { bench with holdings })

def mint (bench : Bench) (make : Nat → Entry) : Entry × Bench :=
  let (serial, shared) := bench.shared.nextSerial
  (make serial, { bench with shared })

def content (bench : Bench) (allocation : Allocation) : Datum :=
  bench.holdings.content allocation

/-- What is shown of an entry, which is put on the bench if it is not there yet. -/
def view (bench : Bench) (entry : Entry) : EntryView × Bench :=
  let found := bench.entries.findIdx? (· == entry)
  let kept :=
    if found.isSome then bench else { bench with entries := bench.entries.push entry }
  ({ index := found.getD bench.entries.size
     state := entry.state bench.registry
     isPromise := entry.isPromise
     isLive := entry.isLive bench.registry
     value := entry.value?.map bench.content
     hash := entry.hashOf? bench.registry },
    kept)

def display (bench : Bench) (entry : Entry) : Result × Bench :=
  let (shown, kept) := bench.view entry
  (.shown shown, kept)

def entryText (bench : Bench) (entry : Entry) : String :=
  let state :=
    match entry.state bench.registry with
    | .promise => "Promise"
    | .dead => "Dead"
    | .stale => "Stale"
    | .live => "Live"
  "Entry \x7b state: " ++ state ++ ", .. \x7d"

def tokenView (bench : Bench) (token : Token) : TokenView :=
  let hash := bench.registry.hash token.definition
  { generation := token.generation
    isLive := bench.registry.isLive token
    hash
    debugText :=
      "Version \x7b cache_hash: " ++ toString hash.toNat ++ ", generation: " ++
        toString token.generation ++ ", .. \x7d" }

/-- Answers an optional question about an optional part: without the question
there is no answer, and without the part there is nothing to ask about. -/
def ask? {α : Type} (question : Option Int) (part? : Int → Option α) (answer : α → Bool) :
    Option (Option Bool) :=
  match question with
  | none => some none
  | some index => (part? index).map fun part => some (answer part)

/-- Describes an entry, with up to three questions about it. -/
def describe (bench : Bench) (entry : Entry) (holding sameAs currentFor : Option Int) :
    Option (Result × Bench) := do
  let holds ← ask? holding bench.holdings.shared? entry.holds
  let same ← ask? sameAs bench.entry? entry.sameTag
  let current ← ask? currentFor bench.definition? fun key =>
    entry.hasTag (bench.registry.current key)
  let (shown, kept) := bench.view entry
  return (.described shown (bench.entryText entry) holds same current, kept)

def onTable (bench : Bench) (index : Int) (work : LooseTable → Result × Table) :
    Option (Result × Bench) := do
  let loose ← bench.table? index
  let (result, table) := work loose
  return (result, bench.withTable index table)

def onStore (bench : Bench) (index : Int) (work : OpenStore → Result × OpenStore) :
    Option (Result × Bench) := do
  let opened ← bench.store? index
  let (result, worked) := work opened
  return (result, bench.closeStore index worked)

def reportSweep (swept : Table.Swept) : Result × Table :=
  (.number swept.evicted, swept.table)

/-- Adds an entry to a table at a definition's home, and shows it. -/
def addTo (bench : Bench) (table : Int) (loose : LooseTable) (key : DefinitionKey)
    (entry : Entry) : Result × Bench :=
  let added := loose.table.add bench.registry loose.probeLimit (bench.registry.hash key) entry
  (bench.withTable table added).display entry

/-- Finishes an entry in a store, and shows what was bound. -/
def finishIn (bench : Bench) (store : Int) (opened : OpenStore) (key : DefinitionKey)
    (candidate : Entry) : Result × Bench :=
  let (bound, finished) := { opened with shared := bench.shared }.finish key candidate
  let closed := bench.closeStore store finished
  match bound with
  | none => (.nothing, closed)
  | some entry => closed.display entry

/-- What a step does, or nothing if it names something that is missing. -/
def execute (bench : Bench) : Step → Option (Result × Bench)
  | .define home length =>
    let (key, registry) := bench.registry.defineAt home length
    some (.defined bench.definitions.size (registry.identity key) (registry.hash key),
      { bench.withRegistry registry with definitions := bench.definitions.push key })
  | .drop definition => do
    let key ← elementAt? bench.definitions definition
    return (.flag (bench.registry.isAlive key), bench.withRegistry (bench.registry.drop key))
  | .hold definition => do
    let key ← bench.definition? definition
    return (.number (bench.registry.generation key),
      bench.withRegistry (bench.registry.hold key))
  | .release definition => do
    let key ← elementAt? bench.definitions definition
    return (.number (bench.registry.heldBy key).length,
      bench.withRegistry (bench.registry.release key))
  | .held definition => do
    let key ← elementAt? bench.definitions definition
    return (.tokens ((bench.registry.heldBy key).map bench.tokenView), bench)
  | .bump definition => do
    let key ← bench.definition? definition
    let registry := bench.registry.bump key
    return (.number (registry.generation key), bench.withRegistry registry)
  | .current definition => do
    let key ← bench.definition? definition
    let token := bench.registry.current key
    return (.current token.generation
      ((bench.registry.heldBy key).map fun held => held == token), bench)
  | .promise definition => do
    let key ← bench.definition? definition
    return bench.display (.promise (bench.registry.current key))
  | .tombstone => some (bench.display .tombstone)
  | .allocate source =>
    let ((_, index), allocated) := bench.source source
    some (.number index, allocated)
  | .fulfil definition source entry => do
    let key ← bench.definition? definition
    let model ←
      match entry with
      | some index => bench.entry? index
      | none => some (.promise (bench.registry.current key))
    let ((allocation, _), allocated) := bench.source source
    let (fulfilled, minted) := allocated.mint fun serial => model.fulfil serial allocation
    return minted.display fulfilled
  | .refresh definition entry => do
    let key ← bench.definition? definition
    let model ← bench.entry? entry
    let (fresh, minted) := bench.mint fun serial =>
      model.retag serial (bench.registry.current key)
    return minted.display fresh
  | .entry entry holding sameAs currentFor => do
    let found ← bench.entry? entry
    bench.describe found holding sameAs currentFor
  | .table capacity probeLimit =>
    some (.number bench.tables.size,
      { bench with tables := bench.tables.push ⟨Table.empty capacity, probeLimit⟩ })
  | .addEntry table definition entry => do
    let loose ← bench.table? table
    let key ← bench.definition? definition
    let found ← bench.entry? entry
    return bench.addTo table loose key found
  | .addValue table definition source => do
    let loose ← bench.table? table
    let key ← bench.definition? definition
    let ((allocation, _), allocated) := bench.source source
    let (fresh, minted) := allocated.mint fun serial =>
      .minted serial (some (bench.registry.current key)) (some allocation)
    return minted.addTo table loose key fresh
  | .readd table entry => do
    let found ← bench.entry? entry
    bench.onTable table fun loose =>
      (.nothing, loose.table.readd bench.registry loose.probeLimit found)
  | .promote table definition => do
    let key ← bench.definition? definition
    bench.onTable table fun loose =>
      let (moved, promoted) := loose.table.promote bench.registry loose.probeLimit
        (bench.registry.hash key) (bench.registry.current key)
      (.flag moved, promoted)
  | .sweepAround table definition => do
    let key ← bench.definition? definition
    bench.onTable table fun loose =>
      reportSweep <|
        loose.table.sweepAround bench.registry loose.probeLimit (bench.registry.hash key)
  | .sweepAll table =>
    bench.onTable table fun loose =>
      reportSweep (loose.table.sweepAll bench.registry loose.probeLimit)
  | .sweepRange table start count =>
    bench.onTable table fun loose =>
      reportSweep (loose.table.sweep bench.registry loose.probeLimit start count)
  | .probe table definition => do
    let loose ← bench.table? table
    let key ← bench.definition? definition
    let hash := bench.registry.hash key
    let token := bench.registry.current key
    let home := loose.table.probeHome hash token
    let backup := loose.table.probeBackup loose.probeLimit hash token
    return (.probed (home.map bench.content)
      (backup.map fun found => (found.1 % loose.table.capacity, bench.content found.2)), bench)
  | .rebuild table capacity =>
    bench.onTable table fun loose =>
      (.number loose.table.capacity,
        loose.table.entries.foldl (Table.readd bench.registry loose.probeLimit)
          (Table.empty capacity))
  | .store config =>
    some (.number bench.stores.size,
      { bench with stores := bench.stores.push (Store.create config) })
  | .start store definition => do
    let opened ← bench.store? store
    let key ← bench.definition? definition
    let (entry, started) := opened.start key
    return (bench.closeStore store started).display entry
  | .finish store definition entry source => do
    let opened ← bench.store? store
    let key ← bench.definition? definition
    let model ←
      match entry with
      | some index => bench.entry? index
      | none => some (.promise (bench.registry.current key))
    match source with
    | none => return bench.finishIn store opened key model
    | some source =>
      let ((allocation, _), allocated) := bench.source source
      let (candidate, minted) := allocated.mint fun serial => model.fulfil serial allocation
      return minted.finishIn store opened key candidate
  | .remove store definition => do
    let key ← bench.definition? definition
    bench.onStore store fun opened =>
      let (removed, worked) := opened.remove key
      (.flag removed, worked)
  | .change store definition source => do
    let key ← bench.definition? definition
    let _ ← bench.store? store
    let ((allocation, _), allocated) := bench.source source
    allocated.onStore store fun opened =>
      let (changed, worked) := opened.change key allocation
      (.flag changed, worked)
  | .remember store => do
    let opened ← bench.store? store
    return (.number bench.remembered.size,
      { bench with
        remembered := bench.remembered.push ⟨store.toNat, opened.store.table.capacity⟩ })
  | .promoteIn store definition remembered => do
    let key ← bench.definition? definition
    let seen ← elementAt? bench.remembered remembered
    bench.onStore store fun opened =>
      if seen.store = store.toNat then
        let (moved, promoted) := opened.promote key seen.capacity
        (.flag moved, promoted)
      else
        (.flag false, opened)
  | .size store => do
    let opened ← bench.store? store
    return (.sized opened.store.size opened.store.config.probeLimit opened.store.debugText,
      bench)

/-- The view of the part that a step names; a store comes before a table. -/
def partView (bench : Bench) (step : Step) : Option PartView :=
  let stored := step.store?.bind (elementAt? bench.stores)
  let loose := step.table?.bind bench.table?
  match stored, loose with
  | some store, _ =>
    let snapshot := store.table.snapshot bench.registry store.loadLimit store.config.probeLimit
    some (.store store.size snapshot.capacity snapshot.load snapshot.loadLimit snapshot.text)
  | none, some loose =>
    let snapshot := loose.table.snapshot bench.registry 0 loose.probeLimit
    some (.table snapshot.capacity snapshot.load snapshot.text snapshot.misplacedSlots)
  | none, none => none

def perform (bench : Bench) (step : Step) : Line × Bench :=
  let (result, worked) := (bench.execute step).getD (.missing, bench)
  let named := step.definition?.bind worked.definition?
  ({ step
     result
     generation := named.map worked.registry.generation
     part := worked.partView step },
    worked)

end Bench

def runSteps (bench : Bench) (steps : List Step) : Array Line × Bench :=
  steps.foldl
    (fun (lines, bench) step =>
      let (line, worked) := bench.perform step
      (lines.push line, worked))
    (#[], bench)

def run (steps : List Step) : Array Line × Bench :=
  runSteps Bench.initial steps

end ContextCache.Workbench
