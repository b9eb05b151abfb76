import ContextCache.Config
import ContextCache.Holdings
import ContextCache.Metrics
import ContextCache.Table.Snapshot

/-!
Contract: the language of a workbench, on which the parts of a cache are tried one
by one.

Parts are named by their index in the order of creation: definitions, entries,
values, tables, stores, and tables of stores that were remembered.

Owns:
- the steps and what they report.

Does not own: what steps do.
-/

namespace ContextCache.Workbench

inductive Step where
  | define (home length : Nat)
  | drop (definition : Int)
  | hold (definition : Int)
  | release (definition : Int)
  | held (definition : Int)
  | bump (definition : Int)
  | current (definition : Int)
  | promise (definition : Int)
  | tombstone
  | allocate (source : Source)
  | fulfil (definition : Int) (source : Source) (entry : Option Int)
  | refresh (definition entry : Int)
  | entry (entry : Int) (holding sameAs currentFor : Option Int)
  | table (capacity probeLimit : Nat)
  | addEntry (table definition entry : Int)
  | addValue (table definition : Int) (source : Source)
  | readd (table entry : Int)
  | promote (table definition : Int)
  | sweepAround (table definition : Int)
  | sweepAll (table : Int)
  | sweepRange (table : Int) (start count : Nat)
  | probe (table definition : Int)
  | rebuild (table : Int) (capacity : Nat)
  | store (config : Config)
  | start (store definition : Int)
  | finish (store definition : Int) (entry : Option Int) (source : Option Source)
  | remove (store definition : Int)
  | change (store definition : Int) (source : Source)
  | remember (store : Int)
  | promoteIn (store definition remembered : Int)
  | size (store : Int)
deriving Repr

def Step.definition? : Step → Option Int
  | .drop index => some index
  | .hold index => some index
  | .release index => some index
  | .held index => some index
  | .bump index => some index
  | .current index => some index
  | .promise index => some index
  | .fulfil index _ _ => some index
  | .refresh index _ => some index
  | .entry _ _ _ currentFor => currentFor
  | .addEntry _ index _ => some index
  | .addValue _ index _ => some index
  | .promote _ index => some index
  | .sweepAround _ index => some index
  | .probe _ index => some index
  | .start _ index => some index
  | .finish _ index _ _ => some index
  | .remove _ index => some index
  | .change _ index _ => some index
  | .promoteIn _ index _ => some index
  | _ => none

def Step.table? : Step → Option Int
  | .addEntry index _ _ => some index
  | .addValue index _ _ => some index
  | .readd index _ => some index
  | .promote index _ => some index
  | .sweepAround index _ => some index
  | .sweepAll index => some index
  | .sweepRange index _ _ => some index
  | .probe index _ => some index
  | .rebuild index _ => some index
  | _ => none

def Step.store? : Step → Option Int
  | .start index _ => some index
  | .finish index _ _ _ => some index
  | .remove index _ => some index
  | .change index _ _ => some index
  | .remember index => some index
  | .promoteIn index _ _ => some index
  | .size index => some index
  | _ => none

structure EntryView where
  index : Nat
  state : EntryState
  isPromise : Bool
  isLive : Bool
  value : Option Datum
  hash : Option UInt32
deriving Repr

structure TokenView where
  generation : Nat
  isLive : Bool
  hash : UInt32
  debugText : String
deriving Repr

inductive Result where
  | missing
  | nothing
  | defined (index identity : Nat) (hash : UInt32)
  | flag (value : Bool)
  | number (value : Nat)
  | tokens (held : List TokenView)
  | current (generation : Nat) (held : List Bool)
  | shown (entry : EntryView)
  | described (entry : EntryView) (debugText : String) (holds same current : Option Bool)
  | probed (home : Option Datum) (backup : Option (Nat × Datum))
  | sized (bindings probeLimit : Nat) (debugText : String)
deriving Repr

/-- What is shown of the table or the store that a step names. -/
inductive PartView where
  | table (capacity load : Nat) (slots : String) (misplaced : List Nat)
  | store (bindings capacity load loadLimit : Nat) (slots : String)
deriving Repr

/-- One finished step, with the generation of the definition and the view of the
part that it names. -/
structure Line where
  step : Step
  result : Result
  generation : Option Nat
  part : Option PartView
deriving Repr

end ContextCache.Workbench
