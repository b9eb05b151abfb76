import ContextCache.Registry

/-!
Contract: cache entries.

An entry ties a token to a value. What an entry is worth is never stored in it
but follows from its token: the same entry is live today and stale after the
next invalidation. Entries are told apart by identity and never change.

Owns:
- allocations, entries and their derived states;
- re-tagging and fulfilment, the two ways to make an entry from another one.

Does not own: where entries are kept.
-/

namespace ContextCache

/-- One allocated value, known by its number. The cache hands allocations around
and compares them, and never looks at their contents.

Values are inert. A step that lets go of a value, because it binds another one or
sweeps the last entry that carries it, frees no definition by that, so the registry
that a step begins with is the one that all of the step goes by. -/
structure Allocation where
  serial : Nat
deriving DecidableEq, Repr

/-- A cache entry.

Each generation has a single promise, and there is one tombstone. Every other
entry is minted with a serial number, so that equality of entries is identity. -/
inductive Entry where
  | promise (token : Token)
  | tombstone
  | minted (serial : Nat) (tag : Option Token) (value : Option Allocation)
deriving DecidableEq, Repr

/-- What an entry is worth at a given moment. -/
inductive EntryState where
  | promise
  | dead
  | stale
  | live
deriving DecidableEq, Repr

namespace Entry

/-- The generation that the entry belongs to. -/
def tag? : Entry → Option Token
  | promise token => some token
  | tombstone => none
  | minted _ tag _ => tag

/-- The value that the entry carries. -/
def value? : Entry → Option Allocation
  | minted _ _ value => value
  | _ => none

def isPromise : Entry → Bool
  | promise _ => true
  | _ => false

/-- Whether the entry belongs to exactly this generation. The comparison is valid
even after the token is gone. -/
def hasTag (entry : Entry) (token : Token) : Bool :=
  entry.tag? == some token

/-- Whether two entries belong to the same generation, or both to none. -/
def sameTag (entry other : Entry) : Bool :=
  entry.tag? == other.tag?

/-- Whether the entry carries this very allocation. -/
def holds (entry : Entry) (allocation : Allocation) : Bool :=
  entry.value? == some allocation

/-- Whether the entry's token is live. This is true of a current promise too. -/
def isLive (registry : Registry) (entry : Entry) : Bool :=
  match entry.tag? with
  | some token => registry.isLive token
  | none => false

/-- The hash of the entry's definition, as long as the token can be reached. -/
def hashOf? (registry : Registry) (entry : Entry) : Option UInt32 :=
  entry.tag?.bind registry.hashOf?

/-- A promise stays a promise; any other entry is worth what its token is worth. -/
def state (registry : Registry) (entry : Entry) : EntryState :=
  if entry.isPromise then
    .promise
  else
    match entry.hashOf? registry with
    | none => .dead
    | some _ => if entry.isLive registry then .live else .stale

/-- A new entry that carries `allocation` for the generation of `entry`. -/
def fulfil (serial : Nat) (allocation : Allocation) (entry : Entry) : Entry :=
  minted serial entry.tag? (some allocation)

/-- A new entry that carries the value of `entry` for the generation `token`. -/
def retag (serial : Nat) (token : Token) (entry : Entry) : Entry :=
  minted serial (some token) entry.value?

end Entry

end ContextCache
