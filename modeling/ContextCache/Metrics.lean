/-!
Contract: the counters by which a cache can be observed.

Counters are 64-bit words and wrap around. They order nothing and decide nothing.

Owns:
- the twelve counters, counting, and the difference of two readings.

Does not own: which event counts where.
-/

namespace ContextCache

/-- The events that are counted. -/
inductive Counter where
  /-- reads answered by the home slot -/
  | homeHits
  /-- reads answered further along the probe window -/
  | backupHits
  /-- backup hits moved into their home slot -/
  | relocations
  /-- reads that went on to the store -/
  | mapLookups
  /-- computations begun -/
  | computations
  /-- computations that failed or panicked -/
  | computeFailures
  /-- computed values thrown away because something else was bound meanwhile -/
  | publishRetries
  /-- values invalidated by a removal -/
  | invalidations
  /-- values bound directly -/
  | puts
  /-- entries swept out of tables -/
  | staleEvictions
  /-- tables replaced by longer ones -/
  | resizes
  /-- bindings given up because their definition was dropped -/
  | expungedBindings
deriving DecidableEq, Repr

structure Metrics where
  homeHits : UInt64 := 0
  backupHits : UInt64 := 0
  relocations : UInt64 := 0
  mapLookups : UInt64 := 0
  computations : UInt64 := 0
  computeFailures : UInt64 := 0
  publishRetries : UInt64 := 0
  invalidations : UInt64 := 0
  puts : UInt64 := 0
  staleEvictions : UInt64 := 0
  resizes : UInt64 := 0
  expungedBindings : UInt64 := 0
deriving DecidableEq, Repr, Inhabited

namespace Counter

/-- All counters in the order in which they are reported. -/
def all : List Counter :=
  [homeHits, backupHits, relocations, mapLookups, computations, computeFailures,
    publishRetries, invalidations, puts, staleEvictions, resizes, expungedBindings]

def name : Counter → String
  | homeHits => "home_hits"
  | backupHits => "backup_hits"
  | relocations => "relocations"
  | mapLookups => "map_lookups"
  | computations => "computations"
  | computeFailures => "compute_failures"
  | publishRetries => "publish_retries"
  | invalidations => "invalidations"
  | puts => "puts"
  | staleEvictions => "stale_evictions"
  | resizes => "resizes"
  | expungedBindings => "expunged_bindings"

end Counter

namespace Metrics

def zero : Metrics := {}

def get (metrics : Metrics) : Counter → UInt64
  | .homeHits => metrics.homeHits
  | .backupHits => metrics.backupHits
  | .relocations => metrics.relocations
  | .mapLookups => metrics.mapLookups
  | .computations => metrics.computations
  | .computeFailures => metrics.computeFailures
  | .publishRetries => metrics.publishRetries
  | .invalidations => metrics.invalidations
  | .puts => metrics.puts
  | .staleEvictions => metrics.staleEvictions
  | .resizes => metrics.resizes
  | .expungedBindings => metrics.expungedBindings

def set (metrics : Metrics) (counter : Counter) (value : UInt64) : Metrics :=
  match counter with
  | .homeHits => { metrics with homeHits := value }
  | .backupHits => { metrics with backupHits := value }
  | .relocations => { metrics with relocations := value }
  | .mapLookups => { metrics with mapLookups := value }
  | .computations => { metrics with computations := value }
  | .computeFailures => { metrics with computeFailures := value }
  | .publishRetries => { metrics with publishRetries := value }
  | .invalidations => { metrics with invalidations := value }
  | .puts => { metrics with puts := value }
  | .staleEvictions => { metrics with staleEvictions := value }
  | .resizes => { metrics with resizes := value }
  | .expungedBindings => { metrics with expungedBindings := value }

/-- Counts `amount` events. -/
def add (metrics : Metrics) (counter : Counter) (amount : UInt64) : Metrics :=
  metrics.set counter (metrics.get counter + amount)

/-- What was counted since an earlier reading, and zero where the earlier reading
is the greater one. -/
def since (metrics earlier : Metrics) : Metrics :=
  Counter.all.foldl
    (fun difference counter =>
      difference.set counter
        (if metrics.get counter ≤ earlier.get counter then 0
          else metrics.get counter - earlier.get counter))
    zero

theorem get_set (metrics : Metrics) (counter other : Counter) (value : UInt64) :
    (metrics.set counter value).get other =
      if other = counter then value else metrics.get other := by
  cases counter <;> cases other <;> rfl

theorem get_add (metrics : Metrics) (counter other : Counter) (amount : UInt64) :
    (metrics.add counter amount).get other =
      if other = counter then metrics.get other + amount else metrics.get other := by
  unfold add
  rw [get_set]
  split
  · next same => rw [same]
  · rfl

end Metrics

end ContextCache
