/-!
Contract: the tuning of a context's table.

Owns:
- the four settings, their defaults, and the conditions that they must meet;
- the occupancy at which a table of a given length is relieved;
- the errors of a rejected configuration and their wording.

Does not own: where a configuration comes from.
-/

namespace ContextCache

/-- The greatest number that a size setting may have before it is checked. -/
def maxSize : Nat := UInt64.size - 1

/-- The length of the longest table, the number of distinct cache hashes. -/
def longestTable : Nat := 1 <<< 30

/-- How one context's table is laid out. -/
structure Config where
  /-- slots of a fresh table -/
  initialEntries : Nat := 32
  /-- how far from its home slot an entry is looked for and placed -/
  probeLimit : Nat := 6
  /-- percentage of occupied slots at which the table is relieved -/
  loadPercent : Nat := 67
  /-- slots beyond which the table never grows -/
  maxEntries : Nat := longestTable
deriving DecidableEq, Repr, Inhabited

/-- The settings by themselves. -/
inductive Setting where
  | initialEntries
  | probeLimit
  | loadPercent
  | maxEntries
deriving DecidableEq, Repr

/-- Why a configuration is rejected. -/
inductive ConfigError where
  | notPowerOfTwo (setting : Setting) (value : Nat)
  | probeLimit (value max : Nat)
  | loadLimit (percent : Nat)
  | maxBelowInitial (initial max : Nat)
  | maxTooLarge (max : Nat)
  | unreadable (setting : Setting) (raw : String)
deriving DecidableEq, Repr

namespace Setting

/-- The settings in the order in which they are listed. -/
def all : List Setting :=
  [initialEntries, probeLimit, loadPercent, maxEntries]

/-- The name under which a setting is reported. -/
def name : Setting → String
  | initialEntries => "initial_entries"
  | probeLimit => "probe_limit"
  | loadPercent => "load_limit_percent"
  | maxEntries => "max_entries"

end Setting

namespace Config

/-- The configuration that is in force where nothing else is said. -/
def standard : Config := {}

/-- The value of one setting. -/
def get (config : Config) : Setting → Nat
  | .initialEntries => config.initialEntries
  | .probeLimit => config.probeLimit
  | .loadPercent => config.loadPercent
  | .maxEntries => config.maxEntries

/-- The configuration with one setting replaced. -/
def set (config : Config) (setting : Setting) (value : Nat) : Config :=
  match setting with
  | .initialEntries => { config with initialEntries := value }
  | .probeLimit => { config with probeLimit := value }
  | .loadPercent => { config with loadPercent := value }
  | .maxEntries => { config with maxEntries := value }

/-- The conditions on a configuration, all together. -/
structure Valid (config : Config) : Prop where
  initialPower : config.initialEntries.isPowerOfTwo
  maxPower : config.maxEntries.isPowerOfTwo
  probePositive : 1 ≤ config.probeLimit
  probeFits : config.probeLimit ≤ config.initialEntries
  loadPositive : 1 ≤ config.loadPercent
  loadFits : config.loadPercent ≤ 100
  ordered : config.initialEntries ≤ config.maxEntries
  bounded : config.maxEntries ≤ longestTable

/-- Checks the conditions one after the other and reports the first that fails. -/
def validate (config : Config) : Except ConfigError Unit :=
  if ¬ config.initialEntries.isPowerOfTwo then
    .error (.notPowerOfTwo .initialEntries config.initialEntries)
  else if ¬ config.maxEntries.isPowerOfTwo then
    .error (.notPowerOfTwo .maxEntries config.maxEntries)
  else if config.probeLimit = 0 ∨ config.initialEntries < config.probeLimit then
    .error (.probeLimit config.probeLimit config.initialEntries)
  else if config.loadPercent = 0 ∨ 100 < config.loadPercent then
    .error (.loadLimit config.loadPercent)
  else if config.maxEntries < config.initialEntries then
    .error (.maxBelowInitial config.initialEntries config.maxEntries)
  else if longestTable < config.maxEntries then
    .error (.maxTooLarge config.maxEntries)
  else
    .ok ()

/-- The number of occupied slots at which a table of `length` slots is relieved.
The product stops at the greatest size. -/
def loadLimitFor (config : Config) (length : Nat) : Nat :=
  min (length * config.loadPercent) maxSize / 100

/-- The check accepts exactly the valid configurations. -/
theorem validate_eq_ok_iff {config : Config} : config.validate = .ok () ↔ config.Valid := by
  unfold validate
  constructor
  · intro accepted
    split at accepted
    · exact absurd accepted (by simp)
    split at accepted
    · exact absurd accepted (by simp)
    split at accepted
    · exact absurd accepted (by simp)
    split at accepted
    · exact absurd accepted (by simp)
    split at accepted
    · exact absurd accepted (by simp)
    split at accepted
    · exact absurd accepted (by simp)
    next initial max probe load order bound =>
    exact {
      initialPower := Decidable.of_not_not initial
      maxPower := Decidable.of_not_not max
      probePositive := by omega
      probeFits := by omega
      loadPositive := by omega
      loadFits := by omega
      ordered := by omega
      bounded := by omega }
  · intro valid
    have initial := valid.initialPower
    have max := valid.maxPower
    have probePositive := valid.probePositive
    have probeFits := valid.probeFits
    have loadPositive := valid.loadPositive
    have loadFits := valid.loadFits
    have ordered := valid.ordered
    have bounded := valid.bounded
    rw [if_neg (not_not_intro initial), if_neg (not_not_intro max), if_neg (by omega),
      if_neg (by omega), if_neg (by omega), if_neg (by omega)]

theorem valid_standard : standard.Valid where
  initialPower := ⟨5, rfl⟩
  maxPower := ⟨30, rfl⟩
  probePositive := by decide
  probeFits := by decide
  loadPositive := by decide
  loadFits := by decide
  ordered := by decide
  bounded := Nat.le_refl _

end Config

end ContextCache
