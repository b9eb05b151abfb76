import ContextCache.Config
import ContextCache.Text.Blank
import ContextCache.Text.Natural
import ContextCache.Text.Quoted

/-!
Contract: a configuration from environment variables.

Each variable that is set replaces one default. A value is trimmed of blanks and
must then be a decimal number that its setting can hold. The variables are read
in a fixed order; the first one that cannot be read ends the reading, and only
then are the conditions on the whole configuration checked.

Owns:
- the variables' names and limits, loading, and the fallback to the defaults;
- the wording of configuration errors.

Does not own: access to the environment, which is a function given by the caller.
-/

namespace ContextCache

namespace Setting

/-- The environment variable that overrides a setting. -/
def variableName : Setting → String
  | initialEntries => "FRANKENVALUE_INITIAL_ENTRIES"
  | probeLimit => "FRANKENVALUE_PROBE_LIMIT"
  | loadPercent => "FRANKENVALUE_LOAD_LIMIT"
  | maxEntries => "FRANKENVALUE_MAX_ENTRIES"

def limit : Setting → Nat
  | loadPercent => 255
  | _ => maxSize

def read? (setting : Setting) (raw : String) : Option Nat :=
  match Text.readNatural 10 setting.limit (Text.trim raw.toList) with
  | .ok value => some value
  | .error _ => none

end Setting

namespace Config

/-- Applies the variables of the listed settings that are set, one by one. -/
def overrideAll (lookup : String → Option String) :
    List Setting → Config → Except ConfigError Config
  | [], config => .ok config
  | setting :: rest, config =>
    match lookup setting.variableName with
    | none => overrideAll lookup rest config
    | some raw =>
      match setting.read? raw with
      | none => .error (.unreadable setting raw)
      | some value => overrideAll lookup rest (config.set setting value)

def load (lookup : String → Option String) : Except ConfigError Config :=
  match overrideAll lookup Setting.all standard with
  | .error error => .error error
  | .ok config =>
    match config.validate with
    | .error error => .error error
    | .ok () => .ok config

/-- The configuration in force in an environment: what the environment asks for,
or the defaults if that is rejected. -/
def effective (lookup : String → Option String) : Config :=
  match load lookup with
  | .ok config => config
  | .error _ => standard

end Config

def ConfigError.message : ConfigError → String
  | notPowerOfTwo setting value =>
    setting.name ++ " must be a power of two, got " ++ toString value
  | probeLimit value max =>
    "probe limit must be in 1..=" ++ toString max ++ ", got " ++ toString value
  | loadLimit percent =>
    "load limit must be a percentage in 1..=100, got " ++ toString percent
  | maxBelowInitial initial max =>
    "max entries " ++ toString max ++ " is below initial entries " ++ toString initial
  | maxTooLarge max => "max entries " ++ toString max ++ " exceeds the cache hash range"
  | unreadable setting raw =>
    setting.variableName ++ ": cannot parse " ++ Text.quoted raw ++ " as an integer"

end ContextCache
