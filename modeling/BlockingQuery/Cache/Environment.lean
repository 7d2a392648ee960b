import BlockingQuery.Cache.Config
import BlockingQuery.OrderedMap
import BlockingQuery.Text.Quoted

/-!
# Configuration from environment variables

Each setting of a cache has a variable of its own, whose name begins with a common beginning.
`Config.ofEnvironment` takes the settings whose variables are set and not blank, and leaves the others as
they are. A number that cannot be read is refused.
-/

namespace BlockingQuery

open Text

/-- Variables and their values. -/
abbrev Environment := OrderedMap String String

/-- A variable whose value is no number. -/
structure Environment.Fault where
  name : String
  value : String
  deriving DecidableEq, Repr

def Environment.Fault.message (f : Environment.Fault) : String :=
  s!"Invalid value for {f.name}: {quoted f.value}"

namespace Environment

/-- How the names of the variables begin if nothing else is said. -/
def standardBeginning : String := "CONSUL_CACHE_"

/-- The value of a variable that is set and not blank. -/
def value? (env : Environment) (name : String) : Option String :=
  (env.lookup? name).filter fun value => !(trim value.toList).isEmpty

/-- What a variable says to be read by `read`, or else what is there. -/
def number {α : Type} (env : Environment) (name : String) (read : List Char → Option α) (otherwise : α) :
    Except Fault α :=
  match env.value? name with
  | none => .ok otherwise
  | some value => match read value.toList with
    | some n => .ok n
    | none => .error ⟨name, value⟩

/-- Words for yes; all others mean no. -/
def affirmative : List String :=
  ["1", "true", "yes", "on"]

/-- Whether a variable says yes, or else what is there. -/
def flag (env : Environment) (name : String) (otherwise : Bool) : Bool :=
  match env.value? name with
  | none => otherwise
  | some value => affirmative.contains (lower (trimmed value))

end Environment

/-- The configuration with what the variables say put in place of the settings of `base`. -/
def Config.ofEnvironment (beginning : String) (env : Environment) (base : Config Float) :
    Except Environment.Fault (Config Float) := do
  let name (setting : String) := beginning ++ setting
  let seconds (setting : String) (otherwise : Float) :=
    env.number (name setting) Numeral.float? otherwise
  let waitSeconds ← env.number (name "WAIT_SECONDS") Numeral.int? base.waitSeconds
  let backoffBase ← seconds "BACKOFF_BASE_SECONDS" base.backoffBase
  let backoffMax ← seconds "BACKOFF_MAX_SECONDS" base.backoffMax
  let jitter ← seconds "JITTER_FACTOR" base.jitter
  let minDelay ← seconds "MIN_DELAY_BETWEEN_REQUESTS_SECONDS" base.minDelay
  let minDelayOnEmpty ← seconds "MIN_DELAY_ON_EMPTY_RESULT_SECONDS" base.minDelayOnEmpty
  let stopTimeout ← seconds "STOP_TIMEOUT_SECONDS" base.stopTimeout
  let dispatchInBackground := env.flag (name "DISPATCH_LISTENERS_IN_BACKGROUND") base.dispatchInBackground
  let enabled := env.flag (name "TIMEOUT_AUTO_ADJUSTMENT_ENABLED") base.adjustment.enabled
  let marginMs ← env.number (name "TIMEOUT_AUTO_ADJUSTMENT_MARGIN_MS") Numeral.int? base.adjustment.marginMs
  return {
    waitSeconds, backoffBase, backoffMax, jitter, minDelay, minDelayOnEmpty, stopTimeout
    dispatchInBackground, adjustment := { enabled, marginMs } }

end BlockingQuery
