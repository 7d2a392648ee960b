import BlockingQuery.Adjustment
import BlockingQuery.Seconds

/-!
# Configuration of a cache

`Config.defects` lists what is wrong with a configuration, in the order in which it is reported.
-/

namespace BlockingQuery

/-- How a cache polls. -/
structure Config (τ : Type) where
  /-- How long a server may hold a query open. -/
  waitSeconds : Int
  /-- The delay after the first of several failures, and the greatest delay. -/
  backoffBase : τ
  backoffMax : τ
  /-- The part of a delay that is left to chance. -/
  jitter : τ
  /-- The pauses after an answer, and after an answer without entities. -/
  minDelay : τ
  minDelayOnEmpty : τ
  adjustment : Adjustment
  /-- How long `stop` waits for the poll loop. -/
  stopTimeout : τ
  /-- Whether listeners are called by a worker of their own. -/
  dispatchInBackground : Bool

namespace Config

/-- What may be wrong with a configuration. -/
inductive Defect
  | waitTooShort
  | negativeBackoffBase
  | negativeBackoffMax
  | jitterOutOfRange
  | negativeMinDelay
  | negativeMinDelayOnEmpty
  | stopTimeoutNotPositive
  | backoffBaseAboveMax
  | adjustment (d : Adjustment.Defect)
  deriving DecidableEq, Repr

def Defect.message : Defect → String
  | .waitTooShort => "wait_seconds must be at least 1"
  | .negativeBackoffBase => "backoff_base_seconds must be non-negative"
  | .negativeBackoffMax => "backoff_max_seconds must be non-negative"
  | .jitterOutOfRange => "jitter_factor must be between 0 and 1"
  | .negativeMinDelay => "min_delay_between_requests_seconds must be non-negative"
  | .negativeMinDelayOnEmpty => "min_delay_on_empty_result_seconds must be non-negative"
  | .stopTimeoutNotPositive => "stop_timeout_seconds must be positive"
  | .backoffBaseAboveMax => "backoff_base_seconds cannot exceed backoff_max_seconds"
  | .adjustment d => d.message

/-- The configuration that is used where none is given. -/
def standard : Config Float where
  waitSeconds := 10
  backoffBase := 1
  backoffMax := 10
  jitter := 0.5
  minDelay := 0
  minDelayOnEmpty := 0
  adjustment := {}
  stopTimeout := 5
  dispatchInBackground := false

variable {τ : Type} [Seconds τ]

open Seconds

/-- What is wrong with a configuration. -/
def defects (c : Config τ) : List Defect :=
  [(decide (c.waitSeconds < 1), .waitTooShort),
    (decide (c.backoffBase < zero), .negativeBackoffBase),
    (decide (c.backoffMax < zero), .negativeBackoffMax),
    (!(decide (zero ≤ c.jitter) && decide (c.jitter ≤ one)), .jitterOutOfRange),
    (decide (c.minDelay < zero), .negativeMinDelay),
    (decide (c.minDelayOnEmpty < zero), .negativeMinDelayOnEmpty),
    (decide (c.stopTimeout ≤ zero), .stopTimeoutNotPositive),
    (decide (c.backoffMax < c.backoffBase), Defect.backoffBaseAboveMax)].filterMap
      (fun (present, d) => if present then some d else none) ++
    c.adjustment.defects.map .adjustment

end Config

end BlockingQuery
