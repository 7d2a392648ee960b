import BlockingQuery.Cache.Config

/-!
# Backoff

`Config.backoff` is the delay after a number of failures in a row: the base delay doubled with each failure
after the first, but never above the greatest delay, and spread by chance around that value.
-/

namespace BlockingQuery.Config

open Seconds

variable {τ : Type} [Seconds τ]

/-- The most doublings of the base delay. -/
def doublings : Nat := 32

/-- The delay after `errors` failures before chance comes in. -/
def cappedDelay (c : Config τ) (errors : Int) : τ :=
  lesser c.backoffMax (c.backoffBase * twoPow (min (errors - 1).toNat doublings))

/-- The delay after `errors` failures in a row, for a draw between zero and one. -/
def backoff (c : Config τ) (errors : Int) (draw : τ) : τ :=
  if errors ≤ 0 then zero
  else
    let capped := c.cappedDelay errors
    lesser (capped * (one - c.jitter / two) + draw * c.jitter * capped) c.backoffMax

end BlockingQuery.Config
