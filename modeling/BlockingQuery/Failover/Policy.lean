import BlockingQuery.Failover.Strategy
import BlockingQuery.Failure

/-!
# Failover policies

A `Policy` is a strategy as an application supplies it: one of its hooks may fail whenever it is called, and
it may keep its candidates to itself. What the hooks do otherwise is what the strategy does.
-/

namespace BlockingQuery

open Failover

/-- A strategy, the hook of it that fails, if any, and whether it tells nobody its candidates. -/
structure Policy (τ : Type) where
  strategy : Strategy τ
  faulty : Option Hook := none
  discreet : Bool := false

/-- The failure of a query whose request cannot be sent to another target. -/
def Failover.StageFault.failure : StageFault → Failure
  | .target fault => .target fault
  | .url fault => .url fault

namespace Policy

variable {τ : Type} [Seconds τ]

/-- The candidates, as far as they are told. -/
def shownTargets (p : Policy τ) : List Target :=
  if p.discreet then [] else p.strategy.targets

/-- Whether any candidate may be tried. -/
def isViable (p : Policy τ) (now : τ) : Except Failure Bool × Policy τ :=
  if p.faulty = some .viability then (.error (.strategy .viability), p)
  else
    let (viable, s) := p.strategy.isViable now
    (.ok viable, { p with strategy := s })

/-- The request for the next attempt, if any target remains. -/
def nextStage (p : Policy τ) (now : τ) (r : Request) (attempted : List Target) :
    Except Failure (Option Request) × Policy τ :=
  let (stage, s) := p.strategy.nextStage now r attempted
  (stage.mapError StageFault.failure, { p with strategy := s })

/-- Records that a target failed now. -/
def mark (p : Policy τ) (now : τ) (t : Target) : Except Failure Unit × Policy τ :=
  if p.faulty = some .marking then (.error (.strategy .marking), p)
  else (.ok (), { p with strategy := p.strategy.mark now t })

/-- Records that the target of a URL failed now. -/
def markUrl (p : Policy τ) (now : τ) (u : Url) : Except Failure Unit × Policy τ :=
  match Target.ofUrl u with
  | .error fault => (.error (.target fault), p)
  | .ok t => p.mark now t

/-- The targets that are blacklisted now, and the policy without the records that are over. -/
def blacklisted (p : Policy τ) (now : τ) : List (Entry τ) × Policy τ :=
  (p.strategy.blacklisted now, { p with strategy := p.strategy.purge now })

end Policy

end BlockingQuery
