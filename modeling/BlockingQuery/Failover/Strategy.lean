import BlockingQuery.Failover.Blacklist
import BlockingQuery.Http.Request

/-!
# Failover strategies

A `Strategy` has candidate targets in order of preference and a blacklist. `isViable` tells whether any
candidate may be tried, `nextTarget` chooses one for the next attempt of a cycle, `nextStage` sends a
request to it, and `mark` records that a target failed. Each returns the strategy as it is afterwards,
because looking at a record that is over removes it.
-/

namespace BlockingQuery

namespace Failover

/-- A target as it is given to a strategy: by its text, or directly. -/
inductive Candidate
  | text (s : String)
  | target (t : Target)

/-- The target of a candidate. -/
def Candidate.resolve : Candidate → Except Target.Fault Target
  | .text s => Target.parse s
  | .target t => .ok t

/-- Why there is no strategy with the given targets and window. -/
inductive SetupFault
  | target (fault : Target.Fault)
  | noTargets
  | negativeWindow
  deriving DecidableEq, Repr

def SetupFault.message : SetupFault → String
  | .target fault => fault.message
  | .noTargets => "At least one target is required"
  | .negativeWindow => "blacklist_window_seconds must be non-negative"

/-- Why a request cannot be sent to another target. -/
inductive StageFault
  | target (fault : Target.Fault)
  | url (fault : Url.Fault)
  deriving DecidableEq, Repr

end Failover

open Failover

/-- Candidate targets, how long a failure excludes one, and the failures on record. -/
structure Strategy (τ : Type) where
  targets : List Target
  window : τ
  blacklist : Blacklist τ := []

namespace Strategy

variable {τ : Type} [Seconds τ]

/-- The targets, each where it stands first. -/
def distinct (ts : List Target) : List Target :=
  ts.foldl (fun seen t => if t ∈ seen then seen else seen ++ [t]) []

/-- A strategy for the given targets, none of which has failed yet. -/
def create (targets : List Target) (window : τ) : Except SetupFault (Strategy τ) :=
  if targets.isEmpty then .error .noTargets
  else if window < Seconds.zero then .error .negativeWindow
  else .ok { targets := distinct targets, window }

/-- A strategy for the given candidates. -/
def ofCandidates (candidates : List Candidate) (window : τ) : Except SetupFault (Strategy τ) := do
  let targets ← (candidates.mapM Candidate.resolve).mapError .target
  create targets window

/-- Whether a record excludes the target now. -/
def isBlacklisted (s : Strategy τ) (now : τ) (t : Target) : Bool :=
  s.blacklist.excludes s.window now t

/-- The strategy after a look at the record of a target. -/
def inspect (s : Strategy τ) (now : τ) (t : Target) : Strategy τ :=
  { s with blacklist := s.blacklist.inspect s.window now t }

/-- Whether any candidate is not blacklisted. -/
def isViable (s : Strategy τ) (now : τ) : Bool × Strategy τ :=
  let (found, blacklist) := s.blacklist.firstViable s.window now s.targets
  (found.isSome, { s with blacklist })

/-- The first candidate that is neither tried nor blacklisted. -/
def nextCandidate (s : Strategy τ) (now : τ) (attempted : List Target) : Option Target × Strategy τ :=
  let (found, blacklist) :=
    s.blacklist.firstViable s.window now (s.targets.filter fun t => !attempted.contains t)
  (found, { s with blacklist })

/-- The target for the next attempt: the previous one if it is neither tried nor blacklisted, or else the
first such candidate. -/
def nextTarget (s : Strategy τ) (now : τ) (previous : Option Target) (attempted : List Target) :
    Option Target × Strategy τ :=
  match previous with
  | none => s.nextCandidate now attempted
  | some t =>
    if attempted.contains t then s.nextCandidate now attempted
    else if s.isBlacklisted now t then s.nextCandidate now attempted
    else (some t, s.inspect now t)

/-- The request for the next attempt, if any target remains: the given one if its target may be tried,
and else the given one sent to another target. -/
def nextStage (s : Strategy τ) (now : τ) (r : Request) (attempted : List Target) :
    Except StageFault (Option Request) × Strategy τ :=
  match Target.ofUrl r.url with
  | .error e => (.error (.target e), s)
  | .ok here =>
    match s.nextTarget now (some here) attempted with
    | (none, s) => (.ok none, s)
    | (some t, s) =>
      if t = here then (.ok (some r), s)
      else (((r.retarget t).map some).mapError .url, s)

/-- Records that a target failed now. -/
def mark (s : Strategy τ) (now : τ) (t : Target) : Strategy τ :=
  { s with blacklist := s.blacklist.record now t }

/-- The strategy without the records that are over. -/
def purge (s : Strategy τ) (now : τ) : Strategy τ :=
  { s with blacklist := s.blacklist.current s.window now }

/-- The targets that are blacklisted now. -/
def blacklisted (s : Strategy τ) (now : τ) : List (Entry τ) :=
  s.blacklist.report s.window now

end Strategy

end BlockingQuery
