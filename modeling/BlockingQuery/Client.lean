import BlockingQuery.Failover.Policy
import BlockingQuery.Http.Query

/-!
# Clients

A `Client` holds what all queries to one cluster have in common. `Client.Settings` are what it is made
from: a client for several targets without a policy of its own gets one that fails over between them.
-/

namespace BlockingQuery

open Failover

/-- How fresh an answer has to be. -/
inductive Consistency
  | default
  | stale
  | consistent
  deriving DecidableEq, Repr

/-- Options of every query of a client. -/
structure QueryOptions where
  datacenter : Option String := none
  consistency : Consistency := .default
  extra : Params := .empty

/-- The parameters that the options stand for; the extra ones come last and win. -/
def QueryOptions.params (o : QueryOptions) : Params :=
  let datacenter := match o.datacenter with
    | some name => if name.isEmpty then [] else [("dc", name)]
    | none => []
  let consistency := match o.consistency with
    | .default => []
    | .stale => [("stale", "")]
    | .consistent => [("consistent", "")]
  (OrderedMap.ofList (datacenter ++ consistency)).update o.extra

/-- The time limits of a client in seconds, where there are any. -/
structure TimeLimits where
  connect : Option Float := some 5
  read : Option Float := some 15
  write : Option Float := some 10

/-- The limits that each request starts with; waiting for a connection is limited like making one. -/
def TimeLimits.timeouts (l : TimeLimits) : Timeouts where
  connect := .ofOption l.connect
  read := .ofOption l.read
  write := .ofOption l.write
  pool := .ofOption l.connect

/-- Where queries go, and what they have in common. -/
structure Client where
  baseUrl : String
  limits : TimeLimits
  options : QueryOptions
  headers : OrderedMap String String

namespace Client

/-- What a client is made from. -/
structure Settings where
  baseUrl : Option String := none
  targets : List Candidate := []
  window : Float := 60
  limits : TimeLimits := {}
  options : QueryOptions := {}
  headers : OrderedMap String String := .empty

/-- Where queries go if neither a URL nor a target is given. -/
def standardUrl : String := "http://localhost:8500"

/-- The URL that queries go to: the one that is given, or that of the first target; slashes at its end
are dropped. -/
def chooseUrl (given : Option String) (targets : List Target) : String :=
  let url := match given, targets with
    | some url, _ => url
    | none, t :: _ => s!"http://{t.toString}"
    | none, [] => standardUrl
  String.ofList ((url.toList.reverse.dropWhile (· == '/')).reverse)

/-- A client and its policy. -/
def create (s : Settings) (given : Option (Policy Float)) :
    Except SetupFault (Client × Option (Policy Float)) := do
  let targets ← (s.targets.mapM Candidate.resolve).mapError .target
  let client : Client :=
    { baseUrl := chooseUrl s.baseUrl targets, limits := s.limits, options := s.options,
      headers := s.headers }
  if given.isSome || targets.isEmpty then return (client, given)
  let strategy ← Strategy.create targets s.window
  return (client, some { strategy })

end Client

end BlockingQuery
