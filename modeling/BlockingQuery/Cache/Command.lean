import BlockingQuery.Cache.Poll

/-!
# Commands

A `Command` is something that an application does with a cache, or something that happens to a cache from
outside: an answer comes in, a delay is over, a listener that waited goes on. `Cache.obey` carries a command
out and runs the cache until it waits again; a run of a cache is the commands that it obeys.
-/

namespace BlockingQuery

/-- Why a cache cannot be started. -/
inductive StartFault
  | stopped (name : String)
  deriving DecidableEq, Repr

def StartFault.message : StartFault → String
  | .stopped name => s!"Cache {name} has been stopped and cannot be restarted"

/-- What is done with a cache, or happens to it. -/
inductive Command
  | start
  | stop
  /-- The transport has made something of the request that is pending, after some time. -/
  | respond (passing : Option Float) (outcome : Outcome)
  /-- A delay is over, after the time that it takes or after some other time. -/
  | wake (passing : Option Float)
  /-- A listener that is held up goes on. -/
  | release
  /-- Time passes on the clock. -/
  | pass (seconds : Float)
  | addListener (listener : String)
  | removeListener (listener : String)
  | addObserver (observer : String)
  | removeObserver (observer : String)
  /-- A target is reported to the policy as failed. -/
  | mark (t : Target)
  /-- The policy is asked for the targets that are blacklisted. -/
  | blacklisted
  /-- From now on a hook of the policy fails, or none does. -/
  | setFaulty (hook : Option Hook)

/-- What comes of a command. -/
inductive Result
  | done
  /-- Whether there was what the command is about. -/
  | found (b : Bool)
  | entries (es : List (Failover.Entry Float))
  | failed (f : Failure)
  | refused (f : StartFault)

namespace Cache

/-- A cache that was not started. -/
def create (surroundings : Surroundings) : Cache :=
  { surroundings with }

/-- Starts a cache. One that is started already is left alone. -/
def start (c : Setup) (s : Cache) : Result × Cache :=
  match s.lifecycle with
  | .stopped => (.refused (.stopped c.name), s)
  | .starting | .running => (.done, s)
  | .notStarted =>
    (.done, run c (emit c .outside .started { s with lifecycle := .starting, loop := .opening }))

/-- Lets time pass on the clock. -/
def pass (seconds : Float) (s : Cache) : Cache :=
  { s with now := s.now + seconds }

/-- Takes up what the transport made of the request that is pending, if there is one. -/
def respond (c : Setup) (passing : Option Float) (outcome : Outcome) (s : Cache) : Bool × Cache :=
  match s.loop with
  | .awaiting o x =>
    let s := match passing with
      | some seconds => pass seconds s
      | none => s
    let (progress, policy) := x.receive s.now s.policy outcome
    (true, run c (conclude c o { s with policy } progress))
  | _ => (false, s)

/-- Goes on after a delay, if one is passing. The clock moves by `passing`, or else by the delay. -/
def wake (c : Setup) (passing : Option Float) (s : Cache) : Bool × Cache :=
  match s.loop with
  | .sleeping delay o =>
    let loop := match o with
      | some o => Loop.polling o
      | none => .opening
    (true, run c { pass (passing.getD delay) s with loop })
  | _ => (false, s)

/-- Lets a listener go on that is held up, if there is one. -/
def unblock (c : Setup) (s : Cache) : Bool × Cache :=
  match s.loop, s.worker.held with
  | .notifying o h delay, _ =>
    match release c .pollLoop h s with
    | (some h, s) => (true, { s with loop := .notifying o h delay })
    | (none, s) => (true, run c (pause o delay s))
  | _, some h =>
    match release c .worker h { s with worker := { s.worker with held := none } } with
    | (some h, s) => (true, { s with worker := { s.worker with held := some h } })
    | (none, s) => (true, if s.isStopped then s else runWorker c s)
  | _, none => (false, s)

/-- Does something with the policy, if there is one. -/
def withPolicy (action : Policy Float → Result × Policy Float) (s : Cache) : Result × Cache :=
  match s.policy with
  | none => (.done, s)
  | some p =>
    let (result, p) := action p
    (result, { s with policy := some p })

/-- Carries out a command. -/
def obey (c : Setup) (s : Cache) : Command → Result × Cache
  | .start => start c s
  | .stop =>
    match stop c .outside s with
    | (.ok (), s) => (.done, s)
    | (.error f, s) => (.failed f, s)
  | .respond passing outcome =>
    let (found, s) := respond c passing outcome s
    (.found found, s)
  | .wake passing =>
    let (found, s) := wake c passing s
    (.found found, s)
  | .release =>
    let (found, s) := unblock c s
    (.found found, s)
  | .pass seconds => (.done, pass seconds s)
  | .addListener l => (.done, s.addListener l)
  | .removeListener l =>
    let (found, s) := s.removeListener l
    (.found found, s)
  | .addObserver o => (.done, { s with observers := s.observers ++ [o] })
  | .removeObserver o => (.done, { s with observers := s.observers.erase o })
  | .mark t => s.withPolicy fun p =>
    match p.mark s.now t with
    | (.ok (), p) => (.done, p)
    | (.error f, p) => (.failed f, p)
  | .blacklisted => s.withPolicy fun p =>
    let (es, p) := p.blacklisted s.now
    (.entries es, p)
  | .setFaulty hook => s.withPolicy fun p => (.done, { p with faulty := hook })

/-- The cache after it obeyed commands, one after the other. -/
def after (c : Setup) (commands : List Command) (s : Cache) : Cache :=
  commands.foldl (fun s command => (obey c s command).2) s

end Cache

end BlockingQuery
