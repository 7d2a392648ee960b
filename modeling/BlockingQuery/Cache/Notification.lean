import BlockingQuery.Cache.State

/-!
# Observers, listeners and stopping

`Cache.emit` tells the observers of an event, `Cache.notify` calls the listeners with a snapshot, and
`Cache.stop` stops the cache. Observers and listeners may themselves stop the cache, and stopping tells the
observers; the circle ends because a cache is stopped once: whatever calls `stop` after that finds nothing to
do (`Cache.stopAgain`).

A stop takes hold of the poll loop in one of two ways. From outside, or from the worker, it cancels whatever
the loop waits for, and the loop ends. From within the loop it leaves a mark that the loop finds when it goes
on. A caller who cancels the loop then waits for its end, and fails if the time limit of that wait is none
that can be waited for; the cache is stopped all the same, but nobody is told.
-/

namespace BlockingQuery

/-- Where a call comes from. -/
inductive Place
  | outside
  | pollLoop
  | worker
  deriving DecidableEq, Repr

namespace Cache

/-! ## Observers -/

/-- What stopping does to a cache, and whether the caller comes to know of a failure. -/
abbrev Stop := Cache → Except Failure Unit × Cache

/-- Does what an observer does, up to the first failure, which is dropped. -/
def react (stop : Stop) (observer : String) : List Reaction → Cache → Cache
  | [], s => s
  | .fail :: _, s => s
  | .stop :: rs, s =>
    match stop s with
    | (.ok (), s) => react stop observer rs s
    | (.error _, s) => s
  | .add l :: rs, s => react stop observer rs (s.addListener l)
  | .remove l :: rs, s => react stop observer rs (s.removeListener l).2
  | .leave :: rs, s => react stop observer rs { s with observers := s.observers.erase observer }
  | .look :: rs, s => react stop observer rs (s.note (.looked observer s.shown))

/-- Tells the observers of an event, `stop` being what stopping does. -/
def emitWith (c : Setup) (stop : Stop) (e : Event) (s : Cache) : Cache :=
  s.observers.foldl
    (fun s observer => react stop observer (c.observer observer e) (s.note (.observed observer e)))
    (s.note (.emitted e))

/-! ## Listeners -/

/-- Does what a listener does, up to the first failure or until it is held up. -/
def perform (stop : Stop) (listener : String) : List Act → Cache →
    Registry.Call Failure (List Act) Cache
  | [], s => .returned s
  | .fail f :: _, s => .raised f s
  | .stop :: acts, s =>
    match stop s with
    | (.ok (), s) => perform stop listener acts s
    | (.error f, s) => .raised f s
  | .add l :: acts, s => perform stop listener acts (s.addListener l)
  | .remove l :: acts, s => perform stop listener acts (s.removeListener l).2
  | .look :: acts, s => perform stop listener acts (s.note (.looked listener s.shown))
  | .block :: acts, s => .held acts s

/-- Who calls the listeners with a snapshot: no call begins once the cache is stopped, and the observers are
told of failures. -/
def courier (c : Setup) (stop : Stop) (snapshot : Snapshot) :
    Registry.Courier String Failure (List Act) Cache where
  mayCall := fun s => !s.isStopped
  call := fun l s => perform stop l (c.listener l snapshot) (s.note (.called l snapshot))
  handler := some fun l f s => (.ok (), emitWith c stop (.listenerFailed l f) s)

/-- A round that is over or held up. -/
def taken (snapshot : Snapshot) : Registry.Delivery String (List Act) Cache → Option Held × Cache
  | .finished _ s => (none, s)
  | .held listener acts round s => (some { listener, snapshot, acts, round }, s)

/-- Calls the listeners with a snapshot. -/
def notifyWith (c : Setup) (stop : Stop) (snapshot : Snapshot) (s : Cache) : Option Held × Cache :=
  taken snapshot (s.registry.notify (courier c stop snapshot) s)

/-- Lets a listener go on, and then the round that it is called in. -/
def releaseWith (c : Setup) (stop : Stop) (h : Held) (s : Cache) : Option Held × Cache :=
  taken h.snapshot <|
    Registry.resume (courier c stop h.snapshot) h.listener h.round (perform stop h.listener h.acts s)

/-! ## Stopping -/

/-- What a call of `stop` does to a cache that is stopped. -/
def stopAgain : Stop := fun s =>
  (.ok (), s.note .stopReturned)

/-- Cancels what the poll loop waits for. A session that is open is closed. A listener that the loop waits
for goes on waiting. -/
def cancelLoop (s : Cache) : Cache :=
  match s.loop with
  | .polling _ | .awaiting .. | .sleeping _ (some _) => { s.note .closed with loop := .ended }
  | .opening | .sleeping _ none => { s with loop := .ended }
  | .idle | .notifying .. | .ended => s

/-- Drops the rounds that the worker has still to begin. -/
def dropQueue (s : Cache) : Cache :=
  { s with worker := { s.worker with queue := [] } }

/-- Acts without those that wait. -/
def unblocked (acts : List Act) : List Act :=
  acts.filter fun a => match a with
    | .block => false
    | _ => true

/-- Lets a listener that holds up the worker of a stopped cache finish its call; its round is cut short. -/
def freeWorker (c : Setup) (s : Cache) : Cache :=
  match s.worker.held with
  | none => s
  | some h =>
    let freed := { s with worker := { s.worker with held := none } }
    (releaseWith c stopAgain { h with acts := unblocked h.acts } freed).2

/-- Refuses a time limit that cannot be waited for: its nanoseconds have to be a number below `2 ^ 63`. -/
def checkLimit (seconds : Float) : Except Failure Unit :=
  if seconds.isNaN then .error .notADuration
  else if seconds * 1e9 < 9223372036854775808 then .ok ()
  else .error .overflow

/-- Waits for the end of the poll loop, if it was started and the caller is not the loop itself. -/
def awaitEnd (c : Setup) (place : Place) (s : Cache) : Except Failure Unit :=
  match place, s.loop with
  | .pollLoop, _ | _, .idle => .ok ()
  | _, _ => checkLimit c.config.stopTimeout

/-- Stops a cache. -/
def stop (c : Setup) (place : Place) : Stop := fun s =>
  if s.isStopped then stopAgain s
  else
    let marked := { s with lifecycle := .stopped }
    let halted := if place = .pollLoop then marked else cancelLoop marked
    match awaitEnd c place halted with
    | .error f => (.error f, halted.dropQueue.note .stopReturned)
    | .ok () =>
      let freed := if place = .worker then halted else freeWorker c halted
      stopAgain (emitWith c stopAgain .stopped freed.dropQueue)

/-- Tells the observers of an event. -/
def emit (c : Setup) (place : Place) (e : Event) (s : Cache) : Cache :=
  emitWith c (stop c place) e s

/-- Calls the listeners with a snapshot, unless the cache is stopped. -/
def notify (c : Setup) (place : Place) (snapshot : Snapshot) (s : Cache) : Option Held × Cache :=
  if s.isStopped then (none, s) else notifyWith c (stop c place) snapshot s

/-- Lets a listener go on. -/
def release (c : Setup) (place : Place) (h : Held) (s : Cache) : Option Held × Cache :=
  releaseWith c (stop c place) h s

/-! ## The worker -/

/-- Runs rounds in the background, one after the other, until a listener is held up. -/
def work (c : Setup) : List Snapshot → Cache → Cache
  | [], s => s
  | snapshot :: queue, s =>
    let s := { s with worker := { held := none, queue } }
    match notify c .worker snapshot s with
    | (some h, s) => { s with worker := { s.worker with held := some h } }
    | (none, s) => if s.isStopped then s else work c queue s

/-- Runs the rounds that are to come, unless a listener is held up. -/
def runWorker (c : Setup) (s : Cache) : Cache :=
  if s.worker.held.isSome then s else work c s.worker.queue s

end Cache

end BlockingQuery
