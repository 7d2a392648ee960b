import BlockingQuery.Answer
import BlockingQuery.Cache.Snapshot

/-!
# What happens in a cache

An `Event` is what a cache tells its observers, an `Occurrence` anything that can be seen of it from outside.
-/

namespace BlockingQuery

/-- How far a cache is in its life. -/
inductive Lifecycle
  | notStarted
  | starting
  | running
  | stopped
  deriving DecidableEq, Repr

def Lifecycle.name : Lifecycle → String
  | .notStarted => "not_started"
  | .starting => "starting"
  | .running => "running"
  | .stopped => "stopped"

/-- What observers are told. -/
inductive Event
  | started
  | stopped
  /-- A new snapshot with so many entries, from the answer of a target. -/
  | changed (index : Option Int) (size : Nat) (target : Option Target)
  /-- An answer that tells of nothing new. -/
  | unchanged (index : Option Int)
  /-- A failed poll: how many there have been in a row, and the delay before the next one. -/
  | failed (failure : Failure) (count : Nat) (delay : Float) (fatal : Bool)
  | listenerFailed (listener : String) (failure : Failure)

def Event.name : Event → String
  | .started => "cache:started"
  | .stopped => "cache:stopped"
  | .changed .. => "poll:success"
  | .unchanged _ => "poll:unchanged"
  | .failed .. => "poll:error"
  | .listenerFailed .. => "listener:error"

/-- What a cache shows to whoever looks at it. -/
structure Shown where
  snapshot : Snapshot
  lifecycle : Lifecycle
  /-- Whether a first snapshot was committed, which an application may wait for. -/
  initialized : Bool

/-- What can be seen of a cache from outside. -/
inductive Occurrence
  /-- The factory of transports was called. -/
  | opening
  /-- The factory made a transport. -/
  | connected
  /-- The transport of a session was closed. -/
  | closed
  /-- A request reached the transport. -/
  | requested (r : Request)
  /-- An answer that names an index came in. -/
  | heard (a : Answer)
  /-- A snapshot took the place of the one before. -/
  | committed (s : Snapshot)
  /-- An event came about. -/
  | emitted (e : Event)
  /-- An observer was told of an event. -/
  | observed (observer : String) (e : Event)
  /-- A listener was registered, or was registered again. -/
  | added (listener : String)
  /-- A listener that was registered was removed. -/
  | removed (listener : String)
  /-- A listener was called with a snapshot. -/
  | called (listener : String) (s : Snapshot)
  /-- A listener or an observer looked at the cache, and saw this. -/
  | looked (who : String) (seen : Shown)
  /-- A call of `stop` came back. -/
  | stopReturned

end BlockingQuery
