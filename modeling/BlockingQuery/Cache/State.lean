import BlockingQuery.Cache.Backoff
import BlockingQuery.Cache.Event
import BlockingQuery.Cache.Registry
import BlockingQuery.Session

/-!
# The state of a cache

A `Setup` is what a cache is built from and never changes, the code of the application included: how keys
are taken from entities, and what listeners and observers do when they are called. A `Cache` is its state. The
poll loop is always somewhere: `Loop` says where, and what it will go on with.
-/

namespace BlockingQuery

/-- What a listener of the application does in a call. -/
inductive Act
  | fail (f : Failure)
  | stop
  | add (listener : String)
  | remove (listener : String)
  /-- Looks at what the cache shows. -/
  | look
  /-- Waits until it is released. -/
  | block

/-- What an observer of the application does when it is told of an event. -/
inductive Reaction
  | fail
  | stop
  | add (listener : String)
  | remove (listener : String)
  /-- Removes itself. -/
  | leave
  /-- Looks at what the cache shows. -/
  | look

/-- How the key of an entity is taken: whether the cache is stopped on the way, and the key. -/
structure Extraction where
  stops : Bool
  key : Except Failure Json

/-- What a cache is built from. -/
structure Setup where
  name : String
  path : String
  config : Config Float
  params : Params
  client : Client
  extract : Json → Extraction
  /-- What a listener does when it is called with a snapshot. -/
  listener : String → Snapshot → List Act
  /-- What an observer does when it is told of an event. -/
  observer : String → Event → List Reaction
  /-- The failure of the factory of transports when it is called for the session of a number. -/
  openFault : Nat → Option Failure
  /-- The failure of closing the session of a number. -/
  closeFault : Nat → Option Failure

/-- The time to wait that is sent with every query. -/
def Setup.wait (c : Setup) : String :=
  Wait.format c.config.waitSeconds

/-- What several caches have in common: the clock, the draws of chance to come, and the failover policy. -/
structure Surroundings where
  now : Float
  draws : List Float
  policy : Option (Policy Float)

/-- A listener that is held up in a call, and the round that it is called in. -/
structure Held where
  listener : String
  snapshot : Snapshot
  /-- What the listener has still to do. -/
  acts : List Act
  round : Registry.Round String

/-- A session that is open. -/
structure OpenSession where
  session : Session
  number : Nat

/-- Where the poll loop is. -/
inductive Loop
  /-- It never ran. -/
  | idle
  /-- About to open a session. -/
  | opening
  /-- About to send a query. -/
  | polling (o : OpenSession)
  /-- Waiting for the transport. -/
  | awaiting (o : OpenSession) (x : Exchange)
  /-- Waiting for a delay to pass, with a session open or none. -/
  | sleeping (delay : Float) (o : Option OpenSession)
  /-- Waiting for a listener, with a delay to follow. -/
  | notifying (o : OpenSession) (h : Held) (delay : Float)
  | ended

/-- The worker that calls listeners in the background: the listener that holds it up, and the snapshots whose
rounds are still to come. -/
structure Worker where
  held : Option Held := none
  queue : List Snapshot := []

/-- A cache and its surroundings. -/
structure Cache extends Surroundings where
  lifecycle : Lifecycle := .notStarted
  snapshot : Snapshot := .empty
  initialized : Bool := false
  errorCount : Nat := 0
  registry : Registry String := {}
  /-- The observers, an observer once for each time that it was added. -/
  observers : List String := []
  loop : Loop := .idle
  worker : Worker := {}
  /-- How many times the factory of transports was called. -/
  sessions : Nat := 0
  /-- What has happened, the latest first. -/
  trace : List Occurrence := []

namespace Cache

/-- Whether the cache was stopped. -/
def isStopped (s : Cache) : Bool :=
  s.lifecycle = .stopped

/-- What the cache shows now. -/
def shown (s : Cache) : Shown where
  snapshot := s.snapshot
  lifecycle := s.lifecycle
  initialized := s.initialized

/-- Notes that something happened. -/
def note (s : Cache) (o : Occurrence) : Cache :=
  { s with trace := o :: s.trace }

/-- Registers a listener. -/
def addListener (l : String) (s : Cache) : Cache :=
  { s.note (.added l) with registry := s.registry.add l }

/-- Removes a listener, and tells whether it was registered. -/
def removeListener (l : String) (s : Cache) : Bool × Cache :=
  match s.registry.remove l with
  | (true, registry) => (true, { s.note (.removed l) with registry })
  | (false, _) => (false, s)

/-- A draw of chance; when there are none left, a half. -/
def draw (s : Cache) : Float × Cache :=
  match s.draws with
  | [] => (0.5, s)
  | x :: xs => (x, { s with draws := xs })

end Cache

end BlockingQuery
