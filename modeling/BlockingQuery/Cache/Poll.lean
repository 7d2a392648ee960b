import BlockingQuery.Cache.Notification

/-!
# The poll loop

The loop opens a session, and through it sends one query after the other. `Cache.turn` is what it does
between two places where it waits: opening a session or sending a query. `Cache.conclude` takes up what became
of a query: `Cache.accept` an answer, `Cache.fail` a failure. After each the loop makes a pause, which is
nothing at all if its delay is not positive, and goes on; once the cache is stopped it closes its session and
ends.
-/

namespace BlockingQuery

/-- A failure of the poll loop, the target that it is blamed on, and whether there was no target to ask. -/
structure Setback where
  failure : Failure
  blamed : Option Target := none
  fatal : Bool := false

/-- A query that failed. -/
def Setback.ofQuery (f : Failure) : Setback :=
  { failure := f, blamed := f.blamed, fatal := f.isFatal }

namespace Cache

/-! ## Failures -/

/-- The delay for the failures so far, which takes a draw of chance. -/
def backoff (c : Setup) (s : Cache) : Float × Cache :=
  let (x, s) := s.draw
  (c.config.backoff s.errorCount x, s)

/-- Tells the observers of a failure that is counted, and of the delay that follows. -/
def announce (c : Setup) (b : Setback) (s : Cache) : Float × Cache :=
  let (delay, s) := backoff c s
  (delay, emit c .pollLoop (.failed b.failure s.errorCount delay b.fatal) s)

/-- Counts a failure and blames its target. The result is the delay that follows. If the policy fails to
note the blame, the failure counts once more and nobody is told. -/
def fail (c : Setup) (b : Setback) (s : Cache) : Float × Cache :=
  let s := { s with errorCount := s.errorCount + 1 }
  match b.blamed, s.policy with
  | some t, some p =>
    match p.mark s.now t with
    | (.ok (), p) => announce c b { s with policy := some p }
    | (.error _, p) => backoff c { s with policy := some p, errorCount := s.errorCount + 1 }
  | _, _ => announce c b s

/-! ## Where the loop goes on -/

/-- Closes the session of a cache that is stopped, which ends the loop. -/
def leave (s : Cache) : Cache :=
  { s.note .closed with loop := .ended }

/-- Goes on after a poll, with a pause. -/
def pause (o : OpenSession) (delay : Float) (s : Cache) : Cache :=
  if s.isStopped then leave s
  else { s with loop := if 0 < delay then .sleeping delay (some o) else .polling o }

/-- Goes on after a failure that left no session open. -/
def retreat (c : Setup) (f : Failure) (s : Cache) : Cache :=
  let (delay, s) := fail c { failure := f } s
  { s with loop :=
      if s.isStopped then .ended else if 0 < delay then .sleeping delay none else .opening }

/-- Goes on after a poll that failed. -/
def setBack (c : Setup) (o : OpenSession) (b : Setback) (s : Cache) : Cache :=
  let (delay, s) := fail c b s
  pause o delay s

/-! ## Answers -/

/-- The pause after an answer. -/
def pauseAfter (config : Config Float) (a : Answer) : Float :=
  if a.dataset.isEmpty then Seconds.greater config.minDelay config.minDelayOnEmpty else config.minDelay

/-- The entities by their keys, the last one of each key. Taking a key may stop the cache. -/
def collect (c : Setup) : List Json → Entries → Cache → Except Failure Entries × Cache
  | [], es, s => (.ok es, s)
  | v :: vs, es, s =>
    let x := c.extract v
    let s := if x.stops then (stop c .pollLoop s).2 else s
    match x.key with
    | .error f => (.error f, s)
    | .ok k =>
      match Key.ofJson? k with
      | none => (.error .unhashableKey, s)
      | some k => collect c vs (es.insert k v) s

/-- Puts a snapshot in the place of the one before. -/
def commit (snapshot : Snapshot) (s : Cache) : Cache :=
  { s.note (.committed snapshot) with
    snapshot
    lifecycle := if s.lifecycle = .starting then .running else s.lifecycle
    errorCount := 0
    initialized := true }

/-- Has the listeners called with a snapshot: by the worker, or here and now. -/
def deliver (c : Setup) (o : OpenSession) (snapshot : Snapshot) (delay : Float) (s : Cache) : Cache :=
  if s.isStopped then leave s
  else if c.config.dispatchInBackground then
    pause o delay { s with worker := { s.worker with queue := s.worker.queue ++ [snapshot] } }
  else match notify c .pollLoop snapshot s with
    | (some h, s) => { s with loop := .notifying o h delay }
    | (none, s) => pause o delay s

/-- Takes up an answer: one with an index above that of the snapshot makes a new snapshot. -/
def accept (c : Setup) (o : OpenSession) (a : Answer) (s : Cache) : Cache :=
  let delay := pauseAfter c.config a
  if s.snapshot.available && !indexIncreased s.snapshot.index a.index then
    pause o delay (emit c .pollLoop (.unchanged a.index) { s with errorCount := 0 })
  else match collect c a.dataset .empty s with
    | (.error f, s) => setBack c o { failure := f } s
    | (.ok entries, s) =>
      let snapshot : Snapshot :=
        { entries, index := a.index, knownLeader := a.knownLeader, lastContactMs := a.lastContactMs }
      deliver c o snapshot delay
        (emit c .pollLoop (.changed a.index entries.size a.target) (commit snapshot s))

/-! ## Queries -/

/-- Takes up what became of a query. -/
def conclude (c : Setup) (o : OpenSession) (s : Cache) : Progress → Cache
  | .sent x => { s.note (.requested x.request) with loop := .awaiting o x }
  | .failed f => setBack c o (.ofQuery f) s
  | .answered r =>
    let (answer, session) := o.session.receive r
    let o := { o with session }
    match answer with
    | .error f => setBack c o (.ofQuery f) s
    | .ok a =>
      if a.index.isNone then setBack c o (.ofQuery (.missingIndex c.path a.target)) s
      else accept c o a (s.note (.heard a))

/-- Sends a query that names the index of the snapshot. -/
def query (c : Setup) (o : OpenSession) (s : Cache) : Cache :=
  let params := o.session.parameters c.params s.snapshot.index (some c.wait)
  match o.session.request c.path params with
  | .error f => setBack c o (.ofQuery f) s
  | .ok r =>
    let (progress, policy) := Exchange.start s.now s.policy o.session.layers r
    conclude c o { s with policy } progress

/-- Closes a session after a failure that is no failure of a query. If closing it fails as well, that is the
failure. -/
def breakOff (c : Setup) (o : OpenSession) (f : Failure) (s : Cache) : Cache :=
  retreat c ((c.closeFault o.number).getD f) (s.note .closed)

/-- Sends a query, if there is a target to ask. -/
def poll (c : Setup) (o : OpenSession) (s : Cache) : Cache :=
  match s.policy with
  | none => query c o s
  | some p =>
    match p.isViable s.now with
    | (.error f, p) => breakOff c o f { s with policy := some p }
    | (.ok false, p) =>
      setBack c o (.ofQuery (.noViableTarget p.shownTargets)) { s with policy := some p }
    | (.ok true, p) => query c o { s with policy := some p }

/-- Opens a session. -/
def openSession (c : Setup) (s : Cache) : Cache :=
  let number := s.sessions
  let s := { s.note .opening with sessions := number + 1 }
  match c.openFault number with
  | some f => retreat c f s
  | none =>
    let s := s.note .connected
    match Session.ofClient c.client s.policy.isSome c.config.adjustment with
    | .error f => retreat c f s
    | .ok session => { s with loop := .polling { session, number } }

/-! ## Running -/

/-- What the loop does where it need not wait. -/
def turn (c : Setup) (s : Cache) : Cache :=
  match s.loop with
  | .opening => if s.isStopped then { s with loop := .ended } else openSession c s
  | .polling o => if s.isStopped then leave s else poll c o s
  | _ => s

/-- Whether the loop need not wait. -/
def isReady : Loop → Bool
  | .opening | .polling _ => true
  | _ => false

/-- At most so many turns of the loop, until it waits. -/
def settle (c : Setup) : (fuel : Nat) → Cache → Cache
  | 0, s => s
  | n + 1, s => if isReady s.loop then settle c n (turn c s) else s

/-- The turns after which a loop that never waits is no longer followed. -/
def patience : Nat := 4096

/-- Runs the loop until it waits, and then the worker until it waits. -/
def run (c : Setup) (s : Cache) : Cache :=
  runWorker c (settle c patience s)

end Cache

end BlockingQuery
