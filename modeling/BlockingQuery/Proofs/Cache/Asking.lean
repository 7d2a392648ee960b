import BlockingQuery.Proofs.Cache.Unpolled
import BlockingQuery.Proofs.Cache.Mishap
import BlockingQuery.Proofs.Failover.Attempts
import BlockingQuery.Proofs.Http.Query

/-!
# What a cache asks

Every query of a cache names the time to wait and the index of the snapshot that the cache shows,
and beside them what the user set, once for each name (`Setup.Poses`). The fields are put together
from four sources, written into a URL, and sent along with each attempt of a failover cycle; in the
end a server reads from the URL what the cache put in (`Query.fields_encode`).

The invariant is `Asking`: sessions that are open are those of the client, a request that the
transport has is an attempt at a query with the index of the present snapshot, and so was each
request when it was sent. It carries whatever holds of the requests of a session and does not depend
on where they go (`Setup.Keeps`). So the indexes that are sent never decrease once there is a
snapshot (`asked_of_run`).
-/

namespace BlockingQuery

/-! ## The fields of a query -/

/-- What the options of a client set for a name: an extra parameter, or else the datacenter if it is
named, or how fresh an answer has to be. -/
def QueryOptions.field? (o : QueryOptions) (name : String) : Option String :=
  (o.extra.lookup? name).or <|
    if name = "dc" then o.datacenter.filter (· ≠ "")
    else if name = "stale" ∧ o.consistency = .stale then some ""
    else if name = "consistent" ∧ o.consistency = .consistent then some ""
    else none

/-- The parameters that the options stand for are what the options set. -/
@[simp] theorem QueryOptions.lookup?_params (o : QueryOptions) (name : String) :
    o.params.lookup? name = o.field? name := by
  rw [params, OrderedMap.lookup?_update, OrderedMap.lookup?_ofList, field?]
  congr 1
  obtain ⟨_ | datacenter, consistency, extra⟩ := o
  · cases consistency <;> grind [OrderedMap.last?]
  · have hempty : datacenter.isEmpty = true ↔ datacenter = "" := String.isEmpty_iff
    cases consistency <;> grind [OrderedMap.last?]

namespace Setup

/-- What the user sets for a name: a parameter of the cache, or else an option of the client. -/
def given (c : Setup) (name : String) : Option String :=
  (c.params.lookup? name).or (c.client.options.field? name)

/-- The fields of a query, each name once: the time to wait, the index if there is one, and
otherwise what the user sets. -/
structure Poses (c : Setup) (index : Option Int) (fields : List (String × String)) : Prop where
  distinct : (fields.map (·.1)).Nodup
  wait : fields.lookup "wait" = some (Wait.format c.config.waitSeconds)
  index : fields.lookup "index" =
    (index.map fun i => String.ofList (Text.decimal i)).or (c.given "index")
  others : ∀ name, name ≠ "wait" → name ≠ "index" → fields.lookup name = c.given name

/-- What the user sets, and the index if there is one. -/
def indexed (c : Setup) (index : Option Int) : Params :=
  let named := c.client.options.params.update c.params
  match index with
  | some i => named.insert "index" (String.ofList (Text.decimal i))
  | none => named

/-- The parameters of a query. -/
def parameters (c : Setup) (index : Option Int) : Params :=
  (c.indexed index).insert "wait" c.wait

/-- The index takes the place of one that the user sets. -/
theorem lookup?_indexed (c : Setup) (index : Option Int) (name : String) :
    (c.indexed index).lookup? name =
      if name = "index" then
        (index.map fun i => String.ofList (Text.decimal i)).or (c.given "index")
      else c.given name := by
  have hnamed (a : String) :
      (c.client.options.params.update c.params).lookup? a = c.given a := by
    rw [OrderedMap.lookup?_update, QueryOptions.lookup?_params, given]
  cases index with
  | none =>
    refine (hnamed name).trans ?_
    split
    next h => rw [h, Option.map_none, Option.none_or]
    next => rfl
  | some i =>
    refine (OrderedMap.lookup?_insert ..).trans ?_
    by_cases h : name = "index"
    · simp [h]
    · rw [if_neg (by simpa using Ne.symm h), if_neg h]
      exact hnamed name

/-- The parameters are what a query has to name. -/
theorem poses_parameters (c : Setup) (index : Option Int) :
    c.Poses index (c.parameters index).entries := by
  refine ⟨OrderedMap.nodup_keys _, ?_, ?_, fun name hwait hindex => ?_⟩
  · rw [OrderedMap.lookup_entries, parameters, OrderedMap.lookup?_insert_self, wait]
  · rw [OrderedMap.lookup_entries, parameters, OrderedMap.lookup?_insert, if_neg (by decide),
      lookup?_indexed, if_pos rfl]
  · rw [OrderedMap.lookup_entries, parameters, OrderedMap.lookup?_insert,
      if_neg (by simpa using hwait.symm), lookup?_indexed, if_neg hindex]

/-- What listeners and observers do makes no difference to queries. -/
theorem Varies.parameters {c d : Setup} (h : c.Varies d) (index : Option Int) :
    d.parameters index = c.parameters index := by
  unfold Setup.parameters indexed wait
  rw [h.client, h.params, h.config]

end Setup

/-- A time to wait is never written as nothing. -/
theorem Wait.format_isEmpty (seconds : Int) : (format seconds).isEmpty = false := by
  unfold format
  split <;> simp

/-- A request that is created is one for the URL. -/
theorem Request.url_of_create {method : String} {url : Url} {headers : Headers} {body : List UInt8}
    {timeouts : Option Timeouts} {r : Request}
    (h : create method url headers body timeouts = .ok r) : r.url = url := by
  unfold create at h
  simp only [bind, Except.bind, pure, Except.pure] at h
  repeat' split at h
  all_goals cases h <;> rfl

namespace Session

variable {session : Session} {c : Setup} {path : String} {params : Params} {r : Request}

/-- A session of the client puts these parameters together. -/
theorem parameters_eq (h : session.client = c.client) (index : Option Int) :
    session.parameters c.params index (some c.wait) = c.parameters index := by
  have hwait : c.wait.isEmpty = false := Wait.format_isEmpty _
  unfold parameters Setup.parameters Setup.indexed
  rw [h]
  dsimp only
  rw [hwait]
  rfl

/-- The URL of a request is that of its path, with its parameters for a query. -/
theorem url_of_request (h : session.request path params = .ok r) :
    ∃ resolved, session.resolve path = .ok resolved ∧
      resolved.withQuery
        (if params.entries.isEmpty then none else some (Query.encode params.entries)) =
          .ok r.url := by
  unfold request at h
  generalize (if params.entries.isEmpty then none else some (Query.encode params.entries)) = query
    at h ⊢
  cases hpath : session.resolve path with
  | error f => simp [hpath, Except.mapError, bind, Except.bind] at h
  | ok resolved =>
  cases hurl : resolved.withQuery query with
  | error f => simp [hpath, hurl, Except.mapError, bind, Except.bind] at h
  | ok url =>
  cases hcookies : session.checkCookies url with
  | error f => simp [hpath, hurl, hcookies, Except.mapError, bind, Except.bind] at h
  | ok =>
  cases hcreate : Request.create "GET" url session.client.headers.entries []
    (some session.client.limits.timeouts) with
  | error f => simp [hpath, hurl, hcookies, hcreate, Except.mapError, bind, Except.bind] at h
  | ok q =>
  have hq := Request.url_of_create hcreate
  simp only [hpath, hurl, hcookies, hcreate, Except.mapError, bind, Except.bind, pure,
    Except.pure] at h
  refine ⟨resolved, rfl, ?_⟩
  cases h
  split
  all_goals
    change resolved.withQuery query = .ok q.url
    rw [hq, hurl]

/-- A request for a query carries its parameters, in a URL in normal form. -/
theorem request_eq_ok (h : session.request path params = .ok r) :
    r.url.IsNormal ∧
      r.url.query =
        if params.entries.isEmpty then none else some (Query.encode params.entries) := by
  have hplain : (if params.entries.isEmpty then none else some (Query.encode params.entries)).map
      (Percent.encode Url.isQuerySafe) =
        if params.entries.isEmpty then none else some (Query.encode params.entries) := by
    split
    next => rfl
    next => rw [Option.map_some, Percent.encode_of_all (Query.all_encode _)]
  obtain ⟨resolved, -, hurl⟩ := url_of_request h
  have hparts := Url.rebuild_eq_ok hurl
  exact ⟨⟨_, hparts⟩, (Url.parts_of_ofParts hparts).2.1.trans hplain⟩

/-- An open session is one of the client, at its URL, with the standard stack, which fails over as
far as `F` allows it. -/
structure Serves (session : Session) (c : Setup) (F : Bool → Prop) : Prop where
  client : session.client = c.client
  base : ∃ u, Url.parse c.client.baseUrl.toList = .ok u ∧ withFinalSlash u = .ok session.base
  layers : ∃ failsOver, F failsOver ∧
    session.layers = (Stack.standard failsOver c.config.adjustment).layers

variable {F : Bool → Prop}

/-- A session that is opened for the client serves it. -/
theorem serves_of_ofClient {failsOver : Bool} (hF : F failsOver)
    (h : ofClient c.client failsOver c.config.adjustment = .ok session) : session.Serves c F := by
  unfold ofClient at h
  cases hurl : Url.parse c.client.baseUrl.toList with
  | error f => simp [hurl, Except.mapError, bind, Except.bind] at h
  | ok url =>
  cases hbase : withFinalSlash url with
  | error f => simp [hurl, hbase, Except.mapError, bind, Except.bind] at h
  | ok base =>
  simp only [hurl, hbase, Except.mapError, bind, Except.bind, pure, Except.pure] at h
  split at h
  next => cases h
  next =>
    cases h
    exact ⟨rfl, ⟨url, hurl, hbase⟩, failsOver, hF, rfl⟩

/-- A session still serves the client when it has taken up a response. -/
theorem Serves.receive (h : session.Serves c F) (r : Response) :
    (session.receive r).2.Serves c F := by
  unfold Session.receive
  split
  next => exact h
  next =>
    split
    next => exact h
    next =>
      dsimp only
      split <;> exact ⟨h.client, h.base, h.layers⟩

end Session

/-- The fields of a request's query, as a server reads them. -/
def Request.fields (r : Request) : List (String × String) :=
  Query.fields (r.url.query.getD [])

/-! ## The invariant -/

/-- The session that the loop has open. -/
def Loop.session? : Loop → Option Session
  | .polling o | .awaiting o _ | .sleeping _ (some o) | .notifying o _ _ => some o.session
  | .idle | .opening | .sleeping _ none | .ended => none

/-- A loop that does not wait for the transport, and whose session serves the client if it has one
open. -/
structure Loop.Rests (c : Setup) (F : Bool → Prop) (l : Loop) : Prop where
  serves : ∀ session, l.session? = some session → session.Serves c F
  rests : ∀ o x, l ≠ .awaiting o x

namespace Cache

/-- A request asks what the cache has to ask at an index. -/
def Queries (c : Setup) (index : Option Int) (r : Request) : Prop :=
  r.url.query = some (Query.encode (c.parameters index).entries)

end Cache

/-- What holds of each request that a session of the client makes for a query at an index, and does
not depend on where the request goes. -/
structure Setup.Keeps (c : Setup) (Q : Option Int → Request → Prop) : Prop where
  made : ∀ {session : Session} {F : Bool → Prop} {index : Option Int} {r : Request},
    session.Serves c F → session.request c.path (c.parameters index) = .ok r → Q index r
  moved : ∀ {index : Option Int} {r q : Request}, r.Moved q → Q index r → Q index q

namespace Cache

/-- Every request was such a request when it was sent. -/
def Asked (Q : Option Int → Request → Prop) (os : List Occurrence) : Prop :=
  Always (fun o os => ∀ r, o = .requested r → Q (latest os).index r) os

/-- Sessions that are open serve the client, a request that the transport has is an attempt at a
query with the present index, and every request asked what it had to when it was sent. -/
structure Asking (c : Setup) (Q : Option Int → Request → Prop) (F : Bool → Prop) (s : Cache) :
    Prop where
  serves : ∀ session, s.loop.session? = some session → session.Serves c F
  attempts : ∀ o x, s.loop = .awaiting o x → F x.cycle.isSome ∧
    ∃ r, Q s.snapshot.index r ∧ x.Attempting c.config.adjustment r
  asked : Asked Q s.trace

section
variable {c d : Setup} {Q : Option Int → Request → Prop} {F : Bool → Prop} {s t : Cache}
  {o : OpenSession}

/-- What is no request asks nothing. -/
theorem Asked.of_unasked (h : Asked Q s.trace) (k : Unasked s t) : Asked Q t.trace := by
  obtain ⟨os, hos, hnone⟩ := k
  rw [hos]
  refine Always.append h ?_
  rintro o os' hs r rfl
  cases hnone _ (hs.mem List.mem_cons_self)

/-- The invariant holds on while nothing is polled. -/
theorem Asking.unpolled (h : Asking c Q F s) (k : Unpolled s t) : Asking c Q F t where
  serves session hsession := by
    rcases k.loop with hloop | hended
    · exact h.serves session (hloop ▸ hsession)
    · rw [hended] at hsession
      cases hsession
  attempts o x hx := by
    rcases k.loop with hloop | hended
    · rw [k.snapshot]
      exact h.attempts o x (hloop.symm.trans hx)
    · cases hended.symm.trans hx
  asked := h.asked.of_unasked k.unasked

/-- A loop that does not wait for the transport has nothing to attempt. -/
theorem Asking.of_rests (hloop : s.loop.Rests c F) (h : Asked Q s.trace) : Asking c Q F s :=
  ⟨hloop.serves, fun o x hx => absurd hx (hloop.rests o x), h⟩

/-! ## Where the loop goes -/

/-- A loop without a session rests. -/
theorem rests_without {l : Loop}
    (h : l = .ended ∨ l = .opening ∨ ∃ delay, l = .sleeping delay none) : l.Rests c F := by
  have hsession : l.session? = none := by
    rcases h with rfl | rfl | ⟨delay, rfl⟩ <;> rfl
  refine ⟨fun session hs => ?_, fun o x hx => ?_⟩
  · cases hsession.symm.trans hs
  · rw [hx] at hsession
    cases hsession

/-- A loop that holds a session rests if the session serves the client. -/
theorem rests_with (ho : o.session.Serves c F) {l : Loop}
    (h : l = .polling o ∨ (∃ delay, l = .sleeping delay (some o)) ∨
      ∃ held delay, l = .notifying o held delay) : l.Rests c F := by
  have hsession : l.session? = some o.session := by
    rcases h with rfl | ⟨delay, rfl⟩ | ⟨held, delay, rfl⟩ <;> rfl
  refine ⟨fun session hs => ?_, fun o x hx => ?_⟩
  · cases hsession.symm.trans hs
    exact ho
  · rcases h with rfl | ⟨delay, rfl⟩ | ⟨held, delay, rfl⟩ <;> cases hx

/-- Pausing with the session keeps the invariant. -/
theorem asking_pause (ho : o.session.Serves c F) (delay : Float) (h : Asked Q s.trace) :
    Asking c Q F (pause o delay s) := by
  unfold pause
  split
  next =>
    have hclosed := h.of_unasked (.note s (o := .closed) rfl)
    exact .of_rests (rests_without (.inl rfl)) hclosed
  next =>
    refine .of_rests (rests_with ho ?_) h
    dsimp only
    split
    next => exact .inr (.inl ⟨delay, rfl⟩)
    next => exact .inl rfl

/-- Counting a failure asks nothing. -/
theorem unasked_fail (c : Setup) (b : Setback) (s : Cache) : Unasked s (fail c b s).2 := by
  have hdraw (t : Cache) : Unasked t t.draw.2 := by
    unfold draw
    split <;> exact ⟨[], rfl, by simp⟩
  have hannounce (t : Cache) : Unasked t (announce c b t).2 :=
    (hdraw t).trans (unpolled_emit c .pollLoop _ _).unasked
  unfold fail
  dsimp only
  split
  next =>
    split
    next => exact hannounce _
    next => exact hdraw _
  next => exact hannounce _

/-- Pausing after a failure keeps the invariant. -/
theorem asking_setBack (ho : o.session.Serves c F) (b : Setback) (h : Asked Q s.trace) :
    Asking c Q F (setBack d o b s) :=
  asking_pause ho _ (h.of_unasked (unasked_fail d b s))

/-- Pausing after a failure that left no session keeps the invariant. -/
theorem asking_retreat (f : Failure) (h : Asked Q s.trace) : Asking c Q F (retreat d f s) := by
  have hfailed := h.of_unasked (unasked_fail d { failure := f } s)
  refine .of_rests (rests_without ?_) hfailed
  unfold retreat
  dsimp only
  split
  next => exact .inl rfl
  next =>
    split
    next => exact .inr (.inr ⟨_, rfl⟩)
    next => exact .inr (.inl rfl)

/-- The loop, where a round leaves it. -/
theorem asking_looped (ho : o.session.Serves c F) (delay : Float) {round : Option Held × Cache}
    (h : Asked Q round.2.trace) : Asking c Q F (looped o delay round) := by
  obtain ⟨_ | held, t⟩ := round
  · exact asking_pause ho delay h
  · exact .of_rests (rests_with ho (.inr (.inr ⟨held, delay, rfl⟩))) h

/-- The worker, where a round leaves it. -/
theorem asking_worked {round : Option Held × Cache} (h : Asking c Q F round.2) :
    Asking c Q F (worked round) := by
  obtain ⟨_ | held, t⟩ := round
  · exact h
  · exact ⟨h.serves, h.attempts, h.asked⟩

/-- Having the listeners called keeps the invariant. -/
theorem asking_deliver (ho : o.session.Serves c F) (snapshot : Snapshot) (delay : Float)
    (h : Asked Q s.trace) : Asking c Q F (deliver d o snapshot delay s) := by
  have hround := h.of_unasked (unpolled_notify d .pollLoop snapshot s).unasked
  unfold deliver
  split
  next =>
    have hclosed := h.of_unasked (.note s (o := .closed) rfl)
    exact .of_rests (rests_without (.inl rfl)) hclosed
  next =>
    split
    next =>
      exact asking_pause
        (s := { s with worker := { s.worker with queue := s.worker.queue ++ [snapshot] } })
        ho delay h
    next => exact asking_looped ho delay hround

/-- Taking up an answer keeps the invariant. -/
theorem asking_accept (ho : o.session.Serves c F) (a : Answer) (h : Asked Q s.trace) :
    Asking c Q F (accept d o a s) := by
  unfold accept
  dsimp only
  split
  next =>
    have hreset : Asked Q ({ s with errorCount := 0 } : Cache).trace := h
    exact asking_pause ho _ (hreset.of_unasked (unpolled_emit d .pollLoop _ _).unasked)
  next =>
    have hcollected := h.of_unasked (unpolled_collect d a.dataset .empty s).unasked
    generalize collect d a.dataset .empty s = collected at hcollected ⊢
    obtain ⟨f | entries, t⟩ := collected
    · exact asking_setBack ho _ hcollected
    · let new : Snapshot :=
        { entries, index := a.index, knownLeader := a.knownLeader,
          lastContactMs := a.lastContactMs }
      have hcommit : Asked Q (commit new t).trace :=
        hcollected.of_unasked (Unasked.note t (o := .committed new) rfl)
      exact asking_deliver ho _ _
        (hcommit.of_unasked (unpolled_emit d .pollLoop _ _).unasked)

/-- Taking up what became of a query keeps the invariant. -/
theorem asking_conclude (hQ : c.Keeps Q) (ho : o.session.Serves c F)
    (hlatest : s.snapshot = latest s.trace) (h : Asked Q s.trace) {p : Progress}
    (hp : ∀ x, p = .sent x → F x.cycle.isSome ∧
      ∃ r, Q s.snapshot.index r ∧ x.Attempting c.config.adjustment r) :
    Asking c Q F (conclude d o s p) := by
  cases p with
  | sent x =>
    obtain ⟨hF, r, hr, hx⟩ := hp x rfl
    refine ⟨fun session hs => ?_, fun o' x' hx' => ?_, ?_, h⟩
    · cases hs
      exact ho
    · cases hx'
      exact ⟨hF, r, hr, hx⟩
    · intro q hq
      cases hq
      rw [← hlatest]
      exact hQ.moved hx.attempt.moved hr
  | failed f => exact asking_setBack ho _ h
  | answered r =>
    have hsession := ho.receive r
    unfold conclude
    dsimp only
    generalize o.session.receive r = received at hsession ⊢
    obtain ⟨f | a, session⟩ := received
    · exact asking_setBack hsession _ h
    · dsimp only
      split
      next => exact asking_setBack hsession _ h
      next =>
        exact asking_accept (o := { o with session }) hsession a
          (h.of_unasked (.note s (o := .heard a) rfl))

/-! ## What the loop does on its own -/

/-- Sending a query keeps the invariant. -/
theorem asking_query (hQ : c.Keeps Q) (hv : c.Varies d) (ho : o.session.Serves c F)
    (hlatest : s.snapshot = latest s.trace) (h : Asked Q s.trace) :
    Asking c Q F (query d o s) := by
  obtain ⟨failsOver, hF, hlayers⟩ := ho.layers
  have hparams : o.session.parameters d.params s.snapshot.index (some d.wait) =
      c.parameters s.snapshot.index := by
    rw [Session.parameters_eq (ho.client.trans hv.client.symm), hv.parameters]
  unfold query
  dsimp only
  split
  next f _ => exact asking_setBack ho _ h
  next r hr =>
    rw [hparams, hv.path] at hr
    have hsent (x : Exchange)
        (hx : (Exchange.start s.now s.policy o.session.layers r).1 = .sent x) :
        F x.cycle.isSome ∧ x.Attempting c.config.adjustment r := by
      rw [hlayers] at hx
      exact ⟨Exchange.isSome_cycle_of_start hx ▸ hF,
        Exchange.attempting_of_start (Session.request_eq_ok hr).1 hx⟩
    generalize Exchange.start s.now s.policy o.session.layers r = started at hsent ⊢
    obtain ⟨progress, policy⟩ := started
    exact asking_conclude (s := { s with policy }) hQ ho hlatest h
      fun x hx => ⟨(hsent x hx).1, r, hQ.made ho hr, (hsent x hx).2⟩

/-- Polling keeps the invariant. -/
theorem asking_poll (hQ : c.Keeps Q) (hv : c.Varies d) (ho : o.session.Serves c F)
    (hlatest : s.snapshot = latest s.trace) (h : Asked Q s.trace) : Asking c Q F (poll d o s) := by
  unfold poll
  split
  next => exact asking_query hQ hv ho hlatest h
  next p _ =>
    split
    next f q _ =>
      exact asking_retreat _ (Asked.of_unasked (s := s) h ⟨[.closed], rfl, by simp; rfl⟩)
    next q _ => exact asking_setBack (s := { s with policy := some q }) ho _ h
    next q _ => exact asking_query (s := { s with policy := some q }) hQ hv ho hlatest h

/-- Opening a session keeps the invariant. -/
theorem asking_openSession (hv : c.Varies d) (hF : F s.policy.isSome) (h : Asked Q s.trace) :
    Asking c Q F (openSession d s) := by
  have hopening := h.of_unasked (.note s (o := .opening) rfl)
  have hconnected := hopening.of_unasked (.note _ (o := .connected) rfl)
  unfold openSession
  dsimp only
  split
  next f _ =>
    exact asking_retreat (s := { s.note .opening with sessions := s.sessions + 1 }) f hopening
  next =>
    split
    next f _ =>
      exact asking_retreat
        (s := ({ s.note .opening with sessions := s.sessions + 1 } : Cache).note .connected) f
        hconnected
    next session hsession =>
      rw [hv.client, hv.config] at hsession
      exact .of_rests (rests_with (o := { session, number := s.sessions })
        (Session.serves_of_ofClient hF hsession) (.inl rfl)) hconnected

/-- What the loop does where it need not wait. -/
theorem asking_turn (hQ : c.Keeps Q) (hv : c.Varies d) (hF : F s.policy.isSome)
    (hlatest : s.snapshot = latest s.trace) (h : Asking c Q F s) : Asking c Q F (turn d s) := by
  unfold turn
  split
  next =>
    split
    next => exact .of_rests (rests_without (.inl rfl)) h.asked
    next => exact asking_openSession hv hF h.asked
  next o hloop =>
    have ho : o.session.Serves c F := h.serves o.session (by rw [hloop]; rfl)
    split
    next =>
      have hclosed := h.asked.of_unasked (.note s (o := .closed) rfl)
      exact .of_rests (rests_without (.inl rfl)) hclosed
    next => exact asking_poll hQ hv ho hlatest h.asked
  next => exact h

/-! ## Steps -/

/-- Every step keeps the invariant. -/
theorem asking_step {heard : Option Answer} (hQ : c.Keeps Q) (hv : c.Varies d)
    (hF : F s.policy.isSome) (hlatest : s.snapshot = latest s.trace) (h : Asking c Q F s)
    (hstep : Step d s heard t) : Asking c Q F t := by
  cases hstep with
  | start _ =>
    have hopening : Asking c Q F { s with lifecycle := .starting, loop := .opening } :=
      .of_rests (rests_without (.inr (.inl rfl))) h.asked
    exact hopening.unpolled (unpolled_emit d .outside .started _)
  | stop => exact h.unpolled (unpolled_stop d .outside s)
  | turn => exact asking_turn hQ hv hF hlatest h
  | @receive _ o x outcome hloop =>
    obtain ⟨hF, r, hr, hx⟩ := h.attempts o x hloop
    have ho : o.session.Serves c F := h.serves o.session (by rw [hloop]; rfl)
    -- A snapshot is committed when the cycle is over, so further attempts ask at the present index.
    exact asking_conclude (s := { s with policy := (x.receive s.now s.policy outcome).2 }) hQ ho
      hlatest h.asked fun y hy =>
        ⟨Exchange.isSome_cycle_of_receive hy ▸ hF, r, hr, hx.of_receive hy⟩
  | @wake _ delay o hloop =>
    refine .of_rests ?_ h.asked
    cases o with
    | none => exact rests_without (.inr (.inl rfl))
    | some o => exact rests_with (h.serves o.session (by rw [hloop]; rfl)) (.inl rfl)
  | @goOn _ o held delay hloop =>
    have ho : o.session.Serves c F := h.serves o.session (by rw [hloop]; rfl)
    exact asking_looped ho delay (h.asked.of_unasked (unpolled_release d .pollLoop held s).unasked)
  | @goOnWorking _ held _ =>
    have hfree : Asking c Q F { s with worker := { s.worker with held := none } } :=
      ⟨h.serves, h.attempts, h.asked⟩
    exact asking_worked (hfree.unpolled (unpolled_release d .worker held _))
  | @workOn _ snapshot queue _ =>
    have hfree : Asking c Q F { s with worker := { held := none, queue } } :=
      ⟨h.serves, h.attempts, h.asked⟩
    exact asking_worked (hfree.unpolled (unpolled_notify d .worker snapshot _))
  | addListener l => exact h.unpolled ((tolerant_unpolled d .outside).add l s)
  | removeListener l => exact h.unpolled ((tolerant_unpolled d .outside).remove l s)
  | observers | surround => exact ⟨h.serves, h.attempts, h.asked⟩

/-! ## Runs -/

/-- The invariant holds after every run. -/
theorem asking_of_keeps {as : List Answer} (hQ : c.Keeps Q) (h : Run c as s) :
    Asking c Q (fun _ => True) s := by
  obtain ⟨left, h⟩ := h
  refine (h.keep (P := fun as s => Run c as s ∧ Asking c Q (fun _ => True) s) (l := []) ?_
    ⟨⟨left, .refl⟩, ?_⟩).2
  · intro d as s heard t hv hs hstep
    refine ⟨?_, asking_step hQ hv trivial (hasHistory_of_run hs.1).snapshot hs.2 hstep⟩
    obtain ⟨left, hsteps⟩ := hs.1
    exact ⟨left, .tail hsteps hv hstep⟩
  · refine .of_rests ⟨fun session hs => ?_, fun o x hx => ?_⟩ trivial
    · cases hs
    · cases hx

/-- A session of the client asks what the cache has to ask, and so does each attempt. -/
theorem keeps_queries (c : Setup) : c.Keeps (Queries c) where
  made {session F index r} _ hr := by
    rw [Queries, (Session.request_eq_ok hr).2, if_neg]
    intro hnone
    have hwait := (c.poses_parameters index).wait
    rw [List.isEmpty_iff.1 hnone] at hwait
    cases hwait
  moved hmoved hr := hmoved.url.query.trans hr

/-- In every run the cache asks what it has to ask. -/
theorem asking_of_run {as : List Answer} (h : Run c as s) :
    Asking c (Queries c) (fun _ => True) s :=
  asking_of_keeps (keeps_queries c) h

/-- A query asks at the index of a snapshot. -/
theorem Queries.poses {index : Option Int} {r : Request} (h : Queries c index r) :
    c.Poses index r.fields := by
  have hfields : r.fields = (c.parameters index).entries := by
    rw [Request.fields, h, Option.getD_some, Query.fields_encode]
  rw [hfields]
  exact c.poses_parameters index

/-- The snapshot that was latest has an index when there was one. -/
theorem index_latest {as : List Answer} (h : Run c as s) {os : List Occurrence}
    (hos : os <:+ s.trace) : (latest os).index = none ↔ commits os = [] := by
  cases hnone : commits os with
  | nil => simp [latest, hnone, Snapshot.empty]
  | cons new news =>
    have hmem : latest os ∈ commits os := by
      rw [latest, hnone, List.getLastD_cons]
      exact List.getLastD_mem_cons ..
    have havailable : (latest os).available = true := by
      refine ((c.adoptions_increase .empty as).2 _ ?_).1
      rw [← (hasHistory_of_run h).commits]
      exact (isPrefix_commits hos).subset hmem
    rw [← hnone]
    unfold Snapshot.available at havailable
    simp [hnone, Option.isSome_iff_ne_none.1 havailable]

/-- The latest snapshot stays, or another one with a greater index takes its place. -/
theorem latest_increases {as : List Answer} (h : Run c as s) {os : List Occurrence}
    (new : List Occurrence) (hos : new ++ os <:+ s.trace) (hsome : commits os ≠ []) :
    latest (new ++ os) = latest os ∨ (latest os).Precedes (latest (new ++ os)) := by
  obtain ⟨news, hnews⟩ : commits os <+: commits (new ++ os) :=
    isPrefix_commits (List.suffix_append ..)
  have hlast : latest os ∈ commits os := by
    rw [latest, List.getLastD_eq_getLast?, List.getLast?_eq_some_getLast hsome]
    exact List.getLast_mem hsome
  have hpairs : (commits os ++ news).Pairwise Snapshot.Precedes := by
    rw [hnews]
    exact (commits_increase h).sublist (isPrefix_commits hos).sublist
  cases hnone : news using List.reverseRecOn with
  | nil =>
    left
    rw [latest, ← hnews, hnone, List.append_nil, latest]
  | append_singleton news last =>
    right
    have heq : latest (new ++ os) = last := by
      rw [latest, ← hnews, hnone, ← List.append_assoc, List.getLastD_concat]
    rw [heq]
    exact (List.pairwise_append.1 hpairs).2.2 _ hlast _ (by simp [hnone])

/-- In every run, a request that is sent names the time to wait, the index of the snapshot that was
committed last, and otherwise what the user sets; before the first commit an index is only one that
the user sets. A further attempt of the same cycle has the same query. So the indexes that are sent
never decrease once a snapshot was committed. -/
theorem asked_of_run {as : List Answer} (h : Run c as s) :
    Always (fun o os => ∀ r, o = .requested r →
      c.Poses (latest os).index r.fields ∧ ((latest os).index = none ↔ commits os = [])) s.trace ∧
    (∀ o x, s.loop = .awaiting o x → c.Poses s.snapshot.index x.request.fields ∧
      ∀ (now : Float) policy outcome y, (x.receive now policy outcome).1 = .sent y →
        y.request.url.query = x.request.url.query) ∧
    ∀ later between earlier r r',
      s.trace = later ++ .requested r' :: (between ++ .requested r :: earlier) →
      commits earlier ≠ [] → ∃ i j, i ≤ j ∧
        r.fields.lookup "index" = some (String.ofList (Text.decimal i)) ∧
        r'.fields.lookup "index" = some (String.ofList (Text.decimal j)) := by
  have hasking := asking_of_run h
  refine ⟨?_, fun o x hloop => ?_, fun later between earlier r r' htrace hsome => ?_⟩
  · refine hasking.asked.imp fun o os hos hasked r ho => ?_
    exact ⟨(hasked r ho).poses, index_latest h ((List.suffix_cons o os).trans hos)⟩
  · obtain ⟨-, r, hr, hx⟩ := hasking.attempts o x hloop
    have hquery := hx.attempt.moved.url.query
    refine ⟨Queries.poses (hquery.trans hr), fun now policy outcome y hy => ?_⟩
    exact (hx.of_receive hy).attempt.moved.url.query.trans hquery.symm
  · have hasked := hasking.asked
    have hos : between ++ .requested r :: earlier <:+ s.trace :=
      ⟨later ++ [.requested r'], by rw [htrace]; simp⟩
    have hearlier : .requested r :: earlier <:+ s.trace := (List.suffix_append ..).trans hos
    have hr : c.Poses (latest earlier).index r.fields := (hasked.of_suffix hearlier r rfl).poses
    have hr' : c.Poses (latest (between ++ .requested r :: earlier)).index r'.fields := by
      refine (hasked.of_suffix ?_ r' rfl).poses
      exact ⟨later, htrace.symm⟩
    have hnone : commits (.requested r :: earlier) = commits earlier := commits_cons rfl
    have hlatest : latest (.requested r :: earlier) = latest earlier := by
      rw [latest, hnone, latest]
    cases hi : (latest earlier).index with
    | none => exact absurd ((index_latest h ((List.suffix_cons ..).trans hearlier)).1 hi) hsome
    | some i =>
      rcases latest_increases h between hos (hnone ▸ hsome) with heq | ⟨i', j, hi', hj, hlt⟩
      · rw [heq, hlatest, hi] at hr'
        rw [hi] at hr
        exact ⟨i, i, le_refl i, hr.index, hr'.index⟩
      · rw [hlatest, hi] at hi'
        obtain rfl := Option.some.inj hi'
        rw [hi] at hr
        rw [hj] at hr'
        exact ⟨i, j, hlt.le, hr.index, hr'.index⟩

end

end Cache

/-- A sample whose parameters and options conflict with each other and with what a query names. -/
def Setup.sampleConflicting : Setup :=
  { Setup.sample with
    params := .ofList [("index", "5"), ("wait", "1s"), ("dc", "west")]
    client := { Setup.sample.client with
      options := {
        datacenter := some "east"
        consistency := .stale
        extra := .ofList [("index", "3"), ("wait", "2s"), ("token", "t")] } } }

namespace Cache

/-- The conflicting sample after it heard that the index is 9. -/
def sampleConflicting : Cache :=
  after .sampleConflicting [.start, .respond none (.sample "9")]
    (create { now := 0, draws := [], policy := none })

/-- The first query of the sample asks at the index that the parameters set, and the one after the
answer with the index 9 asks at that one. Both name the time to wait that the cache is configured
with, the datacenter that the parameters set, and what only the options set. -/
theorem asked_of_run_sample : ∃ as, Run .sampleConflicting as sampleConflicting ∧
    (∃ os r, .requested r :: os <:+ sampleConflicting.trace ∧ commits os = [] ∧
      r.fields.lookup "index" = some "5" ∧ r.fields.lookup "wait" = some "10s" ∧
      r.fields.lookup "dc" = some "west") ∧
    ∃ o x, sampleConflicting.loop = .awaiting o x ∧
      x.request.fields.lookup "index" = some "9" ∧ x.request.fields.lookup "wait" = some "10s" ∧
      x.request.fields.lookup "dc" = some "west" ∧ x.request.fields.lookup "stale" = some "" ∧
      x.request.fields.lookup "token" = some "t" := by
  obtain ⟨as, h⟩ : ∃ as, Run .sampleConflicting as sampleConflicting := run_after ..
  obtain ⟨hasked, hwaiting, -⟩ := asked_of_run h
  obtain ⟨⟨o, x⟩, hwaits⟩ : ∃ e, sampleConflicting.loop.awaited? = some e :=
    Option.isSome_iff_exists.1 (by decide +kernel)
  have hloop := Loop.eq_of_awaited? hwaits
  have hindex : sampleConflicting.snapshot.index = some 9 := by decide +kernel
  have hposes := (hwaiting o x hloop).1
  rw [hindex] at hposes
  -- The first request precedes every commit.
  obtain ⟨os, r, hfirst, hnone⟩ : ∃ os r, .requested r :: os <:+ sampleConflicting.trace ∧
      commits os = [] := by
    obtain ⟨r, hr⟩ : ∃ r, sampleConflicting.trace[4]?.bind Occurrence.request? = some r :=
      Option.isSome_iff_exists.1 (by decide +kernel)
    obtain ⟨o, ho, hrequested⟩ := Option.bind_eq_some_iff.1 hr
    obtain rfl := Occurrence.eq_of_request? hrequested
    obtain ⟨hlength, ho⟩ := List.getElem?_eq_some_iff.1 ho
    refine ⟨sampleConflicting.trace.drop 5, r, ?_, List.isEmpty_iff.1 (by decide +kernel)⟩
    rw [← ho, ← List.drop_eq_getElem_cons]
    exact List.drop_suffix 4 _
  obtain ⟨hfirstPoses, hfresh⟩ := hasked.of_suffix hfirst r rfl
  refine ⟨as, h, ⟨os, r, hfirst, hnone, ?_, ?_, ?_⟩, o, x, hloop, ?_, ?_, ?_, ?_, ?_⟩
  · have hindex := hfirstPoses.index
    rw [hfresh.2 hnone] at hindex
    exact hindex.trans (by decide +kernel)
  · exact hfirstPoses.wait.trans (by decide +kernel)
  · exact (hfirstPoses.others "dc" (by decide) (by decide)).trans (by decide +kernel)
  · exact hposes.index.trans (by decide +kernel)
  · exact hposes.wait.trans (by decide +kernel)
  · exact (hposes.others "dc" (by decide) (by decide)).trans (by decide +kernel)
  · exact (hposes.others "stale" (by decide) (by decide)).trans (by decide +kernel)
  · exact (hposes.others "token" (by decide) (by decide)).trans (by decide +kernel)

end Cache

end BlockingQuery
