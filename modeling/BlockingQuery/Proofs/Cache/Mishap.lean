import BlockingQuery.Proofs.Cache.Delivery
import BlockingQuery.Proofs.Cache.Tally
import BlockingQuery.Proofs.Failover.Blame

/-!
# Polls that fail

A poll may fail in ten ways (`Mishap`): before it is sent, on its way to a target, and when its
answer is read, up to the last entity whose key is taken. Whatever goes wrong, the cache shows what
it showed before, is as far in its life, keeps its listeners and calls none of them
(`undisturbed_of_run`), as long as the code of the application leaves the cache alone
(`Setup.Reserved`). The ten ways are all there are: in a step a poll fails in one of them, or one
succeeds (`Success`), or no failure is counted and none is reported (`step_cases`).

What a poll does before it fails is a `BeforeFailure`. It says what a mishap has to do with the
failure that is counted at its end (`beforeFailure_of_mishap`), so that what holds of a failure
holds of each of the ten.
-/

namespace BlockingQuery

/-- A listener is called. -/
def Occurrence.IsCall : Occurrence → Prop
  | .called .. => True
  | _ => False

/-! ## Code that leaves the cache alone -/

/-- A reaction that asks nothing of the cache. An observer may still look at it, and give up its own
place. -/
def Reaction.IsReserved : Reaction → Prop
  | .fail | .leave | .look => True
  | .stop | .add _ | .remove _ => False

/-- Observers, and what takes the keys, do not call the cache. -/
structure Setup.Reserved (c : Setup) : Prop where
  observer : ∀ o e, ∀ r ∈ c.observer o e, r.IsReserved
  extract : ∀ v, (c.extract v).stops = false

namespace Cache

/-- `t` comes after `s`, with the same snapshot, life and listeners, and with no more rounds to
come, and no listener was called in between. -/
structure Undisturbed (s t : Cache) : Prop where
  snapshot : t.snapshot = s.snapshot
  lifecycle : t.lifecycle = s.lifecycle
  initialized : t.initialized = s.initialized
  registry : t.registry = s.registry
  worker : t.worker = s.worker
  uncalled : ∃ os, t.trace = os ++ s.trace ∧ ∀ o ∈ os, ¬o.IsCall

/-- An undisturbed cache in which another failure was counted. -/
structure Fails (s t : Cache) : Prop extends Undisturbed s t where
  counted : s.errorCount < t.errorCount

section
variable {c : Setup} {s t u : Cache}

namespace Undisturbed

/-- A cache is not disturbed by nothing. -/
protected theorem refl (s : Cache) : Undisturbed s s :=
  ⟨rfl, rfl, rfl, rfl, rfl, [], rfl, by simp⟩

/-- What does not disturb may be followed by what does not disturb. -/
protected theorem trans (h : Undisturbed s t) (k : Undisturbed t u) : Undisturbed s u where
  snapshot := k.snapshot.trans h.snapshot
  lifecycle := k.lifecycle.trans h.lifecycle
  initialized := k.initialized.trans h.initialized
  registry := k.registry.trans h.registry
  worker := k.worker.trans h.worker
  uncalled := by
    obtain ⟨os, hos, hnone⟩ := h.uncalled
    obtain ⟨ps, hps, knone⟩ := k.uncalled
    refine ⟨ps ++ os, by rw [hps, hos, List.append_assoc], fun o ho => ?_⟩
    exact (List.mem_append.1 ho).elim (knone o) (hnone o)

/-- Noting something that is no call of a listener does not disturb. -/
theorem note (s : Cache) (o : Occurrence) (ho : ¬o.IsCall) : Undisturbed s (s.note o) :=
  ⟨rfl, rfl, rfl, rfl, rfl, [o], rfl, by simpa using ho⟩

/-- What is the loop's own, and who observes. -/
theorem turned (s : Cache) (left : Surroundings) (errors sessions : Nat) (loop : Loop)
    (observers : List String) :
    Undisturbed s
      { s with toSurroundings := left, errorCount := errors, sessions, loop, observers } :=
  ⟨rfl, rfl, rfl, rfl, rfl, [], rfl, by simp⟩

/-- A failure after something that does not disturb. -/
theorem fails (h : Undisturbed s t) (hcount : t.errorCount = s.errorCount) (k : Fails t u) :
    Fails s u :=
  ⟨h.trans k.toUndisturbed, hcount ▸ k.counted⟩

end Undisturbed

/-- A failure that is followed by what does not disturb, and counts nothing, is still counted once.
-/
theorem Fails.trans (h : Fails s t) (k : Undisturbed t u) (hcount : u.errorCount = t.errorCount) :
    Fails s u :=
  ⟨h.toUndisturbed.trans k, hcount ▸ h.counted⟩

/-! ## Failures -/

/-- Observers that leave the cache alone do not disturb it. -/
theorem undisturbed_emit (hc : c.Reserved) (place : Place) (e : Event) (s : Cache) :
    Undisturbed s (emit c place e s) := by
  have reacts (o : String) (rs : List Reaction) (hrs : ∀ r ∈ rs, r.IsReserved) :
      ∀ t, Undisturbed t (react (stop c place) o rs t) := by
    induction rs with
    | nil => exact .refl
    | cons r rs ih =>
      intro t
      cases r with
      | fail => exact .refl t
      | stop | add | remove => exact (hrs _ List.mem_cons_self).elim
      | look =>
        exact (Undisturbed.note t (.looked o t.shown) id).trans
          (ih (fun r hr => hrs r (List.mem_cons_of_mem _ hr)) _)
      | leave =>
        exact (Undisturbed.turned t t.toSurroundings t.errorCount t.sessions t.loop _).trans
          (ih (fun r hr => hrs r (List.mem_cons_of_mem _ hr)) _)
  have told (os : List String) : ∀ t, Undisturbed t (os.foldl (fun t o =>
      react (stop c place) o (c.observer o e) (t.note (.observed o e))) t) := by
    induction os with
    | nil => exact .refl
    | cons o os ih =>
      intro t
      have hnoted := Undisturbed.note t (.observed o e) id
      exact (hnoted.trans (reacts o _ (hc.observer o e) _)).trans (ih _)
  exact (Undisturbed.note s (.emitted e) id).trans (told s.observers _)

/-- Drawing a random number does not disturb. -/
theorem undisturbed_draw (s : Cache) :
    Undisturbed s s.draw.2 ∧ s.draw.2.errorCount = s.errorCount := by
  unfold draw
  split
  next => exact ⟨.refl s, rfl⟩
  next => exact ⟨.turned s _ s.errorCount s.sessions s.loop s.observers, rfl⟩

/-- Telling the observers of a failure disturbs nothing, if the application leaves the cache alone.
-/
theorem undisturbed_announce (hc : c.Reserved) (b : Setback) (s : Cache) :
    Undisturbed s (announce c b s).2 ∧ (announce c b s).2.errorCount = s.errorCount := by
  obtain ⟨hdraw, hcount⟩ := undisturbed_draw s
  exact ⟨hdraw.trans (undisturbed_emit hc .pollLoop _ _),
    (reacts_emit c .pollLoop _ s.draw.2).errorCount.trans hcount⟩

/-- A failure is counted, and disturbs nothing. If blaming its target fails as well, that is counted
too. -/
theorem fails_fail (hc : c.Reserved) (b : Setback) (s : Cache) : Fails s (fail c b s).2 := by
  have counted (left : Surroundings) (errors : Nat) (h : s.errorCount < errors) :
      Fails s { s with toSurroundings := left, errorCount := errors } :=
    ⟨.turned s left errors s.sessions s.loop s.observers, h⟩
  have announced (t : Cache) (h : Fails s t) : Fails s (announce c b t).2 :=
    h.trans (undisturbed_announce hc b t).1 (undisturbed_announce hc b t).2
  unfold fail
  dsimp only
  split
  next =>
    split
    next => exact announced _ (counted _ _ (by omega))
    next =>
      exact (counted _ _ (by omega)).trans (undisturbed_draw _).1 (undisturbed_draw _).2
  next => exact announced _ (counted s.toSurroundings _ (by omega))

/-- A failure is counted, and disturbs nothing, where the loop goes on with its session or ends. -/
theorem fails_setBack (hc : c.Reserved) (o : OpenSession) (b : Setback) (s : Cache) :
    Fails s (setBack c o b s) := by
  have hfail := fails_fail hc b s
  unfold setBack
  generalize fail c b s = failed at hfail ⊢
  obtain ⟨delay, t⟩ := failed
  have left (v : Cache) (loop : Loop) : Undisturbed v { v with loop } :=
    .turned v v.toSurroundings v.errorCount v.sessions loop v.observers
  dsimp only
  unfold pause
  split
  next => exact hfail.trans ((Undisturbed.note t .closed id).trans (left _ .ended)) rfl
  next => exact hfail.trans (left t _) rfl

/-- A failure is counted, and disturbs nothing, where no session is left. -/
theorem fails_retreat (hc : c.Reserved) (f : Failure) (s : Cache) : Fails s (retreat c f s) := by
  have hfail := fails_fail hc { failure := f } s
  unfold retreat
  generalize fail c { failure := f } s = failed at hfail ⊢
  obtain ⟨delay, t⟩ := failed
  exact hfail.trans (.turned t t.toSurroundings t.errorCount t.sessions _ t.observers) rfl

/-- Taking keys does nothing to a cache that it leaves alone. -/
theorem collect_of_reserved (hc : c.Reserved) (vs : List Json) (es : Entries) (s : Cache) :
    (collect c vs es s).2 = s := by
  induction vs generalizing es s with
  | nil => rfl
  | cons v vs ih =>
    unfold collect
    dsimp only
    rw [hc.extract v, if_neg Bool.false_ne_true]
    split
    next => rfl
    next =>
      split
      next => rfl
      next => exact ih _ s

end

end Cache

/-! ## What may go wrong -/

/-- A dataset cannot be keyed when one of its entities has no key, however many before it have one.
-/
theorem Setup.keyed_eq_error_iff {c : Setup} {vs : List Json} {f : Failure} :
    c.keyed vs = .error f ↔ ∃ before v rest, vs = before ++ v :: rest ∧
      (∀ w ∈ before, ∃ k, c.key w = .ok k) ∧ c.key v = .error f := by
  induction vs with
  | nil => simp [keyed]
  | cons v vs ih =>
    rw [keyed]
    constructor
    · intro h
      cases hk : c.key v with
      | error g =>
        rw [hk] at h
        cases h
        exact ⟨[], v, vs, rfl, by simp, hk⟩
      | ok k =>
        rw [hk] at h
        have hrest : c.keyed vs = .error f := by
          cases hvs : c.keyed vs with
          | error g => rw [hvs] at h; cases h; rfl
          | ok es => rw [hvs] at h; cases h
        obtain ⟨before, w, rest, rfl, hbefore, hw⟩ := ih.1 hrest
        exact ⟨v :: before, w, rest, rfl, List.forall_mem_cons.2 ⟨⟨k, hk⟩, hbefore⟩, hw⟩
    · rintro ⟨before, w, rest, heq, hbefore, hw⟩
      cases before with
      | nil =>
        obtain ⟨rfl, rfl⟩ := List.cons_eq_cons.1 heq
        rw [hw]
        rfl
      | cons b before =>
        obtain ⟨rfl, rfl⟩ := List.cons_eq_cons.1 heq
        obtain ⟨⟨k, hk⟩, hrest⟩ := List.forall_mem_cons.1 hbefore
        rw [hk, ih.2 ⟨before, w, rest, rfl, hrest, hw⟩]
        rfl

namespace Cache

/-- The policy that a query goes out with: none, or one that knows of a target to ask. -/
def Asks (s : Cache) (policy : Option (Policy Float)) : Prop :=
  s.policy = none ∧ policy = none ∨
    ∃ p q, s.policy = some p ∧ p.isViable s.now = (.ok true, q) ∧ policy = some q

/-- The request of the next query, or why there is none. -/
def nextRequest (c : Setup) (o : OpenSession) (s : Cache) : Except Failure Request :=
  o.session.request c.path (o.session.parameters c.params s.snapshot.index (some c.wait))

/-- A step of the loop in which a poll fails. -/
inductive Mishap (c : Setup) (s : Cache) : Cache → Prop
  /-- The factory of transports fails. -/
  | unopened {f : Failure} (hloop : s.loop = .opening) (hgo : s.isStopped = false)
    (h : c.openFault s.sessions = some f) : Mishap c s (turn c s)
  /-- There is no session with what the client is configured with. -/
  | unbuilt {f : Failure} (hloop : s.loop = .opening) (hgo : s.isStopped = false)
    (hopen : c.openFault s.sessions = none)
    (h : Session.ofClient c.client s.policy.isSome c.config.adjustment = .error f) :
    Mishap c s (turn c s)
  /-- The policy fails when it is asked whether there is a target; closing the session may fail too.
  -/
  | unsaid {o : OpenSession} {p q : Policy Float} {f : Failure} (hloop : s.loop = .polling o)
    (hgo : s.isStopped = false) (hp : s.policy = some p) (h : p.isViable s.now = (.error f, q)) :
    Mishap c s (turn c s)
  /-- There is no target to ask. -/
  | unviable {o : OpenSession} {p q : Policy Float} (hloop : s.loop = .polling o)
    (hgo : s.isStopped = false) (hp : s.policy = some p) (h : p.isViable s.now = (.ok false, q)) :
    Mishap c s (turn c s)
  /-- There is no request for the query. -/
  | unasked {o : OpenSession} {policy : Option (Policy Float)} {f : Failure}
    (hloop : s.loop = .polling o) (hgo : s.isStopped = false) (hasks : s.Asks policy)
    (h : nextRequest c o s = .error f) : Mishap c s (turn c s)
  /-- The request does not reach the transport. -/
  | unsent {o : OpenSession} {policy : Option (Policy Float)} {r : Request} {f : Failure}
    (hloop : s.loop = .polling o) (hgo : s.isStopped = false) (hasks : s.Asks policy)
    (hr : nextRequest c o s = .ok r)
    (h : (Exchange.start s.now policy o.session.layers r).1 = .failed f) : Mishap c s (turn c s)
  /-- The transport brings no response, nor does any other target. -/
  | unanswered {o : OpenSession} {x : Exchange} {f : Failure} (outcome : Outcome)
    (hloop : s.loop = .awaiting o x) (h : (x.receive s.now s.policy outcome).1 = .failed f) :
    Mishap c s (takeUp c o s (x.receive s.now s.policy outcome))
  /-- The response is no answer, by its status or by its body. -/
  | unread {o : OpenSession} {x : Exchange} {r : Response} {f : Failure} (outcome : Outcome)
    (hloop : s.loop = .awaiting o x) (hr : (x.receive s.now s.policy outcome).1 = .answered r)
    (h : (o.session.receive r).1 = .error f) :
    Mishap c s (takeUp c o s (x.receive s.now s.policy outcome))
  /-- The answer names no index, or none that can be read. -/
  | unindexed {o : OpenSession} {x : Exchange} {r : Response} {a : Answer} (outcome : Outcome)
    (hloop : s.loop = .awaiting o x) (hr : (x.receive s.now s.policy outcome).1 = .answered r)
    (ha : (o.session.receive r).1 = .ok a) (h : a.index = none) :
    Mishap c s (takeUp c o s (x.receive s.now s.policy outcome))
  /-- An entity has no key, however many before it have one. -/
  | unkeyed {o : OpenSession} {x : Exchange} {r : Response} {a : Answer} {before rest : List Json}
    {v : Json} {f : Failure} (outcome : Outcome) (hloop : s.loop = .awaiting o x)
    (hr : (x.receive s.now s.policy outcome).1 = .answered r)
    (ha : (o.session.receive r).1 = .ok a) (hnew : s.snapshot.isBelow a = true)
    (hdataset : a.dataset = before ++ v :: rest) (hbefore : ∀ w ∈ before, ∃ k, c.key w = .ok k)
    (h : c.key v = .error f) : Mishap c s (takeUp c o s (x.receive s.now s.policy outcome))

/-- A step of the loop in which a poll fails with a failure that tells of a target to blame. -/
inductive Accusation (c : Setup) (s : Cache) : Cache → Prop
  | unanswered {o : OpenSession} {x : Exchange} {f : Failure} {target : Target} (outcome : Outcome)
    (hloop : s.loop = .awaiting o x) (h : (x.receive s.now s.policy outcome).1 = .failed f)
    (hblamed : f.blamed = some target) :
    Accusation c s (takeUp c o s (x.receive s.now s.policy outcome))
  | unread {o : OpenSession} {x : Exchange} {r : Response} {f : Failure} {target : Target}
    (outcome : Outcome) (hloop : s.loop = .awaiting o x)
    (hr : (x.receive s.now s.policy outcome).1 = .answered r)
    (h : (o.session.receive r).1 = .error f) (hblamed : f.blamed = some target) :
    Accusation c s (takeUp c o s (x.receive s.now s.policy outcome))

/-- A step of the loop in which a poll succeeds. -/
inductive Success (c : Setup) (s : Cache) : Cache → Prop
  /-- The answer tells of nothing new. -/
  | unchanged {o : OpenSession} {x : Exchange} {r : Response} {a : Answer} (outcome : Outcome)
    (hloop : s.loop = .awaiting o x) (hr : (x.receive s.now s.policy outcome).1 = .answered r)
    (ha : (o.session.receive r).1 = .ok a) (hindex : a.index.isSome)
    (hold : s.snapshot.isBelow a = false) :
    Success c s (takeUp c o s (x.receive s.now s.policy outcome))
  /-- The answer makes a new snapshot. -/
  | changed {o : OpenSession} {x : Exchange} {r : Response} {a : Answer} {es : List (Key × Json)}
    (outcome : Outcome) (hloop : s.loop = .awaiting o x)
    (hr : (x.receive s.now s.policy outcome).1 = .answered r)
    (ha : (o.session.receive r).1 = .ok a) (hnew : s.snapshot.isBelow a = true)
    (h : c.keyed a.dataset = .ok es) :
    Success c s (takeUp c o s (x.receive s.now s.policy outcome))

/-- A step of the loop after which it waits for the transport, for the first target or for the next
one. -/
inductive Attempt (c : Setup) (s : Cache) : Cache → Prop
  | sent {o : OpenSession} {policy : Option (Policy Float)} {r : Request} {x : Exchange}
    (hloop : s.loop = .polling o) (hgo : s.isStopped = false) (hasks : s.Asks policy)
    (hr : nextRequest c o s = .ok r)
    (h : (Exchange.start s.now policy o.session.layers r).1 = .sent x) : Attempt c s (turn c s)
  | again {o : OpenSession} {x y : Exchange} (outcome : Outcome) (hloop : s.loop = .awaiting o x)
    (h : (x.receive s.now s.policy outcome).1 = .sent y) :
    Attempt c s (takeUp c o s (x.receive s.now s.policy outcome))

/-- A poll that fails, after as many attempts as it takes. The application, as far as it is called,
leaves the cache alone, and meanwhile time passes and others blame targets. -/
inductive FailedPoll (c : Setup) : Cache → Cache → Prop
  | fails {s t : Cache} {d : Setup} (hv : c.Varies d) (hd : d.Reserved) (h : Mishap d s t) :
    FailedPoll c s t
  | attempt {s t u : Cache} {d : Setup} (hv : c.Varies d) (h : Attempt d s t)
    (k : FailedPoll c t u) : FailedPoll c s u
  | meanwhile {s u : Cache} (left : Surroundings)
    (k : FailedPoll c { s with toSurroundings := left } u) : FailedPoll c s u

section
variable {c : Setup} {s t : Cache} {o : OpenSession} {policy : Option (Policy Float)}

/-! ## Every mishap is a failure -/

/-- A loop that is about to open a session opens one. -/
theorem turn_of_opening (c : Setup) (hloop : s.loop = .opening) (hgo : s.isStopped = false) :
    turn c s = openSession c s := by
  rw [turn, hloop]
  exact if_neg (Bool.eq_false_iff.1 hgo)

/-- A loop that is about to poll polls. -/
theorem turn_of_polling (c : Setup) (hloop : s.loop = .polling o) (hgo : s.isStopped = false) :
    turn c s = poll c o s := by
  rw [turn, hloop]
  exact if_neg (Bool.eq_false_iff.1 hgo)

/-- A poll is a query when there is a target to ask. -/
theorem poll_of_asks (c : Setup) (o : OpenSession) (h : s.Asks policy) :
    poll c o s = query c o { s with policy } := by
  unfold poll
  rcases h with ⟨hnone, rfl⟩ | ⟨p, q, hp, hviable, rfl⟩
  · rw [hnone]
    dsimp only
    rw [← hnone]
  · rw [hp]
    dsimp only
    rw [hviable]

/-- A query for which there is no request to send is set back. -/
theorem query_of_error {f : Failure} (h : nextRequest c o s = .error f) :
    query c o s = setBack c o (.ofQuery f) s := by
  unfold nextRequest at h
  rw [query]
  dsimp only
  rw [h]

/-- A query for which there is a request takes up what becomes of the request on its way down. -/
theorem query_of_ok {r : Request} (h : nextRequest c o s = .ok r) :
    query c o s = takeUp c o s (Exchange.start s.now s.policy o.session.layers r) := by
  unfold nextRequest at h
  rw [query]
  dsimp only
  rw [h]
  rfl

/-- What comes of a query that failed. -/
theorem takeUp_failed {r : Progress × Option (Policy Float)} {f : Failure} (h : r.1 = .failed f) :
    takeUp c o s r = setBack c o (.ofQuery f) { s with policy := r.2 } := by
  rw [takeUp, h]
  rfl

/-- What comes of a response that is no answer. -/
theorem takeUp_unread {p : Progress × Option (Policy Float)} {r : Response} {f : Failure}
    (hr : p.1 = .answered r) (h : (o.session.receive r).1 = .error f) :
    takeUp c o s p = setBack c { o with session := (o.session.receive r).2 } (.ofQuery f)
      { s with policy := p.2 } := by
  rw [takeUp, hr, conclude]
  dsimp only
  rw [h]

/-- What comes of an answer, which has to name an index. -/
theorem takeUp_answered {p : Progress × Option (Policy Float)} {r : Response} {a : Answer}
    (hr : p.1 = .answered r) (h : (o.session.receive r).1 = .ok a) :
    ∃ o', takeUp c o s p = if a.index.isNone
      then setBack c o' (.ofQuery (.missingIndex c.path a.target)) { s with policy := p.2 }
      else accept c o' a ({ s with policy := p.2 }.note (.heard a)) := by
  refine ⟨{ o with session := (o.session.receive r).2 }, ?_⟩
  rw [takeUp, hr, conclude]
  dsimp only
  rw [h]

/-- An answer above the snapshot that cannot be keyed. -/
theorem accept_of_unkeyed (o : OpenSession) {a : Answer} {f : Failure}
    (hnew : s.snapshot.isBelow a = true) (h : c.keyed a.dataset = .error f) :
    accept c o a s =
      setBack c o { failure := f } (collect c a.dataset .empty s).2 := by
  have hfresh : ¬(s.snapshot.available && !indexIncreased s.snapshot.index a.index) = true := by
    rw [s.snapshot.isBelow_eq (Snapshot.isSome_of_isBelow hnew), Bool.not_eq_true'] at hnew
    rw [hnew]
    exact Bool.false_ne_true
  have hcollected : (collect c a.dataset .empty s).1 = .error f := by
    rw [collect_eq, h]
    rfl
  rw [accept, if_neg hfresh]
  generalize collect c a.dataset .empty s = collected at hcollected ⊢
  obtain ⟨_, t⟩ := collected
  subst hcollected
  rfl

/-- What a poll does before it fails: it asks the policy, opens and closes sessions, hears an answer
and takes keys from it. -/
inductive BeforeFailure (c : Setup) (s : Cache) : Cache → Prop
  | refl : BeforeFailure c s s
  | asked {u : Cache} {policy : Option (Policy Float)} (h : BeforeFailure c s u)
    (hfaulty : policy.map (·.faulty) = u.policy.map (·.faulty)) :
    BeforeFailure c s { u with policy }
  | noted {u : Cache} {o : Occurrence} (h : BeforeFailure c s u) (hcall : ¬o.IsCall)
    (hreport : o.report? = none) : BeforeFailure c s (u.note o)
  | opened {u : Cache} (h : BeforeFailure c s u) (sessions : Nat) :
    BeforeFailure c s { u with sessions }
  | collected {u : Cache} (h : BeforeFailure c s u) (vs : List Json) :
    BeforeFailure c s (collect c vs .empty u).2

/-- A policy that was asked whether there is a target has the faults that it had before. -/
theorem faulty_of_isViable {p q : Policy Float} {viable : Except Failure Bool}
    (hp : s.policy = some p) (h : p.isViable s.now = (viable, q)) :
    (some q).map (·.faulty) = s.policy.map (·.faulty) := by
  have hq := p.faulty_isViable s.now
  rw [h] at hq
  rw [hp]
  exact congrArg some hq

/-- The policy that a query goes out with has the faults of the one before. -/
theorem Asks.faulty (h : s.Asks policy) : policy.map (·.faulty) = s.policy.map (·.faulty) := by
  rcases h with ⟨hnone, rfl⟩ | ⟨p, q, hp, hviable, rfl⟩
  · rw [hnone]
  · exact faulty_of_isViable hp hviable

/-- A mishap is a failure that is counted after what a poll does before, with a session that is kept
or without one. It blames nobody unless it is an accusation. -/
theorem beforeFailure_of_mishap (h : Mishap c s t) : ∃ u, BeforeFailure c s u ∧
    ((∃ o b, t = setBack c o b u ∧ (b.blamed = none ∨ Accusation c s t)) ∨
      ∃ f, t = retreat c f u) := by
  have opening : BeforeFailure c s { s.note .opening with sessions := s.sessions + 1 } :=
    .opened (.noted .refl id rfl) _
  have said {p q : Policy Float} {viable : Except Failure Bool} (hp : s.policy = some p)
      (h : p.isViable s.now = (viable, q)) : BeforeFailure c s { s with policy := some q } :=
    .asked .refl (faulty_of_isViable hp h)
  have received (x : Exchange) (outcome : Outcome) :
      BeforeFailure c s { s with policy := (x.receive s.now s.policy outcome).2 } :=
    .asked .refl (Exchange.faulty_receive ..)
  cases h with
  | @unopened f hloop hgo h =>
    refine ⟨_, opening, .inr ⟨f, ?_⟩⟩
    rw [turn_of_opening c hloop hgo, openSession]
    dsimp only
    rw [h]
  | @unbuilt f hloop hgo hopen h =>
    refine ⟨_, .noted (o := .connected) opening id rfl, .inr ⟨f, ?_⟩⟩
    rw [turn_of_opening c hloop hgo, openSession]
    dsimp only
    rw [hopen]
    dsimp only
    split
    next hsession =>
      cases h.symm.trans hsession
      rfl
    next hsession => cases h.symm.trans hsession
  | @unsaid o p q f hloop hgo hp h =>
    refine ⟨_, .noted (o := .closed) (said hp h) id rfl,
      .inr ⟨(c.closeFault o.number).getD f, ?_⟩⟩
    rw [turn_of_polling c hloop hgo, poll, hp]
    dsimp only
    rw [h]
    rfl
  | @unviable o p q hloop hgo hp h =>
    refine ⟨_, said hp h, .inl ⟨o, .ofQuery (.noViableTarget q.shownTargets), ?_, .inl rfl⟩⟩
    rw [turn_of_polling c hloop hgo, poll, hp]
    dsimp only
    rw [h]
  | @unasked o policy f hloop hgo hasks h =>
    have hnone : nextRequest c o { s with policy } = .error f := h
    refine ⟨_, .asked .refl hasks.faulty, .inl ⟨o, .ofQuery f, ?_,
      .inl (o.session.blameless_request _ _ f h)⟩⟩
    rw [turn_of_polling c hloop hgo, poll_of_asks c o hasks, query_of_error hnone]
  | @unsent o policy r f hloop hgo hasks hr h =>
    have hsome : nextRequest c o { s with policy } = .ok r := hr
    have hasked : BeforeFailure c s { s with policy } := .asked .refl hasks.faulty
    refine ⟨_, hasked.asked (Exchange.faulty_start s.now policy o.session.layers r),
      .inl ⟨o, .ofQuery f, ?_, .inl (Exchange.blamed_of_start h)⟩⟩
    rw [turn_of_polling c hloop hgo, poll_of_asks c o hasks, query_of_ok hsome, takeUp_failed h]
  | @unanswered o x f outcome hloop h =>
    refine ⟨_, received _ outcome, .inl ⟨_, _, takeUp_failed h, ?_⟩⟩
    cases hblamed : f.blamed with
    | none => exact .inl hblamed
    | some target => exact .inr (.unanswered outcome hloop h hblamed)
  | @unread o x r f outcome hloop hr h =>
    refine ⟨_, received _ outcome, .inl ⟨_, _, takeUp_unread hr h, ?_⟩⟩
    cases hblamed : f.blamed with
    | none => exact .inl hblamed
    | some target => exact .inr (.unread outcome hloop hr h hblamed)
  | unindexed outcome hloop hr ha h =>
    obtain ⟨o', heq⟩ := takeUp_answered (c := c) (s := s) hr ha
    rw [if_pos (by rw [h]; rfl)] at heq
    exact ⟨_, received _ outcome, .inl ⟨_, _, heq, .inl rfl⟩⟩
  | @unkeyed o x r a before rest v f outcome hloop hr ha hnew hdataset hbefore h =>
    obtain ⟨o', heq⟩ := takeUp_answered (c := c) (s := s) hr ha
    have hindex : ¬a.index.isNone = true := by
      simpa [Option.isSome_iff_ne_none] using Snapshot.isSome_of_isBelow hnew
    have hkeyed : c.keyed a.dataset = .error f :=
      Setup.keyed_eq_error_iff.2 ⟨before, v, rest, hdataset, hbefore, h⟩
    have hheard := (received x outcome).noted (o := .heard a) id rfl
    rw [if_neg hindex] at heq
    exact ⟨_, hheard.collected a.dataset,
      .inl ⟨_, _, heq.trans (accept_of_unkeyed o' (s := _) hnew hkeyed), .inl rfl⟩⟩

/-- What a poll does before it fails counts nothing. -/
theorem BeforeFailure.uncounted {u : Cache} (h : BeforeFailure c s u) : Uncounted s u := by
  induction h with
  | refl => exact .refl s
  | asked _ _ ih | opened _ _ ih => exact ⟨ih.count, ih.reports⟩
  | noted _ _ hreport ih => exact ih.trans (.note _ hreport)
  | collected _ vs ih => exact ih.trans ((uncounted_called c .pollLoop).collect vs .empty _)

/-- What a poll does before it fails draws nothing, and leaves the policy its faults. -/
theorem BeforeFailure.surroundings {u : Cache} (h : BeforeFailure c s u) :
    u.draws = s.draws ∧ u.policy.map (·.faulty) = s.policy.map (·.faulty) := by
  induction h with
  | refl => exact ⟨rfl, rfl⟩
  | asked _ hfaulty ih => exact ⟨ih.1, hfaulty.trans ih.2⟩
  | opened _ _ ih | noted _ _ _ ih => exact ih
  | @collected u _ vs ih =>
    have hsame := (reacts_collect c vs .empty u).surroundings
    exact ⟨(congrArg Surroundings.draws hsame).trans ih.1,
      (congrArg (·.policy.map (·.faulty)) hsame).trans ih.2⟩

/-- What a poll does before it fails disturbs nothing, if the application leaves the cache alone. -/
theorem BeforeFailure.undisturbed {u : Cache} (hc : c.Reserved) (h : BeforeFailure c s u) :
    Undisturbed s u := by
  have turned (v : Cache) (policy : Option (Policy Float)) (sessions : Nat) :
      Undisturbed v { v with policy, sessions } :=
    .turned v { v.toSurroundings with policy } v.errorCount sessions v.loop v.observers
  induction h with
  | refl => exact .refl s
  | @asked u policy _ _ ih => exact ih.trans (turned u policy u.sessions)
  | @opened u _ sessions ih => exact ih.trans (turned u u.policy sessions)
  | noted _ hcall _ ih => exact ih.trans (.note _ _ hcall)
  | collected _ vs ih =>
    rw [collect_of_reserved hc]
    exact ih

/-- A mishap is counted as a failure, and disturbs nothing. -/
theorem fails_of_mishap (hc : c.Reserved) (h : Mishap c s t) : Fails s t := by
  obtain ⟨u, hbeforehand, ⟨o, b, rfl, -⟩ | ⟨f, rfl⟩⟩ := beforeFailure_of_mishap h
  · exact (hbeforehand.undisturbed hc).fails hbeforehand.uncounted.count (fails_setBack hc o b u)
  · exact (hbeforehand.undisturbed hc).fails hbeforehand.uncounted.count (fails_retreat hc f u)

/-- A mishap is reported, if the policy records the blame. -/
theorem reported_of_mishap (hs : s.RecordsBlame) (h : Mishap c s t) : ∃ o, Reported c o s t := by
  obtain ⟨u, hbeforehand, hfailed⟩ := beforeFailure_of_mishap h
  obtain ⟨hdraws, hfaulty⟩ := hbeforehand.surroundings
  have hu : u.RecordsBlame := hs.congr hfaulty
  rcases hfailed with ⟨o, b, rfl, -⟩ | ⟨f, rfl⟩
  · exact ⟨_, (reported_setBack o (.inr hu)).after hbeforehand.uncounted hdraws⟩
  · exact ⟨_, (reported_retreat c f u).after hbeforehand.uncounted hdraws⟩

/-! ## Every failure is a mishap -/

/-- The loop waits for the request that the transport has. -/
theorem takeUp_sent {r : Progress × Option (Policy Float)} {x : Exchange} (h : r.1 = .sent x) :
    takeUp c o s r =
      { { s with policy := r.2 }.note (.requested x.request) with loop := .awaiting o x } := by
  rw [takeUp, h]
  rfl

/-- An attempt disturbs nothing, counts nothing, and reports no failure. -/
theorem undisturbed_of_attempt (h : Attempt c s t) : Undisturbed s t ∧ Uncounted s t := by
  have sent (policy : Option (Policy Float)) (r : Request) (loop : Loop) :
      Undisturbed s { { s with policy }.note (.requested r) with loop } ∧
        Uncounted s { { s with policy }.note (.requested r) with loop } :=
    ⟨(Undisturbed.turned s { s.toSurroundings with policy } s.errorCount s.sessions s.loop
      s.observers).trans ((Undisturbed.note _ (.requested r) id).trans
        (.turned _ { s.toSurroundings with policy } s.errorCount s.sessions loop s.observers)),
      rfl, reports_cons rfl⟩
  cases h with
  | @sent o policy r x hloop hgo hasks hr h =>
    have hsome : nextRequest c o { s with policy } = .ok r := hr
    rw [turn_of_polling c hloop hgo, poll_of_asks c o hasks, query_of_ok hsome, takeUp_sent h]
    exact sent _ _ _
  | again outcome hloop h =>
    rw [takeUp_sent h]
    exact sent _ _ _

/-- An answer that is not above the snapshot, or can be keyed, sets the count of failures back, and
none is reported. -/
theorem accept_resets (o : OpenSession) {a : Answer} (ha : a.index.isSome)
    (h : s.snapshot.isBelow a = true → ∃ es, c.keyed a.dataset = .ok es) :
    (accept c o a s).errorCount = 0 ∧ reports (accept c o a s).trace = reports s.trace := by
  unfold accept
  dsimp only
  split
  next =>
    have hreset : reports ({ s with errorCount := 0 } : Cache).trace = reports s.trace := rfl
    have hrest := (uncounted_emit c .pollLoop (e := .unchanged a.index) rfl
      { s with errorCount := 0 }).trans (uncounted_pause o (pauseAfter c.config a) _)
    exact ⟨hrest.count, hrest.reports.trans hreset⟩
  next hfresh =>
    have hnew : s.snapshot.isBelow a = true := by
      rw [s.snapshot.isBelow_eq ha, Bool.not_eq_true', Bool.eq_false_iff]
      exact hfresh
    obtain ⟨es, hkeyed⟩ := h hnew
    have hcollected := collect_eq c a.dataset s
    have hcollect := (uncounted_called c .pollLoop).collect a.dataset .empty s
    rw [hkeyed] at hcollected
    generalize collect c a.dataset .empty s = collected at hcollected hcollect ⊢
    obtain ⟨_, t⟩ := collected
    subst hcollected
    let entries : Entries := .ofList es
    let new : Snapshot :=
      { entries, index := a.index, knownLeader := a.knownLeader,
        lastContactMs := a.lastContactMs }
    have hcommit : reports (commit new t).trace = reports t.trace := reports_cons rfl
    have hrest := (uncounted_emit c .pollLoop
      (e := .changed a.index entries.size a.target) rfl (commit new t)).trans
      (uncounted_deliver c o new (pauseAfter c.config a) _)
    exact ⟨hrest.count, (hrest.reports.trans hcommit).trans hcollect.reports⟩

/-- A poll that succeeds sets the count of failures back, and none is reported. -/
theorem resets_of_success (h : Success c s t) :
    t.errorCount = 0 ∧ reports t.trace = reports s.trace := by
  have taken {o : OpenSession} {x : Exchange} {r : Response} {a : Answer} (outcome : Outcome)
      (hr : (x.receive s.now s.policy outcome).1 = .answered r)
      (ha : (o.session.receive r).1 = .ok a) (hindex : a.index.isSome)
      (hkeyed : s.snapshot.isBelow a = true → ∃ es, c.keyed a.dataset = .ok es) :
      (takeUp c o s (x.receive s.now s.policy outcome)).errorCount = 0 ∧
        reports (takeUp c o s (x.receive s.now s.policy outcome)).trace = reports s.trace := by
    obtain ⟨o', heq⟩ := takeUp_answered (c := c) (s := s) hr ha
    rw [heq, if_neg (by simpa [Option.isSome_iff_ne_none] using hindex)]
    obtain ⟨hcount, hreports⟩ := accept_resets o' hindex
      (s := { s with policy := (x.receive s.now s.policy outcome).2 }.note (.heard a)) hkeyed
    exact ⟨hcount, hreports.trans (reports_cons rfl)⟩
  cases h with
  | unchanged outcome hloop hr ha hindex hold =>
    exact taken outcome hr ha hindex fun hnew => by
      rw [hold] at hnew
      cases hnew
  | changed outcome hloop hr ha hnew h =>
    exact taken outcome hr ha (Snapshot.isSome_of_isBelow hnew) fun _ => ⟨_, h⟩

/-- A query fails, or nothing is counted yet. -/
theorem query_cases (hloop : s.loop = .polling o) (hgo : s.isStopped = false)
    (hasks : s.Asks policy) : Mishap c s (turn c s) ∨ Uncounted s (turn c s) := by
  cases hr : nextRequest c o s with
  | error f => exact .inl (.unasked hloop hgo hasks hr)
  | ok r =>
    have hna := start_ne_answered s.now policy o.session.layers r
    cases hp : (Exchange.start s.now policy o.session.layers r).1 with
    | sent x => exact .inr ((undisturbed_of_attempt (.sent hloop hgo hasks hr hp)).2)
    | failed f => exact .inl (.unsent hloop hgo hasks hr hp)
    | answered answer => exact absurd hp (hna answer)

/-- In a turn of the loop a poll fails, or nothing is counted. -/
theorem turn_cases (c : Setup) (s : Cache) : Mishap c s (turn c s) ∨ Uncounted s (turn c s) := by
  cases hloop : s.loop with
  | opening =>
    by_cases hs : s.isStopped = true
    · have hturn : turn c s = { s with loop := .ended } := by
        rw [turn, hloop]
        exact if_pos hs
      exact .inr (hturn ▸ ⟨rfl, rfl⟩)
    · have hgo := Bool.eq_false_iff.2 hs
      cases hopen : c.openFault s.sessions with
      | some f => exact .inl (.unopened hloop hgo hopen)
      | none =>
        cases hsession : Session.ofClient c.client s.policy.isSome c.config.adjustment with
        | error f => exact .inl (.unbuilt hloop hgo hopen hsession)
        | ok session =>
          refine .inr ?_
          rw [turn_of_opening c hloop hgo, openSession]
          dsimp only
          rw [hopen]
          dsimp only
          split
          next herror => cases hsession.symm.trans herror
          next =>
            have hnoted := (Uncounted.note (o := .opening) s rfl).trans
              (.note (o := .connected) _ rfl)
            exact ⟨hnoted.count, hnoted.reports⟩
  | polling o =>
    by_cases hs : s.isStopped = true
    · have hturn : turn c s = leave s := by
        rw [turn, hloop]
        exact if_pos hs
      exact .inr (hturn ▸ uncounted_leave s)
    · have hgo := Bool.eq_false_iff.2 hs
      cases hp : s.policy with
      | none => exact query_cases hloop hgo (.inl ⟨hp, rfl⟩)
      | some p =>
        rcases hviable : p.isViable s.now with ⟨_ | _ | _, q⟩
        · exact .inl (.unsaid hloop hgo hp hviable)
        · exact .inl (.unviable hloop hgo hp hviable)
        · exact query_cases hloop hgo (.inr ⟨p, q, hp, hviable, rfl⟩)
  | idle | awaiting | sleeping | notifying | ended =>
    have hturn : turn c s = s := by rw [turn, hloop]
    exact .inr (hturn.symm ▸ .refl s)

/-- What the transport made of a request is a failure, a success, or leads to another attempt. -/
theorem receive_cases (c : Setup) {x : Exchange} (outcome : Outcome)
    (hloop : s.loop = .awaiting o x) :
    Mishap c s (takeUp c o s (x.receive s.now s.policy outcome)) ∨
      Success c s (takeUp c o s (x.receive s.now s.policy outcome)) ∨
      Uncounted s (takeUp c o s (x.receive s.now s.policy outcome)) := by
  cases hp : (x.receive s.now s.policy outcome).1 with
  | sent y => exact .inr (.inr ((undisturbed_of_attempt (.again outcome hloop hp)).2))
  | failed f => exact .inl (.unanswered outcome hloop hp)
  | answered r =>
    cases hr : (o.session.receive r).1 with
    | error f => exact .inl (.unread outcome hloop hp hr)
    | ok a =>
      cases hindex : a.index with
      | none => exact .inl (.unindexed outcome hloop hp hr hindex)
      | some i =>
        have ha : a.index.isSome := by rw [hindex]; rfl
        cases hnew : s.snapshot.isBelow a with
        | false => exact .inr (.inl (.unchanged outcome hloop hp hr ha hnew))
        | true =>
          cases hdataset : c.keyed a.dataset with
          | ok es => exact .inr (.inl (.changed outcome hloop hp hr hnew hdataset))
          | error f =>
            obtain ⟨before, v, rest, heq, hbefore, hv⟩ := Setup.keyed_eq_error_iff.1 hdataset
            exact .inl (.unkeyed outcome hloop hp hr hnew heq hbefore hv)

/-- In any step a poll fails, or one succeeds, or nothing is counted and no failure is reported. -/
theorem step_cases {heard : Option Answer} (h : Step c s heard t) :
    Mishap c s t ∨ Success c s t ∨ Uncounted s t := by
  cases h with
  | turn => exact (turn_cases c s).imp_right .inr
  | receive outcome hloop => exact receive_cases c outcome hloop
  | start =>
    have hstarting : Uncounted s { s with lifecycle := .starting, loop := .opening } := ⟨rfl, rfl⟩
    exact .inr (.inr (hstarting.trans (uncounted_emit c .outside rfl _)))
  | stop => exact .inr (.inr (uncounted_stop c .outside s))
  | goOn =>
    exact .inr (.inr ((uncounted_release c .pollLoop _ s).trans (uncounted_looped _ _ _)))
  | @goOnWorking _ held =>
    have hfree : Uncounted s { s with worker := { s.worker with held := none } } := ⟨rfl, rfl⟩
    exact .inr (.inr ((hfree.trans (uncounted_release c .worker held _)).trans
      (uncounted_worked _)))
  | @workOn _ snapshot queue =>
    have hfree : Uncounted s { s with worker := { held := none, queue } } := ⟨rfl, rfl⟩
    exact .inr (.inr ((hfree.trans (uncounted_notify c .worker snapshot _)).trans
      (uncounted_worked _)))
  | addListener l => exact .inr (.inr ((uncounted_called c .outside).add l s))
  | removeListener l => exact .inr (.inr ((uncounted_called c .outside).remove l s))
  | wake | observers | surround => exact .inr (.inr ⟨rfl, rfl⟩)

/-- A step in which a failure is counted is a mishap. -/
theorem mishap_of_step {heard : Option Answer} (h : Step c s heard t)
    (hcount : s.errorCount < t.errorCount) : Mishap c s t := by
  rcases step_cases h with hfail | hsuccess | hsame
  · exact hfail
  · rw [(resets_of_success hsuccess).1] at hcount
    exact absurd hcount (Nat.not_lt_zero _)
  · rw [hsame.count] at hcount
    exact absurd hcount (lt_irrefl _)

end

end Cache

/-! ## Responses that are no answers -/

/-- A response that is no answer: its status is neither that of a success nor 404, or its body is
that of a success and cannot be read, or it names no index that can be read. -/
def Response.IsUnusable (r : Response) : Prop :=
  r.status ≠ Answer.notFoundStatus ∧
      (r.isSuccess = false ∨ r.body ≠ [] ∧ ∃ fault, Json.ofBytes r.body = .error fault) ∨
    Answer.index? r.headers = none

namespace Answer
variable {r : Response} {a : Answer}

/-- What an answer takes from its response. -/
theorem of_ofResponse (h : ofResponse r = .ok a) :
    a.index = index? r.headers ∧
      (r.status ≠ notFoundStatus → readDataset a.target r.body = .ok a.dataset) := by
  obtain ⟨target, -, ⟨hmissing, rfl⟩ | ⟨-, dataset, hread, rfl⟩⟩ := ofResponse_eq_ok h
  · exact ⟨rfl, absurd hmissing⟩
  · exact ⟨rfl, fun _ => hread⟩

/-- A body that cannot be read is no dataset. -/
theorem readDataset_eq_error (target : Option Target) {body : List UInt8} {fault : Json.Fault}
    (hbody : body ≠ []) (h : Json.ofBytes body = .error fault) :
    ∃ f, readDataset target body = .error f := by
  unfold readDataset
  rw [if_neg (by simpa using hbody), h]
  cases fault <;> exact ⟨_, rfl⟩

end Answer

namespace Cache

section
variable {c : Setup} {s t : Cache} {as : List Answer}

/-- A response that is no answer is a mishap. -/
theorem mishap_of_unusable {o : OpenSession} {x : Exchange} {r : Response} (outcome : Outcome)
    (hloop : s.loop = .awaiting o x) (hr : (x.receive s.now s.policy outcome).1 = .answered r)
    (h : r.IsUnusable) : Mishap c s (takeUp c o s (x.receive s.now s.policy outcome)) := by
  cases ha : (o.session.receive r).1 with
  | error f => exact .unread outcome hloop hr ha
  | ok a =>
    obtain ⟨-, hof⟩ := Session.takesUp_of_receive ha
    obtain ⟨hindex, hdataset⟩ := Answer.of_ofResponse hof
    rcases h with ⟨hstatus, hfailed | ⟨hbody, fault, hfault⟩⟩ | hmissing
    · have hok := (Answer.status_of_ofResponse hof).resolve_left hstatus
      exact absurd (hfailed.symm.trans (Response.isSuccess_iff.2 hok)) Bool.false_ne_true
    · obtain ⟨f, hf⟩ := Answer.readDataset_eq_error a.target hbody hfault
      cases (hdataset hstatus).symm.trans hf
    · exact .unindexed outcome hloop hr ha (hindex.trans hmissing)

/-! ## Failed polls -/

/-- A mishap is a step. -/
theorem Mishap.step (h : Mishap c s t) : ∃ heard, Step c s heard t := by
  cases h with
  | unopened | unbuilt | unsaid | unviable | unasked | unsent => exact ⟨none, .turn s⟩
  | unanswered outcome hloop | unread outcome hloop | unindexed outcome hloop
  | unkeyed outcome hloop => exact ⟨_, .receive outcome hloop⟩

/-- An attempt is a step. -/
theorem Attempt.step (h : Attempt c s t) : ∃ heard, Step c s heard t := by
  cases h with
  | sent => exact ⟨none, .turn s⟩
  | again outcome hloop => exact ⟨_, .receive outcome hloop⟩

/-- A poll that fails is counted and disturbs nothing, and is part of a run. -/
theorem fails_of_failedPoll (h : FailedPoll c s t) : Fails s t ∧ ∃ bs, Steps c s bs t := by
  induction h with
  | fails hv hd h =>
    obtain ⟨heard, hstep⟩ := h.step
    exact ⟨fails_of_mishap hd h, _, .tail .refl hv hstep⟩
  | attempt hv h _ ih =>
    obtain ⟨hfails, bs, hsteps⟩ := ih
    obtain ⟨hsame, hcount⟩ := undisturbed_of_attempt h
    obtain ⟨heard, hstep⟩ := h.step
    exact ⟨hsame.fails hcount.count hfails, _, (Steps.tail .refl hv hstep).trans hsteps⟩
  | @meanwhile s u left _ ih =>
    obtain ⟨hfails, bs, hsteps⟩ := ih
    have hsame : Undisturbed s { s with toSurroundings := left } :=
      .turned s left s.errorCount s.sessions s.loop s.observers
    exact ⟨hsame.fails rfl hfails, _, (Step.surround left s).steps.trans hsteps⟩

/-- The loop of a stopped cache ends, and whether its session can be closed does not matter. -/
theorem turn_of_isStopped (c : Setup) (hs : s.isStopped = true) :
    Undisturbed s (turn c s) ∧ (turn c s).errorCount = s.errorCount := by
  have left (v : Cache) (loop : Loop) : Undisturbed v { v with loop } :=
    .turned v v.toSurroundings v.errorCount v.sessions loop v.observers
  unfold turn
  split
  next =>
    rw [if_pos hs]
    exact ⟨left s .ended, rfl⟩
  next =>
    rw [if_pos hs]
    exact ⟨(Undisturbed.note s .closed id).trans (left _ .ended), rfl⟩
  next => exact ⟨.refl s, rfl⟩

/-- In every run a poll that fails is counted, and apart from that leaves the snapshot, the life,
the flag, the registry and the rounds to come as they were before it, and no listener is called, as
long as the application leaves the cache alone. After it the run goes on. Every step that counts a
failure is a mishap, one of the ten, and so is every response that is no answer. A loop that ends
closes its session, and disturbs nothing even if that fails. -/
theorem undisturbed_of_run (h : Run c as s) :
    (∀ t, FailedPoll c s t →
      Undisturbed s t ∧ s.errorCount < t.errorCount ∧ ∃ bs, Run c (as ++ bs) t) ∧
    (∀ d heard t, Step d s heard t → s.errorCount < t.errorCount → Mishap d s t) ∧
    (∀ d o x r outcome, s.loop = .awaiting o x →
      (x.receive s.now s.policy outcome).1 = .answered r → r.IsUnusable →
      Mishap d s (takeUp d o s (x.receive s.now s.policy outcome))) ∧
    ∀ d, s.isStopped = true →
      Undisturbed s (turn d s) ∧ (turn d s).errorCount = s.errorCount := by
  refine ⟨fun t hpoll => ?_, fun d heard t hstep => mishap_of_step hstep,
    fun d o x r outcome hloop hr hunusable => mishap_of_unusable outcome hloop hr hunusable,
    fun d => turn_of_isStopped d⟩
  obtain ⟨hfails, bs, hsteps⟩ := fails_of_failedPoll hpoll
  exact ⟨hfails.toUndisturbed, hfails.counted, bs, h.steps hsteps⟩

end

end Cache

/-- A response with two entities, of which the second one cannot be a key. -/
def Outcome.unkeyable : Outcome :=
  .response 200 [("X-Consul-Index", "12")] "[1, []]".toUTF8.toList

namespace Cache

/-- The second entity of the response keeps the first one from being shown. -/
theorem undisturbed_of_run_sample : Setup.sample.Reserved ∧ ∃ as t o x,
    Run .sample as sample ∧ sample.loop = .awaiting o x ∧
    t = takeUp .sample o sample (x.receive sample.now sample.policy .unkeyable) ∧
    FailedPoll .sample sample t ∧ Undisturbed sample t ∧ sample.errorCount < t.errorCount ∧
    t.snapshot.index = some 9 := by
  have hreserved : Setup.sample.Reserved := ⟨fun _ _ => List.forall_mem_nil _, fun _ => rfl⟩
  obtain ⟨as, h⟩ := run_after .sample _ _
  obtain ⟨hpolls, hmishap, -⟩ := undisturbed_of_run (s := sample) h
  have hwaits : (sample.loop.awaited?.any fun e => decide (sample.errorCount <
      (takeUp .sample e.1 sample
        (e.2.receive sample.now sample.policy .unkeyable)).errorCount)) = true := by
    decide +kernel
  obtain ⟨⟨o, x⟩, hwaited, hcounts⟩ := (Option.any_eq_true ..).1 hwaits
  have hloop := Loop.eq_of_awaited? hwaited
  have hpoll : FailedPoll .sample sample
      (takeUp .sample o sample (x.receive sample.now sample.policy .unkeyable)) :=
    .fails (.refl .sample) hreserved
      (hmishap .sample _ _ (.receive _ hloop) (of_decide_eq_true hcounts))
  obtain ⟨hsame, hcount, -⟩ := hpolls _ hpoll
  have hindex : sample.snapshot.index = some 9 := by decide +kernel
  exact ⟨hreserved, as, _, o, x, h, hloop, rfl, hpoll, hsame, hcount,
    (congrArg Snapshot.index hsame.snapshot).trans hindex⟩

end Cache

end BlockingQuery
