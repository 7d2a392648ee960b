import BlockingQuery.Proofs.Cache.Asking
import BlockingQuery.Proofs.Cache.Lifecycle

/-!
# What becomes of the transports

For each session the factory makes a transport, and the session that is built on it closes it. So a
transport should be closed once, before the next session is opened and before the loop ends, and
requests should go through a transport that is still in hand (`Tidy`, `Tended`).

`Handled` tells step by step what a cache does with its transports, together with whether a session
is open. The loop closes a session where it leaves it, or it is cancelled, which closes the session
too; the application can do no more than to stop the cache, and when the loop calls it that closes
nothing (`marking_unhandled`). But a transport is in hand before there is a session that would close
it, and a client whose URL or headers are not accepted gets no session: then the transport is lost,
and another one at each retry. That is the one way to lose a transport (`tended_iff_of_run`).
-/

namespace BlockingQuery

/-- Something is done with a transport. -/
def Occurrence.IsTransport : Occurrence → Prop
  | .opening | .connected | .requested _ | .closed => True
  | .heard _ | .committed _ | .emitted _ | .observed .. | .added _ | .removed _ | .called ..
  | .looked .. | .stopReturned => False

/-- What may be done with a transport when one is in hand, and when none is. -/
def Occurrence.AllowedWhen (inHand : Bool) : Occurrence → Prop
  | .opening | .connected => inHand = false
  | .requested _ | .closed => inHand = true
  | .heard _ | .committed _ | .emitted _ | .observed .. | .added _ | .removed _ | .called ..
  | .looked .. | .stopReturned => True

/-! ## Clients that get a session -/

/-- All of a text is ASCII. -/
def IsAscii (s : String) : Prop :=
  ∀ ch ∈ s.toList, ch.toNat < 0x80

/-- A session can be built for the client: its URL is one, also with a slash at its end, and its
headers are ASCII. -/
structure Client.IsAccepted (c : Client) : Prop where
  url : ∃ u base, Url.parse c.baseUrl.toList = .ok u ∧ Session.withFinalSlash u = .ok base
  headers : ∀ e ∈ c.headers.entries, IsAscii e.1 ∧ IsAscii e.2

namespace Session

/-- A text is refused unless it is ASCII. -/
theorem checkAscii_eq_ok_iff {s : String} : checkAscii s = .ok () ↔ IsAscii s := by
  unfold checkAscii IsAscii
  split
  next h => simpa using h
  next h => simpa using h

/-- Checks are passed one after the other if and only if each of them is. -/
theorem forM_eq_ok_iff {α : Type} {check : α → Except Failure PUnit} {xs : List α} :
    xs.forM check = .ok ⟨⟩ ↔ ∀ x ∈ xs, check x = .ok ⟨⟩ := by
  induction xs with
  | nil => simp [pure, Except.pure]
  | cons x xs ih =>
    have hfirst : (x :: xs).forM check = (check x).bind fun _ => xs.forM check := rfl
    rw [List.forall_mem_cons, ← ih, hfirst]
    cases check x <;> simp [Except.bind]

/-- A header is refused unless its name and its value are ASCII. -/
theorem checkHeader_eq_ok_iff {name value : String} :
    (do checkAscii name; checkAscii value) = .ok () ↔ IsAscii name ∧ IsAscii value := by
  rw [← checkAscii_eq_ok_iff, ← checkAscii_eq_ok_iff]
  cases checkAscii name <;> simp [bind, Except.bind]

/-- A session can be opened for a client if and only if the client is accepted. -/
theorem exists_ofClient_iff (c : Client) (failsOver : Bool) (a : Adjustment) :
    (∃ session, ofClient c failsOver a = .ok session) ↔ c.IsAccepted := by
  unfold ofClient
  cases hurl : Url.parse c.baseUrl.toList with
  | error f =>
    refine iff_of_false (by simp [Except.mapError, bind, Except.bind]) fun h => ?_
    obtain ⟨u, base, hu, -⟩ := h.url
    cases hurl.symm.trans hu
  | ok url =>
  cases hbase : withFinalSlash url with
  | error f =>
    refine iff_of_false (by simp [hbase, Except.mapError, bind, Except.bind]) fun h => ?_
    obtain ⟨u, base, hu, hslash⟩ := h.url
    cases hurl.symm.trans hu
    cases hbase.symm.trans hslash
  | ok base =>
  simp only [hbase, Except.mapError, bind, Except.bind, pure, Except.pure]
  split
  next f hrefused =>
    refine iff_of_false (by simp) fun h => ?_
    cases hrefused.symm.trans
      (forM_eq_ok_iff.2 fun e he => checkHeader_eq_ok_iff.2 (h.headers e he))
  next hpassed =>
    exact iff_of_true ⟨_, rfl⟩ ⟨⟨url, base, hurl, hbase⟩,
      fun e he => checkHeader_eq_ok_iff.1 (forM_eq_ok_iff.1 hpassed e he)⟩

end Session

namespace Cache

/-! ## Transports and sessions -/

/-- Whether a transport was made and not closed since. -/
def inHand : List Occurrence → Bool
  | [] => false
  | .connected :: _ => true
  | .closed :: _ => false
  | _ :: os => inHand os

/-- How many transports were made. -/
def made (os : List Occurrence) : Nat :=
  os.countP fun o => match o with
    | .connected => true
    | _ => false

/-- How often a transport was closed. -/
def closings (os : List Occurrence) : Nat :=
  os.countP fun o => match o with
    | .closed => true
    | _ => false

/-- Each transport was closed before the next session was opened, only one that was in hand was
closed, and requests went through one that was in hand. -/
def Tidy (os : List Occurrence) : Prop :=
  Always (fun o before => o.AllowedWhen (inHand before)) os

/-- The transports are tidied up, and there is one in hand if and only if the loop has a session
open. -/
def Tended (s : Cache) : Prop :=
  Tidy s.trace ∧ inHand s.trace = s.loop.session?.isSome

/-- What a cache does with its transports, and whether it has a session open after that. Each
transport that is made leads to a session if `accepted` is true, and is lost otherwise. -/
inductive Handled (accepted : Prop) : Bool → List Occurrence → Prop
  | nil : Handled accepted false []
  | besides {o : Occurrence} {os : List Occurrence} {opened : Bool} (ho : ¬o.IsTransport)
    (h : Handled accepted opened os) : Handled accepted opened (o :: os)
  | opening {os : List Occurrence} (h : Handled accepted false os) :
    Handled accepted false (.opening :: os)
  | connected {os : List Occurrence} (ha : accepted) (h : Handled accepted false os) :
    Handled accepted true (.connected :: os)
  | lost {os : List Occurrence} (ha : ¬accepted) (h : Handled accepted false os) :
    Handled accepted false (.connected :: os)
  | requested {os : List Occurrence} (r : Request) (h : Handled accepted true os) :
    Handled accepted true (.requested r :: os)
  | closed {os : List Occurrence} (h : Handled accepted true os) :
    Handled accepted false (.closed :: os)

/-- What the cache did with its transports leads to where its loop is. -/
def Attends (c : Setup) (s : Cache) : Prop :=
  Handled c.client.IsAccepted s.loop.session?.isSome s.trace

section
variable {accepted : Prop} {opened : Bool} {o : Occurrence} {os : List Occurrence}

/-- What is not done with a transport leaves one in hand or none. -/
theorem inHand_besides (ho : ¬o.IsTransport) : inHand (o :: os) = inHand os := by
  cases o with
  | opening | connected | requested | closed => exact absurd trivial ho
  | heard | committed | emitted | observed | added | removed | called | looked | stopReturned => rfl

/-- If transports lead to sessions, or there are none, they are tidied up, and one is in hand as
long as a session is open. -/
theorem Handled.tidy (h : Handled accepted opened os) (hfine : accepted ∨ .connected ∉ os) :
    Tidy os ∧ inHand os = opened := by
  have earlier {o : Occurrence} {os : List Occurrence} (h : accepted ∨ .connected ∉ o :: os) :
      accepted ∨ .connected ∉ os :=
    h.imp_right fun hnone hmem => hnone (List.mem_cons_of_mem o hmem)
  induction h with
  | nil => exact ⟨trivial, rfl⟩
  | @besides o os _ ho _ ih =>
    obtain ⟨htidy, hin⟩ := ih (earlier hfine)
    refine ⟨⟨?_, htidy⟩, (inHand_besides ho).trans hin⟩
    cases o with
    | opening | connected | requested | closed => exact absurd trivial ho
    | heard | committed | emitted | observed | added | removed | called | looked
    | stopReturned => trivial
  | opening _ ih =>
    obtain ⟨htidy, hin⟩ := ih (earlier hfine)
    exact ⟨⟨hin, htidy⟩, hin⟩
  | connected _ _ ih =>
    obtain ⟨htidy, hin⟩ := ih (earlier hfine)
    exact ⟨⟨hin, htidy⟩, rfl⟩
  | lost hna =>
    rcases hfine with ha | hnone
    · exact absurd ha hna
    · exact absurd List.mem_cons_self hnone
  | requested _ _ ih =>
    obtain ⟨htidy, hin⟩ := ih (earlier hfine)
    exact ⟨⟨hin, htidy⟩, hin⟩
  | closed _ ih =>
    obtain ⟨htidy, hin⟩ := ih (earlier hfine)
    exact ⟨⟨hin, htidy⟩, rfl⟩

/-- If they do not, there never is a session, no transport is closed, and no request is sent. -/
theorem Handled.lost_all (h : Handled accepted opened os) (hna : ¬accepted) :
    opened = false ∧ .closed ∉ os ∧ ∀ r, .requested r ∉ os := by
  induction h with
  | nil => exact ⟨rfl, List.not_mem_nil, fun _ => List.not_mem_nil⟩
  | @besides o os _ ho _ ih =>
    obtain ⟨hnone, hclosed, hrequested⟩ := ih
    refine ⟨hnone, fun hmem => ?_, fun r hmem => ?_⟩
    · rcases List.mem_cons.1 hmem with rfl | hmem
      · exact ho trivial
      · exact hclosed hmem
    · rcases List.mem_cons.1 hmem with rfl | hmem
      · exact ho trivial
      · exact hrequested r hmem
  | opening _ ih =>
    exact ⟨rfl, fun hmem => ih.2.1 ((List.mem_cons.1 hmem).resolve_left nofun),
      fun r hmem => ih.2.2 r ((List.mem_cons.1 hmem).resolve_left nofun)⟩
  | connected ha => exact absurd ha hna
  | lost _ _ ih =>
    exact ⟨rfl, fun hmem => ih.2.1 ((List.mem_cons.1 hmem).resolve_left nofun),
      fun r hmem => ih.2.2 r ((List.mem_cons.1 hmem).resolve_left nofun)⟩
  | requested _ _ ih | closed _ ih => cases ih.1

/-- A transport that was made and never closed is in hand. -/
theorem inHand_of_connected (hmade : .connected ∈ os) (hclosed : .closed ∉ os) :
    inHand os = true := by
  induction os with
  | nil => cases hmade
  | cons o os ih =>
    have hrest : .connected ∈ os → inHand os = true := fun hmem =>
      ih hmem fun h => hclosed (List.mem_cons_of_mem o h)
    cases o with
    | connected => rfl
    | closed => exact absurd List.mem_cons_self hclosed
    | opening | requested | heard | committed | emitted | observed | added | removed | called
    | looked | stopReturned =>
      cases hmade with
      | tail _ hmem => exact hrest hmem

/-- What is tidied up was closed as often as it was made, but for the transport in hand. -/
theorem Tidy.made_eq (h : Tidy os) : made os = closings os + (inHand os).toNat := by
  induction os with
  | nil => rfl
  | cons o os ih =>
    have hrest := ih h.2
    have hallowed : o.AllowedWhen (inHand os) := h.1
    cases o with
    | connected =>
      have hnone : inHand os = false := hallowed
      rw [hnone] at hrest
      simpa [made, closings, inHand] using hrest
    | closed =>
      have hone : inHand os = true := hallowed
      rw [hone] at hrest
      simpa [made, closings, inHand] using hrest
    | opening | requested | heard | committed | emitted | observed | added | removed | called
    | looked | stopReturned => simpa [made, closings, inHand] using hrest

end

/-- At most one of the transports that were made is not closed, if all of them are tended. -/
theorem Tended.made_le {s : Cache} (h : Tended s) : made s.trace ≤ closings s.trace + 1 := by
  rw [h.1.made_eq]
  exact Nat.add_le_add_left (Bool.toNat_le _) _

/-! ## What the application does -/

/-- `t` comes after `s`, and nothing was done with a transport in between. -/
def Unhandled (s t : Cache) : Prop :=
  ∃ os, t.trace = os ++ s.trace ∧ ∀ o ∈ os, ¬o.IsTransport

section
variable {c d : Setup} {s t u : Cache} {o : OpenSession} {accepted : Prop} {opened : Bool}

/-- A cache that stays as it is handles no transport. -/
protected theorem Unhandled.refl (s : Cache) : Unhandled s s :=
  ⟨[], rfl, by simp⟩

/-- What handles no transport may be followed by what handles none. -/
protected theorem Unhandled.trans (h : Unhandled s t) (k : Unhandled t u) : Unhandled s u := by
  obtain ⟨os, hos, hnone⟩ := h
  obtain ⟨ps, hps, knone⟩ := k
  refine ⟨ps ++ os, by rw [hps, hos, List.append_assoc], fun o ho => ?_⟩
  exact (List.mem_append.1 ho).elim (knone o) (hnone o)

/-- Noting what is not done with a transport handles none. -/
theorem Unhandled.note (s : Cache) {o : Occurrence} (ho : ¬o.IsTransport) :
    Unhandled s (s.note o) :=
  ⟨[o], rfl, by simpa using ho⟩

/-- What is not done with a transport changes nothing of what was done with them. -/
theorem Handled.unhandled (h : Handled accepted opened s.trace) (k : Unhandled s t) :
    Handled accepted opened t.trace := by
  obtain ⟨os, hos, hnone⟩ := k
  rw [hos]
  clear hos
  induction os with
  | nil => exact h
  | cons o os ih =>
    obtain ⟨ho, hnone⟩ := List.forall_mem_cons.1 hnone
    exact .besides ho (ih hnone)

/-- Each thing that stopping does leaves the transports alone, but for cancelling the loop. -/
theorem marking_unhandled : Marking Unhandled where
  refl := .refl
  trans h k := h.trans k
  note s o ho := by
    cases o with
    | opening | connected | requested | closed => exact ho.elim
    | _ => exact .note s id
  add l s := .note s (o := .added l) id
  remove l s := by
    unfold removeListener
    split
    next => exact .note s (o := .removed l) id
    next => exact .refl s
  observers _ s := .refl s
  stop s := .note s id
  mark s := .refl s
  work s _ := .refl s
  stopped s := .note s id
  call s _ _ := .note s id

/-- The observers leave the transports alone when the loop tells them of an event. -/
theorem unhandled_emit (c : Setup) (e : Event) (s : Cache) : Unhandled s (emit c .pollLoop e s) :=
  (marking_unhandled.tolerant c).emitWith (.note s id)

/-- Counting a failure handles no transport. -/
theorem unhandled_fail (c : Setup) (b : Setback) (s : Cache) : Unhandled s (fail c b s).2 := by
  have hdraw (t : Cache) : Unhandled t t.draw.2 := by
    unfold draw
    split <;> exact .refl t
  have hannounce (t : Cache) : Unhandled t (announce c b t).2 :=
    (hdraw t).trans (unhandled_emit c _ _)
  unfold fail
  dsimp only
  split
  next =>
    split
    next => exact hannounce _
    next => exact hdraw _
  next => exact hannounce _

/-- A round from its beginning handles no transport. -/
theorem unhandled_notify (c : Setup) (snapshot : Snapshot) (s : Cache) :
    Unhandled s (notify c .pollLoop snapshot s).2 := by
  unfold notify
  split
  next => exact .refl s
  next => exact (marking_unhandled.tolerant c).notifyWith fun _ t _ _ => .note t id

/-- A round from where it was held up handles no transport. -/
theorem unhandled_release (c : Setup) (held : Held) (s : Cache) :
    Unhandled s (release c .pollLoop held s).2 :=
  (marking_unhandled.tolerant c).releaseWith held fun _ t _ _ => .note t id

/-- Each thing that stopping does attends to the session, cancelling the loop included. -/
theorem halting_attends (c : Setup) : Halting fun s t => Attends c s → Attends c t where
  refl _ := id
  trans h k hs := k (h hs)
  note s o ho h := h.unhandled (marking_unhandled.note s o ho)
  add l s h := h.unhandled (marking_unhandled.add l s)
  remove l s h := by
    have hremoved := Handled.unhandled h (marking_unhandled.remove l s)
    unfold removeListener at hremoved ⊢
    split
    next registry heq =>
      rw [heq] at hremoved
      exact hremoved
    next => exact h
  observers _ _ h := h
  stop _ h := .besides id h
  mark _ h := h
  work _ _ h := h
  stopped _ h := .besides id h
  call _ _ _ h := .besides id h
  cancel s h := by
    unfold Attends at h ⊢
    unfold cancelLoop
    split
    next hloop => rw [hloop] at h; exact .closed h
    next hloop => rw [hloop] at h; exact .closed h
    next hloop => rw [hloop] at h; exact .closed h
    next hloop => rw [hloop] at h; exact h
    next hloop => rw [hloop] at h; exact h
    all_goals exact h

/-! ## Where the loop goes -/

/-- The loop closes the session of a stopped cache where it leaves it. -/
theorem attends_leave (h : Handled c.client.IsAccepted true s.trace) : Attends c (leave s) :=
  .closed h

/-- The loop keeps its session over a pause. -/
theorem attends_pause (o : OpenSession) (delay : Float)
    (h : Handled c.client.IsAccepted true s.trace) : Attends c (pause o delay s) := by
  unfold pause
  split
  next => exact attends_leave h
  next =>
    unfold Attends
    dsimp only
    split <;> exact h

/-- The loop keeps its session over a pause after a failure. -/
theorem attends_setBack (o : OpenSession) (b : Setback)
    (h : Handled c.client.IsAccepted true s.trace) : Attends c (setBack d o b s) :=
  attends_pause o _ (h.unhandled (unhandled_fail d b s))

/-- A loop without a session goes on without one after a failure. -/
theorem attends_retreat (f : Failure) (h : Handled c.client.IsAccepted false s.trace) :
    Attends c (retreat d f s) := by
  have hfailed := h.unhandled (unhandled_fail d { failure := f } s)
  unfold Attends retreat
  dsimp only
  split
  next => exact hfailed
  next => split <;> exact hfailed

/-- The loop, where a round leaves it. -/
theorem attends_looped (o : OpenSession) (delay : Float) {round : Option Held × Cache}
    (h : Handled c.client.IsAccepted true round.2.trace) : Attends c (looped o delay round) := by
  obtain ⟨_ | held, t⟩ := round
  · exact attends_pause o delay h
  · exact h

/-- The worker, where a round leaves it. -/
theorem attends_worked {round : Option Held × Cache} (h : Attends c round.2) :
    Attends c (worked round) := by
  obtain ⟨_ | held, t⟩ := round <;> exact h

/-- The loop keeps its session while the listeners are called. -/
theorem attends_deliver (o : OpenSession) (snapshot : Snapshot) (delay : Float)
    (h : Handled c.client.IsAccepted true s.trace) :
    Attends c (deliver d o snapshot delay s) := by
  unfold deliver
  split
  next => exact attends_leave h
  next =>
    split
    next =>
      exact attends_pause
        (s := { s with worker := { s.worker with queue := s.worker.queue ++ [snapshot] } })
        o delay h
    next => exact attends_looped o delay (h.unhandled (unhandled_notify d snapshot s))

/-- The loop keeps its session when it takes up an answer. -/
theorem attends_accept (o : OpenSession) (a : Answer)
    (h : Handled c.client.IsAccepted true s.trace) : Attends c (accept d o a s) := by
  unfold accept
  dsimp only
  split
  next =>
    have hreset : Handled c.client.IsAccepted true ({ s with errorCount := 0 } : Cache).trace := h
    exact attends_pause o _ (hreset.unhandled (unhandled_emit d _ _))
  next =>
    have hcollected :=
      h.unhandled ((marking_unhandled.tolerant d).collect a.dataset .empty s)
    generalize collect d a.dataset .empty s = collected at hcollected ⊢
    obtain ⟨f | entries, t⟩ := collected
    · exact attends_setBack o _ hcollected
    · let new : Snapshot :=
        { entries, index := a.index, knownLeader := a.knownLeader,
          lastContactMs := a.lastContactMs }
      have hcommit : Handled c.client.IsAccepted true (commit new t).trace :=
        .besides (o := .committed new) id hcollected
      exact attends_deliver o _ _ (hcommit.unhandled (unhandled_emit d _ _))

/-- The loop keeps its session when it takes up what became of a query. -/
theorem attends_conclude (o : OpenSession) (p : Progress)
    (h : Handled c.client.IsAccepted true s.trace) : Attends c (conclude d o s p) := by
  cases p with
  | sent x => exact .requested x.request h
  | failed f => exact attends_setBack o _ h
  | answered r =>
    unfold conclude
    dsimp only
    split
    next => exact attends_setBack _ _ h
    next a _ =>
      split
      next => exact attends_setBack _ _ h
      next => exact attends_accept _ a (.besides (o := .heard a) id h)

/-! ## What the loop does on its own -/

/-- The loop keeps its session when it sends a query. -/
theorem attends_query (o : OpenSession) (h : Handled c.client.IsAccepted true s.trace) :
    Attends c (query d o s) := by
  unfold query
  dsimp only
  split
  next => exact attends_setBack o _ h
  next r _ =>
    generalize Exchange.start s.now s.policy o.session.layers r = started
    obtain ⟨progress, policy⟩ := started
    exact attends_conclude (s := { s with policy }) o progress h

/-- Polling. A session that is broken off is closed before the failure is counted. -/
theorem attends_poll (o : OpenSession) (h : Handled c.client.IsAccepted true s.trace) :
    Attends c (poll d o s) := by
  unfold poll
  split
  next => exact attends_query o h
  next =>
    split
    next f q _ =>
      exact attends_retreat (s := ({ s with policy := some q } : Cache).note .closed) _ (.closed h)
    next q _ => exact attends_setBack (s := { s with policy := some q }) o _ h
    next q _ => exact attends_query (s := { s with policy := some q }) o h

/-- Opening a session. If none can be built on the transport, that one is lost. -/
theorem attends_openSession (hv : c.Varies d) (h : Handled c.client.IsAccepted false s.trace) :
    Attends c (openSession d s) := by
  have hbuilt := Session.exists_ofClient_iff c.client s.policy.isSome c.config.adjustment
  let opening : Cache := { s.note .opening with sessions := s.sessions + 1 }
  have hopening : Handled c.client.IsAccepted false opening.trace := .opening h
  unfold openSession
  dsimp only
  split
  next f _ => exact attends_retreat (s := opening) f hopening
  next =>
    rw [hv.client, hv.config]
    split
    next f hrefused =>
      have hna : ¬c.client.IsAccepted := fun ha => by
        obtain ⟨session, hsession⟩ := hbuilt.2 ha
        cases hrefused.symm.trans hsession
      exact attends_retreat (s := opening.note .connected) f (.lost hna hopening)
    next session hsession => exact .connected (hbuilt.1 ⟨session, hsession⟩) hopening

/-- What the loop does where it need not wait. -/
theorem attends_turn (hv : c.Varies d) (h : Attends c s) : Attends c (turn d s) := by
  unfold turn
  split
  next hloop =>
    have hfree : Handled c.client.IsAccepted false s.trace := by
      rw [Attends, hloop] at h
      exact h
    split
    next => exact hfree
    next => exact attends_openSession hv hfree
  next o hloop =>
    have hopen : Handled c.client.IsAccepted true s.trace := by
      rw [Attends, hloop] at h
      exact h
    split
    next => exact attends_leave hopen
    next => exact attends_poll o hopen
  next => exact h

/-! ## Runs -/

/-- Every step attends to the session. -/
theorem attends_step {heard : Option Answer} (hv : c.Varies d) (hidle : s.Idle) (h : Attends c s)
    (hstep : Step d s heard t) : Attends c t := by
  have houtside := (halting_attends c).tolerant d .outside
  have hworker := (halting_attends c).tolerant d .worker
  unfold Attends at h
  cases hstep with
  | start hn =>
    rw [hidle hn] at h
    have hopening : Attends c { s with lifecycle := .starting, loop := .opening } := h
    exact houtside.emitWith (fun hs => Handled.besides id hs) hopening
  | stop => exact houtside.stop s h
  | turn => exact attends_turn hv h
  | @receive _ o x outcome hloop =>
    rw [hloop] at h
    exact attends_conclude (s := { s with policy := (x.receive s.now s.policy outcome).2 }) o _ h
  | @wake _ delay o hloop =>
    rw [hloop] at h
    cases o <;> exact h
  | @goOn _ o held delay hloop =>
    rw [hloop] at h
    exact attends_looped o delay (Handled.unhandled h (unhandled_release d held s))
  | @goOnWorking _ held _ =>
    have hfree : Attends c { s with worker := { s.worker with held := none } } := h
    exact attends_worked
      (hworker.releaseWith held (fun _ _ _ _ ht => Handled.besides id ht) hfree)
  | @workOn _ snapshot queue _ =>
    have hfree : Attends c { s with worker := { held := none, queue } } := h
    refine attends_worked ?_
    unfold notify
    split
    next => exact hfree
    next => exact hworker.notifyWith (fun _ _ _ _ ht => Handled.besides id ht) hfree
  | addListener l => exact houtside.add l s h
  | removeListener l => exact houtside.remove l s h
  | observers | surround => exact h

/-- After a run what the cache did with its transports leads to where its loop is. -/
theorem attends_of_run {as : List Answer} (h : Run c as s) : Attends c s := by
  obtain ⟨left, h⟩ := h
  refine (h.keep (P := fun as s => Run c as s ∧ Attends c s) (l := []) ?_
    ⟨⟨left, .refl⟩, .nil⟩).2
  intro d as s heard t hv hs hstep
  exact ⟨hs.1.steps (.tail .refl hv hstep), attends_step hv (idle_of_run hs.1) hs.2 hstep⟩

/-- In every run the transports are tidied up, each closed once, before the next session and before
the end of the loop, and none asked after it was closed, if and only if the client is accepted or no
transport was made. A client that is not accepted loses each transport that is made: no session is
ever built on one, none is closed and none gets a request. At any moment an accepted client has
closed as many transports as it made, but for the one in hand. -/
theorem tended_iff_of_run {as : List Answer} (h : Run c as s) :
    (Tended s ↔ c.client.IsAccepted ∨ .connected ∉ s.trace) ∧
    (¬c.client.IsAccepted → .closed ∉ s.trace ∧ (∀ r, .requested r ∉ s.trace) ∧
      s.loop.session? = none) ∧
    (c.client.IsAccepted → ∀ os, os <:+ s.trace → made os = closings os + (inHand os).toNat) := by
  have hattends : Handled c.client.IsAccepted s.loop.session?.isSome s.trace := attends_of_run h
  refine ⟨⟨fun htended => ?_, fun hfine => hattends.tidy hfine⟩, fun hna => ?_, fun ha os hos => ?_⟩
  · by_contra hlost
    obtain ⟨hna, hmade⟩ := not_or.1 hlost
    obtain ⟨hnone, hclosed, -⟩ := hattends.lost_all hna
    have hin : inHand s.trace = true := inHand_of_connected (not_not.1 hmade) hclosed
    rw [htended.2, hnone] at hin
    cases hin
  · obtain ⟨hnone, hclosed, hrequested⟩ := hattends.lost_all hna
    exact ⟨hclosed, hrequested, Option.not_isSome_iff_eq_none.1 (Bool.eq_false_iff.1 hnone)⟩
  · have htidy : Tidy s.trace := (hattends.tidy (.inl ha)).1
    exact Tidy.made_eq (always_iff.2 fun o before hbefore => htidy.of_suffix (hbefore.trans hos))

end

end Cache

/-- In every run of a cache of the setup the transports are tended. -/
def Setup.TendsTransports (c : Setup) : Prop :=
  ∀ as s, Cache.Run c as s → s.Tended

/-- The sample with a URL whose host is neither an address nor a name. -/
def Setup.unbuildable : Setup :=
  { Setup.sample with client := { Setup.sample.client with baseUrl := "http://1.2.3.256" } }

/-- The unbuildable sample after it was started and woken once. -/
def Cache.unbuilt : Cache :=
  after .unbuildable [.start, .wake none] (create { now := 0, draws := [], policy := none })

/-- The sample with a policy that failed when it was asked at first whether there is a target, and
not again. It gave up a session, waited for the delay and opened another one. -/
def Cache.reopened : Cache :=
  after .sample [.setFaulty (some .viability), .start, .setFaulty none, .wake none]
    (create { now := 0, draws := [], policy := some {
      strategy := { targets := [⟨"a", 8500⟩], window := 60 } } })

namespace Cache

/-- The client of the sample is accepted. Its first transport is closed, and the next one, which
gets a request, is in hand. -/
theorem tended_iff_of_run_sample : ∃ as, Run .sample as reopened ∧ reopened.Tended ∧
    made reopened.trace = 2 ∧ closings reopened.trace = 1 ∧ inHand reopened.trace = true ∧
    (reopened.trace.filterMap Occurrence.request?).length = 1 := by
  obtain ⟨as, h⟩ := run_after .sample _ _
  obtain ⟨htended, -, hclosings⟩ := tended_iff_of_run (s := reopened) h
  have haccepted : Setup.sample.client.IsAccepted := by
    refine (Session.exists_ofClient_iff _ false Setup.sample.config.adjustment).1 ?_
    have hbuilt : (Session.ofClient Setup.sample.client false
        Setup.sample.config.adjustment).toOption.isSome = true := by decide +kernel
    cases hsession : Session.ofClient Setup.sample.client false Setup.sample.config.adjustment with
    | ok session => exact ⟨session, rfl⟩
    | error f =>
      rw [hsession] at hbuilt
      cases hbuilt
  have hmade : made reopened.trace = 2 := by decide +kernel
  have hin : inHand reopened.trace = true := by decide +kernel
  have hone := hclosings haccepted reopened.trace (List.suffix_refl _)
  rw [hmade, hin] at hone
  have hasked : (reopened.trace.filterMap Occurrence.request?).length = 1 := by decide +kernel
  have hclosed : closings reopened.trace = 1 := by simpa using hone.symm
  exact ⟨as, h, htended.2 (.inl haccepted), hmade, hclosed, hin, hasked⟩

/-- No session can be built for the URL, and both transports that were made are lost. -/
theorem not_tendsTransports_of_unbuildable : ¬Setup.unbuildable.TendsTransports := by
  intro hall
  obtain ⟨as, h⟩ : ∃ as, Run .unbuildable as unbuilt := run_after ..
  have hmade : made unbuilt.trace = 2 := by decide +kernel
  have hclosings : closings unbuilt.trace = 0 := by decide +kernel
  have hle := (hall as unbuilt h).made_le
  rw [hmade, hclosings] at hle
  exact absurd hle (by decide)

end Cache

end BlockingQuery
