import BlockingQuery.Cache.Command
import BlockingQuery.Proofs.Cache.Reaction
import BlockingQuery.Proofs.Cache.Keyed

/-!
# What the poll loop does in between

`Quiet s t` says that no answer was taken up between `s` and `t`, that no snapshot was committed,
and that no call of a listener began. All that the loop does on its own is quiet: opening and
closing sessions, sending queries, failing and pausing (`quiet_turn`), and so is the taking of keys
from an answer (`reacts_collect`). What is left is in `conclude_cases` and `accept_cases`: an answer
with an index comes in, and it makes a new snapshot when its dataset can be keyed and its index is
above the present one.
-/

namespace BlockingQuery

/-- What can happen while no answer is taken up and no listener is called. A look at the cache
finds the snapshot `snapshot`. -/
def Occurrence.IsQuiet (snapshot : Snapshot) : Occurrence → Prop
  | .heard _ | .committed _ | .called .. => False
  | .looked _ seen => seen.snapshot = snapshot
  | _ => True

/-- What happens while the application reacts is quiet. -/
theorem Occurrence.IsReaction.isQuiet {snapshot : Snapshot} {o : Occurrence}
    (h : o.IsReaction snapshot) : o.IsQuiet snapshot := by
  cases o with
  | heard | committed | called => exact h.elim
  | looked => exact h
  | _ => trivial

/-- The round that a loop waits for. -/
def Loop.held? : Loop → Option Held
  | .notifying _ h _ => some h
  | _ => none

/-- The query that a loop waits for, and the session that it is made in. -/
def Loop.awaited? : Loop → Option (OpenSession × Exchange)
  | .awaiting o x => some (o, x)
  | _ => none

/-- A loop that waits for a query is awaiting it. -/
theorem Loop.eq_of_awaited? {loop : Loop} {o : OpenSession} {x : Exchange}
    (h : loop.awaited? = some (o, x)) : loop = .awaiting o x := by
  cases loop <;> cases h
  rfl

/-- The answer that comes of a query: what the session reads in a response, if that has an index.
-/
def Session.heard? (session : Session) : Progress → Option Answer
  | .answered r => (session.receive r).1.toOption.filter fun a => a.index.isSome
  | .sent _ | .failed _ => none

namespace Cache

/-- `t` comes after `s`, and in between no answer was taken up and no call of a listener began. -/
structure Quiet (s t : Cache) : Prop extends Follows (fun i o => o.IsQuiet i) s t where
  /-- Only stopping ends a round, and only stopping changes what the worker has to do. -/
  waits : t.isStopped = true ∨ t.loop.held? = s.loop.held? ∧ t.worker = s.worker

/-- The loop does not wait for a round, unless the cache is stopped. -/
def IsFree (s : Cache) : Prop :=
  s.isStopped = true ∨ s.loop.held? = none

/-- What the application does is quiet. -/
theorem Reacts.quiet {s t : Cache} (h : Reacts s t) : Quiet s t where
  toFollows := h.toFollows.mono fun _ _ ho => ho.isQuiet
  waits := h.waits.imp_right fun ⟨hl, hw⟩ => ⟨congrArg _ hl, hw⟩

namespace Quiet

variable {s t u : Cache}

/-- A cache that stays as it is is quiet. -/
protected theorem refl (s : Cache) : Quiet s s :=
  (Reacts.refl s).quiet

/-- What is quiet may be followed by what is quiet. -/
protected theorem trans (h : Quiet s t) (k : Quiet t u) : Quiet s u where
  toFollows := h.toFollows.trans k.toFollows
  waits := by
    rcases h.waits with hs | ⟨hl, hw⟩
    · exact .inl (k.isStopped hs)
    · rcases k.waits with ht | ⟨kl, kw⟩
      · exact .inl ht
      · exact .inr ⟨kl.trans hl, kw.trans hw⟩

/-- A free loop stays free. -/
theorem isFree (h : Quiet s t) (hs : s.IsFree) : t.IsFree := by
  rcases hs with hs | hs
  · exact .inl (h.isStopped hs)
  · exact h.waits.imp_right fun ⟨hl, _⟩ => hl.trans hs

/-- Noting something that neither registers nor removes a listener is quiet. -/
theorem note (s : Cache) (o : Occurrence) (ho : o.IsQuiet s.snapshot)
    (hr : s.registry.after o = s.registry) : Quiet s (s.note o) where
  snapshot := rfl
  initialized := rfl
  lifecycle := .inl rfl
  grown := ⟨[o], rfl, by simpa using ho, hr.symm⟩
  waits := .inr ⟨rfl, rfl⟩
  told := .inl

/-- Clocks, draws, policies and counts are the loop's own. -/
theorem counted (s : Cache) (left : Surroundings) (errors sessions : Nat) :
    Quiet s { s with toSurroundings := left, errorCount := errors, sessions } where
  snapshot := rfl
  initialized := rfl
  lifecycle := .inl rfl
  grown := ⟨[], rfl, by simp, rfl⟩
  waits := .inr ⟨rfl, rfl⟩
  told := .inl

/-- A loop that does not wait for a round may quietly go wherever it does not wait for one. -/
theorem moved (hs : s.IsFree) {l : Loop} (hl : l.held? = none) : Quiet s { s with loop := l } where
  snapshot := rfl
  initialized := rfl
  lifecycle := .inl rfl
  grown := ⟨[], rfl, by simp, rfl⟩
  waits := hs.imp_right fun h => ⟨hl.trans h.symm, rfl⟩
  told := .inl

end Quiet

variable {s : Cache}

/-! ## Failures -/

/-- Drawing a random number is quiet. -/
theorem quiet_draw (s : Cache) : Quiet s s.draw.2 := by
  unfold draw
  split
  · exact .refl s
  · exact .counted s _ s.errorCount s.sessions

/-- Reckoning the delay after a failure is quiet. -/
theorem quiet_backoff (c : Setup) (s : Cache) : Quiet s (backoff c s).2 :=
  quiet_draw s

/-- Telling the observers of a failure is quiet. -/
theorem quiet_announce (c : Setup) (b : Setback) (s : Cache) : Quiet s (announce c b s).2 :=
  (quiet_backoff c s).trans (reacts_emit c .pollLoop _ _).quiet

/-- Counting a failure is quiet. -/
theorem quiet_fail (c : Setup) (b : Setback) (s : Cache) : Quiet s (fail c b s).2 := by
  unfold fail
  dsimp only
  split
  next t p _ _ =>
    split
    next q _ => exact (Quiet.counted s _ (s.errorCount + 1) s.sessions).trans (quiet_announce c b _)
    next q _ =>
      exact (Quiet.counted s _ (s.errorCount + 1 + 1) s.sessions).trans (quiet_backoff c _)
  next => exact (Quiet.counted s _ (s.errorCount + 1) s.sessions).trans (quiet_announce c b _)

/-! ## Where the loop goes on -/

/-- Leaving the loop is quiet, unless a round is cut short. -/
theorem quiet_leave (h : s.IsFree) : Quiet s (leave s) :=
  (Quiet.note s .closed trivial rfl).trans (.moved (s := s.note .closed) h rfl)

/-- Where the loop was makes no difference to a pause. -/
theorem pause_loop (o : OpenSession) (delay : Float) (l : Loop) (s : Cache) :
    pause o delay { s with loop := l } = pause o delay s := by
  have hstopped : ({ s with loop := l } : Cache).isStopped = s.isStopped := rfl
  unfold pause
  rw [hstopped]
  split <;> rfl

/-- Pausing between two polls is quiet. -/
theorem quiet_pause (o : OpenSession) (delay : Float) (h : s.IsFree) :
    Quiet s (pause o delay s) := by
  unfold pause
  split
  · exact quiet_leave h
  · refine .moved h ?_
    split <;> rfl

/-- Pausing after a failure without a session is quiet. -/
theorem quiet_retreat (c : Setup) (f : Failure) (h : s.IsFree) : Quiet s (retreat c f s) := by
  have hf := quiet_fail c { failure := f } s
  unfold retreat
  generalize fail c { failure := f } s = failed at hf ⊢
  refine hf.trans (.moved (hf.isFree h) ?_)
  split
  · rfl
  · split <;> rfl

/-- Pausing after a failure is quiet. -/
theorem quiet_setBack (c : Setup) (o : OpenSession) (b : Setback) (h : s.IsFree) :
    Quiet s (setBack c o b s) := by
  have hf := quiet_fail c b s
  exact hf.trans (quiet_pause o _ (hf.isFree h))

/-- Giving up a session is quiet. -/
theorem quiet_breakOff (c : Setup) (o : OpenSession) (f : Failure) (h : s.IsFree) :
    Quiet s (breakOff c o f s) :=
  (Quiet.note s .closed trivial rfl).trans (quiet_retreat c _ (s := s.note .closed) h)

/-! ## Answers -/

/-- A relation that holds of what the application does holds of taking the keys from an answer. -/
theorem Tolerant.collect {c : Setup} {R : Cache → Cache → Prop}
    (h : Tolerant (Cache.stop c .pollLoop) R) (vs : List Json) (es : Entries) (s : Cache) :
    R s (Cache.collect c vs es s).2 := by
  induction vs generalizing es s with
  | nil => exact h.refl s
  | cons v vs ih =>
    have hstop : R s (if (c.extract v).stops then (Cache.stop c .pollLoop s).2 else s) := by
      split
      · exact h.stop s
      · exact h.refl s
    unfold Cache.collect
    dsimp only
    split
    next => exact hstop
    next k _ =>
      split
      next => exact hstop
      next k _ => exact h.trans hstop (ih _ _)

/-- Taking the keys from an answer is something that the application does. -/
theorem reacts_collect (c : Setup) (vs : List Json) (es : Entries) (s : Cache) :
    Reacts s (collect c vs es s).2 :=
  (tolerant_reacts (reacts_stop c .pollLoop)).collect vs es s

/-- An answer changes nothing, or it is adopted: a snapshot is committed, the observers are told,
and the listeners are to be called. -/
theorem accept_cases (c : Setup) (o : OpenSession) {a : Answer} (ha : a.index.isSome)
    (h : s.IsFree) :
    (c.adopted? s.snapshot a = none ∧ Quiet s (accept c o a s)) ∨
      ∃ new t, c.adopted? s.snapshot a = some new ∧ Quiet s t ∧
        accept c o a s = deliver c o new (pauseAfter c.config a)
          (emit c .pollLoop (.changed a.index new.entries.size a.target) (commit new t)) := by
  have hbelow := s.snapshot.isBelow_eq ha
  by_cases hold : (s.snapshot.available && !indexIncreased s.snapshot.index a.index) = true
  · have hemit := (Quiet.counted s s.toSurroundings 0 s.sessions).trans
      (reacts_emit c .pollLoop (.unchanged a.index) _).quiet
    refine .inl ⟨by simp [Setup.adopted?, hbelow, hold], ?_⟩
    unfold accept
    rw [if_pos hold]
    exact hemit.trans (quiet_pause o _ (hemit.isFree h))
  · have hq := (reacts_collect c a.dataset .empty s).quiet
    have hk := collect_eq c a.dataset s
    have hnew : s.snapshot.isBelow a = true := by
      rw [hbelow, Bool.not_eq_true', Bool.eq_false_iff]
      exact hold
    unfold accept Setup.adopted? Setup.snapshotOf
    rw [if_neg hold, if_pos hnew]
    generalize collect c a.dataset .empty s = collected at hq hk ⊢
    obtain ⟨r, t⟩ := collected
    dsimp only at hq hk
    cases hkeyed : c.keyed a.dataset with
    | error f =>
      obtain rfl : r = .error f := by rw [hk, hkeyed]; rfl
      exact .inl ⟨rfl, hq.trans (quiet_setBack c o _ (hq.isFree h))⟩
    | ok es =>
      obtain rfl : r = .ok (.ofList es) := by rw [hk, hkeyed]; rfl
      exact .inr ⟨_, t, rfl, hq, rfl⟩

/-! ## Queries -/

/-- What becomes of a query is quiet, unless it is an answer, which is taken up. -/
theorem conclude_cases (c : Setup) (o : OpenSession) (p : Progress) (h : s.IsFree) :
    (o.session.heard? p = none ∧ Quiet s (conclude c o s p)) ∨
      ∃ a o', o.session.heard? p = some a ∧ a.index.isSome ∧
        conclude c o s p = accept c o' a (s.note (.heard a)) := by
  cases p with
  | sent x => exact .inl ⟨rfl, (Quiet.note s (.requested x.request) trivial rfl).trans
      (.moved (s := s.note (.requested x.request)) h rfl)⟩
  | failed f => exact .inl ⟨rfl, quiet_setBack c o _ h⟩
  | answered r =>
    unfold conclude Session.heard?
    dsimp only
    generalize o.session.receive r = received
    obtain ⟨answer, session⟩ := received
    dsimp only
    cases answer with
    | error f => exact .inl ⟨rfl, quiet_setBack c _ _ h⟩
    | ok a =>
      cases hi : a.index with
      | none =>
        refine .inl ⟨by simp [Except.toOption, hi], ?_⟩
        simpa [hi] using quiet_setBack c _ _ h
      | some i =>
        exact .inr ⟨a, { o with session }, by simp [Except.toOption, hi], by simp [hi],
          by simp [hi]⟩

/-- A request that is taken down the layers is not answered on the way. -/
theorem start_ne_answered (now : Float) (policy : Option (Policy Float)) (layers : List Layer)
    (r : Request) (answer : Response) :
    (Exchange.start now policy layers r).1 ≠ .answered answer := by
  induction layers generalizing policy r with
  | nil => simp [Exchange.start]
  | cons l below ih =>
    cases l with
    | adjusting a =>
      rw [Exchange.start]
      split
      next => simp
      next r' _ => exact ih policy r'
    | failover =>
      cases policy with
      | none => simp [Exchange.start]
      | some p =>
        rw [Exchange.start]
        split
        next => simp
        next stage t q _ =>
          have hbelow := ih (some q) stage
          split
          next => simp
          next => exact hbelow

/-- Sending a query is quiet. -/
theorem quiet_query (c : Setup) (o : OpenSession) (h : s.IsFree) : Quiet s (query c o s) := by
  unfold query
  dsimp only
  split
  next => exact quiet_setBack c o _ h
  next r _ =>
    have hna := start_ne_answered s.now s.policy o.session.layers r
    generalize Exchange.start s.now s.policy o.session.layers r = started at hna ⊢
    obtain ⟨progress, policy⟩ := started
    have hp := Quiet.counted s { s.toSurroundings with policy } s.errorCount s.sessions
    cases progress with
    | answered answer => exact absurd rfl (hna answer)
    | sent x =>
      exact hp.trans ((Quiet.note _ (.requested x.request) trivial rfl).trans
        (.moved (s := { s with policy }.note (.requested x.request)) h rfl))
    | failed f => exact hp.trans (quiet_setBack c o _ (hp.isFree h))

/-- Polling is quiet. -/
theorem quiet_poll (c : Setup) (o : OpenSession) (h : s.IsFree) : Quiet s (poll c o s) := by
  have asked (q : Policy Float) : Quiet s { s with policy := some q } :=
    .counted s { s.toSurroundings with policy := some q } s.errorCount s.sessions
  unfold poll
  split
  next => exact quiet_query c o h
  next p _ =>
    split
    next f q _ => exact (asked q).trans (quiet_breakOff c o f ((asked q).isFree h))
    next q _ => exact (asked q).trans (quiet_setBack c o _ ((asked q).isFree h))
    next q _ => exact (asked q).trans (quiet_query c o ((asked q).isFree h))

/-- Opening a session is quiet. -/
theorem quiet_openSession (c : Setup) (h : s.IsFree) : Quiet s (openSession c s) := by
  have hopening : Quiet s { s.note .opening with sessions := s.sessions + 1 } :=
    (Quiet.note s .opening trivial rfl).trans
      (.counted _ s.toSurroundings s.errorCount (s.sessions + 1))
  unfold openSession
  dsimp only
  split
  next f _ => exact hopening.trans (quiet_retreat c f (hopening.isFree h))
  next =>
    have hconnected := hopening.trans (Quiet.note _ .connected trivial rfl)
    split
    next f _ => exact hconnected.trans (quiet_retreat c f (hconnected.isFree h))
    next session _ => exact hconnected.trans (.moved (hconnected.isFree h) rfl)

/-! ## Turns -/

/-- What the loop does where it need not wait is quiet. -/
theorem quiet_turn (c : Setup) (s : Cache) : Quiet s (turn c s) := by
  unfold turn
  split
  next hl =>
    have h : s.IsFree := .inr (by rw [hl]; rfl)
    split
    · exact .moved h rfl
    · exact quiet_openSession c h
  next o hl =>
    have h : s.IsFree := .inr (by rw [hl]; rfl)
    split
    · exact quiet_leave h
    · exact quiet_poll c o h
  next => exact .refl s

end Cache

end BlockingQuery
