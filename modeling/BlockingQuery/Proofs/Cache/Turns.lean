import BlockingQuery.Proofs.Cache.Delivery
import BlockingQuery.Proofs.Cache.Moves

/-!
# Every step is one thing after the other

The poll loop, the rounds of listeners and the worker come down to the doings of `Doing`, from a
cache that was begun (`Proceeds`). `doings_step` puts that together for the steps of a run, and
`moves_steps` takes the doings apart into moves. What begins needs a cache that is not stopped;
the loop looks before it opens a session or sends a query, and when it waits for the transport the
cache is not stopped at all (`Steady`).
-/

namespace BlockingQuery.Cache

open Relation (ReflTransGen)

/-- A cache that was begun comes to be as it is by doings. -/
def Proceeds (c : Setup) (s t : Cache) : Prop :=
  s.Begun → Doings c s t

section
variable {c : Setup} {place : Place} {s t u : Cache}

/-- Doings do not undo the beginning. -/
theorem begun_doings (hs : s.Begun) (h : Doings c s t) : t.Begun := by
  induction h with
  | refl => exact hs
  | tail _ hlast ih => exact begun_doing ih hlast

/-- A cache that stays as it is proceeds by doings. -/
protected theorem Proceeds.refl (s : Cache) : Proceeds c s s :=
  fun _ => .refl

/-- Doings may follow doings. -/
protected theorem Proceeds.trans (h : Proceeds c s t) (k : Proceeds c t u) : Proceeds c s u :=
  fun hs => (h hs).trans (k (begun_doings hs (h hs)))

/-- A single deed is a doing. -/
theorem Proceeds.deed (h : s.Begun → Deed s t) : Proceeds c s t :=
  fun hs => .single (.deed (h hs))

/-- What may be noted at any time is noted by a doing. -/
theorem Proceeds.note (s : Cache) {o : Occurrence} (ho : o.IsPassing s) : Proceeds c s (s.note o) :=
  .deed fun hs => .note ho hs

/-- What begins in a cache that is not stopped. -/
theorem Proceeds.begins {o : Occurrence} (ho : o.Begins) (hgo : s.isStopped = false) :
    Proceeds c s (s.note o) :=
  .deed fun hs => .begins ho hs hgo

/-- The loop goes to another place, and counts, by a doing. -/
theorem Proceeds.turns (s : Cache) (left : Surroundings) (errors sessions : Nat) (loop : Loop) :
    Proceeds c s { s with toSurroundings := left, errorCount := errors, sessions, loop } :=
  .deed fun _ => .turns left errors sessions loop fun _ => List.suffix_refl _

/-- What the application does is doings. -/
theorem tolerant_proceeds (c : Setup) (place : Place) : Tolerant (stop c place) (Proceeds c) where
  refl := .refl
  trans h k := h.trans k
  note s _ ho := .note s ho.isPassing
  add l s := .deed fun _ => .add l s
  remove l s := .deed fun _ => .remove l s
  observers os s := .deed fun _ => .observers os s
  stop s := fun _ => .single (.stop place s)

/-- What the observers do is doings. -/
theorem proceeds_emit (c : Setup) (place : Place) {e : Event} (he : e ≠ .started ∧ e ≠ .stopped)
    (s : Cache) : Proceeds c s (emit c place e s) :=
  (tolerant_proceeds c place).emitWith (.note s he)

/-- A round from its beginning is doings. -/
theorem proceeds_notify (c : Setup) (place : Place) (snapshot : Snapshot) (s : Cache) :
    Proceeds c s (notify c place snapshot s).2 := by
  unfold notify
  split
  next => exact .refl s
  next => exact (tolerant_proceeds c place).notifyWith fun _ _ _ hgo => .begins trivial hgo

/-- A round from where it was held up is doings. -/
theorem proceeds_release (c : Setup) (place : Place) (held : Held) (s : Cache) :
    Proceeds c s (release c place held s).2 :=
  (tolerant_proceeds c place).releaseWith held fun _ _ _ hgo => .begins trivial hgo

/-! ## Failures -/

/-- Drawing a random number is a doing. -/
theorem proceeds_draw (s : Cache) : Proceeds c s s.draw.2 := by
  unfold draw
  split
  next => exact .refl s
  next => exact .turns s _ s.errorCount s.sessions s.loop

/-- Telling the observers of a failure is doings. -/
theorem proceeds_announce (c : Setup) (b : Setback) (s : Cache) :
    Proceeds c s (announce c b s).2 :=
  (proceeds_draw s).trans
    (proceeds_emit c .pollLoop (e := .failed b.failure _ _ b.fatal) ⟨nofun, nofun⟩ _)

/-- Counting a failure is doings. -/
theorem proceeds_fail (c : Setup) (b : Setback) (s : Cache) : Proceeds c s (fail c b s).2 := by
  have counted (left : Surroundings) (errors : Nat) :
      Proceeds c s { s with toSurroundings := left, errorCount := errors } :=
    .turns s left errors s.sessions s.loop
  unfold fail
  dsimp only
  split
  next =>
    split
    next => exact (counted _ (s.errorCount + 1)).trans (proceeds_announce c b _)
    next => exact (counted _ (s.errorCount + 1 + 1)).trans (proceeds_draw _)
  next => exact (counted s.toSurroundings (s.errorCount + 1)).trans (proceeds_announce c b _)

/-! ## Where the loop goes on -/

/-- Leaving the loop is doings. -/
theorem proceeds_leave (s : Cache) : Proceeds c s (leave s) :=
  (Proceeds.note s (o := .closed) trivial).trans
    (.turns (s.note .closed) s.toSurroundings s.errorCount s.sessions .ended)

/-- Pausing between two polls is doings. -/
theorem proceeds_pause (o : OpenSession) (delay : Float) (s : Cache) :
    Proceeds c s (pause o delay s) := by
  unfold pause
  split
  next => exact proceeds_leave s
  next => exact .turns s s.toSurroundings s.errorCount s.sessions _

/-- Pausing after a failure without a session is doings. -/
theorem proceeds_retreat (c : Setup) (f : Failure) (s : Cache) : Proceeds c s (retreat c f s) :=
  (proceeds_fail c { failure := f } s).trans (.turns _ _ _ _ _)

/-- Pausing after a failure is doings. -/
theorem proceeds_setBack (c : Setup) (o : OpenSession) (b : Setback) (s : Cache) :
    Proceeds c s (setBack c o b s) :=
  (proceeds_fail c b s).trans (proceeds_pause o _ _)

/-- Giving up a session is doings. -/
theorem proceeds_breakOff (c : Setup) (o : OpenSession) (f : Failure) (s : Cache) :
    Proceeds c s (breakOff c o f s) :=
  (Proceeds.note s (o := .closed) trivial).trans (proceeds_retreat c _ _)

/-- The loop, where a round leaves it. -/
theorem proceeds_looped (o : OpenSession) (delay : Float) {round : Option Held × Cache}
    (h : Proceeds c s round.2) : Proceeds c s (looped o delay round) := by
  obtain ⟨_ | held, t⟩ := round
  · exact h.trans (proceeds_pause o delay t)
  · exact h.trans (.turns t t.toSurroundings t.errorCount t.sessions _)

/-- The worker, where a round leaves it. -/
theorem proceeds_worked {round : Option Held × Cache} (h : Proceeds c s round.2) :
    Proceeds c s (worked round) := by
  obtain ⟨_ | held, t⟩ := round
  · exact h
  · exact h.trans (.deed fun _ => .turns t.toSurroundings t.errorCount t.sessions t.loop
      fun _ => List.suffix_refl _)

/-! ## Answers -/

/-- Having the listeners called is doings. -/
theorem proceeds_deliver (c : Setup) (o : OpenSession) (snapshot : Snapshot) (delay : Float)
    (s : Cache) : Proceeds c s (deliver c o snapshot delay s) := by
  unfold deliver
  split
  next => exact proceeds_leave s
  next hgo =>
    split
    next =>
      have hqueued : Proceeds c s
          { s with worker := { s.worker with queue := s.worker.queue ++ [snapshot] } } :=
        .deed fun _ => .turns s.toSurroundings s.errorCount s.sessions s.loop
          fun hs => absurd hs hgo
      exact hqueued.trans (proceeds_pause o delay _)
    next => exact proceeds_looped o delay (proceeds_notify c .pollLoop snapshot s)

/-- Taking up an answer is doings. -/
theorem proceeds_accept (c : Setup) (o : OpenSession) {a : Answer} (ha : a.index.isSome)
    (s : Cache) : Proceeds c s (accept c o a s) := by
  have hcollect := (tolerant_proceeds c .pollLoop).collect a.dataset .empty s
  unfold accept
  dsimp only
  split
  next =>
    exact ((Proceeds.turns s s.toSurroundings 0 s.sessions s.loop).trans
      (proceeds_emit c .pollLoop (e := .unchanged a.index) ⟨nofun, nofun⟩ _)).trans
      (proceeds_pause o _ _)
  next =>
    generalize collect c a.dataset .empty s = collected at hcollect ⊢
    obtain ⟨_ | entries, t⟩ := collected
    · exact hcollect.trans (proceeds_setBack c o _ t)
    · let new : Snapshot :=
        { entries, index := a.index, knownLeader := a.knownLeader,
          lastContactMs := a.lastContactMs }
      have hcommit : Proceeds c t (commit new t) := .deed fun ht => .commits ha ht
      have hemit := proceeds_emit c .pollLoop (e := .changed a.index entries.size a.target)
        ⟨nofun, nofun⟩ (commit new t)
      exact ((hcollect.trans hcommit).trans hemit).trans (proceeds_deliver c o new _ _)

/-! ## Queries -/

/-- Taking up what became of a query. Another request is sent only where the cache is not stopped.
-/
theorem proceeds_conclude (c : Setup) (o : OpenSession) (p : Progress) (hgo : s.isStopped = false) :
    Proceeds c s (conclude c o s p) := by
  cases p with
  | sent x =>
    exact (Proceeds.begins (o := .requested x.request) trivial hgo).trans
      (.turns _ s.toSurroundings s.errorCount s.sessions _)
  | failed f => exact proceeds_setBack c o _ s
  | answered r =>
    unfold conclude
    dsimp only
    split
    next => exact proceeds_setBack c _ _ s
    next a _ =>
      split
      next => exact proceeds_setBack c _ _ s
      next hindex =>
        have ha : a.index.isSome := by simpa [Option.isSome_iff_ne_none] using hindex
        exact (Proceeds.note s (o := .heard a) trivial).trans (proceeds_accept c _ ha _)

/-- Sending a query is doings. -/
theorem proceeds_query (c : Setup) (o : OpenSession) (hgo : s.isStopped = false) :
    Proceeds c s (query c o s) := by
  unfold query
  dsimp only
  split
  next => exact proceeds_setBack c o _ s
  next r _ =>
    generalize Exchange.start s.now s.policy o.session.layers r = started
    obtain ⟨progress, policy⟩ := started
    exact (Proceeds.turns s { s.toSurroundings with policy } s.errorCount s.sessions s.loop).trans
      (proceeds_conclude c o progress hgo)

/-- Polling is doings. -/
theorem proceeds_poll (c : Setup) (o : OpenSession) (hgo : s.isStopped = false) :
    Proceeds c s (poll c o s) := by
  have asked (q : Policy Float) : Proceeds c s { s with policy := some q } :=
    .turns s { s.toSurroundings with policy := some q } s.errorCount s.sessions s.loop
  unfold poll
  split
  next => exact proceeds_query c o hgo
  next =>
    split
    next q _ => exact (asked q).trans (proceeds_breakOff c o _ _)
    next q _ => exact (asked q).trans (proceeds_setBack c o _ _)
    next q _ => exact (asked q).trans (proceeds_query c o hgo)

/-- Opening a session is doings. -/
theorem proceeds_openSession (c : Setup) (hgo : s.isStopped = false) :
    Proceeds c s (openSession c s) := by
  have hopening : Proceeds c s { s.note .opening with sessions := s.sessions + 1 } :=
    (Proceeds.begins (o := .opening) trivial hgo).trans
      (.turns _ s.toSurroundings s.errorCount (s.sessions + 1) s.loop)
  unfold openSession
  dsimp only
  split
  next => exact hopening.trans (proceeds_retreat c _ _)
  next =>
    have hconnected := hopening.trans (Proceeds.begins (o := .connected) trivial hgo)
    split
    next => exact hconnected.trans (proceeds_retreat c _ _)
    next => exact hconnected.trans (.turns _ s.toSurroundings s.errorCount (s.sessions + 1) _)

/-- What the loop does where it need not wait. It looks first whether the cache is stopped. -/
theorem proceeds_turn (c : Setup) (s : Cache) : Proceeds c s (turn c s) := by
  unfold turn
  split
  next =>
    split
    next => exact .turns s s.toSurroundings s.errorCount s.sessions .ended
    next hgo => exact proceeds_openSession c (Bool.eq_false_iff.2 hgo)
  next =>
    split
    next => exact proceeds_leave s
    next hgo => exact proceeds_poll c _ (Bool.eq_false_iff.2 hgo)
  next => exact .refl s

/-! ## Between two steps -/

/-- A cache that is stopped does not wait for the transport, and has nothing to go on with. -/
def Rests (s : Cache) : Prop :=
  s.isStopped = true → s.loop.IsAtRest

/-- How a cache is between two steps. -/
structure Steady (s : Cache) : Prop where
  /-- Nothing happens before the start. -/
  unstarted : s.lifecycle = .notStarted → s.loop = .idle ∧ s.worker = {}
  atRest : s.Rests
  /-- The worker of a stopped cache has no rounds to begin. -/
  dropped : s.isStopped = true → s.worker.queue = []

/-- A cache whose loop ran was begun. -/
theorem Steady.begun_of_loop (h : Steady s) (hloop : s.loop ≠ .idle) : s.Begun :=
  fun hn => hloop (h.unstarted hn).1

/-- A cache whose worker has something to do was begun. -/
theorem Steady.begun_of_worker (h : Steady s) (hbusy : s.worker ≠ {}) : s.Begun :=
  fun hn => hbusy (h.unstarted hn).2

/-- A cache whose loop waits for the transport is not stopped. -/
theorem Steady.isStopped_of_awaiting (h : Steady s) {o : OpenSession} {x : Exchange}
    (hloop : s.loop = .awaiting o x) : s.isStopped = false := by
  rw [Bool.eq_false_iff]
  intro hs
  have hrest := h.atRest hs
  rw [hloop] at hrest
  exact hrest

/-! ### Where the loop is -/

/-- Where the loop is after it did something: at rest in a cache that is stopped, and else live. -/
structure Poised (s : Cache) : Prop where
  atRest : s.Rests
  live : s.isStopped = false → s.loop.IsLive

/-- A stopped cache is poised if its loop is at rest. -/
theorem Poised.of_stopped (hs : s.isStopped = true) (hrest : s.loop.IsAtRest) : s.Poised :=
  ⟨fun _ => hrest, fun hgo => absurd hs (Bool.eq_false_iff.1 hgo)⟩

/-- A cache with a live loop that is not stopped. -/
theorem Poised.of_going (hgo : s.isStopped = false) (hlive : s.loop.IsLive) : s.Poised :=
  ⟨fun hs => absurd hs (Bool.eq_false_iff.1 hgo), fun _ => hlive⟩

/-- The loop makes a pause, or ends when the cache is stopped. -/
theorem poised_pause (o : OpenSession) (delay : Float) (s : Cache) : (pause o delay s).Poised := by
  unfold pause
  split
  next hs => exact .of_stopped hs trivial
  next hgo =>
    refine .of_going (Bool.eq_false_iff.2 hgo) ?_
    dsimp only
    split <;> trivial

/-- After a failure without a session the loop is poised. -/
theorem poised_retreat (c : Setup) (f : Failure) (s : Cache) : (retreat c f s).Poised := by
  unfold retreat
  generalize fail c { failure := f } s = failed
  obtain ⟨delay, t⟩ := failed
  by_cases ht : t.isStopped = true
  · refine .of_stopped ht ?_
    dsimp only
    rw [if_pos ht]
    trivial
  · refine .of_going (Bool.eq_false_iff.2 ht) ?_
    dsimp only
    rw [if_neg ht]
    split <;> trivial

/-- Where a round leaves the loop, it waits for a listener or pauses. -/
theorem poised_looped (o : OpenSession) (delay : Float) (round : Option Held × Cache) :
    (looped o delay round).Poised := by
  obtain ⟨_ | held, t⟩ := round
  · exact poised_pause o delay t
  · exact ⟨fun _ => trivial, fun _ => trivial⟩

/-- When the listeners were called the loop is poised. -/
theorem poised_deliver (c : Setup) (o : OpenSession) (snapshot : Snapshot) (delay : Float)
    (s : Cache) : (deliver c o snapshot delay s).Poised := by
  unfold deliver
  split
  next hs => exact .of_stopped hs trivial
  next =>
    split
    next => exact poised_pause o delay _
    next => exact poised_looped o delay (notify c .pollLoop snapshot s)

/-- When an answer was taken up the loop is poised. -/
theorem poised_accept (c : Setup) (o : OpenSession) (a : Answer) (s : Cache) :
    (accept c o a s).Poised := by
  unfold accept
  dsimp only
  split
  next => exact poised_pause o _ _
  next =>
    split
    next => exact poised_pause o _ _
    next => exact poised_deliver c o _ _ _

/-- When it was taken up what became of a query the loop is poised. -/
theorem poised_conclude (c : Setup) (o : OpenSession) (p : Progress) (hgo : s.isStopped = false) :
    (conclude c o s p).Poised := by
  cases p with
  | sent x => exact .of_going hgo trivial
  | failed f => exact poised_pause o _ _
  | answered r =>
    unfold conclude
    dsimp only
    split
    next => exact poised_pause _ _ _
    next =>
      split
      next => exact poised_pause _ _ _
      next => exact poised_accept c _ _ _

/-- When it was taken up what became of the request that the loop waits for the loop is poised. -/
theorem poised_takeUp (c : Setup) (o : OpenSession) (r : Progress × Option (Policy Float))
    (hgo : s.isStopped = false) : (takeUp c o s r).Poised :=
  poised_conclude (s := { s with policy := r.2 }) c o r.1 hgo

/-- When a query was sent the loop is poised. -/
theorem poised_query (c : Setup) (o : OpenSession) (hgo : s.isStopped = false) :
    (query c o s).Poised := by
  unfold query
  dsimp only
  split
  next => exact poised_pause o _ _
  next => exact poised_conclude c o _ hgo

/-- What the loop does where it need not wait. -/
theorem poised_turn (c : Setup) (hready : isReady s.loop = true) : (turn c s).Poised := by
  unfold turn
  split
  next =>
    split
    next hs => exact .of_stopped hs trivial
    next hgo =>
      unfold openSession
      dsimp only
      split
      next => exact poised_retreat c _ _
      next =>
        split
        next => exact poised_retreat c _ _
        next => exact .of_going (Bool.eq_false_iff.2 hgo) trivial
  next o _ =>
    split
    next hs => exact .of_stopped hs trivial
    next hgo =>
      unfold poll
      split
      next => exact poised_query c o (Bool.eq_false_iff.2 hgo)
      next =>
        split
        next => exact poised_retreat c _ _
        next => exact poised_pause o _ _
        next => exact poised_query c o (Bool.eq_false_iff.2 hgo)
  next hopening hpolling =>
    cases hloop : s.loop with
    | opening => exact absurd hloop hopening
    | polling o => exact absurd hloop (hpolling o)
    | idle | awaiting | sleeping | notifying | ended =>
      rw [hloop] at hready
      cases hready

/-- Where the loop waits, it has nothing to do. -/
theorem turn_of_waiting (c : Setup) (hwaits : ¬isReady s.loop = true) : turn c s = s := by
  cases hloop : s.loop with
  | opening | polling => exact absurd (hloop ▸ rfl) hwaits
  | idle | awaiting | sleeping | notifying | ended => rw [turn, hloop]

/-! ### The loop at rest -/

/-- From elsewhere, a call of `stop` brings the loop to rest. -/
theorem tolerant_rests (c : Setup) (place : Place) (hplace : place ≠ .pollLoop) :
    Tolerant (stop c place) fun s t => s.Rests → t.Rests where
  refl _ h := h
  trans h k hs := k (h hs)
  note _ _ _ h := h
  add _ _ h := h
  remove l s h := by
    rcases removeListener_cases l s with ⟨registry, hremoved⟩ | hsame
    · rw [hremoved]
      exact h
    · rwa [hsame]
  observers _ _ h := h
  stop s h := by
    by_cases hs : s.isStopped = true
    · have hagain : stop c place s = stopAgain s := if_pos hs
      rw [hagain]
      exact h
    · exact fun _ => (halted_stop c place (Bool.eq_false_iff.2 hs)).atRest hplace

/-! ### Steps -/

/-- Every step is doings. -/
theorem doings_step {heard : Option Answer} (hs : Steady s) (h : Step c s heard t) :
    Doings c s t := by
  cases h with
  | start hn =>
    have hstart := Doing.deed (c := c) (.start hn)
    have hbegun : ({ s with lifecycle := .starting, loop := .opening }.note
      (.emitted .started) : Cache).Begun := Lifecycle.noConfusion
    exact .head hstart ((tolerant_proceeds c .outside).tell .started _ hbegun)
  | stop => exact .single (.stop .outside s)
  | turn =>
    by_cases hbegun : s.Begun
    · exact proceeds_turn c s hbegun
    · have hidle := (hs.unstarted (Decidable.not_not.1 hbegun)).1
      have hturn : turn c s = s := by rw [turn, hidle]
      rw [hturn]
  | @receive _ o x outcome hloop =>
    have hgo := hs.isStopped_of_awaiting hloop
    have hbegun : s.Begun := hs.begun_of_loop fun hidle => by rw [hidle] at hloop; cases hloop
    generalize x.receive s.now s.policy outcome = r
    exact ((Proceeds.turns s { s.toSurroundings with policy := r.2 } s.errorCount s.sessions
      s.loop).trans (proceeds_conclude c o r.1 hgo)) hbegun
  | @wake _ _ o hloop =>
    exact .single (.deed (.turns s.toSurroundings s.errorCount s.sessions (awake o)
      fun _ => List.suffix_refl _))
  | @goOn _ o held delay hloop =>
    have hbegun : s.Begun := hs.begun_of_loop fun hidle => by rw [hidle] at hloop; cases hloop
    exact proceeds_looped o delay (proceeds_release c .pollLoop held s) hbegun
  | @goOnWorking _ held hheld =>
    have hbegun : s.Begun := hs.begun_of_worker fun hidle => by rw [hidle] at hheld; cases hheld
    have hfree : Proceeds c s { s with worker := { s.worker with held := none } } :=
      .deed fun _ => .turns s.toSurroundings s.errorCount s.sessions s.loop
        fun _ => List.suffix_refl _
    exact proceeds_worked (hfree.trans (proceeds_release c .worker held _)) hbegun
  | @workOn _ snapshot queue hworker =>
    have hbegun : s.Begun := hs.begun_of_worker fun hidle => by rw [hidle] at hworker; cases hworker
    have hfree : Proceeds c s { s with worker := { held := none, queue } } :=
      .deed fun _ => .turns s.toSurroundings s.errorCount s.sessions s.loop fun _ => by
        rw [hworker]
        exact List.suffix_cons _ _
    exact proceeds_worked (hfree.trans (proceeds_notify c .worker snapshot _)) hbegun
  | addListener l => exact .single (.deed (.add l s))
  | removeListener l => exact .single (.deed (.remove l s))
  | observers os => exact .single (.deed (.observers os s))
  | surround left =>
    exact .single (.deed (.turns left s.errorCount s.sessions s.loop fun _ => List.suffix_refl _))

/-- The worker of a stopped cache gets no rounds to begin. -/
theorem dropped_doing (h : s.isStopped = true → s.worker.queue = []) (hdoing : Doing c s t)
    (ht : t.isStopped = true) : t.worker.queue = [] := by
  cases hdoing with
  | deed hdeed =>
    cases hdeed with
    | note | begins | observers | add => exact h ht
    | remove l =>
      rcases removeListener_cases l s with ⟨registry, hremoved⟩ | hsame
      · rw [hremoved] at ht ⊢
        exact h ht
      · rw [hsame] at ht ⊢
        exact h ht
    | start => cases ht
    | @commits _ new =>
      exact h ((isStopped_commit new s).symm.trans ht)
    | turns left errors sessions loop hworker =>
      have hsuffix := hworker ht
      rw [h ht] at hsuffix
      exact List.suffix_nil.1 hsuffix
  | stop place =>
    by_cases hs : s.isStopped = true
    · have hagain : stop c place s = stopAgain s := if_pos hs
      rw [hagain]
      exact h hs
    · exact (halted_stop c place (Bool.eq_false_iff.2 hs)).dropped

/-- The worker, where a round leaves it, does nothing to the loop. -/
theorem rests_worked {round : Option Held × Cache} (h : round.2.Rests) : (worked round).Rests := by
  obtain ⟨_ | held, t⟩ := round <;> exact h

/-- A step keeps a cache that was not started as it is, unless it starts or stops it. -/
theorem unstarted_step {heard : Option Answer} (hs : Steady s) (h : Step c s heard t)
    (hn : t.lifecycle = .notStarted) : t.loop = .idle ∧ t.worker = {} := by
  have hunstarted : s.lifecycle = .notStarted :=
    Decidable.not_not.1 fun hbegun => begun_step hbegun h hn
  obtain ⟨hloop, hworker⟩ := hs.unstarted hunstarted
  cases h with
  | start =>
    have hbegun : ({ s with lifecycle := .starting, loop := .opening } : Cache).Begun :=
      Lifecycle.noConfusion
    exact absurd hn (begun_quiet hbegun (reacts_emit c .outside .started _).quiet)
  | stop =>
    obtain ⟨u, hu, heq⟩ := stop_returns c .outside s
    rw [heq] at hn
    exact absurd hn (begun_of_isStopped (s := u.note .stopReturned) hu)
  | turn =>
    have hturn : turn c s = s := by rw [turn, hloop]
    rw [hturn]
    exact ⟨hloop, hworker⟩
  | receive _ hl => rw [hloop] at hl; cases hl
  | wake hl => rw [hloop] at hl; cases hl
  | goOn hl => rw [hloop] at hl; cases hl
  | goOnWorking hheld => rw [hworker] at hheld; cases hheld
  | workOn hqueue => rw [hworker] at hqueue; cases hqueue
  | removeListener l =>
    rcases removeListener_cases l s with ⟨registry, hremoved⟩ | hsame
    · rw [hremoved]
      exact ⟨hloop, hworker⟩
    · rw [hsame]
      exact ⟨hloop, hworker⟩
  | addListener | observers | surround => exact ⟨hloop, hworker⟩

/-- A step leaves the loop of a stopped cache at rest. -/
theorem rests_step {heard : Option Answer} (hs : Steady s) (h : Step c s heard t) : t.Rests := by
  have houtside := tolerant_rests c .outside nofun
  have hworker := tolerant_rests c .worker nofun
  cases h with
  | start => exact houtside.tell .started _ nofun
  | stop => exact houtside.stop s hs.atRest
  | turn =>
    by_cases hready : isReady s.loop = true
    · exact (poised_turn c hready).atRest
    · rw [turn_of_waiting c hready]
      exact hs.atRest
  | receive outcome hloop => 
    exact (poised_takeUp c _ _ (hs.isStopped_of_awaiting hloop)).atRest
  | wake hloop =>
    intro ht
    have hrest := hs.atRest ht
    rw [hloop] at hrest
    exact hrest.elim
  | goOn => exact (poised_looped _ _ _).atRest
  | goOnWorking => exact rests_worked (hworker.releaseWith _ (fun _ _ _ _ => id) hs.atRest)
  | workOn =>
    refine rests_worked ?_
    unfold notify
    split
    next => exact hs.atRest
    next => exact hworker.notifyWith (fun _ _ _ _ => id) hs.atRest
  | addListener l => exact houtside.add l s hs.atRest
  | removeListener l => exact houtside.remove l s hs.atRest
  | observers | surround => exact hs.atRest

/-- Steps lead from where a cache is steady to where it is steady again. -/
theorem steady_step {heard : Option Answer} (hs : Steady s) (h : Step c s heard t) : Steady t := by
  refine ⟨unstarted_step hs h, rests_step hs h, ?_⟩
  have hdoings := doings_step hs h
  clear h
  induction hdoings with
  | refl => exact hs.dropped
  | tail _ hlast ih => exact dropped_doing ih hlast

/-! ## Runs -/

/-- A cache that was created is steady. -/
theorem steady_create (left : Surroundings) : Steady (create left) :=
  ⟨fun _ => ⟨rfl, rfl⟩, nofun, nofun⟩

/-- Steps are one move after the other. -/
theorem moves_steps {as : List Answer} (h : Steps c s as t) (hs : Steady s) (hfresh : Fresh s) :
    Moves s t ∧ Steady t := by
  induction h with
  | refl => exact ⟨.refl, hs⟩
  | tail _ _ hstep ih =>
    obtain ⟨hmoves, hsteady⟩ := ih
    exact ⟨hmoves.trans (moves_doings (fresh_moves hfresh hmoves) (doings_step hsteady hstep)),
      steady_step hsteady hstep⟩

/-- A run is one move after the other, and leads to where the cache is steady. -/
theorem moves_of_run {as : List Answer} (h : Run c as s) :
    ∃ left, Moves (create left) s ∧ Steady s := by
  obtain ⟨left, h⟩ := h
  exact ⟨left, moves_steps h (steady_create left) fun _ => List.not_mem_nil⟩

end

end BlockingQuery.Cache
