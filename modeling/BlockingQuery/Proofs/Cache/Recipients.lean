import BlockingQuery.Proofs.Cache.Delivery
import BlockingQuery.Proofs.Cache.Dispatch

/-!
# Who receives a snapshot

What a cache has decided about the calls of its listeners is a `Dispatch` (`Cache.dispatch`): the
snapshots that wait are those of the worker, and the calls that are left are those of the round that
is held up, if there is one. Every step of a cache moves the dispatch (`dispatches_step`), and the
moves go through the moments at which listeners and observers register somebody.

So a listener that is registered is handed what is left over at that moment, and then what is
committed later (`handed_since`). What is left over was committed before
(`not_neverReplays_of_queued`).
-/

namespace BlockingQuery

open Relation (ReflTransGen)

namespace Cache

open Dispatch (round callsOf)

/-- The dispatch of a cache with these snapshots that wait and these calls that are left. Once it is
stopped there are none. -/
def seen (waiting : List Snapshot) (calls : List (String × Snapshot)) (s : Cache) : Dispatch :=
  if s.isStopped then { trace := s.trace, halted := true } else { trace := s.trace, waiting, calls }

/-- The calls that are left of a round that is held up. -/
def callsLeft : Option Held → List (String × Snapshot)
  | none => []
  | some h => round h.snapshot h.round.rest

/-- What a cache has decided about the calls of its listeners. -/
def dispatch (s : Cache) : Dispatch :=
  s.seen s.worker.queue (callsLeft s.loop.held? ++ callsLeft s.worker.held)

section
variable {c d : Setup} {s t u : Cache} {D : Dispatch} {waiting : List Snapshot}
  {calls : List (String × Snapshot)} {snapshot : Snapshot} {rest : List String}

/-! ## What a cache shows of its dispatch -/

theorem seen_of_isStopped (hs : s.isStopped = true) :
    s.seen waiting calls = { trace := s.trace, halted := true } :=
  if_pos hs

theorem seen_of_going (hgo : s.isStopped = false) :
    s.seen waiting calls = { trace := s.trace, waiting, calls } :=
  if_neg (by simp [hgo])

/-- Noting what is neither a commit nor a call leaves the decisions of a dispatch as they are. -/
theorem moves_notes {os : List Occurrence} (D : Dispatch)
    (hcommitted : ∀ o ∈ os, o.committed? = none) (hhanded : ∀ l, ∀ o ∈ os, o.handed? l = none) :
    Dispatch.Moves D { D with trace := os ++ D.trace } := by
  induction os with
  | nil => exact .refl
  | cons o os ih =>
    have hrest := ih (fun p hp => hcommitted p (List.mem_cons_of_mem _ hp))
      fun l p hp => hhanded l p (List.mem_cons_of_mem _ hp)
    exact hrest.tail (.note (hcommitted o List.mem_cons_self)
      fun l => hhanded l o List.mem_cons_self)

/-- A cache that comes to be stopped drops what is left. -/
theorem moves_halted (h : Dispatch.Moves D { trace := t.trace, waiting, calls }) :
    Dispatch.Moves D (t.seen waiting calls) := by
  by_cases ht : t.isStopped = true
  · rw [seen_of_isStopped ht]
    exact h.tail (.halt _)
  · rwa [seen_of_going (Bool.eq_false_iff.2 ht)]

/-- What is quiet leaves the decisions as they are. -/
theorem moves_quiet (k : Quiet s t) :
    Dispatch.Moves (s.seen waiting calls) (t.seen waiting calls) := by
  obtain ⟨os, htrace, hquiet, -⟩ := k.grown
  have hnotes (D : Dispatch) : Dispatch.Moves D { D with trace := os ++ D.trace } :=
    moves_notes D (fun o ho => committed?_of_isQuiet (hquiet o ho))
      fun l o ho => handed?_of_isQuiet l (hquiet o ho)
  by_cases hs : s.isStopped = true
  · rw [seen_of_isStopped hs, seen_of_isStopped (k.isStopped hs), htrace]
    exact hnotes _
  · rw [seen_of_going (Bool.eq_false_iff.2 hs)]
    refine moves_halted ?_
    rw [htrace]
    exact hnotes _

/-- What waits and what is left make no difference once the cache is stopped. -/
theorem dispatch_eq_seen (htrace : u.trace = t.trace) (hstopped : u.isStopped = t.isStopped)
    (hsame : t.isStopped = false → u.worker.queue = waiting ∧
      callsLeft u.loop.held? ++ callsLeft u.worker.held = calls) :
    u.dispatch = t.seen waiting calls := by
  by_cases ht : t.isStopped = true
  · rw [dispatch, seen_of_isStopped (hstopped.trans ht), seen_of_isStopped ht, htrace]
  · have hgo : t.isStopped = false := Bool.eq_false_iff.2 ht
    rw [dispatch, seen_of_going (hstopped.trans hgo), seen_of_going hgo, htrace, (hsame hgo).1,
      (hsame hgo).2]

/-- A dispatch that moved to what is seen of a cache has moved to the dispatch of the cache. -/
theorem moves_dispatch (h : Dispatch.Moves D (t.seen waiting calls)) (htrace : u.trace = t.trace)
    (hstopped : u.isStopped = t.isStopped)
    (hsame : t.isStopped = false → u.worker.queue = waiting ∧
      callsLeft u.loop.held? ++ callsLeft u.worker.held = calls) : Dispatch.Moves D u.dispatch := by
  rwa [dispatch_eq_seen htrace hstopped hsame]

/-- Noting what is neither a commit nor a call moves the dispatch of a cache. -/
theorem dispatches_note (s : Cache) {o : Occurrence} (hcommitted : o.committed? = none)
    (hhanded : ∀ l, o.handed? l = none) : Dispatch.Moves s.dispatch (s.note o).dispatch := by
  have hstopped : (s.note o).isStopped = s.isStopped := rfl
  unfold dispatch seen
  rw [hstopped]
  split <;> exact .single (.note hcommitted hhanded)

/-- A quiet cache has the same dispatch, but for what happened. -/
theorem dispatches_quiet (k : Quiet s t) : Dispatch.Moves s.dispatch t.dispatch := by
  refine moves_dispatch (moves_quiet k) rfl rfl fun hgo => ?_
  obtain ⟨hloop, hworker⟩ := k.waits.resolve_left (Bool.eq_false_iff.1 hgo)
  rw [hloop, hworker]
  exact ⟨rfl, rfl⟩

/-- The dispatch speaks of the trace, of the life of the cache and of the rounds. -/
theorem dispatch_congr (htrace : t.trace = s.trace) (hstopped : t.isStopped = s.isStopped)
    (hloop : t.loop.held? = s.loop.held?) (hworker : t.worker = s.worker) :
    t.dispatch = s.dispatch := by
  rw [dispatch, dispatch, seen, seen, htrace, hstopped, hloop, hworker]

/-- A commit waits for its round. -/
theorem moves_commit (new : Snapshot) (s : Cache) :
    Dispatch.Moves (s.seen waiting calls) ((commit new s).seen (waiting ++ [new]) calls) := by
  have hstopped := isStopped_commit new s
  by_cases hs : s.isStopped = true
  · rw [seen_of_isStopped hs, seen_of_isStopped (hstopped.trans hs)]
    exact (ReflTransGen.single (.commit new _)).tail (.halt _)
  · have hgo : s.isStopped = false := Bool.eq_false_iff.2 hs
    rw [seen_of_going hgo, seen_of_going (hstopped.trans hgo)]
    exact .single (.commit new _)

/-! ## Rounds -/

/-- A round that began in the state `s`: the listeners `rest` are still to be called, and the
snapshots `waiting` come after it. -/
structure Rounding (D : Dispatch) (s : Cache) (waiting : List Snapshot) (snapshot : Snapshot)
    (rest : List String) (t : Cache) : Prop where
  moves : Dispatch.Moves D (t.seen waiting (round snapshot rest))
  framed : Framed s t

/-- What the application does in the course of a round leaves the round as it is. -/
theorem Rounding.reacts (h : Rounding D s waiting snapshot rest t) (k : Reacts t u) :
    Rounding D s waiting snapshot rest u :=
  ⟨h.moves.trans (moves_quiet k.quiet), h.framed.reacts k⟩

/-- A round goes on with the next listener. -/
theorem Rounding.called {l : String} (h : Rounding D s waiting snapshot (l :: rest) t)
    (hgo : t.isStopped = false) (k : Reacts (t.note (.called l snapshot)) u) :
    Rounding D s waiting snapshot rest u := by
  have hcalled :
      Dispatch.Moves D ((t.note (.called l snapshot)).seen waiting (round snapshot rest)) := by
    have hbefore := h.moves
    rw [seen_of_going hgo] at hbefore
    rw [seen_of_going (s := t.note (.called l snapshot)) hgo]
    exact hbefore.tail (.call rfl rfl)
  exact Rounding.reacts ⟨hcalled, h.framed⟩ k

/-- A round that is over leaves nothing to be called. -/
theorem Rounding.over (h : Rounding D s waiting snapshot rest t)
    (hover : rest = [] ∨ t.isStopped = true) : Dispatch.Moves D (t.seen waiting []) := by
  rcases hover with rfl | ht
  · exact h.moves
  · rw [seen_of_isStopped ht, ← seen_of_isStopped ht]
    exact h.moves

/-- A round moves the dispatch from its beginning to where it is over or held up. -/
theorem rounding_notify (c : Setup) (place : Place)
    (hregistry : s.registry = Registry.replay s.trace {})
    (h : Dispatch.Moves D (s.seen (snapshot :: waiting) [])) :
    Rounded (Rounding D s waiting snapshot) snapshot (notify c place snapshot s) := by
  refine rounded_notify (fun l ls t u hgo ht hu => ht.called hgo hu) ⟨?_, .inr ⟨rfl, rfl, rfl⟩⟩
  by_cases hs : s.isStopped = true
  · rw [seen_of_isStopped hs] at h ⊢
    exact h
  · have hgo : s.isStopped = false := Bool.eq_false_iff.2 hs
    rw [seen_of_going hgo] at h ⊢
    rw [hregistry]
    exact h.tail (.begins rfl rfl rfl)

/-- A round moves the dispatch from where it was held up to where it is over or held up again. -/
theorem rounding_release (c : Setup) (place : Place) {held : Held}
    (h : Dispatch.Moves D (s.seen waiting (round held.snapshot held.round.rest))) :
    Rounded (Rounding D s waiting held.snapshot) held.snapshot (release c place held s) :=
  rounded_release (fun _ _ _ _ hgo ht hu => ht.called hgo hu) (fun _ _ _ ht hu => ht.reacts hu)
    ⟨h, .inr ⟨rfl, rfl, rfl⟩⟩

/-! ## Steps -/

/-- The loop moves the dispatch to where a round leaves it. -/
theorem dispatches_looped (o : OpenSession) (delay : Float) {out : Option Held × Cache}
    (hidle : s.isStopped = false → s.worker = {})
    (h : Rounded (Rounding D s [] snapshot) snapshot out) :
    Dispatch.Moves D (looped o delay out).dispatch := by
  have idle {t : Cache} (hframed : Framed s t) (hgo : t.isStopped = false) : t.worker = {} :=
    (hframed.resolve_left (Bool.eq_false_iff.1 hgo)).2.2.trans
      (hidle (hframed.isStopped_eq_false hgo))
  obtain ⟨_ | held, t⟩ := out
  · obtain ⟨rest, hround, hover⟩ := h
    have hended : Dispatch.Moves D ({ t with loop := .ended } : Cache).dispatch := by
      refine moves_dispatch (hround.over hover) rfl rfl fun hgo => ?_
      change t.worker.queue = [] ∧ callsLeft t.worker.held = []
      rw [idle hround.framed hgo]
      exact ⟨rfl, rfl⟩
    change Dispatch.Moves D (pause o delay t).dispatch
    rw [← pause_loop o delay .ended t]
    exact hended.trans (dispatches_quiet (quiet_pause o delay (.inr rfl)))
  · obtain ⟨hround, rfl⟩ := h
    refine moves_dispatch (u := { t with loop := .notifying o held delay }) hround.moves rfl rfl
      fun hgo => ?_
    change t.worker.queue = [] ∧ callsLeft (some held) ++ callsLeft t.worker.held = _
    rw [idle hround.framed hgo]
    exact ⟨rfl, List.append_nil _⟩

/-- The worker moves the dispatch to where a round leaves it. -/
theorem dispatches_worked {out : Option Held × Cache}
    (hworker : s.isStopped = false →
      s.loop.held? = none ∧ s.worker = { held := none, queue := waiting })
    (h : Rounded (Rounding D s waiting snapshot) snapshot out) :
    Dispatch.Moves D (worked out).dispatch := by
  have waits {t : Cache} (hframed : Framed s t) (hgo : t.isStopped = false) :
      t.loop.held? = none ∧ t.worker = { held := none, queue := waiting } := by
    obtain ⟨hl, hw⟩ := hworker (hframed.isStopped_eq_false hgo)
    obtain ⟨-, kloop, kworker⟩ := hframed.resolve_left (Bool.eq_false_iff.1 hgo)
    exact ⟨(congrArg _ kloop).trans hl, kworker.trans hw⟩
  obtain ⟨_ | held, t⟩ := out
  · obtain ⟨rest, hround, hover⟩ := h
    refine moves_dispatch (u := t) (hround.over hover) rfl rfl fun hgo => ?_
    obtain ⟨hl, hw⟩ := waits hround.framed hgo
    rw [hl, hw]
    exact ⟨rfl, rfl⟩
  · obtain ⟨hround, rfl⟩ := h
    refine moves_dispatch (u := { t with worker := { t.worker with held := some held } })
      hround.moves rfl rfl fun hgo => ?_
    obtain ⟨hl, hw⟩ := waits hround.framed hgo
    change t.worker.queue = waiting ∧ callsLeft t.loop.held? ++ callsLeft (some held) = _
    rw [hl, hw]
    exact ⟨rfl, rfl⟩

/-- Having the listeners called with a snapshot that waits last moves the dispatch. -/
theorem dispatches_deliver (o : OpenSession) (new : Snapshot) (delay : Float) (hway : OneWay c s)
    (hregistry : s.registry = Registry.replay s.trace {}) (hfree : s.IsFree)
    (h : Dispatch.Moves D (s.seen (s.worker.queue ++ [new])
      (callsLeft s.loop.held? ++ callsLeft s.worker.held))) :
    Dispatch.Moves D (deliver c o new delay s).dispatch := by
  unfold deliver
  split
  next hs =>
    have hstopped : Dispatch.Moves D s.dispatch :=
      moves_dispatch h rfl rfl fun hgo => Bool.noConfusion (hs.symm.trans hgo)
    exact hstopped.trans (dispatches_quiet (quiet_leave (.inl hs)))
  next hs =>
    have hgo : s.isStopped = false := Bool.eq_false_iff.2 hs
    have hloop : s.loop.held? = none := hfree.resolve_left hs
    split
    next hbackground =>
      let queued : Worker := { s.worker with queue := s.worker.queue ++ [new] }
      have hqueued : Dispatch.Moves D ({ s with worker := queued } : Cache).dispatch :=
        moves_dispatch h rfl rfl fun _ => ⟨rfl, rfl⟩
      exact hqueued.trans (dispatches_quiet (quiet_pause o delay (.inr hloop)))
    next hinline =>
      have hworker := hway.inline hgo (Bool.eq_false_iff.2 hinline)
      rw [hloop, hworker] at h
      exact dispatches_looped o delay (fun _ => hworker) (rounding_notify c .pollLoop hregistry h)

/-- Taking up an answer moves the dispatch. -/
theorem dispatches_accept (o : OpenSession) {a : Answer} (ha : a.index.isSome)
    (h : Delivering c s) (hs : s.IsFree) : Dispatch.Moves s.dispatch (accept c o a s).dispatch := by
  rcases accept_cases c o ha hs with ⟨-, hq⟩ | ⟨new, t, -, hq, heq⟩
  · exact dispatches_quiet hq
  · have ht := delivering_quiet h hq
    -- Observers are told of the commit before its round begins, and may register somebody.
    have hemit :=
      reacts_emit c .pollLoop (.changed a.index new.entries.size a.target) (commit new t)
    have hregistry := owing_quiet (owing_commit ht.owing new) hemit.quiet
    have hway : OneWay c (commit new t) :=
      ht.oneWay.congr (fun hs => (isStopped_commit new t).trans hs) (.inr ⟨rfl, rfl⟩)
    have hfree : (commit new t).IsFree :=
      (hq.isFree hs).imp_left fun hs => (isStopped_commit new t).trans hs
    have hmoves :=
      ((dispatches_quiet hq).trans (moves_commit new t)).trans (moves_quiet hemit.quiet)
    rw [heq]
    refine dispatches_deliver o new _ (hway.congr hemit.isStopped hemit.quiet.waits)
      hregistry.registry (hemit.quiet.isFree hfree) ?_
    generalize emit c .pollLoop (.changed a.index new.entries.size a.target) (commit new t) = u
      at hemit hmoves ⊢
    by_cases hu : u.isStopped = true
    · rw [seen_of_isStopped hu] at hmoves ⊢
      exact hmoves
    · obtain ⟨hloop, hworker⟩ := hemit.waits.resolve_left hu
      rw [hloop, hworker]
      exact hmoves

/-- Every step moves the dispatch. -/
theorem dispatches_step {heard : Option Answer} (hidle : s.Idle) (h : Delivering c s)
    (hstep : Step c s heard t) : Dispatch.Moves s.dispatch t.dispatch := by
  have side (k : Reacts s t) : Dispatch.Moves s.dispatch t.dispatch := dispatches_quiet k.quiet
  have still {u : Cache} (htrace : u.trace = s.trace) (hstopped : u.isStopped = s.isStopped)
      (hloop : u.loop.held? = s.loop.held?) (hworker : u.worker = s.worker) :
      Dispatch.Moves s.dispatch u.dispatch := by
    rw [dispatch_congr htrace hstopped hloop hworker]
  cases hstep with
  | start hn =>
    have hloop : s.loop.held? = none := by rw [hidle hn]; rfl
    have hstopped : s.isStopped = false := by rw [isStopped, hn]; rfl
    exact (still (u := { s with lifecycle := .starting, loop := .opening }) rfl hstopped.symm
      hloop.symm rfl).trans (dispatches_quiet (reacts_emit c .outside .started _).quiet)
  | stop => exact side (reacts_stop c .outside s)
  | turn => exact dispatches_quiet (quiet_turn c s)
  | @receive _ o x outcome hl =>
    have hs : s.IsFree := .inr (by rw [hl]; rfl)
    generalize x.receive s.now s.policy outcome = r
    unfold takeUp
    rcases conclude_cases c o r.1 (s := { s with policy := r.2 }) hs with
      ⟨-, hq⟩ | ⟨a, o', -, hindex, heq⟩
    · exact (still (u := { s with policy := r.2 }) rfl rfl rfl rfl).trans (dispatches_quiet hq)
    · rw [heq]
      have hpolicy : Delivering c { s with policy := r.2 } :=
        delivering_step hidle h (.surround { s.toSurroundings with policy := r.2 } s)
      have hheard : Delivering c ({ s with policy := r.2 }.note (.heard a)) :=
        ⟨owing_heard hpolicy.owing a, hpolicy.oneWay.congr id (.inr ⟨rfl, rfl⟩)⟩
      have hnoted : Dispatch.Moves s.dispatch ({ s with policy := r.2 }.note (.heard a)).dispatch :=
        dispatches_note { s with policy := r.2 } rfl fun _ => rfl
      exact hnoted.trans (dispatches_accept o' hindex hheard hs)
  | @wake _ delay o hl =>
    have hloop : s.loop.held? = none := by rw [hl]; rfl
    exact still rfl rfl (by cases o <;> exact hloop.symm) rfl
  | @goOn _ o held delay hl =>
    have hheld : s.loop.held? = some held := by rw [hl]; rfl
    have hway (hgo : s.isStopped = false) := h.oneWay.of_loop hgo (by simp [hheld])
    have hsame : s.dispatch = s.seen [] (round held.snapshot held.round.rest) := by
      refine dispatch_eq_seen rfl rfl fun hgo => ?_
      rw [hheld, (hway hgo).2]
      exact ⟨rfl, List.append_nil _⟩
    exact dispatches_looped o delay (fun hgo => (hway hgo).2)
      (rounding_release c .pollLoop (hsame ▸ .refl))
  | @goOnWorking _ held hheld =>
    let freed : Cache := { s with worker := { s.worker with held := none } }
    have hbusy : s.worker ≠ {} := by
      intro hw
      rw [hw] at hheld
      cases hheld
    have hway (hgo : s.isStopped = false) := h.oneWay.of_worker hgo hbusy
    have hsame : s.dispatch = freed.seen s.worker.queue (round held.snapshot held.round.rest) := by
      refine dispatch_eq_seen rfl rfl fun hgo => ⟨rfl, ?_⟩
      rw [(hway hgo).2, hheld]
      rfl
    exact dispatches_worked (s := freed) (fun hgo => ⟨(hway hgo).2, rfl⟩)
      (rounding_release c .worker (hsame ▸ .refl))
  | @workOn _ snapshot queue hworker =>
    let begun : Cache := { s with worker := { held := none, queue } }
    have hway (hgo : s.isStopped = false) := h.oneWay.of_worker hgo (by simp [hworker])
    have hsame : s.dispatch = begun.seen (snapshot :: queue) [] := by
      refine dispatch_eq_seen rfl rfl fun hgo => ?_
      rw [(hway hgo).2, hworker]
      exact ⟨rfl, rfl⟩
    exact dispatches_worked (s := begun) (fun hgo => ⟨(hway hgo).2, rfl⟩)
      (rounding_notify c .worker h.owing.registry (hsame ▸ .refl))
  | addListener l => exact side (.addListener l s)
  | removeListener l => exact side (.removeListener l s)
  | observers os => exact side (.observers os s)
  | surround left => exact still rfl rfl rfl rfl

/-! ## Runs -/

/-- The steps of a run move the dispatch. -/
theorem dispatches_of_steps {as bs : List Answer} (h : Run c as s) (k : Steps c s bs t) :
    Dispatch.Moves s.dispatch t.dispatch := by
  induction k with
  | refl => exact .refl
  | tail k hv hstep ih =>
    have hrun := h.steps k
    exact ih.trans (dispatches_step (idle_of_run hrun)
      ((delivering_of_run hrun).varies hv.config) hstep)

/-- A run moves the dispatch from the beginning, where nothing is decided. -/
theorem dispatches_of_run {as : List Answer} (h : Run c as s) : Dispatch.Moves {} s.dispatch := by
  obtain ⟨left, h⟩ := h
  exact dispatches_of_steps ⟨left, .refl⟩ h

/-- The trace of the dispatch is that of the cache. -/
@[simp] theorem trace_dispatch (s : Cache) : s.dispatch.trace = s.trace := by
  rw [dispatch, seen]
  split <;> rfl

/-- The dispatch is halted when the cache is stopped. -/
@[simp] theorem halted_dispatch (s : Cache) : s.dispatch.halted = s.isStopped := by
  rw [dispatch, seen]
  split
  next hs => exact hs.symm
  next hs => exact (Bool.eq_false_iff.2 hs).symm

/-- As long as the cache is not stopped, its dispatch owes a listener what is outstanding. -/
theorem owes_dispatch {as : List Answer} (h : Run c as s) (hgo : s.isStopped = false) (l : String) :
    s.dispatch.owes l = outstanding s l := by
  have hnodup := (delivering_of_run h).oneWay.nodup hgo
  have hdue (held : Option Held) (hrest : ∀ other, held = some other → other.round.rest.Nodup) :
      callsOf l (callsLeft held) = dueOf held l := by
    cases held with
    | none => rfl
    | some other => exact Dispatch.callsOf_round (hrest other rfl)
  rw [dispatch, seen_of_going hgo, Dispatch.owes, outstanding,
    ← hdue _ fun other ho => hnodup other (.inl ho),
    ← hdue _ fun other ho => hnodup other (.inr ho)]
  simp [callsOf]

/-- A cache that is stopped owes nothing any more. -/
theorem owes_dispatch_sublist {as : List Answer} (h : Run c as s) (l : String) :
    (s.dispatch.owes l).Sublist (outstanding s l) := by
  by_cases hs : s.isStopped = true
  · rw [dispatch, seen_of_isStopped hs]
    exact List.nil_sublist _
  · rw [owes_dispatch h (Bool.eq_false_iff.2 hs)]

/-- Whatever was registered, there was a moment when this had just happened. -/
theorem exists_registration {as : List Answer} {l : String} {new old : List Occurrence}
    (h : Run c as s) (htrace : s.trace = new ++ .added l :: old) :
    ∃ D, Dispatch.Moves {} D ∧ D.trace = .added l :: old ∧ l ∈ D.registered ∧
      Dispatch.Moves D s.dispatch ∧ Dispatch.Since l D s.dispatch new := by
  have hsuffix : .added l :: old <:+ s.dispatch.trace :=
    ⟨new, ((trace_dispatch s).trans htrace).symm⟩
  obtain ⟨D, hD, hs, hmoment⟩ :=
    Dispatch.exists_moment_of_moves (dispatches_of_run h) hsuffix List.nil_suffix
  obtain ⟨os, hsince⟩ := Dispatch.since_moves l hs
  have hos : os = new := by
    have hgrown := hsince.grown
    rw [trace_dispatch, htrace, hmoment] at hgrown
    exact (List.append_cancel_right hgrown).symm
  refine ⟨D, hD, hmoment, ?_, hs, hos ▸ hsince⟩
  rw [Dispatch.registered, hmoment, Registry.replay_cons]
  exact Registry.mem_add.2 (.inr rfl)

/-- In every run a listener that is registered, at any moment whatever, is handed from then on at
most what is left over at that moment, which was committed before, and what is committed later. As
long as it is not removed and the cache is not stopped it is handed just that, as far as it is not
outstanding. So all of it was committed later if and only if nothing is left over: no snapshot waits
for its round, and the round under way has no call left for it. Between two steps what is left over
is what is outstanding. -/
theorem handed_since {as : List Answer} (h : Run c as s) (l : String) :
    (∀ new old, s.trace = new ++ .added l :: old → ∃ D : Dispatch, Dispatch.Moves {} D ∧
      D.trace = .added l :: old ∧ Dispatch.Moves D s.dispatch ∧ D.owes l ⊆ commits old ∧
      (handed l new).Sublist (D.owes l ++ commits new) ∧
      (s.isStopped = false → .removed l ∉ new →
        handed l new ++ outstanding s l = D.owes l ++ commits new ∧
        (handed l new ++ outstanding s l ⊆ commits new ↔ D.owes l = []))) ∧
    ∀ bs t, Steps c s bs t → ∃ new, t.trace = new ++ s.trace ∧
      (handed l new).Sublist (outstanding s l ++ commits new) ∧
      (t.isStopped = false → l ∈ s.registry.listeners → .removed l ∉ new →
        handed l new ++ outstanding t l = outstanding s l ++ commits new) := by
  refine ⟨fun new old htrace => ?_, fun bs t k => ?_⟩
  · obtain ⟨D, hD, hmoment, hl, hs, hsince⟩ := exists_registration h htrace
    have howed : D.owes l ⊆ commits old := by
      have hbefore := Dispatch.owes_subset_commits hD l
      rwa [hmoment, commits_cons rfl] at hbefore
    refine ⟨D, hD, hmoment, hs, howed, (List.sublist_append_left _ _).trans hsince.atMost,
      fun hgo hkept => ?_⟩
    have hall := hsince.exactly ((halted_dispatch s).trans hgo) hl hkept
    rw [owes_dispatch h hgo] at hall
    refine ⟨hall, ?_⟩
    rw [hall, List.append_subset, and_iff_left (List.Subset.refl _)]
    refine ⟨fun hlater => ?_, fun hnone => hnone ▸ List.nil_subset _⟩
    have hnodup := nodup_commits h
    rw [htrace, commits_later, commits_cons rfl, List.nodup_append] at hnodup
    obtain ⟨-, -, hdistinct⟩ := hnodup
    -- Nothing is committed twice, so what is left over is not committed later as well.
    rw [List.eq_nil_iff_forall_not_mem]
    exact fun x hx => hdistinct x (howed hx) x (hlater hx) rfl
  · obtain ⟨new, hsince⟩ := Dispatch.since_moves l (dispatches_of_steps h k)
    refine ⟨new, by simpa only [trace_dispatch] using hsince.grown, ?_, fun hgo hl hkept => ?_⟩
    · exact (List.sublist_append_left _ _).trans
        (hsince.atMost.trans ((owes_dispatch_sublist h l).append_right _))
    · have hbefore : s.isStopped = false := by
        rw [← halted_dispatch]
        exact hsince.halted ((halted_dispatch t).trans hgo)
      have hregistered : l ∈ s.dispatch.registered := by
        rwa [Dispatch.registered, trace_dispatch, ← (delivering_of_run h).owing.registry]
      rw [← owes_dispatch (h.steps k) hgo, ← owes_dispatch h hbefore]
      exact hsince.exactly ((halted_dispatch t).trans hgo) hregistered hkept

end

end Cache

/-- The sample with a worker, and a listener that has to be released each time it is called. -/
def Setup.busy : Setup :=
  { Setup.sample with
    config := { Config.standard with dispatchInBackground := true }
    listener := fun l _ => if l = "first" then [.block] else [] }

/-- The busy sample when its listener was called with the first snapshot and the second one waits
for its round. -/
def Cache.queued : Cache :=
  after .busy [.addListener "first", .start, .respond none (.sample "7"),
    .respond none (.sample "9")] (create { now := 0, draws := [], policy := none })

/-- The busy sample when another listener was registered. -/
def Cache.busy : Cache :=
  queued.addListener "late"

/-- The busy sample when the first listener was released, from one round and from the other. -/
def Cache.released : Cache :=
  after .busy [.release, .release] busy

namespace Cache

/-- The busy sample came through a run. -/
theorem run_busy : ∃ as, Run .busy as busy := by
  obtain ⟨as, h⟩ := run_after .busy [.addListener "first", .start, .respond none (.sample "7"),
    .respond none (.sample "9")] { now := 0, draws := [], policy := none }
  exact ⟨_, h.steps (Step.addListener "late" _).steps⟩

/-- Nothing is committed when the first listener is released, and the other one is called once. -/
theorem steps_released : ∃ bs new, Steps .busy busy bs released ∧
    released.trace = new ++ busy.trace ∧ commits new = [] ∧ (handed "late" new).length = 1 := by
  obtain ⟨as, h⟩ := run_busy
  obtain ⟨bs, k⟩ := (reaches_obey .busy .release busy).trans (reaches_obey .busy .release _)
  obtain ⟨new, hsince⟩ := Dispatch.since_moves "late" (dispatches_of_steps h k)
  have htrace : released.trace = new ++ busy.trace := by
    rw [← trace_dispatch, ← trace_dispatch]
    exact hsince.grown
  have hcommits : (commits released.trace).length = (commits busy.trace).length := by decide +kernel
  have hhanded : (handed "late" released.trace).length = (handed "late" busy.trace).length + 1 := by
    decide +kernel
  rw [htrace, commits_later, List.length_append, Nat.add_eq_left] at hcommits
  rw [htrace, handed_later, List.length_append, Nat.add_left_cancel_iff] at hhanded
  exact ⟨bs, new, k, htrace, List.eq_nil_of_length_eq_zero hcommits, hhanded⟩

/-- The second snapshot of the busy sample was committed when the other listener was registered, and
is left over for it: when the first listener is released the other one is called with it. -/
theorem handed_since_busy : ∃ as bs new, Run .busy as busy ∧ Steps .busy busy bs released ∧
    released.trace = new ++ busy.trace ∧
    (commits busy.trace).map (·.index) = [some 7, some 9] ∧
    (outstanding busy "late").map (·.index) = [some 9] ∧ commits new = [] ∧
    handed "late" new = outstanding busy "late" := by
  obtain ⟨as, h⟩ := run_busy
  obtain ⟨bs, new, k, htrace, hcommits, -⟩ := steps_released
  obtain ⟨os, hos, -, hall⟩ := (handed_since h "late").2 bs released k
  obtain rfl : os = new := List.append_cancel_right (hos.symm.trans htrace)
  have hkept : .removed "late" ∉ os := by
    intro hmem
    have hany : released.trace.any (· matches .removed _) = true :=
      List.any_eq_true.2 ⟨_, htrace ▸ List.mem_append_left _ hmem, rfl⟩
    have hnone : released.trace.any (· matches .removed _) = false := by decide +kernel
    rw [hnone] at hany
    cases hany
  have heq := hall (by decide +kernel) (by decide +kernel) hkept
  have hover : outstanding released "late" = [] := List.isEmpty_iff.1 (by decide +kernel)
  rw [hover, hcommits, List.append_nil, List.append_nil] at heq
  exact ⟨as, bs, os, h, k, htrace, by decide +kernel, by decide +kernel, hcommits, heq⟩

/-- Who is registered is never handed what was committed before. -/
def NeverReplays (c : Setup) : Prop :=
  ∀ as s, Run c as s → ∀ l new old, s.trace = new ++ .added l :: old →
    l ∉ (Registry.replay old {}).listeners → handed l new ⊆ commits new

/-- Who is registered while a snapshot waits for its round is called with it. -/
theorem not_neverReplays_of_queued : ¬NeverReplays .busy := by
  intro hnever
  obtain ⟨as, h⟩ := run_busy
  obtain ⟨bs, new, k, htrace, hcommits, hhanded⟩ := steps_released
  have hnew : "late" ∉ (Registry.replay queued.trace {}).listeners := by decide +kernel
  have hnone := hnever _ _ (h.steps k) "late" new queued.trace htrace hnew
  rw [hcommits, List.subset_nil] at hnone
  rw [hnone] at hhanded
  cases hhanded

end Cache

end BlockingQuery
