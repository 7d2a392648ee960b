import BlockingQuery.Proofs.Cache.Run

/-!
# The life of a cache

A cache that has been started never goes back to where it was before (`begun_step`), and as long as
it has not been started its loop does nothing (`idle_of_run`).
-/

namespace BlockingQuery.Cache

/-- The cache has been started, or stopped. -/
def Begun (s : Cache) : Prop :=
  s.lifecycle ≠ .notStarted

section
variable {c d : Setup} {s t : Cache} {as : List Answer} {heard : Option Answer}

/-- What leaves the life of a cache alone, or stops it, does not undo its beginning. -/
theorem Begun.congr (h : s.Begun) (hlife : t.lifecycle = s.lifecycle ∨ t.lifecycle = .stopped) :
    t.Begun := by
  unfold Begun
  rcases hlife with hl | hl
  · exact hl ▸ h
  · rw [hl]
    exact Lifecycle.noConfusion

/-- What is quiet does not undo the beginning. -/
theorem begun_quiet (h : s.Begun) (k : Quiet s t) : t.Begun :=
  h.congr k.lifecycle

/-- A round does not undo the beginning. -/
theorem begun_framed (h : s.Begun) (k : Framed s t) : t.Begun :=
  h.congr (k.symm.imp And.left isStopped_iff.1)

/-- The loop does not undo the beginning where a round leaves it. -/
theorem begun_looped (o : OpenSession) (delay : Float) {round : Option Held × Cache}
    (h : round.2.Begun) :
    (looped o delay round).Begun := by
  obtain ⟨_ | held, t⟩ := round
  · have hended : ({ t with loop := .ended } : Cache).Begun := h
    change (pause o delay t).Begun
    rw [← pause_loop o delay .ended t]
    exact begun_quiet hended (quiet_pause o delay (.inr rfl))
  · exact h

/-- The worker does not undo the beginning where a round leaves it. -/
theorem begun_worked {round : Option Held × Cache} (h : round.2.Begun) : (worked round).Begun := by
  obtain ⟨_ | held, t⟩ := round <;> exact h

/-- Having the listeners called does not undo the beginning. -/
theorem begun_deliver (o : OpenSession) (snapshot : Snapshot) (delay : Float) (h : s.Begun) :
    (deliver c o snapshot delay s).Begun := by
  have hframed := framed_notify c .pollLoop snapshot s
  unfold deliver
  split
  next hs => exact begun_quiet h (quiet_leave (.inl hs))
  next =>
    split
    next =>
      let queued : Cache :=
        { s with worker := { s.worker with queue := s.worker.queue ++ [snapshot] } }
      exact begun_looped o delay (show ((none, queued) : Option Held × Cache).2.Begun from h)
    next => exact begun_looped o delay (begun_framed h hframed)

/-- An answer that is taken up does not undo the beginning. -/
theorem begun_accept (o : OpenSession) {a : Answer} (ha : a.index.isSome) (h : s.Begun)
    (hs : s.IsFree) :
    (accept c o a s).Begun := by
  rcases accept_cases c o ha hs with ⟨-, hq⟩ | ⟨new, t, -, hq, heq⟩
  · exact begun_quiet h hq
  · have ht : t.Begun := begun_quiet h hq
    have hcommit : (commit new t).Begun := by
      unfold Begun commit
      dsimp only
      split
      next => exact Lifecycle.noConfusion
      next => exact ht
    rw [heq]
    exact begun_deliver o new _ (begun_quiet hcommit (reacts_emit c .pollLoop _ _).quiet)

/-- No step undoes the beginning. -/
theorem begun_step (h : s.Begun) (hstep : Step c s heard t) : t.Begun := by
  cases hstep with
  | start hn => exact absurd hn h
  | stop => exact begun_quiet h (reacts_stop c .outside s).quiet
  | turn => exact begun_quiet h (quiet_turn c s)
  | @receive _ o x outcome hl =>
    have hs : s.IsFree := .inr (by rw [hl]; rfl)
    generalize x.receive s.now s.policy outcome = r
    unfold takeUp
    have hpolicy : ({ s with policy := r.2 } : Cache).Begun := h
    rcases conclude_cases c o r.1 (s := { s with policy := r.2 }) hs with
      ⟨-, hq⟩ | ⟨a, o', -, hindex, heq⟩
    · exact begun_quiet hpolicy hq
    · rw [heq]
      exact begun_accept o' hindex hpolicy hs
  | wake => exact h
  | goOn => exact begun_looped _ _ (begun_framed h (framed_release c .pollLoop _ s))
  | goOnWorking =>
    have hfree : ({ s with worker := { s.worker with held := none } } : Cache).Begun := h
    exact begun_worked (begun_framed hfree (framed_release c .worker _ _))
  | @workOn _ snapshot queue _ =>
    have hfree : ({ s with worker := { held := none, queue } } : Cache).Begun := h
    exact begun_worked (begun_framed hfree (framed_notify c .worker _ _))
  | addListener l => exact begun_quiet h (Reacts.addListener l s).quiet
  | removeListener l => exact begun_quiet h (Reacts.removeListener l s).quiet
  | observers => exact h
  | surround => exact h

/-- A cache that was not started has a loop that never ran. -/
def Idle (s : Cache) : Prop :=
  s.lifecycle = .notStarted → s.loop = .idle

/-- What leaves the loop alone unless the cache is stopped does not set an idle loop going. -/
theorem Idle.framed (h : s.Idle) (k : Framed s t) : t.Idle := by
  intro hn
  rcases k with ht | ⟨hlife, hloop, -⟩
  · rw [isStopped_iff, hn] at ht
    cases ht
  · exact hloop.trans (h (hlife.symm.trans hn))

/-- The worker does not set an idle loop going where a round leaves it. -/
theorem idle_worked {round : Option Held × Cache} (h : round.2.Idle) : (worked round).Idle := by
  obtain ⟨_ | held, t⟩ := round <;> exact h

/-- Nothing but a start sets an idle loop going. -/
theorem idle_step (h : s.Idle) (hstep : Step c s heard t) : t.Idle := by
  by_cases hs : s.Begun
  · exact fun hn => absurd hn (begun_step hs hstep)
  · have hn : s.lifecycle = .notStarted := Decidable.not_not.1 hs
    have hidle := h hn
    have hframed (hside : Reacts s t) : t.Idle :=
      h.framed (Framed.reacts (.inr ⟨rfl, rfl, rfl⟩) hside)
    cases hstep with
    | start =>
      have hbegun : ({ s with lifecycle := .starting, loop := .opening } : Cache).Begun :=
        Lifecycle.noConfusion
      exact fun hn => absurd hn (begun_quiet hbegun (reacts_emit c .outside .started _).quiet)
    | stop => exact hframed (reacts_stop c .outside s)
    | turn =>
      have hturn : turn c s = s := by rw [turn, hidle]
      rwa [hturn]
    | receive _ hl => rw [hidle] at hl; cases hl
    | wake hl => rw [hidle] at hl; cases hl
    | goOn hl => rw [hidle] at hl; cases hl
    | goOnWorking =>
      have hfree : ({ s with worker := { s.worker with held := none } } : Cache).Idle := h
      exact idle_worked (hfree.framed (framed_release c .worker _ _))
    | @workOn _ snapshot queue _ =>
      have hfree : ({ s with worker := { held := none, queue } } : Cache).Idle := h
      exact idle_worked (hfree.framed (framed_notify c .worker _ _))
    | addListener l => exact hframed (.addListener l s)
    | removeListener l => exact hframed (.removeListener l s)
    | observers => exact h
    | surround => exact h

/-- As long as a cache was not started, its loop does nothing. -/
theorem idle_of_run (h : Run c as s) : s.Idle := by
  obtain ⟨left, h⟩ := h
  exact h.keep (P := fun _ s => s.Idle) (l := []) (fun _ hs hstep => idle_step hs hstep)
    fun _ => rfl

end

end BlockingQuery.Cache
