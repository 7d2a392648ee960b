import BlockingQuery.Proofs.Cache.Stopping

/-!
# What ends the loop

Sessions that cannot be opened or closed, queries that fail in whatever way, keys that cannot be
taken, listeners and observers that fail, and a policy that fails when it is asked or told
something: none of that ends the poll loop of a cache. After each it goes on at once or when a delay
is over, and it ends in a cache that was stopped and in no other (`stopped_of_ended`).

The invariant is that the loop is live as long as the cache is not stopped (`Lively`). What the loop
does itself leads to where it is poised, whatever goes wrong on the way (`Poised`), and all others
leave it alone unless they stop the cache (`loop_step`).
-/

namespace BlockingQuery

namespace Cache

/-- What a step does to the loop. -/
inductive LoopStep (s t : Cache) : Prop
  /-- The loop is left alone, unless the cache is stopped. -/
  | left (h : t.isStopped = true ∨ t.lifecycle = s.lifecycle ∧ t.loop = s.loop)
  | started (hn : s.lifecycle = .notStarted) (h : t.isStopped = true ∨ t.loop = .opening)
  | turned (hready : isReady s.loop = true) (h : t.Poised)
  | received {o : OpenSession} {x : Exchange} (hloop : s.loop = .awaiting o x)
    (h : s.isStopped = false → t.Poised)
  | woken {delay : Float} {o : Option OpenSession} (hloop : s.loop = .sleeping delay o)
    (h : t.loop = awake o)
  | released {o : OpenSession} {held : Held} {delay : Float}
    (hloop : s.loop = .notifying o held delay) (h : t.Poised)

/-- The loop goes on, if the cache was started and not stopped. -/
def Lively (s : Cache) : Prop :=
  s.Begun → s.isStopped = false → s.loop.IsLive

section
variable {c : Setup} {s t u : Cache} {as : List Answer} {heard : Option Answer}

/-- The code of an application leaves the loop alone. -/
theorem LoopStep.reacts (h : Reacts s t) : LoopStep s t :=
  .left ((Framed.reacts (.inr ⟨rfl, rfl, rfl⟩) h).imp_right fun ⟨hlife, hloop, _⟩ => ⟨hlife, hloop⟩)

/-- The loop is where it was when a round of the worker is over or held up. -/
theorem LoopStep.worked {round : Option Held × Cache} (hlife : u.lifecycle = s.lifecycle)
    (hloop : u.loop = s.loop) (h : Framed u round.2) : LoopStep s (worked round) := by
  have hleft : round.2.isStopped = true ∨
      round.2.lifecycle = s.lifecycle ∧ round.2.loop = s.loop :=
    h.imp_right fun ⟨klife, kloop, _⟩ => ⟨klife.trans hlife, kloop.trans hloop⟩
  obtain ⟨_ | held, t⟩ := round <;> exact .left hleft

/-- Every step is one of these. -/
theorem loop_step (h : Step c s heard t) : LoopStep s t := by
  cases h with
  | start hn =>
    have hopening := (reacts_emit c .outside .started
      { s with lifecycle := .starting, loop := .opening }).waits
    exact .started hn (hopening.imp_right And.left)
  | stop => exact .reacts (reacts_stop c .outside s)
  | turn =>
    by_cases hready : isReady s.loop = true
    · exact .turned hready (poised_turn c hready)
    · rw [turn_of_waiting c hready]
      exact .left (.inr ⟨rfl, rfl⟩)
  | receive outcome hloop => exact .received hloop fun hgo => poised_takeUp c _ _ hgo
  | wake hloop => exact .woken hloop rfl
  | goOn hloop => exact .released hloop (poised_looped _ _ _)
  | @goOnWorking _ held =>
    exact .worked (u := { s with worker := { s.worker with held := none } }) rfl rfl
      (framed_release c .worker held _)
  | @workOn _ snapshot queue =>
    exact .worked (u := { s with worker := { held := none, queue } }) rfl rfl
      (framed_notify c .worker snapshot _)
  | addListener l => exact .reacts (.addListener l s)
  | removeListener l => exact .reacts (.removeListener l s)
  | observers | surround => exact .left (.inr ⟨rfl, rfl⟩)

/-- No step ends the loop of a cache that is not stopped. -/
theorem lively_step (hs : Steady s) (hlive : s.Lively) (h : Step c s heard t) : t.Lively := by
  intro hbegun hgo
  have hnot : ¬t.isStopped = true := Bool.eq_false_iff.1 hgo
  cases loop_step h with
  | left h =>
    obtain ⟨hlife, hloop⟩ := h.resolve_left hnot
    have hbefore : s.Begun := by
      rw [Begun, ← hlife]
      exact hbegun
    have hgoing : s.isStopped = false := by rwa [isStopped, ← hlife]
    rw [hloop]
    exact hlive hbefore hgoing
  | started _ h =>
    rw [h.resolve_left hnot]
    trivial
  | turned _ h | released _ h => exact h.live hgo
  | received hloop h => exact (h (hs.isStopped_of_awaiting hloop)).live hgo
  | @woken _ o _ h =>
    rw [h]
    cases o <;> trivial

/-- No number of steps ends the loop of a cache that is not stopped. -/
theorem lively_of_steps (h : Steps c s as t) (hs : Steady s) (hlive : s.Lively) :
    Steady t ∧ t.Lively := by
  induction h with
  | refl => exact ⟨hs, hlive⟩
  | tail _ _ hstep ih =>
    obtain ⟨hsteady, hlively⟩ := ih
    exact ⟨steady_step hsteady hstep, lively_step hsteady hlively hstep⟩

/-- In every run, whatever fails on the way, the loop has ended only if the cache is stopped, and
that was done by a call of `stop`. As long as no such call was made, the loop of a cache that was
started goes on. -/
theorem stopped_of_ended (h : Run c as s) :
    (s.loop = .ended → s.isStopped = true ∧ .stopReturned ∈ s.trace) ∧
      (s.Begun → .stopReturned ∉ s.trace → s.loop.IsLive) := by
  have htold : s.isStopped = true → .stopReturned ∈ s.trace := (delivering_of_run h).owing.told
  obtain ⟨left, hsteps⟩ := h
  obtain ⟨hsteady, hlively⟩ :=
    lively_of_steps hsteps (steady_create left) fun hbegun => absurd rfl hbegun
  refine ⟨fun hended => ?_, fun hbegun hnone => ?_⟩
  · have hbegun : s.Begun := hsteady.begun_of_loop fun hidle =>
      Loop.noConfusion (hidle.symm.trans hended)
    have hs : s.isStopped = true := by
      by_contra hgo
      have hlive := hlively hbegun (Bool.eq_false_iff.2 hgo)
      rw [hended] at hlive
      exact hlive
    exact ⟨hs, htold hs⟩
  · exact hlively hbegun (Bool.eq_false_iff.2 fun hs => hnone (htold hs))

/-- The loop of the stopping sample has ended, and a call of `stop` came back before. -/
theorem stopped_of_ended_stopping : ∃ as, Run .stopping as stopping ∧
    stopping.loop = .ended ∧ .stopReturned ∈ stopping.trace := by
  obtain ⟨as, h⟩ := run_after .stopping _ _
  have hcheck : (match stopping.loop with
      | .ended => true
      | .idle | .opening | .polling _ | .awaiting .. | .sleeping .. | .notifying .. => false) =
      true := by decide +kernel
  have hended : stopping.loop = .ended := by
    cases hloop : stopping.loop with
    | ended => rfl
    | idle | opening | polling | awaiting | sleeping | notifying =>
      rw [hloop] at hcheck
      cases hcheck
  exact ⟨as, h, hended, ((stopped_of_ended (s := stopping) h).1 hended).2⟩

end

end Cache

end BlockingQuery
