import BlockingQuery.Proofs.Cache.Turns

/-!
# Nothing begins after a stop

Once a call of `stop` has come back, a cache opens no session, sends no request and calls no
listener, wherever the call came from (`over_of_run`). Of each move it is enough to know that what
begins finds the cache going, that what `stop` returns to is a stopped cache, and that a stopped
cache stays stopped (`stopIsFinal_move`).
-/

namespace BlockingQuery

/-- What begins does not fit a cache that is stopped. -/
theorem Occurrence.Fits.not_begins {s : Cache} {o : Occurrence} (h : o.Fits s)
    (hs : s.isStopped = true) : ¬o.Begins := by
  cases o with
  | opening | connected | requested | called => exact absurd hs (Bool.eq_false_iff.1 h.2)
  | closed | heard | committed | emitted | observed | added | removed | looked | stopReturned =>
    exact id

namespace Cache

/-- Nothing began after `stop` came back, and where it did the cache is stopped. -/
structure StopIsFinal (s : Cache) : Prop where
  isStopped : .stopReturned ∈ s.trace → s.isStopped = true
  ceased : Always (fun o os => .stopReturned ∈ os → ¬o.Begins) s.trace

section
variable {c : Setup} {s t : Cache} {as bs : List Answer}

/-- A move begins nothing after `stop` came back. -/
theorem stopIsFinal_move (h : StopIsFinal s) (hmove : Move s t) : StopIsFinal t := by
  have stays (hmem : .stopReturned ∈ s.trace) : t.isStopped = true :=
    isStopped_move (h.isStopped hmem) hmove
  rcases trace_move hmove with htrace | ⟨o, htrace, hfits, -⟩
  · exact ⟨fun hmem => stays (htrace ▸ hmem), htrace ▸ h.ceased⟩
  · refine ⟨fun hmem => ?_, htrace ▸ ⟨fun hmem => hfits.not_begins (stays hmem), h.ceased⟩⟩
    rw [htrace] at hmem
    rcases List.mem_cons.1 hmem with rfl | hmem
    · exact hfits
    · exact stays hmem

/-- In a stopped cache nothing begins from one move to the next. -/
theorem grown_moves (hs : s.isStopped = true) (h : Moves s t) :
    t.isStopped = true ∧ ∃ os, t.trace = os ++ s.trace ∧ ∀ o ∈ os, ¬o.Begins := by
  induction h with
  | refl => exact ⟨hs, [], rfl, by simp⟩
  | tail _ hlast ih =>
    obtain ⟨hu, os, htrace, hnone⟩ := ih
    have ht := isStopped_move hu hlast
    refine ⟨ht, ?_⟩
    rcases trace_move hlast with hsame | ⟨o, hgrown, hfits, -⟩
    · exact ⟨os, hsame.trans htrace, hnone⟩
    · refine ⟨o :: os, by rw [hgrown, htrace, List.cons_append], fun p hp => ?_⟩
      rcases List.mem_cons.1 hp with rfl | hp
      · exact hfits.not_begins ht
      · exact hnone p hp

/-- In every run nothing begins once a call of `stop` has come back: no session is opened, no
request is sent, and no listener is called. A cache is stopped when such a call came back, and only
then; its loop is at an end, or waits for a listener to finish its call, and the rounds that its
worker had yet to begin are dropped. It stays so whatever happens afterwards. A call of `stop` does
come back, wherever it is made, and leaves the cache stopped. -/
theorem over_of_run (h : Run c as s) :
    Always (fun o os => .stopReturned ∈ os → ¬o.Begins) s.trace ∧
    (s.isStopped = true ↔ .stopReturned ∈ s.trace) ∧
    (s.isStopped = true → s.loop.IsAtRest ∧ s.worker.queue = []) ∧
    (s.isStopped = true → ∀ bs t, Steps c s bs t →
      t.isStopped = true ∧ ∃ os, t.trace = os ++ s.trace ∧ ∀ o ∈ os, ¬o.Begins) ∧
    ∀ d place u, (stop d place u).2.isStopped = true ∧
      .stopReturned ∈ (stop d place u).2.trace := by
  obtain ⟨left, hmoves, hsteady⟩ := moves_of_run h
  have hfinal : StopIsFinal s := by
    clear h hsteady
    induction hmoves with
    | refl => exact ⟨nofun, trivial⟩
    | tail _ hlast ih => exact stopIsFinal_move ih hlast
  refine ⟨hfinal.ceased, ⟨(delivering_of_run h).owing.told, hfinal.isStopped⟩,
    fun hs => ⟨hsteady.atRest hs, hsteady.dropped hs⟩, fun hs bs t hsteps => ?_,
    fun d place u => ?_⟩
  · have hfresh : Fresh s := fun hgo => absurd hs (Bool.eq_false_iff.1 hgo)
    exact grown_moves hs (moves_steps hsteps hsteady hfresh).1
  · obtain ⟨v, hv, heq⟩ := stop_returns d place u
    rw [heq]
    exact ⟨hv, List.mem_cons_self⟩

end

end Cache

/-- The sample with a listener that stops the cache. -/
def Setup.stopping : Setup :=
  { Setup.sample with listener := fun _ _ => [.stop, .look] }

/-- The stopping sample with two listeners, when the first answer came in and another one after it.
-/
def Cache.stopping : Cache :=
  after .stopping [.addListener "first", .addListener "second", .start, .respond none (.sample "7"),
    .respond none (.sample "9"), .start]
    (create { now := 0, draws := [], policy := none })

namespace Cache

/-- The first listener stopped the cache, and the second one was not called. -/
theorem over_of_run_stopping : ∃ as, Run .stopping as stopping ∧
    handed "second" stopping.trace = [] ∧ (handed "first" stopping.trace).length = 1 ∧
    stopping.loop.IsAtRest ∧
    Always (fun o os => .stopReturned ∈ os → ¬o.Begins) stopping.trace := by
  obtain ⟨as, h⟩ := run_after .stopping _ _
  obtain ⟨hover, -, hrest, -⟩ := over_of_run (s := stopping) h
  have hs : stopping.isStopped = true := by decide +kernel
  exact ⟨as, h, List.isEmpty_iff.1 (by decide +kernel), by decide +kernel, (hrest hs).1, hover⟩

end Cache

end BlockingQuery
