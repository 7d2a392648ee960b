import BlockingQuery.Proofs.Cache.Callback
import BlockingQuery.Proofs.Cache.Registry

/-!
# What the code of an application does to a cache

Observers and listeners run in the middle of what a cache does, and they may stop it, look at it,
and register and remove listeners. `Reacts s t` says how far all of that gets: the snapshot stays
and the trace tells which listeners are registered (`Follows`), the count of failures, the clock
and the policy stay, and the poll loop and the worker are left alone unless the cache is stopped.
It is reflexive and transitive, and it holds of every reaction of an observer (`reacts_emit`), of
what a listener does in one call (`reacts_perform`) and of stopping, wherever it is asked for
(`reacts_stop`). No call of a listener begins in between: on the way through `stop` a listener that
was held up goes on, but its round is cut short (`reacts_releaseWith`).
-/

namespace BlockingQuery

/-- What can happen while code of the application runs and no listener is called. A look at the
cache finds the snapshot `snapshot`. -/
def Occurrence.IsReaction (snapshot : Snapshot) : Occurrence → Prop
  | .emitted _ | .observed .. | .added _ | .removed _ | .closed | .stopReturned => True
  | .looked _ seen => seen.snapshot = snapshot
  | .opening | .connected | .requested _ | .heard _ | .committed _ | .called .. => False

namespace Registry

/-- The registry after an occurrence. -/
def after (o : Occurrence) (r : Registry String) : Registry String :=
  match o with
  | .added l => r.add l
  | .removed l => (r.remove l).2
  | _ => r

/-- The registry after a trace, the latest occurrence first. -/
def replay (os : List Occurrence) (r : Registry String) : Registry String :=
  os.foldr after r

/-- The latest occurrence comes last. -/
@[simp] theorem replay_cons (o : Occurrence) (os : List Occurrence) (r : Registry String) :
    r.replay (o :: os) = (r.replay os).after o := rfl

/-- The registry after two traces is the one after the later trace, from where the earlier one led.
-/
@[simp] theorem replay_append (os ps : List Occurrence) (r : Registry String) :
    r.replay (os ++ ps) = (r.replay ps).replay os :=
  List.foldr_append

/-- A listener stays registered unless it is removed. -/
theorem mem_after {r : Registry String} {l : String} {o : Occurrence} (h : l ∈ r.listeners)
    (ho : o ≠ .removed l) : l ∈ (r.after o).listeners := by
  cases o with
  | added m => exact mem_add.2 (.inl h)
  | removed m =>
    have hne : l ≠ m := by
      rintro rfl
      exact ho rfl
    rw [after, remove]
    split
    · exact (List.mem_erase_of_ne hne).2 h
    · exact h
  | _ => exact h

/-- Nobody is registered twice. -/
theorem nodup_replay (os : List Occurrence) : (replay os {}).listeners.Nodup := by
  induction os with
  | nil => exact .nil
  | cons o os ih =>
    rw [replay_cons]
    cases o with
    | added m => exact nodup_add ih m
    | removed m => exact nodup_remove ih m
    | _ => exact ih

end Registry

namespace Cache

/-- A stopped cache is one at the end of its life. -/
theorem isStopped_iff {s : Cache} : s.isStopped = true ↔ s.lifecycle = .stopped := by
  simp [isStopped]

/-! ## One state after another -/

/-- `t` comes after `s`, and `P` is true of whatever is noted in between: the snapshot stays, the
trace tells which listeners were registered and removed, and a cache that came to be stopped was
told to by a call of `stop`. -/
structure Follows (P : Snapshot → Occurrence → Prop) (s t : Cache) : Prop where
  snapshot : t.snapshot = s.snapshot
  initialized : t.initialized = s.initialized
  lifecycle : t.lifecycle = s.lifecycle ∨ t.lifecycle = .stopped
  /-- The trace tells what was added and removed. -/
  grown : ∃ os, t.trace = os ++ s.trace ∧ (∀ o ∈ os, P s.snapshot o) ∧
    t.registry = s.registry.replay os
  /-- Nothing but a call of `stop` stops a cache. -/
  told : t.isStopped = true → s.isStopped = true ∨ .stopReturned ∈ t.trace

namespace Follows

variable {P Q : Snapshot → Occurrence → Prop} {s t u : Cache}

/-- A cache comes after itself. -/
protected theorem refl (s : Cache) : Follows P s s where
  snapshot := rfl
  initialized := rfl
  lifecycle := .inl rfl
  grown := ⟨[], rfl, by simp, rfl⟩
  told := .inl

/-- A stopped cache stays stopped. -/
theorem isStopped (h : Follows P s t) (hs : s.isStopped = true) : t.isStopped = true := by
  rw [isStopped_iff] at hs ⊢
  rcases h.lifecycle with hl | hl
  · exact hl.trans hs
  · exact hl

/-- A state that follows one that follows a third follows the third. -/
protected theorem trans (h : Follows P s t) (k : Follows P t u) : Follows P s u where
  snapshot := k.snapshot.trans h.snapshot
  initialized := k.initialized.trans h.initialized
  lifecycle := by
    rcases k.lifecycle with hk | hk
    · rcases h.lifecycle with hh | hh
      · exact .inl (hk.trans hh)
      · exact .inr (hk.trans hh)
    · exact .inr hk
  grown := by
    obtain ⟨os, hos, ha, hr⟩ := h.grown
    obtain ⟨ps, hps, hb, hq⟩ := k.grown
    rw [h.snapshot] at hb
    refine ⟨ps ++ os, by rw [hps, hos, List.append_assoc], fun o ho => ?_, ?_⟩
    · exact (List.mem_append.1 ho).elim (hb o) (ha o)
    · rw [hq, hr, Registry.replay_append]
  told hu := by
    obtain ⟨ps, hps, -, -⟩ := k.grown
    rcases k.told hu with ht | hm
    · exact (h.told ht).imp_right fun hm => hps ▸ List.mem_append_right ps hm
    · exact .inr hm

/-- A state that follows another one follows it also if more may be noted in between. -/
theorem mono (h : Follows P s t) (hPQ : ∀ i o, P i o → Q i o) : Follows Q s t where
  snapshot := h.snapshot
  initialized := h.initialized
  lifecycle := h.lifecycle
  grown := by
    obtain ⟨os, hos, ha, hr⟩ := h.grown
    exact ⟨os, hos, fun o ho => hPQ _ o (ha o ho), hr⟩
  told := h.told

end Follows

/-- `t` comes after `s`, and in between only code of the application ran, without a call of a
listener beginning. -/
structure Reacts (s t : Cache) : Prop extends Follows (fun i o => o.IsReaction i) s t where
  surroundings : t.toSurroundings = s.toSurroundings
  errorCount : t.errorCount = s.errorCount
  sessions : t.sessions = s.sessions
  /-- Only stopping takes hold of the loop and the worker. -/
  waits : t.isStopped = true ∨ t.loop = s.loop ∧ t.worker = s.worker

namespace Reacts

variable {s t u : Cache}

/-- The application may have things noted, with the listeners and the observers that come of it. -/
theorem noted (s : Cache) (os : List Occurrence) (observers : List String)
    (h : ∀ o ∈ os, o.IsReaction s.snapshot) :
    Reacts s { s with trace := os ++ s.trace, registry := s.registry.replay os, observers } where
  snapshot := rfl
  initialized := rfl
  lifecycle := .inl rfl
  grown := ⟨os, rfl, h, rfl⟩
  told := fun hs => .inl hs
  surroundings := rfl
  errorCount := rfl
  sessions := rfl
  waits := .inr ⟨rfl, rfl⟩

/-- The application may leave a cache as it is. -/
protected theorem refl (s : Cache) : Reacts s s :=
  noted s [] s.observers (by simp)

/-- The application may do one thing after the other. -/
protected theorem trans (h : Reacts s t) (k : Reacts t u) : Reacts s u where
  toFollows := h.toFollows.trans k.toFollows
  surroundings := k.surroundings.trans h.surroundings
  errorCount := k.errorCount.trans h.errorCount
  sessions := k.sessions.trans h.sessions
  waits := by
    rcases h.waits with hs | ⟨hl, hw⟩
    · exact .inl (k.isStopped hs)
    · rcases k.waits with ht | ⟨kl, kw⟩
      · exact .inl ht
      · exact .inr ⟨kl.trans hl, kw.trans hw⟩

/-- The application may have something noted that neither registers nor removes a listener. -/
theorem note (s : Cache) (o : Occurrence) (ho : o.IsReaction s.snapshot)
    (hr : s.registry.after o = s.registry) : Reacts s (s.note o) := by
  have h := noted s [o] s.observers (by simpa using ho)
  rw [Registry.replay_cons] at h
  dsimp only [Registry.replay, List.foldr] at h
  rwa [hr] at h

/-- The application may register a listener. -/
theorem addListener (l : String) (s : Cache) : Reacts s (s.addListener l) :=
  noted s [.added l] s.observers (by simp [Occurrence.IsReaction])

/-- The application may remove a listener. -/
theorem removeListener (l : String) (s : Cache) : Reacts s (s.removeListener l).2 := by
  unfold Cache.removeListener
  split
  next r hr =>
    have h := noted s [.removed l] s.observers (by simp [Occurrence.IsReaction])
    rw [Registry.replay_cons] at h
    dsimp only [Registry.replay, List.foldr, Registry.after] at h
    rwa [hr] at h
  next => exact .refl s

/-- The application may set the observers. -/
theorem observers (os : List String) (s : Cache) : Reacts s { s with observers := os } :=
  noted s [] os (by simp)

/-- The loop and the worker of a stopped cache may be changed. -/
theorem halted (h : s.isStopped = true) (l : Loop) (w : Worker) :
    Reacts s { s with loop := l, worker := w } :=
  { Reacts.refl s with
    told := .inl
    waits := .inl h }

/-- What follows the mark of stopping comes after what precedes it, once `stop` has returned. -/
theorem of_marked (h : Reacts { s with lifecycle := .stopped } t) (ht : .stopReturned ∈ t.trace) :
    Reacts s t :=
  { h with
    lifecycle := .inr (isStopped_iff.1 (h.isStopped rfl))
    waits := .inl (h.isStopped rfl)
    told := fun _ => .inr ht }

end Reacts

/-! ## Observers and listeners -/

section
variable {c : Setup} {stop : Stop}

/-- Whatever the application does is a reaction, if stopping is. -/
theorem tolerant_reacts (hstop : ∀ s, Reacts s (stop s).2) : Tolerant stop Reacts where
  refl := .refl
  trans h k := h.trans k
  note s o ho := by
    cases o with
    | observed | emitted => exact .note s _ trivial rfl
    | looked => exact .note s _ (congrArg Shown.snapshot ho) rfl
    | opening | connected | closed | requested | heard | committed | added | removed | called
    | stopReturned => exact ho.elim
  add := Reacts.addListener
  remove := Reacts.removeListener
  observers := Reacts.observers
  stop := hstop

/-- What all observers do when they are told of an event is a reaction. -/
theorem reacts_emitWith (hstop : ∀ s, Reacts s (stop s).2) (e : Event) (s : Cache) :
    Reacts s (emitWith c stop e s) :=
  (Reacts.note s (.emitted e) trivial rfl).trans ((tolerant_reacts hstop).tell e s)

/-- What a listener does in one call is a reaction. -/
theorem reacts_perform (hstop : ∀ s, Reacts s (stop s).2) (l : String) (acts : List Act)
    (s : Cache) : Reacts s (perform stop l acts s).state :=
  (tolerant_reacts hstop).perform l acts s

/-- What the observers do when they are told of the failure of a listener is a reaction. -/
theorem reacts_handle (hstop : ∀ s, Reacts s (stop s).2) (snapshot : Snapshot) (l : String)
    (f : Failure) (s : Cache) : Reacts s ((courier c stop snapshot).handle l f s) :=
  reacts_emitWith hstop _ s

/-- A round of a stopped cache that goes on calls nobody, so it is a reaction. -/
theorem reacts_releaseWith (hstop : ∀ s, Reacts s (stop s).2) (h : Held) {s : Cache}
    (hs : s.isStopped = true) : Reacts s (releaseWith c stop h s).2 :=
  (tolerant_reacts hstop).releaseWith h fun _ _ ht hgo =>
    absurd (ht.isStopped hs) (Bool.eq_false_iff.1 hgo)

end

/-! ## Stopping -/

/-- Stopping a cache that is stopped is a reaction. -/
theorem reacts_stopAgain (s : Cache) : Reacts s (stopAgain s).2 :=
  .note s .stopReturned trivial rfl

/-- Ending the loop of a stopped cache is a reaction. -/
theorem reacts_cancelLoop {s : Cache} (hs : s.isStopped = true) : Reacts s (cancelLoop s) := by
  have closed : Reacts s { s.note .closed with loop := .ended } :=
    (Reacts.note s .closed trivial rfl).trans (.halted (s := s.note .closed) hs .ended s.worker)
  unfold cancelLoop
  split <;> first | exact closed | exact .halted hs .ended s.worker | exact .refl s

/-- Letting the worker of a stopped cache go on is a reaction. -/
theorem reacts_freeWorker (c : Setup) {s : Cache} (hs : s.isStopped = true) :
    Reacts s (freeWorker c s) := by
  unfold freeWorker
  split
  · exact .refl s
  · exact (Reacts.halted hs s.loop _).trans (reacts_releaseWith reacts_stopAgain _ hs)

/-- Dropping the rounds that the worker of a stopped cache has yet to begin is a reaction. -/
theorem reacts_dropQueue {s : Cache} (hs : s.isStopped = true) : Reacts s s.dropQueue :=
  .halted hs s.loop _

/-- Stopping a cache is a reaction, wherever it is asked for. -/
theorem reacts_stop (c : Setup) (place : Place) (s : Cache) : Reacts s (stop c place s).2 := by
  unfold stop
  split
  · exact reacts_stopAgain s
  · have marked : ({ s with lifecycle := .stopped } : Cache).isStopped = true := rfl
    have halted : Reacts { s with lifecycle := .stopped }
        (if place = .pollLoop then { s with lifecycle := .stopped }
          else cancelLoop { s with lifecycle := .stopped }) := by
      split
      · exact .refl _
      · exact reacts_cancelLoop marked
    dsimp only
    generalize (if place = .pollLoop then { s with lifecycle := .stopped }
      else cancelLoop { s with lifecycle := .stopped } : Cache) = t at halted ⊢
    have ht : t.isStopped = true := halted.isStopped marked
    split
    next f _ =>
      refine .of_marked ((halted.trans (reacts_dropQueue ht)).trans
        (.note _ .stopReturned trivial rfl)) ?_
      exact List.mem_cons_self
    next =>
      have freed : Reacts { s with lifecycle := .stopped }
          (if place = .worker then t else freeWorker c t) := by
        split
        · exact halted
        · exact halted.trans (reacts_freeWorker c ht)
      refine .of_marked (((freed.trans (reacts_dropQueue (freed.isStopped marked))).trans
        (reacts_emitWith reacts_stopAgain .stopped _)).trans (reacts_stopAgain _)) ?_
      exact List.mem_cons_self

/-- What the observers of a cache do is a reaction, wherever the event comes from. -/
theorem reacts_emit (c : Setup) (place : Place) (e : Event) (s : Cache) :
    Reacts s (emit c place e s) :=
  reacts_emitWith (reacts_stop c place) e s

end Cache

end BlockingQuery
