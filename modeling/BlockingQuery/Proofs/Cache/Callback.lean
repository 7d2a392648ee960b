import BlockingQuery.Cache.Notification

/-!
# Relations that hold of whatever an application does

Observers and listeners do one thing after another, and each of them is one of a few: to be told of
an event or called with a snapshot, to look at the cache, to register or remove somebody, to stop
the cache. So a relation between caches that is transitive and holds of each of these things
(`Tolerant`) holds of all that observers do when they are told of an event
(`Tolerant.tell`), of a call of a listener (`Tolerant.perform`) and of whole rounds of calls
(`Tolerant.notifyWith`, `Tolerant.releaseWith`). What stopping does is left to the relation.

What stopping does comes down to a few things as well. A relation that holds of each of them
(`Halting`) holds of stopping from any place (`halting_stop`), and so of whatever the application
does; called by the poll loop, the application does not cancel it (`Marking`).
-/

namespace BlockingQuery

/-- What is noted of an application that observes or looks at a cache. It finds the cache as it is.
-/
def Occurrence.IsRemark (s : Cache) : Occurrence → Prop
  | .observed .. | .emitted (.listenerFailed ..) => True
  | .looked _ seen => seen = s.shown
  | _ => False

/-- What may be noted of a cache at any time. A look at the cache finds it as it is. -/
def Occurrence.IsPassing (s : Cache) : Occurrence → Prop
  | .observed .. | .closed | .heard _ => True
  | .emitted e => e ≠ .started ∧ e ≠ .stopped
  | .looked _ seen => seen = s.shown
  | .opening | .connected | .requested _ | .committed _ | .added _ | .removed _ | .called ..
  | .stopReturned => False

/-- A remark may be noted at any time. -/
theorem Occurrence.IsRemark.isPassing {s : Cache} {o : Occurrence} (h : o.IsRemark s) :
    o.IsPassing s := by
  cases o with
  | observed => trivial
  | looked => exact h
  | emitted e =>
    cases e with
    | listenerFailed => exact ⟨Event.noConfusion, Event.noConfusion⟩
    | started | stopped | changed | unchanged | failed => exact h.elim
  | opening | connected | closed | requested | heard | committed | added | removed | called
  | stopReturned => exact h.elim

namespace Cache

/-- The relation holds of each thing that code of an application does to a cache. -/
structure Tolerant (stop : Stop) (R : Cache → Cache → Prop) : Prop where
  refl : ∀ s, R s s
  trans : ∀ {s t u}, R s t → R t u → R s u
  note : ∀ s o, o.IsRemark s → R s (s.note o)
  add : ∀ l s, R s (s.addListener l)
  remove : ∀ l s, R s (s.removeListener l).2
  observers : ∀ os s, R s { s with observers := os }
  stop : ∀ s, R s (stop s).2

namespace Tolerant

variable {c : Setup} {stop : Stop} {R : Cache → Cache → Prop}

/-! ## Observers -/

/-- What an observer does when it is told of an event. -/
theorem react (h : Tolerant stop R) (observer : String) (rs : List Reaction) (s : Cache) :
    R s (react stop observer rs s) := by
  induction rs generalizing s with
  | nil => exact h.refl s
  | cons r rs ih =>
    cases r with
    | fail => exact h.refl s
    | stop =>
      have hstop := h.stop s
      rw [Cache.react]
      split
      next t ht => rw [ht] at hstop; exact h.trans hstop (ih t)
      next f t ht => rw [ht] at hstop; exact hstop
    | add l => exact h.trans (h.add l s) (ih _)
    | remove l => exact h.trans (h.remove l s) (ih _)
    | leave => exact h.trans (h.observers _ s) (ih _)
    | look => exact h.trans (h.note s (.looked observer s.shown) rfl) (ih _)

/-- The relation holds of what the observers do after an event came about. -/
theorem tell (h : Tolerant stop R) (e : Event) (s : Cache) :
    R (s.note (.emitted e)) (emitWith c stop e s) := by
  have told (os : List String) : ∀ t, R t (os.foldl (fun t o =>
      Cache.react stop o (c.observer o e) (t.note (.observed o e))) t) := by
    induction os with
    | nil => exact h.refl
    | cons o os ih =>
      intro t
      have hnoted := h.note t (.observed o e) trivial
      exact h.trans (h.trans hnoted (h.react o _ _)) (ih _)
  exact told s.observers (s.note (.emitted e))

/-- An event that comes about, and what the observers do. -/
theorem emitWith (h : Tolerant stop R) {e : Event} {s : Cache} (he : R s (s.note (.emitted e))) :
    R s (emitWith c stop e s) :=
  h.trans he (h.tell e s)

/-! ## Listeners -/

/-- What a listener does in one call. -/
theorem perform (h : Tolerant stop R) (l : String) (acts : List Act) (s : Cache) :
    R s (perform stop l acts s).state := by
  induction acts generalizing s with
  | nil => exact h.refl s
  | cons a acts ih =>
    cases a with
    | fail f => exact h.refl s
    | stop =>
      have hstop := h.stop s
      rw [Cache.perform]
      split
      next t ht => rw [ht] at hstop; exact h.trans hstop (ih t)
      next f t ht => rw [ht] at hstop; exact hstop
    | add m => exact h.trans (h.add m s) (ih _)
    | remove m => exact h.trans (h.remove m s) (ih _)
    | look => exact h.trans (h.note s (.looked l s.shown) rfl) (ih _)
    | block => exact h.refl s

/-- The relation holds of what the observers do when they are told of the failure of a listener. -/
theorem handle (h : Tolerant stop R) (snapshot : Snapshot) (l : String) (f : Failure) (s : Cache) :
    R s ((courier c stop snapshot).handle l f s) :=
  h.emitWith (h.note s (.emitted (.listenerFailed l f)) trivial)

section
variable {snapshot : Snapshot} {s t : Cache}

/-- The listeners are called one by one, where each call may begin. -/
theorem deliver (h : Tolerant stop R)
    (hcall : ∀ l t, R s t → t.isStopped = false → R t (t.note (.called l snapshot)))
    (ls : List String) (n : Nat) (hs : R s t) :
    R s (taken snapshot (Registry.deliver (courier c stop snapshot) ls n t)).2 := by
  induction ls generalizing n t with
  | nil => exact hs
  | cons l ls ih =>
    rw [Registry.deliver]
    split
    next => exact hs
    next hmay =>
      have hgo : t.isStopped = false := by simpa [courier] using hmay
      have hcalled := h.trans hs (hcall l t hs hgo)
      have hp := h.perform l (c.listener l snapshot) (t.note (.called l snapshot))
      have hcourier : (courier c stop snapshot).call l t =
          Cache.perform stop l (c.listener l snapshot) (t.note (.called l snapshot)) := rfl
      rw [hcourier]
      cases hc : Cache.perform stop l (c.listener l snapshot) (t.note (.called l snapshot)) with
      | returned u =>
        rw [hc] at hp
        exact ih n (h.trans hcalled hp)
      | raised f u =>
        rw [hc] at hp
        exact ih (n + 1) (h.trans (h.trans hcalled hp) (h.handle snapshot l f u))
      | held k u =>
        rw [hc] at hp
        exact h.trans hcalled hp

/-- The relation holds of a round from its beginning, if it holds of each call that begins in it. -/
theorem notifyWith (h : Tolerant stop R)
    (hcall : ∀ l t, R s t → t.isStopped = false → R t (t.note (.called l snapshot))) :
    R s (notifyWith c stop snapshot s).2 :=
  h.deliver hcall _ 0 (h.refl s)

/-- The relation holds of a round from where it was held up, if it holds of each call that begins in
it. -/
theorem releaseWith (h : Tolerant stop R) (held : Held)
    (hcall : ∀ l t, R s t → t.isStopped = false → R t (t.note (.called l held.snapshot))) :
    R s (releaseWith c stop held s).2 := by
  have hp := h.perform held.listener held.acts s
  unfold Cache.releaseWith
  cases hc : Cache.perform stop held.listener held.acts s with
  | returned u =>
    rw [hc] at hp
    exact h.deliver hcall _ _ hp
  | raised f u =>
    rw [hc] at hp
    exact h.deliver hcall _ _ (h.trans hp (h.handle held.snapshot held.listener f u))
  | held k u =>
    rw [hc] at hp
    exact hp

end

end Tolerant

/-! ## Stopping, one thing after the other -/

/-- The relation holds of each thing that stopping does to a cache, but for cancelling the loop. -/
structure Marking (R : Cache → Cache → Prop) : Prop extends Tolerant stopAgain R where
  mark : ∀ s, R s { s with lifecycle := .stopped }
  work : ∀ s worker, R s { s with worker }
  stopped : ∀ s, R s (s.note (.emitted .stopped))
  call : ∀ s l snapshot, R s (s.note (.called l snapshot))

/-- The relation holds of each thing that stopping does to a cache. -/
structure Halting (R : Cache → Cache → Prop) : Prop extends Marking R where
  cancel : ∀ s, R s (cancelLoop s)

section
variable {R : Cache → Cache → Prop}

/-- A relation that holds of the things that stopping does holds of stopping from a place, if it
holds of cancelling the loop where that is done. -/
theorem marking_stop (h : Marking R) (c : Setup) (place : Place)
    (hcancel : place ≠ .pollLoop → ∀ s, R s (cancelLoop s)) (s : Cache) :
    R s (stop c place s).2 := by
  unfold stop
  split
  next => exact h.stop s
  next =>
    have hmarked := h.mark s
    have hhalted : R s (if place = .pollLoop then { s with lifecycle := .stopped }
        else cancelLoop { s with lifecycle := .stopped }) := by
      split
      next => exact hmarked
      next hplace => exact h.trans hmarked (hcancel hplace _)
    dsimp only
    generalize (if place = .pollLoop then { s with lifecycle := .stopped }
      else cancelLoop { s with lifecycle := .stopped } : Cache) = t at hhalted ⊢
    split
    next => exact h.trans (h.trans hhalted (h.work t _)) (h.stop _)
    next =>
      have hfreed : R s (if place = .worker then t else freeWorker c t) := by
        split
        next => exact hhalted
        next =>
          unfold freeWorker
          split
          next => exact hhalted
          next =>
            exact h.trans (h.trans hhalted (h.work t _))
              (h.toTolerant.releaseWith _ fun _ _ _ _ => h.call _ _ _)
      exact h.trans (h.trans (h.trans hfreed (h.work _ _))
        (h.toTolerant.emitWith (h.stopped _))) (h.stop _)

/-- A relation that holds of each thing that stopping does holds of stopping, wherever that is asked
for. -/
theorem halting_stop (h : Halting R) (c : Setup) (place : Place) (s : Cache) :
    R s (stop c place s).2 :=
  marking_stop h.toMarking c place (fun _ => h.cancel) s

/-- A relation that holds of what stopping does, but for cancelling the loop, holds of whatever the
application does when the poll loop calls it. -/
theorem Marking.tolerant (h : Marking R) (c : Setup) : Tolerant (Cache.stop c .pollLoop) R :=
  { h.toTolerant with stop := marking_stop h c .pollLoop (absurd rfl) }

/-- A relation that holds of each thing that stopping does holds of whatever the application does.
-/
theorem Halting.tolerant (h : Halting R) (c : Setup) (place : Place) :
    Tolerant (Cache.stop c place) R :=
  { h.toTolerant with stop := halting_stop h c place }

end

end Cache

end BlockingQuery
