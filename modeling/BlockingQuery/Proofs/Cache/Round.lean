import BlockingQuery.Proofs.Cache.Reaction

/-!
# Rounds of notifications

A round calls one listener after the other, and each call, with whatever the listener and the
observers do in it, comes down to a note that the listener is called and something on the side
(`Reacts`). So what is to be shown of a round is shown once for a single call: `rounded_notify` and
`rounded_release` carry a property of the listeners that are still to be called, and of the state,
from the beginning of a round, or from where it was held up, to where it is over or held up again.
A round is over when nobody is left to be called, or when the cache is stopped.
-/

namespace BlockingQuery.Cache

/-- How a property of the listeners still to be called, and of the state, holds of a round that is
over or held up. -/
def Rounded (P : List String → Cache → Prop) (snapshot : Snapshot) : Option Held × Cache → Prop
  | (none, t) => ∃ rest, P rest t ∧ (rest = [] ∨ t.isStopped = true)
  | (some h, t) => P h.round.rest t ∧ h.snapshot = snapshot

section
variable {c : Setup} {place : Place} {snapshot : Snapshot} {P : List String → Cache → Prop}

/-- The listeners of a round are called one by one, each call keeping the property. -/
theorem rounded_deliver
    (hcall : ∀ l ls s t, s.isStopped = false → P (l :: ls) s →
      Reacts (s.note (.called l snapshot)) t → P ls t)
    (ls : List String) (n : Nat) {s : Cache} (h : P ls s) :
    Rounded P snapshot (taken snapshot
      (Registry.deliver (courier c (stop c place) snapshot) ls n s)) := by
  induction ls generalizing n s with
  | nil => exact ⟨[], h, .inl rfl⟩
  | cons l ls ih =>
    by_cases hs : s.isStopped = true
    · rw [Registry.deliver_of_mayNot (by simp [courier, hs])]
      exact ⟨l :: ls, h, .inr hs⟩
    · have hgo : s.isStopped = false := by simpa using hs
      have hp := reacts_perform (reacts_stop c place) l (c.listener l snapshot)
        (s.note (.called l snapshot))
      have hnot : ¬(!(courier c (stop c place) snapshot).mayCall s) = true := by
        simp [courier, hgo]
      have hcalled : (courier c (stop c place) snapshot).call l s =
          perform (stop c place) l (c.listener l snapshot) (s.note (.called l snapshot)) := rfl
      rw [Registry.deliver, if_neg hnot, hcalled]
      cases hc : perform (stop c place) l (c.listener l snapshot) (s.note (.called l snapshot)) with
      | returned t =>
        rw [hc] at hp
        exact ih n (hcall l ls s t hgo h hp)
      | raised f t =>
        rw [hc] at hp
        exact ih (n + 1) (hcall l ls s _ hgo h
          (hp.trans (reacts_handle (reacts_stop c place) snapshot l f t)))
      | held k t =>
        rw [hc] at hp
        exact ⟨hcall l ls s t hgo h hp, rfl⟩

/-- What each call keeps holds of a round from its beginning. -/
theorem rounded_notify
    (hcall : ∀ l ls s t, s.isStopped = false → P (l :: ls) s →
      Reacts (s.note (.called l snapshot)) t → P ls t)
    {s : Cache} (h : P s.registry.listeners s) :
    Rounded P snapshot (notify c place snapshot s) := by
  unfold notify
  split
  next hs => exact ⟨_, h, .inr hs⟩
  next => exact rounded_deliver hcall _ 0 h

/-- What each call keeps holds of a round from where it was held up. -/
theorem rounded_release {held : Held}
    (hcall : ∀ l ls s t, s.isStopped = false → P (l :: ls) s →
      Reacts (s.note (.called l held.snapshot)) t → P ls t)
    (hreacts : ∀ ls s t, P ls s → Reacts s t → P ls t) {s : Cache} (h : P held.round.rest s) :
    Rounded P held.snapshot (release c place held s) := by
  have hp := reacts_perform (reacts_stop c place) held.listener held.acts s
  unfold release releaseWith
  cases hc : perform (stop c place) held.listener held.acts s with
  | returned t =>
    rw [hc] at hp
    exact rounded_deliver hcall _ _ (hreacts _ s t h hp)
  | raised f t =>
    rw [hc] at hp
    exact rounded_deliver hcall _ _ (hreacts _ s _ h
      (hp.trans (reacts_handle (reacts_stop c place) held.snapshot held.listener f t)))
  | held k t =>
    rw [hc] at hp
    exact ⟨hreacts _ s t h hp, rfl⟩

end

/-! ## What a round leaves alone -/

/-- As long as the cache is not stopped, its life, the loop and the worker are as they were. -/
def Framed (s t : Cache) : Prop :=
  t.isStopped = true ∨ t.lifecycle = s.lifecycle ∧ t.loop = s.loop ∧ t.worker = s.worker

section
variable {s t u : Cache}

/-- What the application does leaves the life, the loop and the worker alone unless the cache is
stopped. -/
theorem Framed.reacts (h : Framed s t) (k : Reacts t u) : Framed s u := by
  by_cases hu : u.isStopped = true
  · exact .inl hu
  · have ht : ¬t.isStopped = true := fun ht => hu (k.isStopped ht)
    obtain ⟨hlife, hloop, hworker⟩ := h.resolve_left ht
    obtain ⟨kloop, kworker⟩ := k.waits.resolve_left hu
    have klife := k.lifecycle.resolve_right fun hs => hu (isStopped_iff.2 hs)
    exact .inr ⟨klife.trans hlife, kloop.trans hloop, kworker.trans hworker⟩

/-- A cache that is not stopped was not stopped before. -/
theorem Framed.isStopped_eq_false (h : Framed s t) (ht : t.isStopped = false) :
    s.isStopped = false := by
  have hlife := (h.resolve_left (Bool.eq_false_iff.1 ht)).1
  rwa [isStopped, ← hlife]

/-- A round leaves the life, the loop and the worker alone if each of its calls does. -/
theorem framed_rounded {snapshot : Snapshot} {round : Option Held × Cache}
    (h : Rounded (fun _ t => Framed s t) snapshot round) : Framed s round.2 := by
  obtain ⟨_ | held, t⟩ := round
  · obtain ⟨_, ht, _⟩ := h
    exact ht
  · exact h.1

/-- A round from its beginning leaves the life, the loop and the worker alone. -/
theorem framed_notify (c : Setup) (place : Place) (snapshot : Snapshot) (s : Cache) :
    Framed s (notify c place snapshot s).2 :=
  framed_rounded (rounded_notify (fun _ _ _ _ _ (ht : Framed s _) hu => Framed.reacts ht hu)
    (.inr ⟨rfl, rfl, rfl⟩))

/-- A round from where it was held up leaves the life, the loop and the worker alone. -/
theorem framed_release (c : Setup) (place : Place) (held : Held) (s : Cache) :
    Framed s (release c place held s).2 :=
  framed_rounded (rounded_release (fun _ _ _ _ _ (ht : Framed s _) hu => Framed.reacts ht hu)
    (fun _ _ _ ht hu => ht.reacts hu) (.inr ⟨rfl, rfl, rfl⟩))

end

end BlockingQuery.Cache
