import BlockingQuery.Proofs.Cache.Run

/-!
# What the application cannot reach

Observers and listeners may stop a cache, but they cannot send a query, change the snapshot or
touch the clock and the policy, and the poll loop stays where it is unless they end it. `Unpolled`
says so of two states, and it holds of telling the observers (`unpolled_emit`), of whole rounds of
listeners (`unpolled_notify`, `unpolled_release`), of taking keys (`unpolled_collect`) and of
stopping (`unpolled_stop`).
-/

namespace BlockingQuery

/-- The request that the transport gets. -/
def Occurrence.request? : Occurrence → Option Request
  | .requested r => some r
  | _ => none

/-- An occurrence that gives the transport a request is the sending of it. -/
theorem Occurrence.eq_of_request? {o : Occurrence} {r : Request} (h : o.request? = some r) :
    o = .requested r := by
  cases o <;> cases h
  rfl

namespace Cache

/-! ## Nothing polled -/

/-- `t` comes after `s`, and the transport got no request in between. -/
def Unasked (s t : Cache) : Prop :=
  ∃ os, t.trace = os ++ s.trace ∧ ∀ o ∈ os, o.request? = none

/-- `t` comes after `s`, and in between nothing happened but what the application did, listeners
being called included. -/
structure Unpolled (s t : Cache) : Prop where
  snapshot : t.snapshot = s.snapshot
  surroundings : t.toSurroundings = s.toSurroundings
  loop : t.loop = s.loop ∨ t.loop = .ended
  unasked : Unasked s t

section
variable {c : Setup} {place : Place} {s t u : Cache}

/-- From a cache to itself the transport gets no request. -/
protected theorem Unasked.refl (s : Cache) : Unasked s s :=
  ⟨[], rfl, by simp⟩

/-- The transport gets no request in two stretches if it gets none in either. -/
protected theorem Unasked.trans (h : Unasked s t) (k : Unasked t u) : Unasked s u := by
  obtain ⟨os, hos, hnone⟩ := h
  obtain ⟨ps, hps, knone⟩ := k
  refine ⟨ps ++ os, by rw [hps, hos, List.append_assoc], fun o ho => ?_⟩
  exact (List.mem_append.1 ho).elim (knone o) (hnone o)

/-- Noting something that is no request sends none. -/
theorem Unasked.note (s : Cache) {o : Occurrence} (ho : o.request? = none) : Unasked s (s.note o) :=
  ⟨[o], rfl, by simpa using ho⟩

namespace Unpolled

/-- From a cache to itself nothing is polled. -/
protected theorem refl (s : Cache) : Unpolled s s :=
  ⟨rfl, rfl, .inl rfl, .refl s⟩

/-- Nothing is polled in two stretches if nothing is in either. -/
protected theorem trans (h : Unpolled s t) (k : Unpolled t u) : Unpolled s u where
  snapshot := k.snapshot.trans h.snapshot
  surroundings := k.surroundings.trans h.surroundings
  loop := by
    rcases k.loop with hk | hk
    · rw [hk]
      exact h.loop
    · exact .inr hk
  unasked := h.unasked.trans k.unasked

/-- Nothing is polled where something is noted that is no request. -/
theorem note (s : Cache) {o : Occurrence} (ho : o.request? = none) : Unpolled s (s.note o) :=
  ⟨rfl, rfl, .inl rfl, .note s ho⟩

end Unpolled

/-- Nothing is polled in each thing that stopping does. -/
theorem halting_unpolled : Halting Unpolled where
  refl := .refl
  trans h k := h.trans k
  note s o ho := by
    cases o with
    | requested => exact ho.elim
    | _ => exact .note s rfl
  add l s := ⟨rfl, rfl, .inl rfl, .note s rfl⟩
  remove l s := by
    unfold removeListener
    split
    next => exact ⟨rfl, rfl, .inl rfl, .note s rfl⟩
    next => exact .refl s
  observers _ s := ⟨rfl, rfl, .inl rfl, .refl s⟩
  stop s := .note s rfl
  mark s := ⟨rfl, rfl, .inl rfl, .refl s⟩
  cancel s := by
    unfold cancelLoop
    split
    all_goals first
      | exact ⟨rfl, rfl, .inr rfl, .note s rfl⟩
      | exact ⟨rfl, rfl, .inr rfl, .refl s⟩
      | exact .refl s
  work s _ := ⟨rfl, rfl, .inl rfl, .refl s⟩
  stopped s := .note s rfl
  call s _ _ := .note s rfl

/-- Nothing is polled in what the application does, wherever it is called. -/
theorem tolerant_unpolled (c : Setup) (place : Place) : Tolerant (stop c place) Unpolled :=
  halting_unpolled.tolerant c place

/-- Stopping polls nothing. -/
theorem unpolled_stop (c : Setup) (place : Place) (s : Cache) :
    Unpolled s (stop c place s).2 :=
  (tolerant_unpolled c place).stop s

/-- Telling the observers of an event polls nothing. -/
theorem unpolled_emit (c : Setup) (place : Place) (e : Event) (s : Cache) :
    Unpolled s (emit c place e s) :=
  (tolerant_unpolled c place).emitWith (.note s rfl)

/-- A round from its beginning polls nothing. -/
theorem unpolled_notify (c : Setup) (place : Place) (snapshot : Snapshot) (s : Cache) :
    Unpolled s (notify c place snapshot s).2 := by
  unfold notify
  split
  next => exact .refl s
  next => exact (tolerant_unpolled c place).notifyWith fun _ t _ _ => .note t rfl

/-- A round from where it was held up polls nothing. -/
theorem unpolled_release (c : Setup) (place : Place) (held : Held) (s : Cache) :
    Unpolled s (release c place held s).2 :=
  (tolerant_unpolled c place).releaseWith held fun _ t _ _ => .note t rfl

/-- Taking keys from entities polls nothing. -/
theorem unpolled_collect (c : Setup) (vs : List Json) (es : Entries) (s : Cache) :
    Unpolled s (collect c vs es s).2 :=
  (tolerant_unpolled c .pollLoop).collect vs es s

end

end Cache

end BlockingQuery
