import BlockingQuery.Cache.Scripted
import Mathlib.Data.List.Basic

/-!
# What a round does at its own level

A round calls listeners, and what a listener does in a call is anything at all: it may fail, change
the registry, or begin rounds of its own, in which there are calls again. To tell the calls of a
round from those of rounds inside it, the round is given a courier that writes down whom it calls
and what it tells the handler (`Courier.recording`), where nothing that is done in a call can get at
what was written. What is found there when the round is over is stated once for every courier
(`notify_recording`), so it holds of a round inside a call as of the round around it.

Scripted listeners write all their calls into one log, each with the level of its round. The calls
that stand there with a level are those of the round at that level, however many rounds were inside
(`Scripted.calledAt_round`).
-/

namespace BlockingQuery

namespace Registry

variable {ι ε κ σ : Type}

/-- What a round does: it calls a listener, or tells the handler of a failure, in some state. -/
inductive Deed (ι ε σ : Type)
  | called (l : ι) (s : σ)
  | handled (l : ι) (e : ε) (s : σ)

/-- The call, with something to go with its state. -/
def Call.pair {τ : Type} (x : τ) : Call ε κ σ → Call ε κ (σ × τ)
  | .returned s => .returned (s, x)
  | .raised e s => .raised e (s, x)
  | .held k s => .held k (s, x)

/-- Whether the call fails. -/
def Call.fails : Call ε κ σ → Bool
  | .raised _ _ => true
  | .returned _ | .held _ _ => false

namespace Courier

variable (c : Courier ι ε κ σ)

/-- The courier, who writes down what the round does. -/
def recording : Courier ι ε κ (σ × List (Deed ι ε σ)) where
  mayCall s := c.mayCall s.1
  call l s := (c.call l s.1).pair (s.2 ++ [.called l s.1])
  handler := c.handler.map fun f l e s =>
    ((f l e s.1).1, ((f l e s.1).2, s.2 ++ [.handled l e s.1]))

/-- A call goes as it would, and is written down. -/
@[simp] theorem call_recording (l : ι) (s : σ) (log : List (Deed ι ε σ)) :
    c.recording.call l (s, log) = (c.call l s).pair (log ++ [.called l s]) := rfl

/-- What a round does about a listener that it calls in a state: it calls it, and if the call fails
and there is a handler, it tells the handler. -/
def deeds (v : ι × σ) : List (Deed ι ε σ) :=
  .called v.1 v.2 :: match c.call v.1 v.2, c.handler with
    | .raised e t, some _ => [.handled v.1 e t]
    | _, _ => []

/-- A call that comes back is all that a recording has of it. -/
theorem deeds_of_returned {l : ι} {s t : σ} (h : c.call l s = .returned t) :
    c.deeds (l, s) = [.called l s] := by
  rw [deeds, h]

/-- A failure is handled, and the handler is told once if there is one. -/
theorem handle_recording {l : ι} {e : ε} {s t : σ} (h : c.call l s = .raised e t)
    (log : List (Deed ι ε σ)) :
    c.recording.handle l e (t, log ++ [.called l s]) = (c.handle l e t, log ++ c.deeds (l, s)) := by
  unfold handle deeds recording
  cases c.handler with
  | none => simp [h]
  | some f => simp [h]

end Courier

/-! ## Step by step -/

section
variable {c : Courier ι ε κ σ} {l : ι} {s t : σ}

/-- Where no call is allowed a round is over. -/
@[simp] theorem deliver_of_mayNot (h : c.mayCall s = false) (ls : List ι) (n : Nat) :
    deliver c ls n s = .finished n s := by
  cases ls with
  | nil => rfl
  | cons l ls => simp [deliver, h]

/-- A round goes on after a call that came back. -/
@[simp] theorem deliver_of_returned (hmay : c.mayCall s = true) (h : c.call l s = .returned t)
    (ls : List ι) (n : Nat) : deliver c (l :: ls) n s = deliver c ls n t := by
  rw [deliver, if_neg (by simp [hmay]), h]

/-- A round goes on after a call that failed. -/
@[simp] theorem deliver_of_raised {e : ε} (hmay : c.mayCall s = true) (h : c.call l s = .raised e t)
    (ls : List ι) (n : Nat) :
    deliver c (l :: ls) n s = deliver c ls (n + 1) (c.handle l e t) := by
  rw [deliver, if_neg (by simp [hmay]), h]

/-- A round stands still where a listener is held up. -/
@[simp] theorem deliver_of_held {k : κ} (hmay : c.mayCall s = true) (h : c.call l s = .held k t)
    (ls : List ι) (n : Nat) : deliver c (l :: ls) n s = .held l k ⟨ls, n⟩ t := by
  rw [deliver, if_neg (by simp [hmay]), h]

end

/-! ## What is written down -/

/-- A round that is over called some of the listeners, from the first one on and each in a state in
which that was allowed. It called all of them unless no call is allowed in the state that it left.
It did nothing else that could be written down, and the number it came to is that of the calls that
failed. -/
theorem deliver_recording (c : Courier ι ε κ σ) {ls : List ι} {n m : Nat} {s t : σ}
    (h : deliver c ls n s = .finished m t) (log : List (Deed ι ε σ)) :
    ∃ visits : List (ι × σ),
      deliver c.recording ls n (s, log) = .finished m (t, log ++ visits.flatMap c.deeds) ∧
      visits.map Prod.fst <+: ls ∧ (∀ v ∈ visits, c.mayCall v.2 = true) ∧
      (visits.map Prod.fst = ls ∨ c.mayCall t = false) ∧
      m = n + visits.countP fun v => (c.call v.1 v.2).fails := by
  induction ls generalizing n s log with
  | nil =>
    cases h
    exact ⟨[], by simp [deliver], List.nil_prefix, by simp, .inl rfl, by simp⟩
  | cons l ls ih =>
    cases hmay : c.mayCall s with
    | false =>
      have hmay' : c.recording.mayCall (s, log) = false := hmay
      rw [deliver_of_mayNot hmay] at h
      cases h
      refine ⟨[], ?_, List.nil_prefix, by simp, .inr hmay, by simp⟩
      rw [deliver_of_mayNot hmay', List.flatMap_nil, List.append_nil]
    | true =>
      have hmay' : c.recording.mayCall (s, log) = true := hmay
      -- The first visit is this one; the others are those of the rest of the round.
      have hvisit {visits : List (ι × σ)} (hcalled : visits.map Prod.fst <+: ls)
          (hall : visits.map Prod.fst = ls ∨ c.mayCall t = false) :
          ((l, s) :: visits).map Prod.fst <+: l :: ls ∧
            (((l, s) :: visits).map Prod.fst = l :: ls ∨ c.mayCall t = false) := by
        simpa using ⟨hcalled, hall⟩
      cases hcall : c.call l s with
      | returned u =>
        rw [deliver_of_returned hmay hcall] at h
        obtain ⟨visits, hlog, hcalled, hmays, hall, hcount⟩ := ih h (log ++ c.deeds (l, s))
        have hwritten : c.recording.call l (s, log) = .returned (u, log ++ c.deeds (l, s)) := by
          rw [c.call_recording, hcall, c.deeds_of_returned hcall]
          rfl
        refine ⟨(l, s) :: visits, ?_, (hvisit hcalled hall).1,
          List.forall_mem_cons.2 ⟨hmay, hmays⟩, (hvisit hcalled hall).2, ?_⟩
        · rw [deliver_of_returned hmay' hwritten, hlog, List.flatMap_cons,
            List.append_assoc]
        · rw [hcount, List.countP_cons_of_neg (by simp [hcall, Call.fails])]
      | raised e u =>
        rw [deliver_of_raised hmay hcall] at h
        obtain ⟨visits, hlog, hcalled, hmays, hall, hcount⟩ := ih h (log ++ c.deeds (l, s))
        have hwritten : c.recording.call l (s, log) = .raised e (u, log ++ [.called l s]) := by
          rw [c.call_recording, hcall]
          rfl
        refine ⟨(l, s) :: visits, ?_, (hvisit hcalled hall).1,
          List.forall_mem_cons.2 ⟨hmay, hmays⟩, (hvisit hcalled hall).2, ?_⟩
        · rw [deliver_of_raised hmay' hwritten, c.handle_recording hcall, hlog,
            List.flatMap_cons, List.append_assoc]
        · rw [hcount, List.countP_cons_of_pos (by simp [hcall, Call.fails])]
          omega
      | held k u =>
        rw [deliver_of_held hmay hcall] at h
        cases h

/-- A round in which no listener is held up comes to an end. -/
theorem deliver_eq_finished (c : Courier ι ε Empty σ) (ls : List ι) (n : Nat) (s : σ) :
    ∃ m t, deliver c ls n s = .finished m t := by
  cases h : deliver c ls n s with
  | finished m t => exact ⟨m, t, rfl⟩
  | held l k round t => exact nomatch k

/-- Whatever listeners and the handler do, a round comes to an end, and at its own level it does
just this: it calls the listeners that were registered when it began, one after the other in their
order, each of them in a state in which that is allowed, and all of them unless the round ends in a
state in which it is not; and each call that fails is told to the handler, if there is one, before
the next call. The round comes to the number of the calls that failed. -/
theorem notify_recording (c : Courier ι ε Empty σ) (r : Registry ι) (s : σ) :
    ∃ (visits : List (ι × σ)) (t : σ),
      r.notify c s = .finished (visits.countP fun v => (c.call v.1 v.2).fails) t ∧
      r.notify c.recording (s, []) =
        .finished (visits.countP fun v => (c.call v.1 v.2).fails) (t, visits.flatMap c.deeds) ∧
      visits.map Prod.fst <+: r.listeners ∧
      (∀ v ∈ visits, c.mayCall v.2 = true) ∧
      (visits.map Prod.fst = r.listeners ∨ c.mayCall t = false) ∧
      (r.listeners.Nodup → (visits.map Prod.fst).Nodup) := by
  obtain ⟨m, t, h⟩ := deliver_eq_finished c r.listeners 0 s
  obtain ⟨visits, hlog, hcalled, hmays, hall, hcount⟩ := deliver_recording c h []
  rw [Nat.zero_add] at hcount
  subst hcount
  exact ⟨visits, t, h, hlog, hcalled, hmays, hall, fun hdistinct =>
    hdistinct.sublist hcalled.sublist⟩

end Registry

/-- A script by which `a` removes `b`, registers `c`, begins a round inside and then fails. -/
def Scripted.sample : Script := fun l =>
  if l = "a" then [.remove "b", .add "c", .notify 1, .fail .notADuration] else []

/-- How many calls fail in a round of the script with `a` and `b`. -/
def Scripted.sampleFailures : Nat :=
  match (⟨["a", "b"]⟩ : Registry String).notify (courier sample none .failing 1 0) {} with
  | .finished n _ => n
  | .held .. => 0

/-- In a round with `a` and `b` both are called once, though `a` removes `b`, and nobody else is,
though `a` registers `c`. -/
theorem Registry.notify_recording_sample : ∃ visits : List (String × Scripted.State),
    visits.map Prod.fst = ["a", "b"] ∧ (visits.map Prod.fst).Nodup ∧
      (visits.countP fun v =>
        ((Scripted.courier Scripted.sample none .failing 1 0).call v.1 v.2).fails) = 1 := by
  obtain ⟨visits, t, hend, -, -, -, hall, hdistinct⟩ :=
    notify_recording (Scripted.courier Scripted.sample none .failing 1 0) ⟨["a", "b"]⟩ {}
  have hcalled : visits.map Prod.fst = ["a", "b"] := hall.resolve_right Bool.noConfusion
  refine ⟨visits, hcalled, hdistinct (by decide), ?_⟩
  have hfailed : Scripted.sampleFailures = 1 := by decide +kernel
  rwa [Scripted.sampleFailures, hend] at hfailed

/-! ## Rounds inside rounds -/

namespace Scripted

open Registry

/-- The listeners that were called in rounds of a level, in their order. The calls are given latest
first. -/
def calledAt (level : Int) (calls : List (String × Int)) : List String :=
  ((calls.filter fun e => e.2 == level).map Prod.fst).reverse

/-- From `s` to `t` there were more calls, none in a round of a level below `level`, and no failures
were told. -/
def Inside (level : Int) (s t : State) : Prop :=
  ∃ new, t.calls = new ++ s.calls ∧ (∀ e ∈ new, level ≤ e.2) ∧ t.failures = s.failures

section
variable {script : Script} {limit : Option Int} {handler : Handler} {level : Int} {s t u : State}

/-- A state in which nothing is called stays inside of any level. -/
theorem Inside.refl (s : State) : Inside level s s :=
  ⟨[], rfl, by simp, rfl⟩

/-- What stays inside of a level may be followed by what stays inside of it. -/
theorem Inside.trans (h : Inside level s t) (k : Inside level t u) : Inside level s u := by
  obtain ⟨new, hnew, hlevel, hfailures⟩ := h
  obtain ⟨new', hnew', hlevel', hfailures'⟩ := k
  refine ⟨new' ++ new, by rw [hnew', hnew, List.append_assoc], fun e he => ?_,
    hfailures'.trans hfailures⟩
  exact (List.mem_append.1 he).elim (hlevel' e) (hlevel e)

/-- What listeners do in a call stays inside, if the rounds that they begin do. -/
theorem inside_perform {inner : State → State} (hinner : ∀ s, Inside level s (inner s))
    (index : Int) (acts : List Act) (s : State) :
    Inside level s (perform index inner acts s).state := by
  induction acts generalizing s with
  | nil => exact .refl s
  | cons act acts ih =>
    have changed (registry : Registry String) : Inside level s { s with registry } :=
      ⟨[], rfl, by simp, rfl⟩
    cases act with
    | fail f => exact .refl s
    | add l => exact (changed _).trans (ih _)
    | remove l => exact (changed _).trans (ih _)
    | clear => exact (changed _).trans (ih _)
    | notify below =>
      rw [perform]
      split
      next => exact (hinner s).trans (ih _)
      next => exact ih s

/-- From `s` to `t` there was a round at a level in which `called` were called and `failed` of them
failed, which was told as far as there is a handler. All other calls were in rounds inside. -/
structure Took (handler : Handler) (level : Int) (s : State) (called : List String) (failed : Nat)
    (t : State) : Prop where
  calls : ∃ new, t.calls = new ++ s.calls ∧ (∀ e ∈ new, level ≤ e.2) ∧ calledAt level new = called
  failures : ∃ told, t.failures = told ++ s.failures ∧
    told.length = if handler = .none then 0 else failed

/-- A round without listeners calls nobody. -/
theorem Took.nil (handler : Handler) (level : Int) (s : State) : Took handler level s [] 0 s :=
  ⟨⟨[], rfl, by simp, rfl⟩, [], rfl, by simp⟩

/-- A call in which there are only rounds inside, and then the rest of a round. -/
theorem Took.cons {l : String} {called : List String} {failed fails : Nat} {v : State}
    (hcall : Inside (level + 1) { s with calls := (l, level) :: s.calls } t)
    (hcalls : u.calls = t.calls)
    (hfailures : ∃ told, u.failures = told ++ t.failures ∧
      told.length = if handler = .none then 0 else fails)
    (h : Took handler level u called failed v) :
    Took handler level s (l :: called) (fails + failed) v := by
  obtain ⟨inside, hinside, hdeeper, hsame⟩ := hcall
  constructor
  case calls =>
    obtain ⟨new, hnew, hlevel, hcalled⟩ := h.calls
    have hnone : inside.filter (fun e => e.2 == level) = [] := by
      refine List.filter_eq_nil_iff.2 fun e he => ?_
      have hlt := hdeeper e he
      simp only [beq_iff_eq]
      omega
    refine ⟨new ++ (inside ++ [(l, level)]), ?_, fun e he => ?_, ?_⟩
    · rw [hnew, hcalls, hinside]
      simp
    · simp only [List.mem_append, List.mem_singleton] at he
      rcases he with he | he | rfl
      · exact hlevel e he
      · have hlt := hdeeper e he
        omega
      · exact Int.le_refl level
    · rw [calledAt, List.filter_append, List.filter_append, hnone, ← hcalled]
      simp [calledAt]
  case failures =>
    obtain ⟨told, htold, hlength⟩ := hfailures
    obtain ⟨told', htold', hlength'⟩ := h.failures
    refine ⟨told' ++ told, by rw [htold', htold, hsame, List.append_assoc], ?_⟩
    rw [List.length_append, hlength, hlength']
    split <;> omega

/-- The handler is told of a failure if there is one, and calls nobody. -/
theorem handle_of_handler {c : Courier String Failure Empty State}
    (h : c.handler = handler.handle) (l : String) (f : Failure) (s : State) :
    (c.handle l f s).calls = s.calls ∧ ∃ told, (c.handle l f s).failures = told ++ s.failures ∧
      told.length = if handler = .none then 0 else 1 := by
  unfold Courier.handle
  rw [h]
  cases handler with
  | none => exact ⟨rfl, [], rfl, rfl⟩
  | recording | failing => exact ⟨rfl, [(l, f)], rfl, rfl⟩

/-- A round whose calls stay inside calls each of its listeners. -/
theorem took_deliver {c : Courier String Failure Empty State}
    (hcall : ∀ l s, Inside (level + 1) { s with calls := (l, level) :: s.calls } (c.call l s).state)
    (hhandler : c.handler = handler.handle) (ls : List String) (n : Nat) (s : State) :
    ∃ called failed t, deliver c ls n s = .finished (n + failed) t ∧
      Took handler level s called failed t ∧ called <+: ls ∧
        (called = ls ∨ c.mayCall t = false) := by
  induction ls generalizing n s with
  | nil => exact ⟨[], 0, s, rfl, .nil .., List.nil_prefix, .inl rfl⟩
  | cons l ls ih =>
    cases hmay : c.mayCall s with
    | false => exact ⟨[], 0, s, deliver_of_mayNot hmay .., .nil .., List.nil_prefix, .inr hmay⟩
    | true =>
      have hinside := hcall l s
      cases h : c.call l s with
      | returned u =>
        rw [h] at hinside
        obtain ⟨called, failed, t, hend, htook, hbegin, hall⟩ := ih n u
        refine ⟨l :: called, 0 + failed, t, ?_, .cons hinside rfl ⟨[], rfl, by simp⟩ htook,
          by simpa using hbegin, by simpa using hall⟩
        rw [deliver_of_returned hmay h, hend, Nat.zero_add]
      | raised f u =>
        rw [h] at hinside
        obtain ⟨called, failed, t, hend, htook, hbegin, hall⟩ := ih (n + 1) (c.handle l f u)
        obtain ⟨hcalls, hfailures⟩ := handle_of_handler hhandler l f u
        refine ⟨l :: called, 1 + failed, t, ?_, .cons hinside hcalls hfailures htook,
          by simpa using hbegin, by simpa using hall⟩
        rw [deliver_of_raised hmay h, hend, Nat.add_assoc]
      | held k u => exact nomatch k

/-- In a call of a scripted listener there are only rounds inside, however deep. -/
theorem inside_call (script : Script) (limit : Option Int) (handler : Handler) (depth : Nat)
    (level : Int) (l : String) (s : State) :
    Inside (level + 1) { s with calls := (l, level) :: s.calls }
      ((courier script limit handler depth level).call l s).state := by
  induction depth generalizing limit handler level l s with
  | zero => exact inside_perform .refl level (script l) _
  | succ depth ih =>
    refine inside_perform (fun s => ?_) level (script l) _
    have hhandler : (courier script none .none depth (level + 1)).handler =
        Handler.handle .none := by cases depth <;> rfl
    obtain ⟨called, failed, t, hend, htook, -⟩ := took_deliver
      (ih none .none (level + 1)) hhandler s.registry.listeners 0 s
    obtain ⟨new, hnew, hlevel, -⟩ := htook.calls
    obtain ⟨told, htold, hlength⟩ := htook.failures
    obtain rfl : told = [] := List.length_eq_zero_iff.1 hlength
    rw [notify, hend, settled]
    exact ⟨new, hnew, hlevel, htold⟩

/-- Among scripted listeners, who change the registry and begin rounds on it inside their calls, a
round calls at its own level those who were registered when it began, in their order, and all of
them unless it came to its limit. The handler, if there is one, is told of each failure at this
level, and of no other. -/
theorem calledAt_round (script : Script) (names : List String) (level : Int) (limit : Option Int)
    (handler : Handler) (s : State) :
    calledAt level (round script names level limit handler s).2.calls <+: s.registry.listeners ∧
    (calledAt level (round script names level limit handler s).2.calls = s.registry.listeners ∨
      ∃ n, limit = some n ∧ n ≤ (round script names level limit handler s).2.calls.length) ∧
    (handler ≠ .none → (round script names level limit handler s).2.failures.length =
      (round script names level limit handler s).1) := by
  unfold round
  dsimp only
  generalize ((names.map fun n => bound (script n)).foldl max 0 - level).toNat = depth
  obtain ⟨called, failed, t, hend, htook, hbegin, hall⟩ := took_deliver
    (inside_call script limit handler depth level) (by cases depth <;> rfl) s.registry.listeners 0
    { s with calls := [], failures := [] }
  obtain ⟨new, hnew, -, hcalled⟩ := htook.calls
  obtain ⟨told, htold, hlength⟩ := htook.failures
  rw [List.append_nil] at hnew htold
  rw [notify, hend, settled, hnew, hcalled, htold]
  refine ⟨hbegin, hall.imp_right fun hmay => ?_, fun hhandler => ?_⟩
  · rw [← hnew]
    have hlimit : (limit.all fun n => (t.calls.length : Int) < n) = false := by
      cases depth <;> exact hmay
    cases limit with
    | none => cases hlimit
    | some n => exact ⟨n, rfl, by simpa using hlimit⟩
  · rw [hlength, if_neg hhandler, Nat.zero_add]

end

end Scripted

end BlockingQuery
