/-!
# Registered listeners

A `Registry` is an ordered set of listeners. A round of notifications, `Registry.deliver`, calls the listeners
that were registered when it began, one after the other; how a call goes, and what it does to the rest of the
world, is up to a `Courier`. A listener may fail, which is reported and ends nothing but its own call, or it
may be held up in the middle of its call, which leaves a `Round` to be taken up again by `Registry.resume`.
-/

namespace BlockingQuery

/-- Listeners in the order in which they were registered. -/
structure Registry (ι : Type) where
  listeners : List ι := []
  deriving Repr

namespace Registry

/-! ## The set -/

section
variable {ι : Type} [DecidableEq ι]

/-- Registers a listener. One that is registered keeps its place. -/
def add (r : Registry ι) (l : ι) : Registry ι :=
  if l ∈ r.listeners then r else ⟨r.listeners ++ [l]⟩

/-- Removes a listener, and tells whether it was registered. -/
def remove (r : Registry ι) (l : ι) : Bool × Registry ι :=
  if l ∈ r.listeners then (true, ⟨r.listeners.erase l⟩) else (false, r)

/-- What is handed back when a listener is registered. It removes that listener, whenever it is called. -/
def remover (l : ι) : Registry ι → Bool × Registry ι :=
  fun r => r.remove l

/-- The number of listeners. -/
def size (r : Registry ι) : Nat :=
  r.listeners.length

/-- Without listeners. -/
def empty : Registry ι := {}

theorem mem_add {r : Registry ι} {l m : ι} : m ∈ (r.add l).listeners ↔ m ∈ r.listeners ∨ m = l := by
  unfold add
  split
  next h =>
    constructor
    · exact .inl
    · rintro (hm | rfl)
      · exact hm
      · exact h
  next => simp

theorem nodup_add {r : Registry ι} (h : r.listeners.Nodup) (l : ι) : (r.add l).listeners.Nodup := by
  unfold add
  split
  next => exact h
  next hl =>
    rw [List.nodup_append]
    refine ⟨h, by simp, ?_⟩
    intro a ha b hb hab
    rw [List.mem_singleton] at hb
    subst hb
    subst hab
    exact hl ha

theorem nodup_remove {r : Registry ι} (h : r.listeners.Nodup) (l : ι) :
    (r.remove l).2.listeners.Nodup := by
  unfold remove
  split
  next => exact h.erase l
  next => exact h

end

/-! ## Rounds -/

/-- How a call of a listener went: it came back, it failed, or it is held up with `κ` still to do. -/
inductive Call (ε κ σ : Type)
  | returned (s : σ)
  | raised (e : ε) (s : σ)
  | held (rest : κ) (s : σ)

/-- The state after a call, or where it is held up. -/
def Call.state {ε κ σ : Type} : Call ε κ σ → σ
  | .returned s | .raised _ s | .held _ s => s

/-- Who calls listeners: whether the next one may be called, how a call goes, and what the handler of
failures does, which may fail in turn. -/
structure Courier (ι ε κ σ : Type) where
  mayCall : σ → Bool
  call : ι → σ → Call ε κ σ
  handler : Option (ι → ε → σ → Except ε Unit × σ)

/-- What is left of a round: the listeners still to be called, and how many have failed. -/
structure Round (ι : Type) where
  rest : List ι
  failures : Nat

/-- How far a round has come. -/
inductive Delivery (ι κ σ : Type)
  | finished (failures : Nat) (s : σ)
  | held (listener : ι) (rest : κ) (round : Round ι) (s : σ)

section
variable {ι ε κ σ : Type}

/-- Hands a failure to the handler, if there is one. A failure of the handler itself is dropped. -/
def Courier.handle (c : Courier ι ε κ σ) (l : ι) (e : ε) (s : σ) : σ :=
  match c.handler with
  | some f => (f l e s).2
  | none => s

/-- Calls listeners one after the other as long as that is allowed, `failures` of them having failed
before. -/
def deliver (c : Courier ι ε κ σ) : List ι → (failures : Nat) → σ → Delivery ι κ σ
  | [], n, s => .finished n s
  | l :: ls, n, s =>
    if !c.mayCall s then .finished n s
    else match c.call l s with
      | .returned s => deliver c ls n s
      | .raised e s => deliver c ls (n + 1) (c.handle l e s)
      | .held k s => .held l k ⟨ls, n⟩ s

/-- Goes on with a round after the call that held it up went on. -/
def resume (c : Courier ι ε κ σ) (l : ι) (r : Round ι) : Call ε κ σ → Delivery ι κ σ
  | .returned s => deliver c r.rest r.failures s
  | .raised e s => deliver c r.rest (r.failures + 1) (c.handle l e s)
  | .held k s => .held l k r s

/-- A round: calls all listeners that are registered. -/
def notify (c : Courier ι ε κ σ) (r : Registry ι) (s : σ) : Delivery ι κ σ :=
  deliver c r.listeners 0 s

end

end Registry

end BlockingQuery
