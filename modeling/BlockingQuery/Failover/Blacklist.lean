import BlockingQuery.Seconds
import BlockingQuery.Target

/-!
# The blacklist of failed targets

A `Blacklist` remembers when targets failed, in the order in which they came onto it. A failure excludes
its target for a window of time: `Blacklist.excludes` tells whether it still does. An entry whose time is
over goes when it is looked at, by `Blacklist.inspect`, and not before.
-/

namespace BlockingQuery.Failover

/-- Targets and the times of their latest failures. -/
abbrev Blacklist (τ : Type) := List (Target × τ)

/-- An entry as it is reported: the time of the failure, and the time after which it excludes no more. -/
structure Entry (τ : Type) where
  target : Target
  failedAt : τ
  expiresAt : τ

namespace Blacklist

variable {τ : Type} [Seconds τ]

/-- The time of the failure on record for a target. -/
def failure? (b : Blacklist τ) (t : Target) : Option τ :=
  b.lookup t

/-- Whether a failure at the time `failedAt` lies further back than the window. -/
def isOver (window now failedAt : τ) : Bool :=
  decide (window < now - failedAt)

/-- Whether the record of a target excludes it now. -/
def excludes (window now : τ) (b : Blacklist τ) (t : Target) : Bool :=
  (b.failure? t).any fun failedAt => !isOver window now failedAt

/-- The blacklist without the record of a target. -/
def erase (b : Blacklist τ) (t : Target) : Blacklist τ :=
  b.filter fun e => e.1 != t

/-- The blacklist after one look at a target: a record that is over is gone. -/
def inspect (window now : τ) (b : Blacklist τ) (t : Target) : Blacklist τ :=
  if excludes window now b t then b else b.erase t

/-- Records a failure. A target that is on the list keeps its place. -/
def record (now : τ) (t : Target) : Blacklist τ → Blacklist τ
  | [] => [(t, now)]
  | e :: es => if e.1 = t then (t, now) :: es else e :: record now t es

/-- The first of the targets that is not excluded, and the blacklist after looking at the targets up to
it. -/
def firstViable (window now : τ) (b : Blacklist τ) : List Target → Option Target × Blacklist τ
  | [] => (none, b)
  | t :: ts =>
    if excludes window now b t then firstViable window now b ts
    else (some t, inspect window now b t)

/-- The records that still exclude their targets. -/
def current (window now : τ) (b : Blacklist τ) : Blacklist τ :=
  b.filter fun e => !isOver window now e.2

/-- The records that still exclude their targets, as they are reported. -/
def report (window now : τ) (b : Blacklist τ) : List (Entry τ) :=
  (b.current window now).map fun e => ⟨e.1, e.2, e.2 + window⟩

/-! ## What is on record after each step -/

omit [Seconds τ] in
theorem failure?_cons (v u : Target) (x : τ) (es : Blacklist τ) :
    failure? ((v, x) :: es) u = if u = v then some x else failure? es u := by
  unfold failure?
  by_cases h : u = v
  · simp [h]
  · rw [List.lookup_cons, if_neg h, beq_false_of_ne h]

omit [Seconds τ] in
theorem failure?_erase (b : Blacklist τ) (t u : Target) :
    (b.erase t).failure? u = if u = t then none else b.failure? u := by
  induction b with
  | nil => simp [erase, failure?]
  | cons e es ih =>
    obtain ⟨v, x⟩ := e
    unfold erase at ih ⊢
    by_cases hv : v = t
    · subst hv
      rw [List.filter_cons_of_neg (by simp), ih, failure?_cons]
      by_cases hu : u = v <;> simp [hu]
    · rw [List.filter_cons_of_pos (by simpa using hv), failure?_cons, failure?_cons, ih]
      by_cases hu : u = v
      · subst hu
        simp [hv]
      · simp [hu]

omit [Seconds τ] in
theorem failure?_record (b : Blacklist τ) (now : τ) (t u : Target) :
    (b.record now t).failure? u = if u = t then some now else b.failure? u := by
  induction b with
  | nil => exact failure?_cons t u now []
  | cons e es ih =>
    obtain ⟨v, x⟩ := e
    by_cases hv : v = t
    · subst hv
      rw [record, if_pos rfl, failure?_cons, failure?_cons]
      by_cases hu : u = v <;> simp [hu]
    · rw [record, if_neg hv, failure?_cons, failure?_cons, ih]
      by_cases hu : u = v
      · subst hu
        simp [hv]
      · simp [hu]

/-- A look at a target takes away no record but one of it that is over. -/
theorem failure?_inspect (window now : τ) (b : Blacklist τ) (t u : Target) :
    (inspect window now b t).failure? u =
      if u = t ∧ excludes window now b t = false then none else b.failure? u := by
  unfold inspect
  by_cases h : excludes window now b t = true
  · simp [h]
  · simp [h, failure?_erase]

/-- A look at a target excludes none and readmits none. -/
@[simp] theorem excludes_inspect (window now : τ) (b : Blacklist τ) (t u : Target) :
    excludes window now (inspect window now b t) u = excludes window now b u := by
  by_cases h : u = t ∧ excludes window now b t = false
  · obtain ⟨rfl, hu⟩ := h
    rw [hu, excludes, failure?_inspect, if_pos ⟨rfl, hu⟩]
    rfl
  · rw [excludes, failure?_inspect, if_neg h]
    rfl

end Blacklist

end BlockingQuery.Failover
