import BlockingQuery.Exchange
import Mathlib.Data.List.Induction

/-!
# The choice of a target

`pick` is the rule by which a failover cycle chooses: the first of the targets in question that was
neither tried in the cycle nor is blacklisted at the moment. The strategy follows it, looking at
the record of the target that it picks (`Strategy.nextTarget_eq`), and a failover layer then sends
the request to that target, as far as it can be sent there (`Exchange.choose_eq`). There is always
a candidate to choose from, when none is blacklisted (`Strategy.ofCandidates_eq_ok`).
-/

namespace BlockingQuery

open Failover

variable {τ : Type} [Seconds τ]

/-! ## The rule -/

/-- The first target that was not tried and is not blacklisted. -/
def Failover.pick (window now : τ) (b : Blacklist τ) (tried ts : List Target) : Option Target :=
  ts.find? fun t => !tried.contains t && !b.excludes window now t

section
variable {window now : τ} {b : Blacklist τ} {tried ts : List Target} {t : Target}

/-- The target that is picked is one of those in question, untried and not blacklisted. -/
theorem Failover.pick_eq_some (h : pick window now b tried ts = some t) :
    t ∈ ts ∧ t ∉ tried ∧ b.excludes window now t = false := by
  have hp := List.find?_some h
  simp only [Bool.and_eq_true, Bool.not_eq_true', List.contains_eq_mem,
    decide_eq_false_iff_not] at hp
  exact ⟨List.mem_of_find?_eq_some h, hp⟩

/-- No target is picked if and only if all are tried or blacklisted. -/
theorem Failover.pick_eq_none :
    pick window now b tried ts = none ↔ ∀ t ∈ ts, t ∈ tried ∨ b.excludes window now t = true := by
  rw [pick, List.find?_eq_none]
  refine forall₂_congr fun t _ => ?_
  cases b.excludes window now t <;> simp

/-- A target is picked when all others are tried or blacklisted. -/
theorem Failover.pick_of_only (ht : t ∈ ts) (htried : t ∉ tried)
    (hin : b.excludes window now t = false)
    (hothers : ∀ u ∈ ts, u ≠ t → u ∈ tried ∨ b.excludes window now u = true) :
    pick window now b tried ts = some t := by
  cases hpick : pick window now b tried ts with
  | none =>
    rcases pick_eq_none.1 hpick t ht with h | h
    · exact absurd h htried
    · rw [hin] at h
      cases h
  | some u =>
    obtain ⟨hu, hnot, huin⟩ := pick_eq_some hpick
    by_contra hne
    rcases hothers u hu fun heq => hne (heq ▸ rfl) with h | h
    · exact hnot h
    · rw [huin] at h
      cases h

/-- A target that was tried is not in question. -/
theorem Failover.pick_cons_of_mem (h : t ∈ tried) :
    pick window now b tried (t :: ts) = pick window now b tried ts := by
  have hno : (!tried.contains t && !b.excludes window now t) = false := by simp [h]
  rw [pick, List.find?_cons, hno, pick]

/-- A look at a record makes no difference to the choice. -/
@[simp] theorem Failover.pick_inspect (u : Target) :
    pick window now (b.inspect window now u) tried ts = pick window now b tried ts := by
  simp [pick]

/-- The first target that is not blacklisted is the one that is picked when none was tried. -/
theorem Failover.Blacklist.firstViable_eq (window now : τ) (b : Blacklist τ) (ts : List Target) :
    b.firstViable window now ts = match pick window now b [] ts with
      | none => (none, b)
      | some t => (some t, b.inspect window now t) := by
  induction ts with
  | nil => rfl
  | cons t ts ih =>
    rw [firstViable]
    by_cases h : b.excludes window now t = true
    · rw [if_pos h, ih]
      simp [pick, h]
    · simp [pick, h]

end

/-! ## Records that go -/

namespace Failover.Blacklist

/-- The record of a target is the same in `c` as in `b`, or it is gone because it was over at one
of the given moments. -/
def Ages (window : τ) (readings : List τ) (b c : Blacklist τ) (t : Target) : Prop :=
  c.failure? t = b.failure? t ∨
    c.failure? t = none ∧ ∃ x, b.failure? t = some x ∧ ∃ now ∈ readings, isOver window now x = true

variable {window now : τ} {readings : List τ} {b c d : Blacklist τ} {t : Target}

/-- A look at a record takes it away at most because it is over. -/
theorem ages_inspect (hnow : now ∈ readings) (u : Target) :
    b.Ages window readings (b.inspect window now u) t := by
  rw [Ages, failure?_inspect]
  split
  next h =>
    obtain ⟨rfl, hout⟩ := h
    cases hx : b.failure? t with
    | none => exact .inl rfl
    | some x => exact .inr ⟨rfl, x, rfl, now, hnow, by simpa [excludes, hx] using hout⟩
  next => exact .inl rfl

/-- A target that is not blacklisted is not so after some records are gone. -/
theorem Ages.excludes_eq_false {x : τ} (h : b.Ages window readings c t)
    (hin : b.excludes window x t = false) : c.excludes window x t = false := by
  unfold excludes at hin ⊢
  rcases h with hsame | ⟨hgone, -⟩
  · rwa [hsame]
  · rw [hgone]
    rfl

/-- The record of a failure excludes no other target. -/
theorem excludes_record {x : τ} {u : Target} (hne : t ≠ u) :
    (b.record x u).excludes window now t = b.excludes window now t := by
  rw [excludes, failure?_record, if_neg hne, excludes]

/-- Records that are gone from what was left of others are gone from those. -/
theorem Ages.trans (h : b.Ages window readings c t) (k : c.Ages window readings d t) :
    b.Ages window readings d t := by
  rcases h with h | ⟨hgone, hover⟩
  · rwa [Ages, ← h]
  · rcases k with k | ⟨-, x, hx, -⟩
    · exact .inr ⟨k.trans hgone, hover⟩
    · rw [hgone] at hx
      cases hx

end Failover.Blacklist

/-! ## The strategy -/

namespace Strategy

/-- A last target that is a repetition is dropped, and any other stays at the end. -/
theorem distinct_concat (ts : List Target) (t : Target) :
    distinct (ts ++ [t]) = if t ∈ distinct ts then distinct ts else distinct ts ++ [t] := by
  rw [distinct, List.foldl_append]
  rfl

/-- Dropping repetitions drops no target. -/
theorem mem_distinct {ts : List Target} {t : Target} : t ∈ distinct ts ↔ t ∈ ts := by
  induction ts using List.reverseRecOn with
  | nil => exact Iff.rfl
  | append_singleton ts u ih =>
    rw [distinct_concat, List.mem_append, List.mem_singleton]
    split
    next hu => exact ⟨fun h => .inl (ih.1 h), fun h => h.elim ih.2 fun heq => heq ▸ hu⟩
    next => rw [List.mem_append, List.mem_singleton, ih]

/-- No target comes from dropping repetitions. -/
theorem length_distinct_le (ts : List Target) : (distinct ts).length ≤ ts.length := by
  induction ts using List.reverseRecOn with
  | nil => exact Nat.le_refl _
  | append_singleton ts u ih =>
    rw [distinct_concat, List.length_append, List.length_singleton]
    split
    next => omega
    next =>
      rw [List.length_append, List.length_singleton]
      omega

/-- Every candidate has one target. -/
theorem length_of_resolve {cs : List Candidate} {ts : List Target}
    (h : cs.mapM Candidate.resolve = .ok ts) : ts.length = cs.length := by
  induction cs generalizing ts with
  | nil =>
    cases h
    rfl
  | cons c cs ih =>
    rw [List.mapM_cons] at h
    cases hc : c.resolve with
    | error f => simp [hc, bind, Except.bind] at h
    | ok t =>
      cases hcs : cs.mapM Candidate.resolve with
      | error f => simp [hc, hcs, bind, Except.bind] at h
      | ok us =>
        simp only [hc, hcs, bind, Except.bind, pure, Except.pure] at h
        cases h
        rw [List.length_cons, List.length_cons, ih hcs]

/-- A strategy has a candidate, none more than it was given, and a window that is not negative. -/
theorem ofCandidates_eq_ok {candidates : List Candidate} {window : τ} {s : Strategy τ}
    (h : ofCandidates candidates window = .ok s) :
    s.targets ≠ [] ∧ s.targets.length ≤ candidates.length ∧ s.window = window ∧
      ¬ window < Seconds.zero := by
  cases hts : candidates.mapM Candidate.resolve with
  | error f =>
    rw [ofCandidates, hts] at h
    cases h
  | ok ts =>
    rw [ofCandidates, hts] at h
    change create ts window = .ok s at h
    unfold create at h
    split at h
    · cases h
    next hne =>
      split at h
      · cases h
      next hwindow =>
        cases h
        have hsome : distinct ts ≠ [] := by
          intro hnil
          rw [List.isEmpty_iff, List.eq_nil_iff_forall_not_mem] at hne
          exact hne fun t ht => List.not_mem_nil (hnil ▸ mem_distinct.2 ht)
        exact ⟨hsome, length_of_resolve hts ▸ length_distinct_le ts, rfl, hwindow⟩

/-- The strategy picks among the candidates that were not tried. -/
theorem nextCandidate_eq (s : Strategy τ) (now : τ) (tried : List Target) :
    s.nextCandidate now tried = match pick s.window now s.blacklist tried s.targets with
      | none => (none, s)
      | some t => (some t, s.inspect now t) := by
  have hpick : pick s.window now s.blacklist [] (s.targets.filter fun t => !tried.contains t) =
      pick s.window now s.blacklist tried s.targets := by
    rw [pick, List.find?_filter, pick]
    simp
  rw [nextCandidate, Blacklist.firstViable_eq, hpick]
  cases pick s.window now s.blacklist tried s.targets <;> rfl

/-- The target of the request at hand comes first, and then the candidates in their order. -/
theorem nextTarget_eq (s : Strategy τ) (now : τ) (here : Target) (tried : List Target) :
    s.nextTarget now (some here) tried =
      match pick s.window now s.blacklist tried (here :: s.targets) with
      | none => (none, s)
      | some t => (some t, s.inspect now t) := by
  rw [nextTarget, nextCandidate_eq]
  by_cases htried : tried.contains here = true
  · rw [if_pos htried, pick_cons_of_mem (by simpa using htried)]
  · rw [if_neg htried, isBlacklisted]
    by_cases hout : s.blacklist.excludes s.window now here = true
    · have hpick : pick s.window now s.blacklist tried (here :: s.targets) =
          pick s.window now s.blacklist tried s.targets := by
        simp [pick, hout]
      rw [if_pos hout, hpick]
    · have hpick : pick s.window now s.blacklist tried (here :: s.targets) = some here := by
        have hyes : (!tried.contains here && !s.blacklist.excludes s.window now here) = true := by
          simp only [Bool.not_eq_true] at htried hout
          rw [htried, hout]
          rfl
        rw [pick, List.find?_cons, hyes]
      rw [if_neg hout, hpick]

/-- A strategy is viable when one of its candidates can be picked. -/
theorem isViable_eq (s : Strategy τ) (now : τ) :
    s.isViable now = match pick s.window now s.blacklist [] s.targets with
      | none => (false, s)
      | some t => (true, s.inspect now t) := by
  rw [isViable, Blacklist.firstViable_eq]
  cases pick s.window now s.blacklist [] s.targets <;> rfl

end Strategy

/-! ## The failover layer -/

/-- The request of an attempt at the target `t`, the request at hand leading to `here`. -/
def Request.stage (r : Request) (here t : Target) : Except Failure (Request × Target) :=
  if t = here then .ok (r, t)
  else match r.retarget t with
    | .error f => .error (.url f)
    | .ok r => match Target.ofUrl r.url with
      | .error f => .error (.target f)
      | .ok t => .ok (r, t)

/-- The policy after a choice is the policy after it was asked for the next request. -/
theorem Exchange.snd_choose (now : τ) (p : Policy τ) (q : Request) (tried : List Target)
    (last : Option (TransportFault × String)) :
    (choose now p q tried last).2 = (p.nextStage now q tried).2 := by
  unfold choose
  obtain ⟨f | _ | q', p'⟩ := p.nextStage now q tried
  · rfl
  · rfl
  · dsimp only
    cases Target.ofUrl q'.url <;> rfl

/-- A failover layer picks a target and sends the request there. -/
theorem Exchange.choose_eq (s : Strategy τ) (now : τ) {r : Request} {here : Target}
    (hhere : Target.ofUrl r.url = .ok here) (tried : List Target)
    (last : Option (TransportFault × String)) :
    Exchange.choose now { strategy := s } r tried last =
      match pick s.window now s.blacklist tried (here :: s.targets) with
      | none => (.error (.exhausted s.targets tried last), { strategy := s })
      | some t => (r.stage here t, { strategy := s.inspect now t }) := by
  rw [choose, Policy.nextStage, Strategy.nextStage, hhere]
  dsimp only
  rw [Strategy.nextTarget_eq]
  cases pick s.window now s.blacklist tried (here :: s.targets) with
  | none => rfl
  | some t =>
    dsimp only
    unfold Request.stage
    by_cases ht : t = here
    · have hstage : (Except.ok (some r)).mapError StageFault.failure = .ok (some r) := rfl
      rw [if_pos ht, if_pos ht, hstage]
      dsimp only
      rw [hhere, ht]
    · rw [if_neg ht, if_neg ht]
      cases r.retarget t with
      | error f => rfl
      | ok r' =>
        have hstage : (((Except.ok r').map some).mapError .url).mapError StageFault.failure =
            .ok (some r') := rfl
        rw [hstage]
        dsimp only
        cases Target.ofUrl r'.url <;> rfl

/-! ## What becomes of the faults of a policy -/

/-- A check leaves the policy its faults. -/
@[simp] theorem Policy.faulty_isViable (p : Policy τ) (now : τ) :
    (p.isViable now).2.faulty = p.faulty := by
  unfold isViable
  split <;> rfl

omit [Seconds τ] in
/-- Blaming a target leaves a policy its faults. -/
@[simp] theorem Policy.faulty_mark (p : Policy τ) (now : τ) (t : Target) :
    (p.mark now t).2.faulty = p.faulty := by
  unfold mark
  split <;> rfl

namespace Exchange

/-- The choice of a target leaves a policy its faults. -/
@[simp] theorem faulty_choose (now : τ) (p : Policy τ) (q : Request) (tried : List Target)
    (last : Option (TransportFault × String)) :
    (choose now p q tried last).2.faulty = p.faulty := by
  rw [snd_choose]
  rfl

/-- The first choice of a layer leaves a policy its faults. -/
@[simp] theorem faulty_enter (now : τ) (p : Policy τ) (r : Request) :
    (enter now p r).2.faulty = p.faulty := by
  have hviable := p.faulty_isViable now
  unfold enter
  generalize p.isViable now = out at hviable ⊢
  obtain ⟨_ | _ | _, q⟩ := out
  · exact hviable
  · exact hviable
  · exact (faulty_choose now q r [] none).trans hviable

/-- Taking a request down the layers leaves a policy its faults. -/
theorem faulty_start (now : τ) (policy : Option (Policy τ)) (layers : List Layer) (r : Request) :
    (start now policy layers r).2.map (·.faulty) = policy.map (·.faulty) := by
  induction layers generalizing policy r with
  | nil => rfl
  | cons layer below ih =>
    cases layer with
    | adjusting a =>
      rw [start]
      split
      next => rfl
      next r' _ => exact ih policy r'
    | failover =>
      cases policy with
      | none => rfl
      | some p =>
        have henter := faulty_enter now p r
        rw [start]
        split
        next _ q heq =>
          rw [heq] at henter
          exact congrArg some henter
        next stage t q heq =>
          rw [heq] at henter
          have hbelow := (ih (some q) stage).trans (congrArg some henter)
          split
          next heq' => rwa [heq'] at hbelow
          next => exact hbelow

/-- Taking up what the transport made of a request leaves a policy its faults. -/
theorem faulty_receive (now : τ) (policy : Option (Policy τ)) (x : Exchange) (outcome : Outcome) :
    (x.receive now policy outcome).2.map (·.faulty) = policy.map (·.faulty) := by
  unfold receive
  split
  next => rfl
  next fault text =>
    split
    next p c _ =>
      have hmark := p.faulty_mark now c.target
      split
      next _ q heq =>
        rw [heq] at hmark
        exact congrArg some hmark
      next q heq =>
        rw [heq] at hmark
        have hchoose := faulty_choose now q x.request (c.attempted ++ [c.target])
          (some (fault, text))
        unfold proceed
        dsimp only
        split
        next _ q' heq' =>
          rw [heq'] at hchoose
          exact congrArg some (hchoose.trans hmark)
        next r t q' heq' =>
          rw [heq'] at hchoose
          have hbelow := (faulty_start now (some q') c.below r).trans
            (congrArg some (hchoose.trans hmark))
          split
          next heq'' => rwa [heq''] at hbelow
          next => exact hbelow
    next => rfl
  next => rfl

end Exchange

end BlockingQuery
