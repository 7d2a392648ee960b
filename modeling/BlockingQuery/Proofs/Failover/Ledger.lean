import BlockingQuery.Proofs.Failover.Choice
import Mathlib.Algebra.Order.Ring.Rat
import Mathlib.Data.Set.Basic

/-!
# A ledger of failures

A strategy forgets a failure when it looks at a record that is over, and it looks at no more records
than it needs to. What it holds on record therefore depends on what it was asked before. A `Ledger`
has the latest failure of every target and forgets none. The two give the same advice, whatever is
asked and told in whatever order, as long as the clock does not go back
(`agree_of_candidates`): a record that is gone was over, and stays over until the target fails again
(`Blacklist.Recalls`).
-/

namespace BlockingQuery

open Failover

namespace Failover

/-! ## What a strategy may be asked and told -/

/-- What a strategy is asked or told. -/
inductive Inquiry
  /-- May any candidate be tried? -/
  | viable
  /-- Which target comes next? -/
  | nextTarget (previous : Option Target) (attempted : List Target)
  /-- Which request comes next? -/
  | nextStage (r : Request) (attempted : List Target)
  /-- A target failed. -/
  | mark (t : Target)
  /-- The target of a URL failed. -/
  | markUrl (u : Url)
  /-- Which targets are blacklisted? -/
  | blacklisted

/-- What a strategy says to that. The entries of its blacklist come as a `κ`. -/
inductive Advice (κ : Type)
  | viable (b : Except Failure Bool)
  | target (t : Option Target)
  | stage (r : Except Failure (Option Request))
  | marked (done : Except Failure Unit)
  | entries (es : κ)

/-- The same advice, each target being reported once. -/
inductive Advice.Agree {τ : Type} : Advice (List (Entry τ)) → Advice (Set (Entry τ)) → Prop
  | viable (b : Except Failure Bool) : Agree (.viable b) (.viable b)
  | target (t : Option Target) : Agree (.target t) (.target t)
  | stage (r : Except Failure (Option Request)) : Agree (.stage r) (.stage r)
  | marked (done : Except Failure Unit) : Agree (.marked done) (.marked done)
  | entries {es : List (Entry τ)} {reported : Set (Entry τ)}
    (honce : (es.map (·.target)).Nodup) (hsame : ∀ e, e ∈ es ↔ e ∈ reported) :
    Agree (.entries es) (.entries reported)

end Failover

namespace Policy

variable {τ : Type} [Seconds τ]

/-- Asks or tells a policy something. -/
def consult (p : Policy τ) (now : τ) : Inquiry → Advice (List (Entry τ)) × Policy τ
  | .viable => (p.isViable now).map .viable id
  | .nextTarget previous attempted =>
    (p.strategy.nextTarget now previous attempted).map .target fun s => { p with strategy := s }
  | .nextStage r attempted => (p.nextStage now r attempted).map .stage id
  | .mark t => (p.mark now t).map .marked id
  | .markUrl u => (p.markUrl now u).map .marked id
  | .blacklisted => (p.blacklisted now).map .entries id

/-- What a policy says to one thing after the other. -/
def advice (p : Policy τ) : List (τ × Inquiry) → List (Advice (List (Entry τ)))
  | [] => []
  | (now, inquiry) :: rest =>
    (p.consult now inquiry).1 :: (p.consult now inquiry).2.advice rest

end Policy

namespace Failover

/-! ## The ledger -/

/-- Candidates, a window, and the latest failure of each target. -/
structure Ledger where
  targets : List Target
  window : Rat
  latest : Target → Option Rat := fun _ => none

namespace Ledger

/-- A target is blacklisted as long as its latest failure is at most a window old. -/
def excludes (l : Ledger) (now : Rat) (t : Target) : Bool :=
  (l.latest t).any fun x => decide (now - x ≤ l.window)

/-- The first target that was not tried and is not blacklisted. -/
def first (l : Ledger) (now : Rat) (attempted ts : List Target) : Option Target :=
  ts.find? fun t => !attempted.contains t && !l.excludes now t

/-- The previous target, if there is one, comes before the candidates. -/
def nextTarget (l : Ledger) (now : Rat) (previous : Option Target) (attempted : List Target) :
    Option Target :=
  l.first now attempted (previous.toList ++ l.targets)

/-- The request at hand, if its target is next, and else the request sent to the next target. -/
def nextStage (l : Ledger) (now : Rat) (r : Request) (attempted : List Target) :
    Except Failure (Option Request) :=
  match Target.ofUrl r.url with
  | .error fault => .error (.target fault)
  | .ok here =>
    match l.nextTarget now (some here) attempted with
    | none => .ok none
    | some t =>
      if t = here then .ok (some r)
      else match r.retarget t with
        | .error fault => .error (.url fault)
        | .ok q => .ok (some q)

/-- Enters a failure. -/
def enter (l : Ledger) (now : Rat) (t : Target) : Ledger :=
  { l with latest := Function.update l.latest t (some now) }

/-- The entries that still exclude their targets. -/
def current (l : Ledger) (now : Rat) : Set (Entry Rat) :=
  {e | l.latest e.target = some e.failedAt ∧ now - e.failedAt ≤ l.window ∧
    e.expiresAt = e.failedAt + l.window}

/-- Asks or tells a ledger something. Only failures change it. -/
def consult (l : Ledger) (now : Rat) : Inquiry → Advice (Set (Entry Rat)) × Ledger
  | .viable => (.viable (.ok (l.targets.any fun t => !l.excludes now t)), l)
  | .nextTarget previous attempted => (.target (l.nextTarget now previous attempted), l)
  | .nextStage r attempted => (.stage (l.nextStage now r attempted), l)
  | .mark t => (.marked (.ok ()), l.enter now t)
  | .markUrl u =>
    match Target.ofUrl u with
    | .error fault => (.marked (.error (.target fault)), l)
    | .ok t => (.marked (.ok ()), l.enter now t)
  | .blacklisted => (.entries (l.current now), l)

/-- What a ledger says to one thing after the other. -/
def advice (l : Ledger) : List (Rat × Inquiry) → List (Advice (Set (Entry Rat)))
  | [] => []
  | (now, inquiry) :: rest =>
    (l.consult now inquiry).1 :: (l.consult now inquiry).2.advice rest

end Ledger

/-! ## What a blacklist recalls -/

namespace Blacklist

/-- The record of a target is its latest failure, or there is none because that was over at the time
`now`. No target is on record twice. -/
structure Recalls (window now : Rat) (latest : Target → Option Rat) (b : Blacklist Rat) : Prop where
  nodup : (b.map Prod.fst).Nodup
  recorded : ∀ t, b.failure? t = latest t ∨
    b.failure? t = none ∧ ∃ x, latest t = some x ∧ window < now - x

section
variable {window now soon : Rat} {latest : Target → Option Rat} {b : Blacklist Rat} {t u : Target}

/-- A failure is over when it lies further back than the window. -/
theorem isOver_iff {x : Rat} : isOver window now x = true ↔ window < now - x :=
  decide_eq_true_iff

/-- Nothing is on record before anything failed. -/
theorem Recalls.empty (window now : Rat) : Recalls window now (fun _ => none) [] :=
  ⟨.nil, fun _ => .inl rfl⟩

/-- A failure that is over stays over. -/
theorem Recalls.later (h : b.Recalls window now latest) (hlater : now ≤ soon) :
    b.Recalls window soon latest := by
  refine ⟨h.nodup, fun t => ?_⟩
  rcases h.recorded t with hsame | ⟨hgone, x, hx, hover⟩
  · exact .inl hsame
  · exact .inr ⟨hgone, x, hx, hover.trans_le (sub_le_sub_right hlater x)⟩

/-- A target is blacklisted when its latest failure is at most a window old. -/
theorem Recalls.excludes_eq (h : b.Recalls window now latest) (t : Target) :
    b.excludes window now t = (latest t).any fun x => decide (now - x ≤ window) := by
  have hstill (x : Rat) : (!isOver window now x) = decide (now - x ≤ window) := by
    rw [Bool.eq_iff_iff, Bool.not_eq_true', Bool.eq_false_iff, ne_eq, isOver_iff, not_lt,
      decide_eq_true_iff]
  unfold excludes
  simp only [hstill]
  rcases h.recorded t with hsame | ⟨hgone, x, hx, hover⟩
  · rw [hsame]
  · rw [hgone, hx]
    exact (decide_eq_false (not_le.2 hover)).symm

/-- Looking at a record takes it away only when it is over. -/
theorem Recalls.inspect (h : b.Recalls window now latest) (t : Target) :
    (b.inspect window now t).Recalls window now latest := by
  refine ⟨?_, fun u => ?_⟩
  · unfold Blacklist.inspect
    split
    next => exact h.nodup
    next => exact h.nodup.sublist (List.filter_sublist.map Prod.fst)
  · rw [failure?_inspect]
    split
    next hout =>
      obtain ⟨rfl, hin⟩ := hout
      rcases h.recorded u with hsame | hgone
      · cases hx : latest u with
        | none => exact .inl rfl
        | some x =>
          refine .inr ⟨rfl, x, rfl, ?_⟩
          rw [h.excludes_eq, hx] at hin
          exact not_le.1 (of_decide_eq_false hin)
      · exact .inr ⟨rfl, hgone.2⟩
    next => exact h.recorded u

/-- A target is on record once after another failure of it. -/
theorem map_fst_record (b : Blacklist Rat) (now : Rat) (t : Target) :
    (b.record now t).map Prod.fst =
      if t ∈ b.map Prod.fst then b.map Prod.fst else b.map Prod.fst ++ [t] := by
  induction b with
  | nil => rfl
  | cons e es ih =>
    rw [record]
    by_cases he : e.1 = t
    · simp [he]
    · rw [if_neg he, List.map_cons, ih, List.map_cons]
      by_cases hes : t ∈ es.map Prod.fst
      · rw [if_pos hes, if_pos (List.mem_cons_of_mem _ hes)]
      · rw [if_neg hes, if_neg (by simpa [Ne.symm he] using hes), List.cons_append]

/-- A failure is recorded. -/
theorem Recalls.record (h : b.Recalls window now latest) (t : Target) :
    (b.record now t).Recalls window now (Function.update latest t (some now)) := by
  refine ⟨?_, fun u => ?_⟩
  · rw [map_fst_record]
    split
    next => exact h.nodup
    next hnew => exact List.nodup_append.2 ⟨h.nodup, by simp, fun a ha b hb hab => by
      rw [List.mem_singleton.1 hb] at hab
      exact hnew (hab ▸ ha)⟩
  · rw [failure?_record]
    by_cases hu : u = t
    · subst hu
      exact .inl (by rw [if_pos rfl, Function.update_self])
    · rw [if_neg hu, Function.update_of_ne hu]
      exact h.recorded u

/-- A record is in the list, where no target is on record twice. -/
theorem failure?_eq_some_iff (hnodup : (b.map Prod.fst).Nodup) {x : Rat} :
    b.failure? t = some x ↔ (t, x) ∈ b := by
  induction b with
  | nil => simp [failure?]
  | cons e es ih =>
    obtain ⟨v, y⟩ := e
    rw [List.map_cons, List.nodup_cons] at hnodup
    obtain ⟨hv, hes⟩ := hnodup
    rw [failure?_cons, List.mem_cons]
    by_cases ht : t = v
    · subst ht
      have hnot : (t, x) ∉ es := fun hmem => hv (List.mem_map.2 ⟨_, hmem, rfl⟩)
      simp [hnot, eq_comm]
    · simp [ht, ih hes]

/-- What is left when the records that are over are dropped. -/
theorem Recalls.mem_current_iff (h : b.Recalls window now latest) {x : Rat} :
    (t, x) ∈ b.current window now ↔ latest t = some x ∧ now - x ≤ window := by
  rw [Blacklist.current, List.mem_filter, ← failure?_eq_some_iff h.nodup, Bool.not_eq_true',
    Bool.eq_false_iff, ne_eq, isOver_iff, not_lt]
  rcases h.recorded t with hsame | ⟨hgone, y, hy, hover⟩
  · rw [hsame]
  · rw [hgone, hy]
    constructor
    · rintro ⟨hx, -⟩
      cases hx
    · rintro ⟨hyx, hin⟩
      cases hyx
      exact absurd hin (not_le.2 hover)

/-- Dropping all records that are over. -/
theorem Recalls.current (h : b.Recalls window now latest) :
    (b.current window now).Recalls window now latest := by
  have hnodup : ((b.current window now).map Prod.fst).Nodup :=
    h.nodup.sublist (List.filter_sublist.map Prod.fst)
  have hkept (t : Target) (x : Rat) : (b.current window now).failure? t = some x ↔
      latest t = some x ∧ now - x ≤ window :=
    (failure?_eq_some_iff hnodup).trans h.mem_current_iff
  refine ⟨hnodup, fun t => ?_⟩
  cases hc : (b.current window now).failure? t with
  | some x => exact .inl ((hkept t x).1 hc).1.symm
  | none =>
    cases hx : latest t with
    | none => exact .inl rfl
    | some x =>
      refine .inr ⟨rfl, x, rfl, not_le.1 fun hin => ?_⟩
      cases hc.symm.trans ((hkept t x).2 ⟨hx, hin⟩)

end

end Blacklist

/-! ## The same advice -/

/-- The candidates of a strategy are searched like the list that they came from. -/
theorem find?_distinct (f : Target → Bool) (ts : List Target) :
    (Strategy.distinct ts).find? f = ts.find? f := by
  induction ts using List.reverseRecOn with
  | nil => rfl
  | append_singleton ts t ih =>
    rw [Strategy.distinct_concat, List.find?_append, ← ih]
    split
    next hmem =>
      cases hfound : (Strategy.distinct ts).find? f with
      | some u => rfl
      | none =>
        have hno : f t = false := by simpa using List.find?_eq_none.1 hfound t hmem
        simp [hno]
    next => rw [List.find?_append]

namespace Ledger

/-- A policy that never fails and a ledger have the same candidates, window and failures. -/
structure Tracks (l : Ledger) (now : Rat) (p : Policy Rat) : Prop where
  faultless : p.faulty = none
  targets : p.strategy.targets = Strategy.distinct l.targets
  window : p.strategy.window = l.window
  recalls : p.strategy.blacklist.Recalls l.window now l.latest

section
variable {l : Ledger} {now soon : Rat} {p : Policy Rat}

/-- Nothing changes with time alone. -/
theorem Tracks.later (h : l.Tracks now p) (hlater : now ≤ soon) : l.Tracks soon p :=
  { h with recalls := h.recalls.later hlater }

/-- A look at a record changes nothing. -/
theorem Tracks.inspect (h : l.Tracks now p) (t : Target) :
    l.Tracks now { p with strategy := p.strategy.inspect now t } where
  faultless := h.faultless
  targets := h.targets
  window := h.window
  recalls := by
    rw [Strategy.inspect, h.window]
    exact h.recalls.inspect t

/-- A failure is recorded and entered. -/
theorem Tracks.enter (h : l.Tracks now p) (t : Target) :
    (l.enter now t).Tracks now { p with strategy := p.strategy.mark now t } where
  faultless := h.faultless
  targets := h.targets
  window := h.window
  recalls := h.recalls.record t

/-- The policy takes note of a failure. -/
theorem Tracks.mark_eq (h : l.Tracks now p) (t : Target) :
    p.mark now t = (.ok (), { p with strategy := p.strategy.mark now t }) :=
  if_neg (by simp [h.faultless])

/-- The strategy picks whom the ledger finds. -/
theorem Tracks.pick_eq (h : l.Tracks now p) (tried ts : List Target) :
    pick p.strategy.window now p.strategy.blacklist tried ts = l.first now tried ts := by
  have hexcludes (t : Target) :
      p.strategy.blacklist.excludes p.strategy.window now t = l.excludes now t := by
    rw [h.window]
    exact h.recalls.excludes_eq t
  simp only [pick, first, hexcludes]

/-- The policy and the ledger choose the same next target. -/
theorem Tracks.nextTarget (h : l.Tracks now p) (previous : Option Target)
    (attempted : List Target) :
    (p.strategy.nextTarget now previous attempted).1 = l.nextTarget now previous attempted ∧
      l.Tracks now
        { p with strategy := (p.strategy.nextTarget now previous attempted).2 } := by
  cases previous with
  | none =>
    have hfirst : pick p.strategy.window now p.strategy.blacklist attempted p.strategy.targets =
        l.nextTarget now none attempted := by
      rw [h.pick_eq, h.targets, first, find?_distinct]
      rfl
    have hnext : p.strategy.nextTarget now none attempted =
        p.strategy.nextCandidate now attempted := rfl
    rw [hnext, Strategy.nextCandidate_eq, hfirst]
    cases l.nextTarget now none attempted with
    | none => exact ⟨rfl, h⟩
    | some t => exact ⟨rfl, h.inspect t⟩
  | some here =>
    have hfirst : pick p.strategy.window now p.strategy.blacklist attempted
        (here :: p.strategy.targets) = l.nextTarget now (some here) attempted := by
      rw [h.pick_eq, h.targets, first, List.find?_cons, find?_distinct]
      rfl
    rw [Strategy.nextTarget_eq, hfirst]
    cases l.nextTarget now (some here) attempted with
    | none => exact ⟨rfl, h⟩
    | some t => exact ⟨rfl, h.inspect t⟩

/-- Whether any candidate may be tried. -/
theorem Tracks.viable (h : l.Tracks now p) :
    (p.isViable now).1 = .ok (l.targets.any fun t => !l.excludes now t) ∧
      l.Tracks now (p.isViable now).2 := by
  have hfirst : pick p.strategy.window now p.strategy.blacklist [] p.strategy.targets =
      l.first now [] l.targets := by
    rw [h.pick_eq, h.targets, first, find?_distinct]
    rfl
  have hsome : (l.first now [] l.targets).isSome = l.targets.any fun t => !l.excludes now t := by
    rw [Bool.eq_iff_iff, first, List.find?_isSome]
    simp
  rw [Policy.isViable, if_neg (by simp [h.faultless]), Strategy.isViable_eq, hfirst, ← hsome]
  cases l.first now [] l.targets with
  | none => exact ⟨rfl, h⟩
  | some t => exact ⟨rfl, h.inspect t⟩

/-- The policy and the ledger make the same next request. -/
theorem Tracks.nextStage (h : l.Tracks now p) (r : Request) (attempted : List Target) :
    (p.nextStage now r attempted).1 = l.nextStage now r attempted ∧
      l.Tracks now (p.nextStage now r attempted).2 := by
  unfold Policy.nextStage Strategy.nextStage Ledger.nextStage
  cases Target.ofUrl r.url with
  | error fault => exact ⟨rfl, h⟩
  | ok here =>
    obtain ⟨hnext, hafter⟩ := h.nextTarget (some here) attempted
    dsimp only
    rw [← hnext]
    generalize p.strategy.nextTarget now (some here) attempted = next at hafter ⊢
    obtain ⟨_ | t, s⟩ := next
    · exact ⟨rfl, hafter⟩
    · dsimp only
      split
      next => exact ⟨rfl, hafter⟩
      next =>
        cases r.retarget t with
        | error fault => exact ⟨rfl, hafter⟩
        | ok q => exact ⟨rfl, hafter⟩

/-- The blacklist, which the strategy drops what is over from. -/
theorem Tracks.blacklisted (h : l.Tracks now p) :
    Advice.Agree (.entries (p.blacklisted now).1) (.entries (l.current now)) ∧
      l.Tracks now (p.blacklisted now).2 := by
  have hcurrent := h.recalls.current
  have hafter : l.Tracks now (p.blacklisted now).2 :=
    { faultless := h.faultless, targets := h.targets, window := h.window
      recalls := by
        change Blacklist.Recalls _ _ _ (p.strategy.blacklist.current p.strategy.window now)
        rw [h.window]
        exact hcurrent }
  refine ⟨.entries ?_ fun e => ?_, hafter⟩
  · change ((Blacklist.report p.strategy.window now p.strategy.blacklist).map (·.target)).Nodup
    rw [Blacklist.report, List.map_map, h.window]
    exact hcurrent.nodup
  · change e ∈ Blacklist.report p.strategy.window now p.strategy.blacklist ↔ _
    rw [Blacklist.report, h.window, List.mem_map]
    constructor
    · rintro ⟨⟨t, x⟩, hmem, rfl⟩
      obtain ⟨hlatest, hin⟩ := h.recalls.mem_current_iff.1 hmem
      exact ⟨hlatest, hin, rfl⟩
    · obtain ⟨t, x, expires⟩ := e
      rintro ⟨hlatest, hin, (rfl : expires = x + l.window)⟩
      exact ⟨(t, x), h.recalls.mem_current_iff.2 ⟨hlatest, hin⟩, rfl⟩

/-- The strategy says what the ledger says. -/
theorem Tracks.consult (h : l.Tracks now p) (inquiry : Inquiry) :
    Advice.Agree (p.consult now inquiry).1 (l.consult now inquiry).1 ∧
      (l.consult now inquiry).2.Tracks now (p.consult now inquiry).2 := by
  cases inquiry with
  | viable =>
    obtain ⟨hviable, hafter⟩ := h.viable
    exact ⟨by rw [Policy.consult, Prod.map_fst, hviable]; exact .viable _, hafter⟩
  | nextTarget previous attempted =>
    obtain ⟨hnext, hafter⟩ := h.nextTarget previous attempted
    exact ⟨by rw [Policy.consult, Prod.map_fst, hnext]; exact .target _, hafter⟩
  | nextStage r attempted =>
    obtain ⟨hstage, hafter⟩ := h.nextStage r attempted
    exact ⟨by rw [Policy.consult, Prod.map_fst, hstage]; exact .stage _, hafter⟩
  | mark t =>
    rw [Policy.consult, h.mark_eq]
    exact ⟨.marked _, h.enter t⟩
  | markUrl u =>
    rw [Policy.consult, Policy.markUrl, Ledger.consult]
    cases Target.ofUrl u with
    | error fault => exact ⟨.marked _, h⟩
    | ok t =>
      dsimp only
      rw [h.mark_eq]
      exact ⟨.marked _, h.enter t⟩
  | blacklisted => exact h.blacklisted

/-- A policy gives the advice that its ledger gives, one time after the other, as long as the clock
does not go back. -/
theorem Tracks.advice (inquiries : List (Rat × Inquiry)) (h : l.Tracks now p)
    (hnow : ∀ x ∈ inquiries.map Prod.fst, now ≤ x)
    (hclock : (inquiries.map Prod.fst).Pairwise (· ≤ ·)) :
    List.Forall₂ Advice.Agree (p.advice inquiries) (l.advice inquiries) := by
  induction inquiries generalizing l now p with
  | nil => exact .nil
  | cons x rest ih =>
    obtain ⟨soon, inquiry⟩ := x
    obtain ⟨hsoon, -⟩ := List.forall_mem_cons.1 hnow
    obtain ⟨hfrom, hrest⟩ := List.pairwise_cons.1 hclock
    obtain ⟨hagree, hafter⟩ := (h.later hsoon).consult inquiry
    exact .cons hagree (ih hafter hfrom hrest)

end

end Ledger

/-- Whatever targets and window a strategy is made with, it is made, and whatever it is asked and
told since then, in whatever order, it says what the ledger of all failures says. -/
theorem agree_of_candidates {candidates : List Candidate} {targets : List Target} {window : Rat}
    (htargets : candidates.mapM Candidate.resolve = .ok targets) (hsome : candidates ≠ [])
    (hwindow : 0 ≤ window) :
    ∃ s, Strategy.ofCandidates candidates window = .ok s ∧
      ∀ inquiries : List (Rat × Inquiry), (inquiries.map Prod.fst).Pairwise (· ≤ ·) →
        List.Forall₂ Advice.Agree (({ strategy := s } : Policy Rat).advice inquiries)
          (({ targets, window } : Ledger).advice inquiries) := by
  have hlength := Strategy.length_of_resolve htargets
  have hne : ¬targets.isEmpty = true := by
    rw [List.isEmpty_iff_length_eq_zero, hlength, List.length_eq_zero_iff]
    exact hsome
  have hmade : Strategy.ofCandidates candidates window =
      .ok { targets := Strategy.distinct targets, window } := by
    rw [Strategy.ofCandidates, htargets]
    have hwide : ¬window < Seconds.zero := not_lt.2 hwindow
    change Strategy.create targets window = _
    rw [Strategy.create, if_neg hne, if_neg hwide]
  refine ⟨_, hmade, fun inquiries hclock => ?_⟩
  cases inquiries with
  | nil => exact .nil
  | cons x rest =>
    -- the ledger is empty at the time of the first inquiry
    have htracks : ({ targets, window } : Ledger).Tracks x.1
        { strategy := { targets := Strategy.distinct targets, window } } :=
      ⟨rfl, rfl, rfl, .empty window x.1⟩
    exact htracks.advice (x :: rest)
      (List.forall_mem_cons.2 ⟨le_refl _, (List.pairwise_cons.1 hclock).1⟩) hclock

/-- Of two candidates, one given twice, `b` fails, is over after a minute, and fails again; `d` is
none of the candidates. -/
theorem agree_of_candidates_sample :
    ∃ s, Strategy.ofCandidates
        [.text "b:8500", .target ⟨"c", 8500⟩, .text "b:8500"] (60 : Rat) = .ok s ∧
      List.Forall₂ Advice.Agree
        (({ strategy := s } : Policy Rat).advice
          [(0, .mark ⟨"b", 8500⟩), (0, .mark ⟨"d", 8500⟩), (60, .nextTarget none []), (61, .viable),
            (61, .blacklisted), (61, .mark ⟨"b", 8500⟩), (70, .blacklisted)])
        (({ targets := [⟨"b", 8500⟩, ⟨"c", 8500⟩, ⟨"b", 8500⟩], window := 60 } : Ledger).advice
          [(0, .mark ⟨"b", 8500⟩), (0, .mark ⟨"d", 8500⟩), (60, .nextTarget none []), (61, .viable),
            (61, .blacklisted), (61, .mark ⟨"b", 8500⟩), (70, .blacklisted)]) := by
  have htargets : [Candidate.text "b:8500", .target ⟨"c", 8500⟩, .text "b:8500"].mapM
      Candidate.resolve = .ok [⟨"b", 8500⟩, ⟨"c", 8500⟩, ⟨"b", 8500⟩] := by rfl
  have hwindow : (0 : Rat) ≤ 60 := by decide
  obtain ⟨s, hmade, hagree⟩ := agree_of_candidates htargets (by simp) hwindow
  exact ⟨s, hmade, hagree _ (by decide)⟩

end Failover

end BlockingQuery
