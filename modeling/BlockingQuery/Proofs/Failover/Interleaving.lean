import BlockingQuery.Proofs.Failover.Cycle
import BlockingQuery.Proofs.Failover.Ledger
import Mathlib.Data.List.Nodup
import Mathlib.Data.List.Perm.Subperm
import Mathlib.Logic.Relation

/-!
# Requests that share a strategy

Several failover layers may have one strategy, and any number of requests may be on their way
through them: between two steps of one cycle other requests change the blacklist, and so do the
caches that report failures of their own. `Traffic` has all of them, and `Traffic.Step` is one step
of one of them.

What a single cycle promises holds among others as well (`vetted_of_steps`). Each request goes to
different targets, because a cycle keeps the list of its attempts for itself; no request goes to a
target that is blacklisted at the moment of the choice, because the choice is one step; and no
failure that is reported is lost, because the strategy follows the ledger of all of them
(`Ledger.Tracks`), whoever reports it.

A cycle that nobody interferes with is a run of the traffic as well: what a layer does with a
request from the first choice to the result is steps of that request (`Traffic.exists_carries_run`).
-/

namespace BlockingQuery

open Failover

namespace Failover

/-! ## Traffic -/

/-- How far a request has come: it enters the failover layer, a target is about to be chosen for it,
or the transport has it or is done with it. -/
inductive Flight
  | entering (r : Request)
  | choosing (asked : Url) (q : Request) (tried : List Target)
    (last : Option (TransportFault × String))
  | under (p : Progress)

namespace Flight

/-- The request that the transport has. -/
def request? : Flight → Option Request
  | .under (.sent x) => some x.request
  | _ => none

/-- A layer goes on to choose a target when any candidate may be tried. -/
def checked (r : Request) : Except Failure Bool × Policy Rat → Flight
  | (.error f, _) => .under (.failed f)
  | (.ok false, p) => .under (.failed (.noViableTarget p.shownTargets))
  | (.ok true, _) => .choosing r.url r [] none

/-- A layer goes on to choose another target when it has blamed the present one. -/
def blamed (x : Exchange) (c : Cycle) (fault : TransportFault × String) :
    Except Failure Unit → Flight
  | .error f => .under (.failed f)
  | .ok () => .choosing x.asked x.request (c.attempted ++ [c.target]) (some fault)

end Flight

/-- What is worth noting: a request was sent to a target that was chosen at some time, or somebody
reported that a target failed. -/
inductive Incident (ι : Type)
  | sent (i : ι) (q : Request) (chosen : Rat)
  | failed (t : Target) (reported : Rat)

/-- The targets that a request was sent to, in order. The latest incident comes first. -/
def visits {ι : Type} [DecidableEq ι] (i : ι) :
    List (Incident ι) → List (Except Target.Fault Target)
  | [] => []
  | .sent j q _ :: os => if j = i then visits i os ++ [Target.ofUrl q.url] else visits i os
  | .failed .. :: os => visits i os

/-- When a target was last reported to have failed. The latest incident comes first. -/
def latest {ι : Type} : List (Incident ι) → Target → Option Rat
  | [] => fun _ => none
  | .sent .. :: os => latest os
  | .failed t x :: os => Function.update (latest os) t (some x)

/-- The target that somebody reports. -/
def Inquiry.reported : Inquiry → Option Target
  | .mark t => some t
  | .markUrl u => (Target.ofUrl u).toOption
  | _ => none

/-- Requests that share a policy, the clock, and what was noted, the latest incident first. -/
structure Traffic (ι : Type) where
  now : Rat
  policy : Policy Rat
  flights : ι → Flight
  trace : List (Incident ι) := []

namespace Traffic

variable {ι : Type} [DecidableEq ι]

/-- Requests that are about to enter their layers. -/
def idle (now : Rat) (s : Strategy Rat) (requests : ι → Request) : Traffic ι where
  now := now
  policy := { strategy := s }
  flights i := .entering (requests i)

/-- Somebody asks or tells the strategy something. -/
def consult (g : Traffic ι) (inquiry : Inquiry) : Traffic ι :=
  { g with
    policy := (g.policy.consult g.now inquiry).2
    trace := (inquiry.reported.map (Incident.failed · g.now)).toList ++ g.trace }

/-- A request gets further. -/
def advance (g : Traffic ι) (i : ι) (f : Flight) : Traffic ι :=
  { g with
    flights := Function.update g.flights i f
    trace := (f.request?.map (Incident.sent i · g.now)).toList ++ g.trace }

/-- One step of anybody. Others may come between any two steps of a request. -/
inductive Step : Traffic ι → Traffic ι → Prop
  /-- Time passes. -/
  | pass {g : Traffic ι} {later : Rat} (hlater : g.now ≤ later) : Step g { g with now := later }
  /-- A cache, or anybody else, asks or tells the strategy something. -/
  | consult {g : Traffic ι} (inquiry : Inquiry) : Step g (g.consult inquiry)
  /-- A layer asks whether any candidate may be tried. -/
  | check {g : Traffic ι} {i : ι} {r : Request} (hi : g.flights i = .entering r) :
    Step g ((g.consult .viable).advance i (.checked r (g.policy.isViable g.now)))
  /-- A layer chooses a target and sends the request there. -/
  | choose {g : Traffic ι} {i : ι} {asked : Url} {q : Request} {tried : List Target}
    {last : Option (TransportFault × String)} (hi : g.flights i = .choosing asked q tried last) :
    Step g ((g.consult (.nextStage q tried)).advance i
      (.under (Exchange.attempt asked tried last
        (Exchange.choose g.now g.policy q tried last)).1))
  /-- The transport fails, and the layer blames the target. -/
  | blame {g : Traffic ι} {i : ι} {x : Exchange} {c : Cycle} (hi : g.flights i = .under (.sent x))
    (hcycle : x.cycle = some c) (fault : TransportFault × String) :
    Step g ((g.consult (.mark c.target)).advance i
      (.blamed x c fault (g.policy.mark g.now c.target).1))
  /-- The outcome of an attempt is any other. -/
  | finish {g : Traffic ι} {i : ι} {x : Exchange} {outcome : Outcome}
    (hi : g.flights i = .under (.sent x))
    (houtcome : ∀ fault text, outcome ≠ .raised (.transport fault text)) :
    Step g (g.advance i (.under (x.receive g.now (some g.policy) outcome).1))

/-- Steps one after the other. -/
abbrev Steps : Traffic ι → Traffic ι → Prop := Relation.ReflTransGen Step

end Traffic

/-! ## What a request keeps to -/

/-- Where a request is in its cycle after it was sent to the targets `tried`. The candidates are
`ts`, and `r` is the request as it came. -/
inductive Flight.IsAt (ts : List Target) (r : Request) : List Target → Flight → Prop
  | entering : IsAt ts r [] (.entering r)
  | choosing {asked : Url} {q : Request} {tried : List Target}
    {last : Option (TransportFault × String)} (hq : r.Sent ts q)
    (hhere : ∀ here, Target.ofUrl q.url = .ok here → q = r ∨ here ∈ tried) :
    IsAt ts r tried (.choosing asked q tried last)
  | sent {x : Exchange} {c : Cycle} (hcycle : x.cycle = some c) (hq : r.Sent ts x.request)
    (hhere : Target.ofUrl x.request.url = .ok c.target) :
    IsAt ts r (c.attempted ++ [c.target]) (.under (.sent x))
  | answered (tried : List Target) (response : Response) :
    IsAt ts r tried (.under (.answered response))
  | failed (tried : List Target) (f : Failure) : IsAt ts r tried (.under (.failed f))

/-- A request was sent to different targets, each of them a candidate or its own, and is in its
cycle where it should be. -/
structure Flight.Keeps (ts : List Target) (r : Request)
    (visited : List (Except Target.Fault Target)) (tried : List Target) (f : Flight) : Prop where
  isAt : f.IsAt ts r tried
  visited : visited = tried.map .ok
  nodup : tried.Nodup
  known : ∀ t ∈ tried, t ∈ ts ∨ Target.ofUrl r.url = .ok t

/-- What the choice for a request among surviving candidates comes to: it is over, or it goes to a
target that was not tried and is not blacklisted. -/
theorem attempt_cases {s : Strategy Rat} {r q : Request} {tried : List Target}
    (hsurvive : r.Survive s.targets) (hq : r.Sent s.targets q)
    (hhere : ∀ here, Target.ofUrl q.url = .ok here → q = r ∨ here ∈ tried) (now : Rat) (asked : Url)
    (last : Option (TransportFault × String)) :
    (∃ f, (Exchange.attempt asked tried last
        (Exchange.choose now { strategy := s } q tried last)).1 = .failed f) ∨
      ∃ q' t, (Exchange.attempt asked tried last
          (Exchange.choose now { strategy := s } q tried last)).1 =
          .sent { asked, request := q'
                  cycle := some { below := [], target := t, attempted := tried, last } } ∧
        r.Sent s.targets q' ∧ Target.ofUrl q'.url = .ok t ∧
        s.isBlacklisted now t = false ∧ t ∉ tried ∧
        (t ∈ s.targets ∨ Target.ofUrl r.url = .ok t) := by
  cases hown : Target.ofUrl q.url with
  | error fault =>
    refine .inl ⟨.target fault, ?_⟩
    rw [Exchange.choose, Policy.nextStage, Strategy.nextStage, hown]
    rfl
  | ok here =>
    rw [Exchange.choose_eq s now hown]
    cases hpick : pick s.window now s.blacklist tried (here :: s.targets) with
    | none => exact .inl ⟨_, rfl⟩
    | some t =>
      obtain ⟨hmem, htried, hin⟩ := pick_eq_some hpick
      obtain ⟨q', hstage, hq', ht⟩ := Request.stage_of_survive hsurvive hq hown hmem
      dsimp only
      rw [hstage]
      refine .inr ⟨q', t, rfl, hq', ht, hin, htried, ?_⟩
      rcases List.mem_cons.1 hmem with rfl | hmem
      · rcases hhere t hown with rfl | h
        · exact .inr hown
        · exact absurd h htried
      · exact .inl hmem

section
variable {ts tried : List Target} {r q : Request} {visited : List (Except Target.Fault Target)}
  {f f' : Flight} {t : Target}

/-- A request that is not sent anywhere is where it should be. -/
theorem Flight.Keeps.stay (h : f.Keeps ts r visited tried) (hat : f'.IsAt ts r tried)
    (hnone : f'.request? = none) :
    f'.Keeps ts r (visited ++ (f'.request?.map (Target.ofUrl ·.url)).toList) tried where
  isAt := hat
  visited := by rw [hnone, h.visited, Option.map_none, Option.toList_none, List.append_nil]
  nodup := h.nodup
  known := h.known

/-- A request may be sent to another target that is a candidate or its own. -/
theorem Flight.Keeps.visit (h : f.Keeps ts r visited tried) (hat : f'.IsAt ts r (tried ++ [t]))
    (hsent : f'.request? = some q) (ht : Target.ofUrl q.url = .ok t) (htried : t ∉ tried)
    (hknown : t ∈ ts ∨ Target.ofUrl r.url = .ok t) :
    f'.Keeps ts r (visited ++ (f'.request?.map (Target.ofUrl ·.url)).toList) (tried ++ [t]) where
  isAt := hat
  visited := by
    rw [hsent, h.visited, Option.map_some, ht, List.map_append]
    rfl
  nodup := List.nodup_append.2 ⟨h.nodup, List.nodup_singleton t, fun u hu v hv heq =>
    htried (List.mem_singleton.1 hv ▸ heq ▸ hu)⟩
  known u hu := by
    rcases List.mem_append.1 hu with hu | hu
    · exact h.known u hu
    · rw [List.mem_singleton.1 hu]
      exact hknown

/-- The check sends nothing. -/
@[simp] theorem Flight.request?_checked (r : Request) (out : Except Failure Bool × Policy Rat) :
    (checked r out).request? = none := by
  obtain ⟨_ | _ | _, _⟩ := out <;> rfl

/-- The blame sends nothing. -/
@[simp] theorem Flight.request?_blamed (x : Exchange) (c : Cycle) (fault : TransportFault × String)
    (out : Except Failure Unit) : (blamed x c fault out).request? = none := by
  cases out <;> rfl

/-- A request that was checked has been nowhere. -/
theorem Flight.Keeps.checked (h : (entering q).Keeps ts r visited tried)
    (out : Except Failure Bool × Policy Rat) : (Flight.checked q out).IsAt ts r tried := by
  cases h.isAt
  obtain ⟨_ | _ | _, _⟩ := out
  · exact .failed _ _
  · exact .failed _ _
  · exact .choosing .given fun _ _ => .inl rfl

/-- A request that has its target blamed has been there. -/
theorem Flight.Keeps.blamed {x : Exchange} {c : Cycle}
    (h : (under (.sent x)).Keeps ts r visited tried) (hcycle : x.cycle = some c)
    (fault : TransportFault × String) (out : Except Failure Unit) :
    (Flight.blamed x c fault out).IsAt ts r tried := by
  cases h.isAt with
  | sent hcycle' hq hhere =>
    cases hcycle.symm.trans hcycle'
    cases out with
    | error f => exact .failed _ f
    | ok _ =>
      refine .choosing hq fun here hown => .inr ?_
      cases hown.symm.trans hhere
      exact List.mem_append_right _ List.mem_cons_self

/-- An outcome that is no failure of the transport is the end of a request. -/
theorem Flight.isAt_receive (ts : List Target) (r : Request) (tried : List Target) (now : Rat)
    (p : Policy Rat) (x : Exchange) {outcome : Outcome}
    (houtcome : ∀ fault text, outcome ≠ .raised (.transport fault text)) :
    (under (x.receive now (some p) outcome).1).IsAt ts r tried ∧
      (under (x.receive now (some p) outcome).1).request? = none := by
  cases outcome with
  | response => exact ⟨.answered _ _, rfl⟩
  | raised f =>
    rw [Exchange.receive_raised _ _ _ fun fault text heq => houtcome fault text (heq ▸ rfl)]
    exact ⟨.failed _ _, rfl⟩

/-- A request is sent to no more targets than there are candidates, its own apart. -/
theorem Flight.Keeps.length_le (h : f.Keeps ts r visited tried) :
    visited.Nodup ∧ visited.length ≤ ts.length + 1 := by
  rw [h.visited]
  refine ⟨h.nodup.map fun _ _ => Except.ok.inj, ?_⟩
  rw [List.length_map]
  cases hown : Target.ofUrl r.url with
  | error fault =>
    have hall : ∀ t ∈ tried, t ∈ ts := fun t ht =>
      (h.known t ht).resolve_right fun hok => by
        rw [hown] at hok
        cases hok
    exact (h.nodup.subperm hall).length_le.trans (Nat.le_succ _)
  | ok own =>
    have hall : ∀ t ∈ tried, t ∈ own :: ts := fun t ht =>
      (h.known t ht).elim (List.mem_cons_of_mem own) fun hok => by
        rw [hown] at hok
        cases hok
        exact List.mem_cons_self
    exact (h.nodup.subperm hall).length_le

end

/-! ## What all of them keep to -/

/-- The strategy that all share is as it was made, apart from its blacklist, and follows the ledger
of all the reports; and each request is where it should be. -/
structure Traffic.Orderly {ι : Type} [DecidableEq ι] (targets : List Target) (window : Rat)
    (requests : ι → Request) (g : Traffic ι) : Prop where
  plain : g.policy = { strategy := g.policy.strategy }
  tracks : ({ targets, window, latest := latest g.trace } : Ledger).Tracks g.now g.policy
  flights : ∀ i, ∃ tried,
    (g.flights i).Keeps (Strategy.distinct targets) (requests i) (visits i g.trace) tried

/-- A ledger takes note of what is reported to the strategy. -/
theorem latest_consult {ι : Type} (targets : List Target) (window : Rat) (g : Traffic ι)
    (inquiry : Inquiry) :
    (({ targets, window, latest := latest g.trace } : Ledger).consult g.now inquiry).2 =
      { targets, window, latest := latest (g.consult inquiry).trace } := by
  cases inquiry with
  | markUrl u =>
    rw [Traffic.consult, Inquiry.reported, Ledger.consult]
    cases Target.ofUrl u <;> rfl
  | _ => rfl

/-- What is asked or told sends nothing. -/
theorem trace_consult_ne {ι : Type} (g : Traffic ι) (inquiry : Inquiry) (i : ι) (q : Request)
    (x : Rat) : (g.consult inquiry).trace ≠ .sent i q x :: g.trace := by
  rw [Traffic.consult]
  cases inquiry.reported with
  | none => exact (List.cons_ne_self _ _).symm
  | some t =>
    intro heq
    cases (List.cons_eq_cons.1 heq).1

/-- A policy that has no faults keeps none, whatever it is asked or told. -/
theorem plain_consult {p : Policy Rat} (h : p = { strategy := p.strategy }) (now : Rat)
    (inquiry : Inquiry) :
    (p.consult now inquiry).2 = { strategy := (p.consult now inquiry).2.strategy } := by
  rw [h]
  cases inquiry with
  | markUrl u =>
    rw [Policy.consult, Policy.markUrl]
    cases Target.ofUrl u <;> rfl
  | _ => rfl

section
variable {ι : Type} [DecidableEq ι] {targets : List Target} {window : Rat} {requests : ι → Request}
  {g k : Traffic ι} {i j : ι} {q : Request} {tried : List Target} {f : Flight}

/-- Reports are no visits. -/
@[simp] theorem visits_append_failed (j : ι) (t : Option Target) (x : Rat)
    (os : List (Incident ι)) :
    visits j ((t.map (Incident.failed · x)).toList ++ os) = visits j os := by
  cases t <;> rfl

/-- A request that was sent has one visit more. -/
theorem visits_advance (g : Traffic ι) (i j : ι) (f : Flight) :
    visits j (g.advance i f).trace =
      if i = j then visits j g.trace ++ (f.request?.map (Target.ofUrl ·.url)).toList
      else visits j g.trace := by
  unfold Traffic.advance
  cases f.request? with
  | none => simp
  | some q =>
    simp only [Option.map_some, Option.toList_some, List.cons_append, List.nil_append, visits]

/-- Nobody is reported by a request that gets further. -/
@[simp] theorem latest_advance (g : Traffic ι) (i : ι) (f : Flight) :
    latest (g.advance i f).trace = latest g.trace := by
  unfold Traffic.advance
  cases f.request? <;> rfl

namespace Traffic

/-- The request that gets further. -/
@[simp] theorem flights_advance_self (g : Traffic ι) (i : ι) (f : Flight) :
    (g.advance i f).flights i = f :=
  Function.update_self ..

/-- The others stay where they are. -/
theorem flights_advance_of_ne (h : j ≠ i) : (g.advance i f).flights j = g.flights j :=
  Function.update_of_ne h ..

/-- Asking or telling the strategy something keeps all in order. -/
theorem Orderly.consult (h : g.Orderly targets window requests) (inquiry : Inquiry) :
    (g.consult inquiry).Orderly targets window requests where
  plain := plain_consult h.plain g.now inquiry
  tracks := latest_consult targets window g inquiry ▸ (h.tracks.consult inquiry).2
  flights j := by
    rw [Traffic.consult, visits_append_failed]
    exact h.flights j

/-- A request that gets further keeps all in order when it keeps to its own cycle. -/
theorem Orderly.advance (h : g.Orderly targets window requests)
    (hi : f.Keeps (Strategy.distinct targets) (requests i)
      (visits i g.trace ++ (f.request?.map (Target.ofUrl ·.url)).toList) tried) :
    (g.advance i f).Orderly targets window requests where
  plain := h.plain
  tracks := by
    rw [latest_advance]
    exact h.tracks
  flights j := by
    rw [visits_advance]
    by_cases hij : i = j
    · subst hij
      rw [if_pos rfl]
      rw [flights_advance_self]
      exact ⟨tried, hi⟩
    · rw [if_neg hij]
      rw [flights_advance_of_ne (Ne.symm hij)]
      exact h.flights j

/-- A request for which nothing is sent leaves no trace. -/
theorem trace_advance (hnone : f.request? = none) : (g.advance i f).trace = g.trace := by
  rw [Traffic.advance, hnone]
  rfl

/-- What the choice for a request comes to, when all is in order. -/
theorem Orderly.attempt_cases {asked : Url} {last : Option (TransportFault × String)}
    (hsurvive : ∀ i, (requests i).Survive (Strategy.distinct targets))
    (h : g.Orderly targets window requests) (hi : g.flights i = .choosing asked q tried last) :
    (∃ f, (Exchange.attempt asked tried last
        (Exchange.choose g.now g.policy q tried last)).1 = .failed f) ∨
      ∃ q' t, (Exchange.attempt asked tried last (Exchange.choose g.now g.policy q tried last)).1 =
          .sent { asked, request := q'
                  cycle := some { below := [], target := t, attempted := tried, last } } ∧
        (requests i).Sent (Strategy.distinct targets) q' ∧ Target.ofUrl q'.url = .ok t ∧
        g.policy.strategy.isBlacklisted g.now t = false ∧ t ∉ tried ∧
        (t ∈ Strategy.distinct targets ∨ Target.ofUrl (requests i).url = .ok t) := by
  obtain ⟨visited, hkeeps⟩ := h.flights i
  have hat := hkeeps.isAt
  rw [hi] at hat
  have hts : g.policy.strategy.targets = Strategy.distinct targets := h.tracks.targets
  cases hat with
  | choosing hq hhere =>
    rw [h.plain, ← hts]
    rw [← hts] at hq
    exact Failover.attempt_cases (hts ▸ hsurvive i) hq hhere g.now asked last

/-- One step of anybody keeps all in order. -/
theorem Orderly.step (hsurvive : ∀ i, (requests i).Survive (Strategy.distinct targets))
    (h : g.Orderly targets window requests) (hstep : Step g k) :
    k.Orderly targets window requests := by
  cases hstep with
  | pass hlater => exact { h with tracks := h.tracks.later hlater }
  | consult inquiry => exact h.consult inquiry
  | @check i r hi =>
    obtain ⟨tried, hkeeps⟩ := (h.consult .viable).flights i
    change (g.flights i).Keeps _ _ _ tried at hkeeps
    rw [hi] at hkeeps
    exact (h.consult .viable).advance
      (hkeeps.stay (hkeeps.checked _) (Flight.request?_checked _ _))
  | @choose i asked q tried last hi =>
    obtain ⟨visited, hkeeps⟩ := (h.consult (.nextStage q tried)).flights i
    change (g.flights i).Keeps _ _ _ visited at hkeeps
    rcases h.attempt_cases hsurvive hi with
      ⟨f, hfailed⟩ | ⟨q', t, hsent, hq', ht, -, htried, hknown⟩
    · rw [hfailed]
      exact (h.consult _).advance (hkeeps.stay (.failed _ f) rfl)
    · rw [hi] at hkeeps
      cases hkeeps.isAt
      have hat : Flight.IsAt (Strategy.distinct targets) (requests i) (tried ++ [t])
          (.under (.sent
            { asked, request := q'
              cycle := some { below := [], target := t, attempted := tried, last } })) :=
        .sent (c := { below := [], target := t, attempted := tried, last }) rfl hq' ht
      rw [hsent]
      exact (h.consult _).advance (hkeeps.visit hat rfl ht htried hknown)
  | @blame i x c hi hcycle fault =>
    obtain ⟨tried, hkeeps⟩ := (h.consult (.mark c.target)).flights i
    change (g.flights i).Keeps _ _ _ tried at hkeeps
    rw [hi] at hkeeps
    exact (h.consult _).advance
      (hkeeps.stay (hkeeps.blamed hcycle fault _) (Flight.request?_blamed _ _ _ _))
  | @finish i x outcome hi houtcome =>
    obtain ⟨tried, hkeeps⟩ := h.flights i
    obtain ⟨hat, hnone⟩ := Flight.isAt_receive _ _ tried g.now g.policy x houtcome
    exact h.advance (hkeeps.stay hat hnone)

/-- No step sends a request to a target that is blacklisted at the time. -/
theorem Orderly.vetted (hsurvive : ∀ i, (requests i).Survive (Strategy.distinct targets))
    (h : g.Orderly targets window requests) (hstep : Step g k) {i : ι} {q : Request} {x : Rat}
    (hsent : k.trace = .sent i q x :: g.trace) :
    x = g.now ∧ ∃ t, Target.ofUrl q.url = .ok t ∧
      g.policy.strategy.isBlacklisted g.now t = false := by
  cases hstep with
  | pass => exact absurd hsent.symm (List.cons_ne_self _ _)
  | consult inquiry => exact absurd hsent (trace_consult_ne g inquiry i q x)
  | check =>
    rw [trace_advance (Flight.request?_checked _ _)] at hsent
    exact absurd hsent (trace_consult_ne g _ i q x)
  | choose hi =>
    rcases h.attempt_cases hsurvive hi with ⟨f, hfailed⟩ | ⟨q', t, hattempt, -, ht, hin, -, -⟩
    · rw [hfailed, trace_advance rfl] at hsent
      exact absurd hsent (trace_consult_ne g _ i q x)
    · rw [hattempt] at hsent
      cases hsent
      exact ⟨rfl, t, ht, hin⟩
  | blame =>
    rw [trace_advance (Flight.request?_blamed _ _ _ _)] at hsent
    exact absurd hsent (trace_consult_ne g _ i q x)
  | @finish j x _ _ houtcome =>
    obtain ⟨-, hnone⟩ := Flight.isAt_receive [] (requests j) [] g.now g.policy x houtcome
    rw [trace_advance hnone] at hsent
    exact absurd hsent.symm (List.cons_ne_self _ _)

/-- Requests that are about to start are in order. -/
theorem orderly_idle (targets : List Target) (window now : Rat) (requests : ι → Request) :
    (idle now { targets := Strategy.distinct targets, window } requests).Orderly targets window
      requests where
  plain := rfl
  tracks := ⟨rfl, rfl, rfl, .empty window now⟩
  flights _ := ⟨[], .entering, rfl, .nil, fun _ ht => absurd ht List.not_mem_nil⟩

/-- What requests that share a strategy can rely on: each is sent to different targets, and to at
most one more than there are candidates; a target that a request is sent to is not blacklisted when
it is chosen; what is on record of a target is its latest failure that anybody reported; and no
report is lost that is at most a window old. -/
structure Vetted (ts : List Target) (window : Rat) (g : Traffic ι) : Prop where
  distinct : ∀ i, (visits i g.trace).Nodup
  bounded : ∀ i, (visits i g.trace).length ≤ ts.length + 1
  vetted : ∀ k, Step g k → ∀ i q x, k.trace = .sent i q x :: g.trace →
    x = g.now ∧ ∃ t, Target.ofUrl q.url = .ok t ∧
      g.policy.strategy.isBlacklisted g.now t = false
  recorded : ∀ t x, g.policy.strategy.blacklist.failure? t = some x → latest g.trace t = some x
  remembered : ∀ t x, latest g.trace t = some x → g.now - x ≤ window →
    g.policy.strategy.blacklist.failure? t = some x

end Traffic

end

/-- However many requests share a strategy whose candidates survive retargeting, however their steps
and those of others who use the strategy follow each other, they can rely on it at any time. -/
theorem vetted_of_steps {targets : List Target} {window : Rat} {s : Strategy Rat}
    (hs : Strategy.create targets window = .ok s) {ι : Type} [DecidableEq ι]
    {requests : ι → Request} (hsurvive : ∀ i, (requests i).Survive s.targets) {now : Rat}
    {g : Traffic ι} (h : Traffic.Steps (.idle now s requests) g) : g.Vetted s.targets window := by
  have hmade : s = { targets := Strategy.distinct targets, window } := by
    unfold Strategy.create at hs
    split at hs
    · cases hs
    split at hs
    · cases hs
    · exact (Except.ok.inj hs).symm
  subst hmade
  have horderly : g.Orderly targets window requests := by
    induction h with
    | refl => exact Traffic.orderly_idle targets window now requests
    | tail _ hstep ih => exact ih.step hsurvive hstep
  refine ⟨fun i => ?_, fun i => ?_, fun k hk i q x hsent => horderly.vetted hsurvive hk hsent,
    fun t x hx => ?_, fun t x hx hin => ?_⟩
  · obtain ⟨tried, hkeeps⟩ := horderly.flights i
    exact hkeeps.length_le.1
  · obtain ⟨tried, hkeeps⟩ := horderly.flights i
    exact hkeeps.length_le.2
  · rcases horderly.tracks.recalls.recorded t with hsame | ⟨hgone, -⟩
    · exact hsame.symm.trans hx
    · cases hgone.symm.trans hx
  · rcases horderly.tracks.recalls.recorded t with hsame | ⟨-, y, hy, hover⟩
    · exact hsame.trans hx
    · cases hx.symm.trans hy
      exact absurd hin (not_le.2 hover)

/-- Two requests to `a` are checked. The transport fails for the first one, so the second one, whose
target is chosen then, is sent to `b`. -/
theorem vetted_of_steps_sample : ∃ g : Traffic Bool,
    g.Vetted Strategy.sample.targets 60 ∧
      g.trace.length = 3 ∧
      visits false g.trace = [.ok ⟨"a", 8500⟩] ∧ visits true g.trace = [.ok ⟨"b", 8500⟩] ∧
      g.policy.strategy.blacklist = [(⟨"a", 8500⟩, 1)] := by
  have hs : Strategy.create [⟨"b", 8500⟩, ⟨"c", 8500⟩] (60 : Rat) = .ok Strategy.sample := rfl
  let r : Request := .sample "a"
  let c : Cycle := { below := [], target := ⟨"a", 8500⟩ }
  let x : Exchange := { asked := r.url, request := r, cycle := some c }
  have hchecked : Traffic.Steps (.idle 0 Strategy.sample fun _ : Bool => r) _ :=
    (Relation.ReflTransGen.single (@Traffic.Step.check _ _ _ false r rfl)).tail
      (@Traffic.Step.check _ _ _ true r rfl)
  have hfirst := hchecked.tail (@Traffic.Step.choose _ _ _ false r.url r [] none rfl)
  have hblamed := (hfirst.tail (@Traffic.Step.pass _ _ _ 1 (by decide +kernel))).tail
    (@Traffic.Step.blame _ _ _ false x c rfl rfl (.connectError, "refused"))
  have hsecond := hblamed.tail (@Traffic.Step.choose _ _ _ true r.url r [] none rfl)
  exact ⟨_, vetted_of_steps hs (fun _ => Request.survive_sample) hsecond, by decide +kernel,
    by decide +kernel, by decide +kernel, by decide +kernel⟩

/-! ## Whole exchanges -/

/-- An exchange under a failover layer with no layers below it. -/
inductive IsDirect : Exchange → Prop
  | mk (asked : Url) (q : Request) (t : Target) (tried : List Target)
    (last : Option (TransportFault × String)) : IsDirect
      { asked, request := q, cycle := some { below := [], target := t, attempted := tried, last } }

/-- An attempt leaves the policy that the choice left. -/
@[simp] theorem snd_attempt (asked : Url) (tried : List Target) (last : Option (TransportFault × String))
    (out : Except Failure (Request × Target) × Policy Rat) :
    (Exchange.attempt asked tried last out).2 = some out.2 := by
  obtain ⟨_ | _, _⟩ := out <;> rfl

/-- What an attempt of a failover layer above the transport sends is a direct exchange. -/
theorem isDirect_attempt {asked : Url} {tried : List Target}
    {last : Option (TransportFault × String)}
    {out : Except Failure (Request × Target) × Policy Rat} {x : Exchange}
    (h : (Exchange.attempt asked tried last out).1 = .sent x) : IsDirect x := by
  obtain ⟨_ | ⟨q, t⟩, _⟩ := out
  · cases h
  · cases h
    exact .mk ..

/-- A direct exchange that goes on is a direct one again. -/
theorem IsDirect.receive {x y : Exchange} (hx : IsDirect x) {now : Rat} {p : Policy Rat}
    {outcome : Outcome} (h : (x.receive now (some p) outcome).1 = .sent y) : IsDirect y := by
  obtain ⟨asked, q, t, tried, last⟩ := hx
  cases outcome with
  | response => cases h
  | raised f =>
    cases f with
    | transport fault text =>
      simp only [Exchange.receive] at h
      cases hmark : p.mark now t with
      | mk done p' =>
        rw [hmark] at h
        cases done with
        | error f => cases h
        | ok _ =>
          have heq := Exchange.proceed_eq now p' asked q t tried last (fault, text)
          exact isDirect_attempt ((congrArg Prod.fst heq).symm.trans h)
    | _ => cases h

namespace Traffic

section
variable {ι : Type} [DecidableEq ι] {g g' k l : Traffic ι} {i : ι}

/-- One request has got as far as an exchange did, which left the policy behind. It was sent where
the exchange sent it. -/
structure Reaches (g : Traffic ι) (i : ι) (out : Progress × Option (Policy Rat)) (k : Traffic ι) :
    Prop where
  steps : Steps g k
  now : k.now = g.now
  flights : k.flights = Function.update g.flights i (.under out.1)
  policy : out.2 = some k.policy
  sent : visits i k.trace =
    visits i g.trace ++ ((Flight.under out.1).request?.map (Target.ofUrl ·.url)).toList

/-- A request that asks or tells the strategy something, and then gets further, takes one step. -/
theorem Reaches.single {inquiry : Inquiry} {out : Progress × Option (Policy Rat)}
    (hstep : Step g ((g.consult inquiry).advance i (.under out.1)))
    (hpolicy : out.2 = some (g.policy.consult g.now inquiry).2) :
    g.Reaches i out ((g.consult inquiry).advance i (.under out.1)) where
  steps := .single hstep
  now := rfl
  flights := rfl
  policy := hpolicy
  sent := by
    rw [visits_advance, if_pos rfl]
    exact congrArg (· ++ _) (visits_append_failed ..)

/-- A choice and the attempt that it leads to are one step. -/
theorem reaches_choose {asked : Url} {q : Request} {tried : List Target}
    {last : Option (TransportFault × String)} (hi : g.flights i = .choosing asked q tried last) :
    ∃ k, g.Reaches i
      (Exchange.attempt asked tried last (Exchange.choose g.now g.policy q tried last)) k :=
  ⟨_, .single (.choose hi) ((snd_attempt ..).trans (congrArg some (Exchange.snd_choose ..)))⟩

/-- What is reached from a step of the request that sends nothing is reached. -/
theorem Reaches.head {inquiry : Inquiry} {f : Flight} {out : Progress × Option (Policy Rat)}
    (hstep : Step g ((g.consult inquiry).advance i f)) (hnone : f.request? = none)
    (h : ((g.consult inquiry).advance i f).Reaches i out k) : g.Reaches i out k where
  steps := .head hstep h.steps
  now := h.now
  flights := h.flights.trans (Function.update_idem ..)
  policy := h.policy
  sent := by
    rw [h.sent, trace_advance hnone]
    exact congrArg (· ++ _) (visits_append_failed ..)

/-- A request that is taken down to the transport is checked, and then a target is chosen for it. -/
theorem reaches_start {r : Request} (hi : g.flights i = .entering r) :
    ∃ k, g.Reaches i (Exchange.start g.now (some g.policy) [.failover] r) k := by
  have hcheck := Step.check hi
  rw [Exchange.start_eq, Exchange.enter]
  cases hviable : g.policy.isViable g.now with
  | mk viable p =>
    have hp : (g.policy.consult g.now .viable).2 = p := congrArg Prod.snd hviable
    rw [hviable] at hcheck
    cases viable with
    | error f => exact ⟨_, .single hcheck (congrArg some hp.symm)⟩
    | ok viable =>
      cases viable with
      | false => exact ⟨_, .single hcheck (congrArg some hp.symm)⟩
      | true =>
        have hnext : ((g.consult .viable).advance i (.checked r (.ok true, p))).flights i =
            .choosing r.url r [] none := Function.update_self ..
        obtain ⟨k, hk⟩ := reaches_choose hnext
        subst hp
        exact ⟨k, .head hcheck rfl hk⟩

/-- When the transport is done with a request, that has its target blamed and another one chosen if
the transport failed, and is done otherwise. -/
theorem reaches_receive {x : Exchange} (hx : IsDirect x) (hi : g.flights i = .under (.sent x))
    (outcome : Outcome) :
    ∃ k, g.Reaches i (x.receive g.now (some g.policy) outcome) k := by
  obtain ⟨asked, q, t, tried, last⟩ := hx
  by_cases hcase : ∃ fault text, outcome = .raised (.transport fault text)
  · obtain ⟨fault, text, rfl⟩ := hcase
    have hblame := Step.blame hi rfl (fault, text)
    simp only [Exchange.receive]
    cases hmark : g.policy.mark g.now t with
    | mk done p =>
      have hp : (g.policy.consult g.now (.mark t)).2 = p := congrArg Prod.snd hmark
      dsimp only at hblame
      rw [hmark] at hblame
      cases done with
      | error f => exact ⟨_, .single hblame (congrArg some hp.symm)⟩
      | ok _ =>
        have hnext : ((g.consult (.mark t)).advance i (.choosing asked q (tried ++ [t])
            (some (fault, text)))).flights i =
            .choosing asked q (tried ++ [t]) (some (fault, text)) := Function.update_self ..
        obtain ⟨k, hk⟩ := reaches_choose hnext
        subst hp
        exact ⟨k, .head hblame rfl hk⟩
  · have hother : ∀ fault text, outcome ≠ .raised (.transport fault text) :=
      fun fault text heq => hcase ⟨fault, text, heq⟩
    refine ⟨_, .single (.finish hi hother), rfl, rfl, ?_, by rw [visits_advance, if_pos rfl]⟩
    cases outcome with
    | response => rfl
    | raised f =>
      rw [Exchange.receive_raised _ _ _ fun fault text heq => hother fault text (heq ▸ rfl)]
      rfl

/-- Where a request is when its exchange is over. -/
def landed : Except Failure Response → Flight
  | .ok r => .under (.answered r)
  | .error f => .under (.failed f)

/-- One request went through a whole exchange, while nobody else did anything: the clock and the
policy are as the exchange left them, and the request was sent where the exchange sent it. -/
structure Carries (g : Traffic ι) (i : ι) (out : Transcript Rat) (k : Traffic ι) : Prop where
  steps : Steps g k
  now : k.now = out.now
  flights : k.flights = Function.update g.flights i (landed out.result)
  policy : out.policy = some k.policy
  sent : visits i k.trace = visits i g.trace ++ out.attempts.map (Target.ofUrl ·.url)

/-- An exchange that is over when nothing was sent has gone through. -/
theorem Reaches.carries {out : Progress × Option (Policy Rat)} {r : Except Failure Response}
    (h : g.Reaches i out k) (hlanded : Flight.under out.1 = landed r) :
    g.Carries i { attempts := [], result := r, now := g.now, policy := out.2 } k where
  steps := h.steps
  now := h.now
  flights := hlanded ▸ h.flights
  policy := h.policy
  sent := by
    rw [h.sent, hlanded]
    cases r <;> rfl

/-- A request that was sent goes through if it does when the transport is done with it. -/
theorem Reaches.carries_sent {x : Exchange} {policy : Option (Policy Rat)} {later : Rat}
    {rest : Transcript Rat} (h : g.Reaches i (.sent x, policy) k) (hlater : k.now ≤ later)
    (hrest : ({ k with now := later } : Traffic ι).Carries i rest l) :
    g.Carries i { rest with attempts := x.request :: rest.attempts } l where
  steps := (h.steps.tail (.pass hlater)).trans hrest.steps
  now := hrest.now
  flights := by
    rw [hrest.flights]
    exact (congrArg (Function.update · i _) h.flights).trans (Function.update_idem ..)
  policy := hrest.policy
  sent := by
    have hsent : visits i k.trace = visits i g.trace ++ [Target.ofUrl x.request.url] := h.sent
    rw [hrest.sent, List.map_cons, ← List.singleton_append, ← List.append_assoc]
    exact congrArg (· ++ _) hsent

/-- An exchange that is followed to its end goes through, step by step. -/
theorem carries_follow {out : Progress × Option (Policy Rat)} (script : List (Reply Rat))
    (hclock : ∀ reply ∈ script, ∀ d ∈ reply.passing, 0 ≤ d) (h : g.Reaches i out k)
    (hdirect : ∀ x, out.1 = .sent x → IsDirect x) :
    ∃ l, g.Carries i (Exchange.follow g.now script out) l := by
  obtain ⟨progress, policy⟩ := out
  induction script generalizing g k progress policy with
  | nil =>
    cases progress with
    | answered r => exact ⟨k, h.carries rfl⟩
    | failed f => exact ⟨k, h.carries rfl⟩
    | sent x =>
      -- the transport answers with status 200 when the script is over
      have hi : k.flights i = .under (.sent x) := by rw [h.flights, Function.update_self]
      obtain ⟨l, hl⟩ := reaches_receive (hdirect x rfl) hi (.response 200 [] [])
      have hpolicy : policy = some k.policy := h.policy
      have hdone := hl.carries (r := .ok _) rfl
      rw [← h.now, hpolicy]
      exact ⟨l, h.carries_sent le_rfl hdone⟩
  | cons reply script ih =>
    cases progress with
    | answered r =>
      rw [Exchange.follow_answered]
      exact ⟨k, h.carries rfl⟩
    | failed f =>
      rw [Exchange.follow_failed]
      exact ⟨k, h.carries rfl⟩
    | sent x =>
      have hlater : k.now ≤ reply.clock k.now := by
        unfold Reply.clock
        cases hpassing : reply.passing with
        | none => exact le_rfl
        | some d => exact le_add_of_nonneg_right (hclock reply List.mem_cons_self d hpassing)
      let later : Traffic ι := { k with now := reply.clock k.now }
      have hi : later.flights i = .under (.sent x) := by
        change k.flights i = _
        rw [h.flights, Function.update_self]
      obtain ⟨l, hl⟩ := reaches_receive (hdirect x rfl) hi reply.outcome
      obtain ⟨m, hm⟩ := ih (fun reply hreply => hclock reply (List.mem_cons_of_mem _ hreply)) _ _
        hl fun y hy => (hdirect x rfl).receive hy
      have hpolicy : policy = some k.policy := h.policy
      rw [Exchange.follow_sent, ← h.now, hpolicy]
      exact ⟨m, h.carries_sent hlater hm⟩

/-- A request that is sent through a failover layer above the transport, by itself and to its end,
is a run of the traffic, as long as the clock does not go back. -/
theorem exists_carries_run (w : Waiting) {r : Request} (hi : g.flights i = .entering r)
    (script : List (Reply Rat)) (hclock : ∀ reply ∈ script, ∀ d ∈ reply.passing, 0 ≤ d) :
    ∃ k, g.Carries i (Stack.run w g.now (some g.policy) ⟨w, [.failover]⟩ r script) k := by
  obtain ⟨k, hk⟩ := reaches_start hi
  rw [Exchange.run_eq, ← Exchange.start_eq]
  refine carries_follow script hclock hk fun x hx => ?_
  rw [Exchange.start_eq] at hx
  exact isDirect_attempt hx

end

end Traffic

end Failover

end BlockingQuery
