import BlockingQuery.Proofs.Failover.Cycle
import Mathlib.Data.List.Nodup
import Mathlib.Data.List.Perm.Subperm

/-!
# What a failover layer can be relied on for

A failover layer is to end its cycles, to ask nobody twice, and to find a candidate that answers.
It does so for all the requests that a cycle may come to if and only if the candidates survive
retargeting (`reliable_iff_survive`). One direction is read off the course of a cycle. For the
other one, take a candidate that a request cannot be sent to, or not without leading elsewhere, and
blacklist all the others: either the cycle ends there with an error, or the candidate is picked
once more after its namesake failed, since neither the list of the targets tried nor the blacklist
ever comes to hold it.
-/

namespace BlockingQuery

open Failover

variable {τ : Type} [Seconds τ]

/-! ## The promise -/

/-- A transport that answers every attempt at one target and none at another. -/
def Reply.Answers (t : Target) (attempt : Except Target.Fault Target × Reply τ) : Prop :=
  if attempt.1 = .ok t then ∃ status headers body, attempt.2.outcome = .response status headers body
  else ∃ fault text, attempt.2.outcome = .raised (.transport fault text)

/-- The run of one cycle, with a blacklist to begin with. -/
def Failover.cycle (w : Waiting) (now : τ) (ts : List Target) (window : τ) (b : Blacklist τ)
    (r : Request) (script : List (Reply τ)) : Transcript τ :=
  Stack.run w now (some { strategy := { targets := ts, window, blacklist := b } })
    ⟨w, [.failover]⟩ r script

/-- What a failover layer promises for a request, whatever is blacklisted and whatever the
transport does: there are no more attempts than candidates and the target of the request itself, no
two of them go to the same host and port, and there is a response if a candidate answers that is
not blacklisted at any moment, the transport failing for all others. -/
structure Failover.Reliable (ts : List Target) (window : τ) (r : Request) : Prop where
  bounded : ∀ w now b script, (cycle w now ts window b r script).attempts.length ≤ ts.length + 1
  distinct : ∀ w now b script, (cycle w now ts window b r script).targets.Nodup
  served : ∀ w now b script, ∀ t ∈ ts,
    (∀ x ∈ Reply.readings now script, b.excludes window x t = false) →
    (∀ attempt ∈ (cycle w now ts window b r script).targets.zip script, Reply.Answers t attempt) →
    ∃ response, (cycle w now ts window b r script).result = .ok response

/-! ## Candidates that survive -/

namespace Failover

variable {asked : Url} {ts order tried : List Target} {window now x : τ} {b c : Blacklist τ}
  {last : Option (TransportFault × String)} {script : List (Reply τ)} {e : Ending τ} {t : Target}

/-- A candidate that answers is come to. -/
theorem Course.result_of_answers (h : Course asked ts window order now b tried last script e)
    (horder : t ∈ order) (hts : t ∈ ts) (htried : t ∉ tried)
    (hin : ∀ x ∈ Reply.readings now script, b.excludes window x t = false)
    (hanswers : ∀ attempt ∈ (e.targets.map .ok).zip script, Reply.Answers t attempt) :
    ∃ response, e.result = .ok response := by
  induction h with
  | @exhausted _ now _ _ _ script hpick =>
    rcases pick_eq_none.1 hpick t horder with h | hout
    · exact absurd h htried
    · rw [hin now (Reply.mem_readings now script)] at hout
      cases hout
  | silent => exact ⟨_, rfl⟩
  | answered => exact ⟨_, rfl⟩
  | @raised _ _ _ _ _ _ u reply f _ houtcome hf =>
    have hreply : Reply.Answers t (.ok u, reply) := hanswers _ List.mem_cons_self
    rw [Reply.Answers, houtcome] at hreply
    split at hreply
    · obtain ⟨_, _, _, hreply⟩ := hreply
      cases hreply
    · obtain ⟨fault, text, hreply⟩ := hreply
      cases hreply
      exact absurd rfl (hf fault text)
  | @failed _ now b tried _ script u reply _ _ e _ houtcome _ ih =>
    have hne : t ≠ u := by
      rintro rfl
      have hreply : Reply.Answers t (.ok t, reply) := hanswers _ List.mem_cons_self
      rw [Reply.Answers, if_pos rfl, houtcome] at hreply
      obtain ⟨_, _, _, hreply⟩ := hreply
      cases hreply
    have htried' : t ∉ tried ++ [u] := by simp [htried, hne]
    refine ih hts htried' (fun x hx => ?_) fun attempt hmem =>
      hanswers attempt (List.mem_cons_of_mem _ hmem)
    have hlooked : b.Ages window [now] (b.inspect window now u) t :=
      Blacklist.ages_inspect List.mem_cons_self u
    rw [Blacklist.excludes_record hne]
    exact hlooked.excludes_eq_false (hin x (List.mem_cons_of_mem _ hx))

/-- The attempts of a cycle are no more than the targets in question. -/
theorem Course.length_targets_le (h : Course asked ts window order now b tried last script e)
    (hts : ts ⊆ order) : e.targets.length ≤ order.length := by
  obtain ⟨hnodup, hall⟩ := h.targets_nodup
  refine (hnodup.subperm fun t ht => ?_).length_le
  exact (hall t ht).2.elim id fun ht => hts ht

/-- A cycle does nothing, or it goes by the rules, when the candidates survive retargeting. -/
theorem cycle_cases {r : Request} {own : Target} (hown : Target.ofUrl r.url = .ok own)
    (hsurvive : r.Survive ts) (w : Waiting) (now : τ) (b : Blacklist τ) (script : List (Reply τ)) :
    (cycle w now ts window b r script).attempts = [] ∧ pick window now b [] ts = none ∨
      ∃ u e, Course r.url ts window (own :: ts) now (b.inspect window now u) [] none script e ∧
        (cycle w now ts window b r script).Ends { targets := ts, window, blacklist := b } e := by
  let s : Strategy τ := { targets := ts, window, blacklist := b }
  cases hpick : pick window now b [] ts with
  | none =>
    have hnone := Exchange.run_of_pick_eq_none w (s := s) r script hpick
    exact .inl ⟨congrArg Transcript.attempts hnone, rfl⟩
  | some u =>
    exact .inr ⟨u, Exchange.course_of_pick_eq_some w (s := s) hown hsurvive script hpick⟩

/-- A failover layer keeps its promise when the candidates survive retargeting. -/
theorem reliable_of_survive {r : Request} {own : Target} (hown : Target.ofUrl r.url = .ok own)
    (hsurvive : r.Survive ts) : Reliable ts window r where
  bounded w now b script := by
    rcases cycle_cases hown hsurvive w now b script with ⟨hnone, -⟩ | ⟨u, e, hcourse, hends⟩
    · rw [hnone]
      exact Nat.zero_le _
    · have hlength := congrArg List.length hends.targets
      rw [Transcript.targets, List.length_map, List.length_map] at hlength
      rw [hlength]
      exact hcourse.length_targets_le (List.subset_cons_self own ts)
  distinct w now b script := by
    rcases cycle_cases hown hsurvive w now b script with ⟨hnone, -⟩ | ⟨u, e, hcourse, hends⟩
    · rw [Transcript.targets, hnone]
      exact .nil
    · rw [hends.targets]
      exact List.Nodup.map (fun _ _ => Except.ok.inj) hcourse.targets_nodup.1
  served w now b script t ht hin hanswers := by
    rcases cycle_cases hown hsurvive w now b script with ⟨-, hnone⟩ | ⟨u, e, hcourse, hends⟩
    · rcases pick_eq_none.1 hnone t ht with htried | hout
      · cases htried
      · rw [hin now (Reply.mem_readings now script)] at hout
        cases hout
    · rw [hends.targets] at hanswers
      rw [hends.result]
      have hlooked : b.Ages window [now] (b.inspect window now u) t :=
        Blacklist.ages_inspect List.mem_cons_self u
      exact hcourse.result_of_answers (List.mem_cons_of_mem own ht) ht List.not_mem_nil
        (fun x hx => hlooked.excludes_eq_false (hin x hx)) hanswers

end Failover

/-! ## Candidates that do not survive -/

namespace Failover

variable {ts order tried : List Target} {window now : τ} {b : Blacklist τ} {t here : Target}
  {q : Request}

/-- The blacklist of all the targets but one, each of which failed at zero. -/
def Blacklist.allBut (t : Target) (ts : List Target) : Blacklist τ :=
  (ts.filter (· ≠ t)).map (·, Seconds.zero)

/-- All but one are on record. -/
theorem Blacklist.failure?_allBut (t u : Target) (ts : List Target) :
    (allBut (τ := τ) t ts).failure? u = if u ∈ ts ∧ u ≠ t then some Seconds.zero else none := by
  induction ts with
  | nil => rfl
  | cons v ts ih =>
    unfold allBut at ih ⊢
    by_cases hv : v = t
    · subst hv
      rw [List.filter_cons_of_neg (by simp), ih]
      by_cases hu : u = v <;> simp [hu]
    · rw [List.filter_cons_of_pos (by simpa using hv), List.map_cons, failure?_cons, ih]
      by_cases hu : u = v
      · subst hu
        simp [hv]
      · simp [hu]

/-- The one is not blacklisted. -/
theorem Blacklist.excludes_allBut_self (x : τ) (t : Target) (ts : List Target) :
    (allBut t ts).excludes window x t = false := by
  simp [excludes, failure?_allBut]

/-- All others are blacklisted as long as no time passes. -/
theorem Blacklist.excludes_allBut {u : Target} (hwindow : ¬ window < Seconds.zero - Seconds.zero)
    (hu : u ∈ ts) (hne : u ≠ t) : (allBut t ts).excludes window Seconds.zero u = true := by
  simp [excludes, failure?_allBut, hu, hne, isOver, hwindow]

/-- A cycle begins with an attempt at the target that is picked first. -/
theorem cycle_eq (w : Waiting) (script : List (Reply τ)) {u : Target}
    (hhere : Target.ofUrl q.url = .ok here) (hviable : pick window now b [] ts = some u)
    (hfirst : pick window now b [] (here :: ts) = some t) :
    cycle w now ts window b q script = Exchange.follow now script (Exchange.attempt q.url [] none
      (q.stage here t, { strategy :=
        { targets := ts, window
          blacklist := (b.inspect window now u).inspect window now t } })) := by
  rw [cycle, Exchange.run_eq, Exchange.enter_eq, hviable]
  dsimp only [Strategy.inspect]
  rw [Exchange.choose_eq _ _ hhere, pick_inspect, hfirst]
  rfl

/-- An attempt that the transport fails for leads to the next one. -/
theorem follow_failed_attempt (s : Strategy τ) (asked : Url)
    (last : Option (TransportFault × String)) (reply : Reply τ) (script : List (Reply τ))
    {fault : TransportFault} {text : String} {u : Target}
    (houtcome : reply.outcome = .raised (.transport fault text)) (hu : Target.ofUrl q.url = .ok u)
    (hpick : pick s.window (reply.clock now) (s.blacklist.record (reply.clock now) u) (tried ++ [u])
      (u :: s.targets) = some t) :
    Exchange.follow now (reply :: script)
        (Exchange.attempt asked tried last (.ok (q, u), { strategy := s })) =
      let rest := Exchange.follow (reply.clock now) script (Exchange.attempt asked (tried ++ [u])
        (some (fault, text))
        (q.stage u t, { strategy := (s.mark (reply.clock now) u).inspect (reply.clock now) t }))
      { rest with attempts := q :: rest.attempts } := by
  have hmarked : pick (s.mark (reply.clock now) u).window (reply.clock now)
      (s.mark (reply.clock now) u).blacklist (tried ++ [u])
      (u :: (s.mark (reply.clock now) u).targets) = some t := hpick
  rw [Exchange.attempt, Exchange.follow_sent, houtcome, Exchange.receive_transport,
    Exchange.choose_eq _ _ hu, hmarked]

/-- A candidate that a layer can be relied on to find is one that the request can be sent to. -/
theorem leadsTo_of_reliable (hwindow : ¬ window < Seconds.zero - Seconds.zero)
    (hscheme : q.url.scheme.map Char.toLower = q.url.scheme) (hhere : Target.ofUrl q.url = .ok here)
    (ht : t ∈ ts) (hne : t ≠ here) (h : Reliable ts window q) : q.LeadsTo t := by
  let b : Blacklist τ := .allBut t (here :: ts)
  let c : Blacklist τ := (b.inspect window Seconds.zero t).inspect window Seconds.zero t
  let reply : Reply τ := ⟨none, .raised (.transport .connectError "")⟩
  have hin (x : τ) : b.excludes window x t = false := Blacklist.excludes_allBut_self x t _
  have hout (u : Target) (hu : u ∈ here :: ts) (hut : u ≠ t) :
      b.excludes window Seconds.zero u = true := Blacklist.excludes_allBut hwindow hu hut
  have hc (u : Target) : c.excludes window Seconds.zero u = b.excludes window Seconds.zero u := by
    rw [Blacklist.excludes_inspect, Blacklist.excludes_inspect]
  have hviable : pick window Seconds.zero b [] ts = some t :=
    pick_of_only ht List.not_mem_nil (hin _) fun u hu hut =>
      .inr (hout u (List.mem_cons_of_mem here hu) hut)
  have hfirst : pick window Seconds.zero b [] (here :: ts) = some t :=
    pick_of_only (List.mem_cons_of_mem here ht) List.not_mem_nil (hin _) fun u hu hut =>
      .inr (hout u hu hut)
  have hrun := cycle_eq .blocking [reply] hhere hviable hfirst
  have hserved := h.served .blocking Seconds.zero b [reply] t ht fun x _ => hin x
  have hdistinct := h.distinct .blocking Seconds.zero b [reply]
  rw [hrun] at hserved hdistinct
  cases hstage : q.stage here t with
  | error f =>
    -- The cycle is over before the first attempt.
    rw [hstage, Exchange.attempt, Exchange.follow_failed] at hserved
    obtain ⟨_, hresult⟩ := hserved (by simp [Transcript.targets])
    cases hresult
  | ok first =>
    obtain ⟨q₁, u⟩ := first
    obtain ⟨hq₁, hu⟩ := Request.stage_eq_ok hne hstage
    by_cases hut : u = t
    · exact ⟨q₁, hq₁, hut ▸ hu⟩
    -- The attempt went elsewhere, so the candidate is picked again.
    exfalso
    have hsecond : pick window Seconds.zero (c.record Seconds.zero u) ([] ++ [u])
        (u :: ts) = some t := by
      refine pick_of_only (List.mem_cons_of_mem u ht)
        (by simpa using Ne.symm hut) ?_ fun x hx hxt => ?_
      · rw [Blacklist.excludes_record (Ne.symm hut), hc, hin]
      · by_cases hxu : x = u
        · exact .inl (by simp [hxu])
        · have hmem : x ∈ here :: ts :=
            List.mem_cons_of_mem here ((List.mem_cons.1 hx).resolve_left hxu)
          rw [Blacklist.excludes_record hxu, hc]
          exact .inr (hout x hmem hxt)
    have hnext := follow_failed_attempt { targets := ts, window, blacklist := c } q.url none reply
      [] rfl hu hsecond
    rw [hstage, hnext] at hserved hdistinct
    cases hstage₂ : q₁.stage u t with
    | error f =>
      rw [hstage₂, Exchange.attempt, Exchange.follow_failed] at hserved
      obtain ⟨_, hresult⟩ := hserved (by simp [Transcript.targets, Reply.Answers, hu, hut, reply])
      cases hresult
    | ok second =>
      obtain ⟨q₂, v⟩ := second
      obtain ⟨hq₂, hv⟩ := Request.stage_eq_ok (Ne.symm hut) hstage₂
      have htwice := Request.ofUrl_retarget_twice hscheme hq₁ hq₂ hu
      rw [hstage₂] at hdistinct
      simp [Transcript.targets, Exchange.attempt, Exchange.follow, hu, htwice] at hdistinct

/-- A layer cannot be relied on for a request that leads nowhere. -/
theorem ofUrl_of_reliable (hts : ts ≠ []) (h : Reliable ts window q) :
    ∃ here, Target.ofUrl q.url = .ok here := by
  cases hhere : Target.ofUrl q.url with
  | ok here => exact ⟨here, rfl⟩
  | error f =>
    obtain ⟨t, ts, rfl⟩ := List.exists_cons_of_ne_nil hts
    have hrun : cycle .blocking Seconds.zero (t :: ts) window [] q [] =
        { attempts := [], result := .error (.target f), now := Seconds.zero
          policy := some { strategy := { targets := t :: ts, window } } } := by
      have hviable : pick window Seconds.zero [] [] (t :: ts) = some t := rfl
      rw [cycle, Exchange.run_eq, Exchange.enter_eq, hviable]
      dsimp only
      rw [Exchange.choose, Policy.nextStage, Strategy.nextStage, hhere]
      rfl
    obtain ⟨_, hresult⟩ := h.served .blocking Seconds.zero [] [] t List.mem_cons_self
      (fun x _ => rfl)
      (by simp)
    rw [hrun] at hresult
    cases hresult

end Failover

/-! ## When a layer can be relied on -/

/-- A failover layer with the candidates that a list of texts names, whatever its window, can be
relied on for a request and all those that its cycles may come to, if and only if all of them lead
somewhere and the candidates survive retargeting. There are no more candidates than texts. -/
theorem Failover.reliable_iff_survive {texts : List String} {window : Float} {s : Strategy Float}
    (hs : Strategy.ofCandidates (texts.map .text) window = .ok s) {r : Request}
    (hscheme : r.url.scheme = "http".toList ∨ r.url.scheme = "https".toList) :
    s.targets.length ≤ texts.length ∧
      ((∀ q, r.Sent s.targets q → Reliable s.targets s.window q) ↔
        (∀ q, r.Sent s.targets q → ∃ here, Target.ofUrl q.url = .ok here) ∧
          r.Survive s.targets) := by
  obtain ⟨hne, hlength, hw, hwindow⟩ := Strategy.ofCandidates_eq_ok hs
  rw [List.length_map] at hlength
  have hsmall : r.url.scheme.map Char.toLower = r.url.scheme := by
    rcases hscheme with h | h <;> rw [h] <;> rfl
  refine ⟨hlength, ⟨fun h => ⟨fun q hq => ofUrl_of_reliable hne (h q hq), ?_⟩, ?_⟩⟩
  · intro q here hq hhere t ht hth
    have hzero : ¬ s.window < Seconds.zero - Seconds.zero := by
      rw [hw]
      exact hwindow
    exact leadsTo_of_reliable hzero (by rw [hq.scheme hsmall, hsmall]) hhere ht hth (h q hq)
  · rintro ⟨hleads, hsurvive⟩ q hq
    obtain ⟨own, hown⟩ := hleads q hq
    exact reliable_of_survive hown fun q' here hq' => hsurvive q' here (hq.trans hq')

/-- A layer with two candidates can be relied on. -/
theorem Failover.reliable_iff_survive_sample :
    ∃ s : Strategy Float, Strategy.ofCandidates [.text "b:8500", .text "c:8500"] 60 = .ok s ∧
      Reliable s.targets s.window (.sample "a") := by
  have hs : Strategy.ofCandidates (["b:8500", "c:8500"].map .text) (60 : Float) =
      .ok { targets := Strategy.sample.targets, window := 60 } := rfl
  refine ⟨_, hs, (reliable_iff_survive hs (r := .sample "a") (.inl rfl)).2.2
    ⟨fun q hq => ?_, Request.survive_sample⟩ _ .given⟩
  obtain ⟨host, rfl | rfl | rfl, rfl⟩ := Request.sent_sample hq <;> exact ⟨_, rfl⟩

/-- A candidate in capital letters leads to one in small letters, which is asked again and again. -/
theorem Failover.not_reliable_of_capitals : ∃ s : Strategy Float,
    Strategy.ofCandidates [.text "A:8500"] 60 = .ok s ∧
      ¬ Reliable s.targets s.window (.sample "b") := by
  let reply : Reply Float := ⟨none, .raised (.transport .connectError "refused")⟩
  refine ⟨_, rfl, fun h => ?_⟩
  have hdistinct := h.distinct .blocking 0 [] [reply, reply]
  change (cycle .blocking 0 [⟨"A", 8500⟩] 60 [] (.sample "b") [reply, reply]).targets.Nodup
    at hdistinct
  have htargets : (cycle .blocking 0 [⟨"A", 8500⟩] 60 [] (.sample "b") [reply, reply]).targets =
      [.ok ⟨"b", 8500⟩, .ok ⟨"a", 8500⟩, .ok ⟨"a", 8500⟩] := by decide +kernel
  rw [htargets] at hdistinct
  simp at hdistinct

end BlockingQuery
