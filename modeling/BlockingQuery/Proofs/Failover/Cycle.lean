import BlockingQuery.Proofs.Failover.Retargeting

/-!
# Failover cycles

`Course` is a failover cycle by its rules: it speaks of targets, of the blacklist and of the clock,
and not of requests or URLs. An attempt goes to the target that is picked at the moment; the target
of the request is in question for the first attempt only. A failure of the transport puts the
target on record and leads to the next choice, and anything else ends the cycle.

A cycle goes by the rules as long as every candidate survives retargeting (`Request.Survive`): a
request that is sent to it leads there when its URL is read back. Then the run of a failover layer
is the course of its cycle (`course_of_run`), however the layer's caller waits and whatever the
transport does.
-/

namespace BlockingQuery

open Failover

variable {τ : Type} [Seconds τ]

/-! ## The rules -/

/-- The clock when a reply is there. -/
def Reply.clock (reply : Reply τ) (now : τ) : τ :=
  match reply.passing with
  | some d => now + d
  | none => now

/-- The clock at each moment of a script. -/
def Reply.readings (now : τ) : List (Reply τ) → List τ
  | [] => [now]
  | reply :: script => now :: readings (reply.clock now) script

/-- The present is one of the moments. -/
theorem Reply.mem_readings (now : τ) (script : List (Reply τ)) : now ∈ readings now script := by
  cases script <;> exact List.mem_cons_self

namespace Failover

/-- What comes of a cycle: the targets of its attempts, those that failed and when, its result, and
the clock and the blacklist afterwards. -/
structure Ending (τ : Type) where
  targets : List Target
  failures : List (Target × τ)
  result : Except Failure Response
  now : τ
  blacklist : Blacklist τ

/-- The course of a cycle among the candidates `ts`, from a moment at which `order` are the targets
in question and `tried` were tried, the last of them failing for the given cause. When the script
is over the transport answers with status 200. -/
inductive Course (asked : Url) (ts : List Target) (window : τ) :
    List Target → τ → Blacklist τ → List Target → Option (TransportFault × String) →
      List (Reply τ) → Ending τ → Prop
  /-- No target is left. -/
  | exhausted {order : List Target} {now : τ} {b : Blacklist τ} {tried : List Target}
      {last : Option (TransportFault × String)} {script : List (Reply τ)}
      (hpick : pick window now b tried order = none) :
    Course asked ts window order now b tried last script
      { targets := [], failures := [], result := .error (.exhausted ts tried last), now,
        blacklist := b }
  /-- The attempt is the last that the script foresees. -/
  | silent {order : List Target} {now : τ} {b : Blacklist τ} {tried : List Target}
      {last : Option (TransportFault × String)} {t : Target}
      (hpick : pick window now b tried order = some t) :
    Course asked ts window order now b tried last []
      { targets := [t], failures := []
        result := .ok
          { status := 200, headers := [], body := [], url := some asked, servedBy := some t }
        now, blacklist := b.inspect window now t }
  /-- A response of any status ends the cycle. -/
  | answered {order : List Target} {now : τ} {b : Blacklist τ} {tried : List Target}
      {last : Option (TransportFault × String)} {script : List (Reply τ)} {t : Target}
      {reply : Reply τ} {status : Int} {headers : Headers} {body : List UInt8}
      (hpick : pick window now b tried order = some t)
      (houtcome : reply.outcome = .response status headers body) :
    Course asked ts window order now b tried last (reply :: script)
      { targets := [t], failures := []
        result := .ok { status, headers, body, url := some asked, servedBy := some t }
        now := reply.clock now, blacklist := b.inspect window now t }
  /-- A failure that is none of the transport ends the cycle and is nobody's fault. -/
  | raised {order : List Target} {now : τ} {b : Blacklist τ} {tried : List Target}
      {last : Option (TransportFault × String)} {script : List (Reply τ)} {t : Target}
      {reply : Reply τ} {f : Failure} (hpick : pick window now b tried order = some t)
      (houtcome : reply.outcome = .raised f) (hf : ∀ fault text, f ≠ .transport fault text) :
    Course asked ts window order now b tried last (reply :: script)
      { targets := [t], failures := [], result := .error f, now := reply.clock now
        blacklist := b.inspect window now t }
  /-- A failure of the transport goes on record, and the cycle goes on among the candidates. -/
  | failed {order : List Target} {now : τ} {b : Blacklist τ} {tried : List Target}
      {last : Option (TransportFault × String)} {script : List (Reply τ)} {t : Target}
      {reply : Reply τ} {fault : TransportFault} {text : String} {e : Ending τ}
      (hpick : pick window now b tried order = some t)
      (houtcome : reply.outcome = .raised (.transport fault text))
      (hrest : Course asked ts window ts (reply.clock now)
        ((b.inspect window now t).record (reply.clock now) t) (tried ++ [t])
        (some (fault, text)) script e) :
    Course asked ts window order now b tried last (reply :: script)
      { e with targets := t :: e.targets, failures := (t, reply.clock now) :: e.failures }

end Failover

/-- Where the attempts of a run went. -/
def Transcript.targets (out : Transcript τ) : List (Except Target.Fault Target) :=
  out.attempts.map fun q => Target.ofUrl q.url

/-- A run that is the course of a cycle. -/
structure Transcript.Ends (out : Transcript τ) (s : Strategy τ) (e : Ending τ) : Prop where
  targets : out.targets = e.targets.map .ok
  result : out.result = e.result
  now : out.now = e.now
  policy : out.policy = some { strategy := { s with blacklist := e.blacklist } }

/-! ## What the rules come to -/

namespace Failover.Course

variable {asked : Url} {ts order tried : List Target} {window now : τ} {b : Blacklist τ}
  {last : Option (TransportFault × String)} {script : List (Reply τ)} {e : Ending τ}

/-- No target is tried twice, and only targets in question are tried. -/
theorem targets_nodup (h : Course asked ts window order now b tried last script e) :
    e.targets.Nodup ∧ ∀ t ∈ e.targets, t ∉ tried ∧ (t ∈ order ∨ t ∈ ts) := by
  induction h with
  | exhausted => exact ⟨.nil, by simp⟩
  | silent hpick | answered hpick | raised hpick =>
    obtain ⟨hmem, htried, -⟩ := pick_eq_some hpick
    refine ⟨by simp, fun t ht => ?_⟩
    rw [List.mem_singleton.1 ht]
    exact ⟨htried, .inl hmem⟩
  | failed hpick _ _ ih =>
    obtain ⟨hmem, htried, -⟩ := pick_eq_some hpick
    obtain ⟨hnodup, hall⟩ := ih
    refine ⟨List.nodup_cons.2 ⟨fun ht => (hall _ ht).1 (List.mem_append_right _ List.mem_cons_self),
      hnodup⟩, fun t ht => ?_⟩
    rcases List.mem_cons.1 ht with rfl | ht
    · exact ⟨htried, .inl hmem⟩
    · obtain ⟨hnot, hin⟩ := hall t ht
      exact ⟨fun htr => hnot (List.mem_append_left _ htr), .inr (hin.elim id id)⟩

/-- The first attempt goes to the target that is picked. -/
theorem head?_targets (h : Course asked ts window order now b tried last script e) :
    e.targets.head? = pick window now b tried order := by
  cases h with
  | exhausted hpick | silent hpick | answered hpick | raised hpick | failed hpick =>
    exact hpick.symm

/-- A cycle all of whose attempts failed reports these attempts. -/
theorem result_of_failures (h : Course asked ts window order now b tried last script e)
    (hall : e.failures.map (·.1) = e.targets) :
    ∃ last, e.result = .error (.exhausted ts (tried ++ e.targets) last) := by
  induction h with
  | @exhausted _ _ _ tried last => exact ⟨last, by rw [List.append_nil]⟩
  | silent | answered | raised => cases hall
  | @failed _ _ _ tried _ _ t _ _ _ e _ _ _ ih =>
    obtain ⟨last, hresult⟩ := ih (List.cons_eq_cons.1 hall).2
    exact ⟨last, by rw [hresult, List.append_assoc]; rfl⟩

/-- Nobody looks at the record of a target that was tried. -/
theorem failure?_of_tried (h : Course asked ts window order now b tried last script e) {t : Target}
    (ht : t ∈ tried) : e.blacklist.failure? t = b.failure? t := by
  have hinspect {now : τ} {b : Blacklist τ} {tried order : List Target} {u : Target}
      (ht : t ∈ tried) (hpick : pick window now b tried order = some u) :
      t ≠ u ∧ (b.inspect window now u).failure? t = b.failure? t := by
    have hne : t ≠ u := by
      rintro rfl
      exact (pick_eq_some hpick).2.1 ht
    exact ⟨hne, by rw [Blacklist.failure?_inspect, if_neg fun h => hne h.1]⟩
  induction h with
  | exhausted => rfl
  | silent hpick | answered hpick | raised hpick => exact (hinspect ht hpick).2
  | failed hpick _ _ ih =>
    obtain ⟨hne, hlook⟩ := hinspect ht hpick
    refine (ih (List.mem_append_left _ ht)).trans ?_
    rw [Blacklist.failure?_record, if_neg hne, hlook]

/-- Every attempt that failed is on record with the time of its failure. -/
theorem failure?_of_mem (h : Course asked ts window order now b tried last script e) {t : Target}
    {x : τ} (hmem : (t, x) ∈ e.failures) : e.blacklist.failure? t = some x := by
  induction h with
  | exhausted | silent | answered | raised => cases hmem
  | failed _ _ hrest ih =>
    rcases List.mem_cons.1 hmem with heq | hmem
    · cases heq
      refine (hrest.failure?_of_tried (List.mem_append_right _ List.mem_cons_self)).trans ?_
      rw [Blacklist.failure?_record, if_pos rfl]
    · exact ih hmem

/-- No other record is made or renewed, and only records that are over at some moment go. -/
theorem ages_of_not_mem (h : Course asked ts window order now b tried last script e) {t : Target}
    (hnot : t ∉ e.failures.map (·.1)) :
    b.Ages window (Reply.readings now script) e.blacklist t := by
  induction h with
  | exhausted => exact .inl rfl
  | silent | answered | raised => exact Blacklist.ages_inspect (Reply.mem_readings _ _) _
  | @failed _ now b _ _ script u reply _ _ e _ _ _ ih =>
    obtain ⟨hne, hnot⟩ := not_or.1 fun h => hnot (List.mem_cons.2 h)
    have hrecord : ((b.inspect window now u).record (reply.clock now) u).failure? t =
        (b.inspect window now u).failure? t := by
      rw [Blacklist.failure?_record, if_neg hne]
    have hlater :
        (b.inspect window now u).Ages window (Reply.readings now (reply :: script))
          e.blacklist t := by
      rcases ih hnot with hsame | ⟨hgone, x, hx, y, hy, hover⟩
      · exact .inl (hsame.trans hrecord)
      · exact .inr ⟨hgone, x, hrecord ▸ hx, y, List.mem_cons_of_mem _ hy, hover⟩
    exact (Blacklist.ages_inspect (Reply.mem_readings _ _) u).trans hlater

end Failover.Course

/-! ## The run -/

namespace Exchange

/-- What a failover layer above the transport does with a choice. -/
def attempt (asked : Url) (tried : List Target) (last : Option (TransportFault × String)) :
    Except Failure (Request × Target) × Policy τ → Progress × Option (Policy τ)
  | (.error f, p) => (.failed f, some p)
  | (.ok (q, t), p) =>
    (.sent
      { asked, request := q, cycle := some { below := [], target := t, attempted := tried, last } },
      some p)

/-- A failover layer above the transport begins with the first attempt. -/
theorem start_eq (now : τ) (p : Policy τ) (r : Request) :
    start now (some p) [.failover] r = attempt r.url [] none (enter now p r) := by
  rw [start]
  obtain ⟨_ | ⟨q, t⟩, p⟩ := enter now p r <;> rfl

/-- A failover layer above the transport goes on with another attempt. -/
theorem proceed_eq (now : τ) (p : Policy τ) (asked : Url) (q : Request) (t : Target)
    (tried : List Target) (last : Option (TransportFault × String))
    (fault : TransportFault × String) :
    proceed now p { asked, request := q }
      { below := [], target := t, attempted := tried, last } fault =
      attempt asked (tried ++ [t]) (some fault) (choose now p q (tried ++ [t]) (some fault)) := by
  rw [proceed]
  dsimp only
  obtain ⟨_ | ⟨q, t⟩, p⟩ := choose now p q (tried ++ [t]) (some fault) <;> rfl

/-- An exchange that is answered is over. -/
@[simp] theorem follow_answered (now : τ) (script : List (Reply τ)) (r : Response)
    (policy : Option (Policy τ)) :
    follow now script (.answered r, policy) = { attempts := [], result := .ok r, now, policy } := by
  cases script <;> rfl

/-- An exchange that failed is over. -/
@[simp] theorem follow_failed (now : τ) (script : List (Reply τ)) (f : Failure)
    (policy : Option (Policy τ)) :
    follow now script (.failed f, policy) =
      { attempts := [], result := .error f, now, policy } := by
  cases script <;> rfl

/-- A request that was sent is an attempt, and the exchange goes on with what the transport makes
of it. -/
@[simp] theorem follow_sent (now : τ) (reply : Reply τ) (script : List (Reply τ)) (x : Exchange)
    (policy : Option (Policy τ)) :
    follow now (reply :: script) (.sent x, policy) =
      let rest := follow (reply.clock now) script (x.receive (reply.clock now) policy reply.outcome)
      { rest with attempts := x.request :: rest.attempts } := rfl

/-- A failure that is none of the transport is passed on. -/
theorem receive_raised (now : τ) (policy : Option (Policy τ)) (x : Exchange) {f : Failure}
    (hf : ∀ fault text, f ≠ .transport fault text) :
    x.receive now policy (.raised f) = (.failed f, policy) := by
  cases f with
  | transport fault text => exact absurd rfl (hf fault text)
  | _ => rfl

/-- A failure of the transport is recorded, and leads to the next attempt. -/
theorem receive_transport (now : τ) (s : Strategy τ) (asked : Url) (q : Request) (t : Target)
    (tried : List Target) (last : Option (TransportFault × String)) (fault : TransportFault)
    (text : String) :
    receive now (some { strategy := s })
        { asked, request := q
          cycle := some { below := [], target := t, attempted := tried, last } }
        (.raised (.transport fault text)) =
      attempt asked (tried ++ [t]) (some (fault, text))
        (choose now { strategy := s.mark now t } q (tried ++ [t]) (some (fault, text))) :=
  proceed_eq now { strategy := s.mark now t } asked q t tried last (fault, text)

/-- A choice, and all that follows from it, is the course of the cycle from there on. The target
`here` of the request at hand is in question if it is one of `order`, and else it was tried. -/
theorem course_follow {s : Strategy τ} {r : Request} (hsurvive : r.Survive s.targets)
    (script : List (Reply τ)) (now : τ) (b : Blacklist τ) {q : Request} {here : Target}
    {order tried : List Target} (last : Option (TransportFault × String)) (hq : r.Sent s.targets q)
    (hhere : Target.ofUrl q.url = .ok here)
    (horder : ∀ now b, pick s.window now b tried (here :: s.targets) =
      pick s.window now b tried order) :
    ∃ e, Course r.url s.targets s.window order now b tried last script e ∧
      (follow now script (attempt r.url tried last
        (choose now { strategy := { s with blacklist := b } } q tried last))).Ends s e := by
  induction script generalizing now b q here order tried last with
  | nil =>
    rw [choose_eq _ now hhere]
    cases hpick : pick s.window now b tried (here :: s.targets) with
    | none => exact ⟨_, .exhausted ((horder now b).symm.trans hpick), rfl, rfl, rfl, rfl⟩
    | some t =>
      obtain ⟨q', hstage, -, ht⟩ :=
        Request.stage_of_survive hsurvive hq hhere (pick_eq_some hpick).1
      dsimp only
      rw [hstage]
      refine ⟨_, .silent ((horder now b).symm.trans hpick), ?_, rfl, rfl, rfl⟩
      simp [follow, attempt, Transcript.targets, ht]
  | cons reply script ih =>
    rw [choose_eq _ now hhere]
    cases hpick : pick s.window now b tried (here :: s.targets) with
    | none => exact ⟨_, .exhausted ((horder now b).symm.trans hpick), rfl, rfl, rfl, rfl⟩
    | some t =>
      obtain ⟨q', hstage, hq', ht⟩ :=
        Request.stage_of_survive hsurvive hq hhere (pick_eq_some hpick).1
      have hpick' := (horder now b).symm.trans hpick
      dsimp only
      rw [hstage, attempt, follow_sent]
      cases houtcome : reply.outcome with
      | response status headers body =>
        rw [receive, follow_answered]
        exact ⟨_, .answered hpick' houtcome, by simp [Transcript.targets, ht], rfl, rfl, rfl⟩
      | raised f =>
        by_cases hf : ∃ fault text, f = .transport fault text
        · obtain ⟨fault, text, rfl⟩ := hf
          -- The target of the request was tried by now, so only the candidates are in question.
          have htried (now : τ) (b : Blacklist τ) :
              pick s.window now b (tried ++ [t]) (t :: s.targets) =
              pick s.window now b (tried ++ [t]) s.targets :=
            pick_cons_of_mem (List.mem_append_right _ List.mem_cons_self)
          obtain ⟨e, hcourse, hends⟩ := ih (reply.clock now)
            ((b.inspect s.window now t).record (reply.clock now) t)
            (some (fault, text)) hq' ht htried
          rw [receive_transport]
          exact ⟨_, .failed hpick' houtcome hcourse, List.cons_eq_cons.2 ⟨ht, hends.targets⟩,
            hends.result, hends.now, hends.policy⟩
        · have hforeign : ∀ fault text, f ≠ .transport fault text :=
            fun fault text heq => hf ⟨fault, text, heq⟩
          rw [receive_raised _ _ _ hforeign, follow_failed]
          exact ⟨_, .raised hpick' houtcome hforeign, by simp [Transcript.targets, ht], rfl, rfl,
            rfl⟩

/-- A run through a failover layer above the transport, however its caller waits. -/
theorem run_eq (w : Waiting) (now : τ) (p : Policy τ) (r : Request) (script : List (Reply τ)) :
    Stack.run w now (some p) ⟨w, [.failover]⟩ r script =
      follow now script (attempt r.url [] none (enter now p r)) := by
  rw [Stack.run, Stack.checkCaller, if_pos rfl]
  dsimp only
  rw [run, start_eq]

/-- A failover layer enters a cycle when a candidate can be picked. -/
theorem enter_eq (now : τ) (s : Strategy τ) (r : Request) :
    enter now { strategy := s } r = match pick s.window now s.blacklist [] s.targets with
      | none => (.error (.noViableTarget s.targets), { strategy := s })
      | some t => choose now { strategy := s.inspect now t } r [] none := by
  have hsound : ¬ (none : Option Hook) = some .viability := by simp
  rw [enter, Policy.isViable, if_neg hsound, Strategy.isViable_eq]
  cases pick s.window now s.blacklist [] s.targets <;> rfl

/-- When every candidate is blacklisted nothing is sent. -/
theorem run_of_pick_eq_none (w : Waiting) {now : τ} {s : Strategy τ} (r : Request)
    (script : List (Reply τ)) (hpick : pick s.window now s.blacklist [] s.targets = none) :
    Stack.run w now (some { strategy := s }) ⟨w, [.failover]⟩ r script =
      { attempts := [], result := .error (.noViableTarget s.targets), now
        policy := some { strategy := s } } := by
  rw [run_eq, enter_eq, hpick]
  exact follow_failed now script _ _

/-- When a candidate is not blacklisted, the run is the course of a cycle. -/
theorem course_of_pick_eq_some (w : Waiting) {now : τ} {s : Strategy τ} {r : Request}
    {own u : Target}
    (hown : Target.ofUrl r.url = .ok own) (hsurvive : r.Survive s.targets) (script : List (Reply τ))
    (hpick : pick s.window now s.blacklist [] s.targets = some u) :
    ∃ e, Course r.url s.targets s.window (own :: s.targets) now
      (s.blacklist.inspect s.window now u) [] none script e ∧
      (Stack.run w now (some { strategy := s }) ⟨w, [.failover]⟩ r script).Ends s e := by
  rw [run_eq, enter_eq, hpick]
  exact course_follow hsurvive script now (s.blacklist.inspect s.window now u) none .given hown
    fun _ _ => rfl

end Exchange

/-! ## The cycle as a whole -/

/-- One cycle of a failover layer above the transport, whose candidates survive retargeting, goes
by the rules. When every candidate is blacklisted nothing is sent. Otherwise the run is the course
of the cycle, in which the target of the request is in question first: the first attempt goes to
the target that is picked, each attempt that failed is on record with the time of its failure, no
other record is made or renewed, and a cycle in which every attempt failed reports just these
attempts. -/
theorem Failover.course_of_run (w : Waiting) (now : τ) (s : Strategy τ) {r : Request} {own : Target}
    (hown : Target.ofUrl r.url = .ok own) (hsurvive : r.Survive s.targets)
    (script : List (Reply τ)) :
    ((∀ t ∈ s.targets, s.isBlacklisted now t = true) →
      Stack.run w now (some { strategy := s }) ⟨w, [.failover]⟩ r script =
        { attempts := [], result := .error (.noViableTarget s.targets), now
          policy := some { strategy := s } }) ∧
    ((∃ t ∈ s.targets, s.isBlacklisted now t = false) →
      ∃ e, Course r.url s.targets s.window (own :: s.targets) now (s.isViable now).2.blacklist
        [] none
          script e ∧
        (Stack.run w now (some { strategy := s }) ⟨w, [.failover]⟩ r script).Ends s e ∧
        e.targets.head? = pick s.window now s.blacklist [] (own :: s.targets) ∧
        (∀ t x, (t, x) ∈ e.failures → e.blacklist.failure? t = some x) ∧
        (∀ t, t ∉ e.failures.map (·.1) →
          s.blacklist.Ages s.window (Reply.readings now script) e.blacklist t) ∧
        (e.failures.map (·.1) = e.targets →
          ∃ last, e.result = .error (.exhausted s.targets e.targets last))) := by
  constructor
  · intro hall
    exact Exchange.run_of_pick_eq_none w r script (pick_eq_none.2 fun t ht => .inr (hall t ht))
  · rintro ⟨t, ht, hin⟩
    cases hpick : pick s.window now s.blacklist [] s.targets with
    | none =>
      rcases pick_eq_none.1 hpick t ht with htried | hout
      · cases htried
      · rw [Strategy.isBlacklisted, hout] at hin
        cases hin
    | some u =>
      obtain ⟨e, hcourse, hends⟩ := Exchange.course_of_pick_eq_some w hown hsurvive script hpick
      have hviable : (s.isViable now).2.blacklist = s.blacklist.inspect s.window now u := by
        rw [Strategy.isViable_eq, hpick]
        rfl
      refine ⟨e, hviable ▸ hcourse, hends, ?_, fun t x hmem => hcourse.failure?_of_mem hmem,
        fun t hnot => ?_, fun hall => hcourse.result_of_failures hall⟩
      · rw [hcourse.head?_targets, pick_inspect]
      · exact (Blacklist.ages_inspect (Reply.mem_readings now script) u).trans
          (hcourse.ages_of_not_mem hnot)

/-! ## A sample -/

/-- A request to the port 8500 of a host. -/
def Request.sample (host : String) : Request where
  method := "GET"
  url :=
    { scheme := "http".toList, userinfo := [], host := host.toList, port := some 8500
      path := "/v1/kv/sample".toList, query := none, fragment := none }
  headers := [("Host", host ++ ":8500")]
  body := []
  timeouts := none

/-- Two candidates, none of which failed yet. -/
def Strategy.sample : Strategy Rat where
  targets := [⟨"b", 8500⟩, ⟨"c", 8500⟩]
  window := 60

/-- The request of the sample can be sent to each candidate. -/
theorem Request.retarget_sample {host : String} (hhost : host = "a" ∨ host = "b" ∨ host = "c")
    {t : Target} (ht : t ∈ Strategy.sample.targets) :
    (t.host = "b" ∨ t.host = "c") ∧ t.port = 8500 ∧
      (sample host).retarget t = .ok (sample t.host) := by
  rcases List.mem_cons.1 ht with rfl | ht
  · refine ⟨.inl rfl, rfl, ?_⟩
    rcases hhost with rfl | rfl | rfl <;> rfl
  · rw [List.mem_singleton.1 ht]
    refine ⟨.inr rfl, rfl, ?_⟩
    rcases hhost with rfl | rfl | rfl <;> rfl

/-- The requests that a cycle of the sample may come to. -/
theorem Request.sent_sample {q : Request} (h : Sent Strategy.sample.targets (.sample "a") q) :
    ∃ host, (host = "a" ∨ host = "b" ∨ host = "c") ∧ q = .sample host := by
  induction h with
  | given => exact ⟨"a", .inl rfl, rfl⟩
  | retargeted _ ht hq ih =>
    obtain ⟨host, hhost, rfl⟩ := ih
    obtain ⟨hname, -, hsent⟩ := retarget_sample hhost ht
    exact ⟨_, .inr hname, Except.ok.inj (hq.symm.trans hsent)⟩

/-- The candidates of the sample survive retargeting. -/
theorem Request.survive_sample : Request.Survive Strategy.sample.targets (.sample "a") := by
  intro q here hq _ t ht _
  obtain ⟨host, hhost, rfl⟩ := sent_sample hq
  obtain ⟨hname, hport, hsent⟩ := retarget_sample hhost ht
  refine ⟨_, hsent, ?_⟩
  obtain ⟨name, port⟩ := t
  dsimp only at hname hport
  subst hport
  rcases hname with rfl | rfl <;> rfl

/-- Two failures and a response: the cycle tries the target of the request and then the candidates,
the last of which answers. -/
def Reply.sample : List (Reply Rat) :=
  [⟨none, .raised (.transport .connectError "refused")⟩,
    ⟨some 1, .raised (.transport .connectError "refused")⟩, ⟨none, .response 503 [] []⟩]

/-- The sample tries `a`, `b` and `c`, and `a` and `b` are on record. -/
theorem Failover.course_of_run_sample : ∃ e : Ending Rat,
    Course (Request.sample "a").url Strategy.sample.targets 60
      (⟨"a", 8500⟩ :: Strategy.sample.targets) 0 [] [] none Reply.sample e ∧
    e.targets.map Except.ok =
      [.ok (ε := Target.Fault) ⟨"a", 8500⟩, .ok ⟨"b", 8500⟩, .ok ⟨"c", 8500⟩] ∧
    e.blacklist = [(⟨"a", 8500⟩, 0), (⟨"b", 8500⟩, 1)] := by
  have hown : Target.ofUrl (Request.sample "a").url = .ok ⟨"a", 8500⟩ := rfl
  obtain ⟨e, hcourse, hends, -⟩ :=
    (course_of_run .suspended 0 Strategy.sample hown Request.survive_sample Reply.sample).2
      ⟨⟨"b", 8500⟩, List.mem_cons_self, rfl⟩
  have hblacklist := congrArg (Option.map (·.strategy.blacklist)) hends.policy
  exact ⟨e, hcourse, hends.targets.symm.trans rfl,
    Option.some.inj (hblacklist.symm.trans (by decide +kernel))⟩

end BlockingQuery
