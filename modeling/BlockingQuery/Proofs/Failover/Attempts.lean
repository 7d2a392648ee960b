import BlockingQuery.Proofs.Failover.Cycle
import BlockingQuery.Proofs.Http.NormalForm

/-!
# The attempts of a cycle

Each attempt of a cycle is made from the one before: its URL is moved to another target, and its
read limit is adjusted anew. `Request.IsAttempt` says what an attempt has in common with the request
that went into the stack, and nothing in it depends on how many attempts there were. It holds of the
first attempt (`Exchange.attempting_of_start`) and is handed on from each attempt to the next
(`Exchange.Attempting.of_receive`), because a URL in normal form keeps everything beside its host
and its port when it is moved, and because adjusting a request that was adjusted changes nothing
(`Request.IsAttempt.apply_eq`). So all attempts of a run agree (`Failover.attempts_agree`).
-/

namespace BlockingQuery

open Failover

/-! ## Header fields -/

namespace Headers

/-- The fields of other names, in their order. -/
def without (hs : Headers) (name : String) : Headers :=
  hs.filter fun h => !sameName h.1 name

variable (hs : Headers) (name value : String)

/-- A name names the same field as itself. -/
@[simp] theorem sameName_self : sameName name name = true := by
  simp [sameName]

/-- Setting a field leaves the fields of other names. -/
@[simp] theorem without_set : (hs.set name value).without name = hs.without name := by
  induction hs with
  | nil => simp [set, without]
  | cons h rest ih =>
    unfold set
    split
    next hname => simp [without, hname]
    next hname =>
      unfold without at ih ⊢
      rw [List.filter_cons, List.filter_cons, ih]

/-- A field that was set is the one field of its name. -/
theorem filter_set : (hs.set name value).filter (fun h => sameName h.1 name) = [(name, value)] := by
  induction hs with
  | nil => simp [set]
  | cons h rest ih =>
    unfold set
    split
    next =>
      rw [List.filter_cons_of_pos (by exact sameName_self name), List.filter_filter]
      simp
    next hname => rwa [List.filter_cons_of_neg (by exact hname)]

/-- A field that was set has the value that it was set to. -/
@[simp] theorem get?_set : (hs.set name value).get? name = some value := by
  rw [get?, filter_set]
  rfl

/-- Setting a field twice sets it once, to the last value. -/
@[simp] theorem set_set (last : String) : (hs.set name value).set name last = hs.set name last := by
  induction hs with
  | nil => simp [set]
  | cons h rest ih =>
    by_cases hname : sameName h.1 name = true
    · simp [set, hname]
    · simp [set, hname, ih]

end Headers

/-! ## Requests at another place -/

namespace Request

/-- `q` is `r`, perhaps at another place: it has the method and the body of `r`, its URL beside the
host and the port, and its header fields beside the `Host` field, which names the host and the port
of `q` unless nothing was moved at all. -/
structure Moved (r q : Request) : Prop where
  method : q.method = r.method
  body : q.body = r.body
  url : r.url.Moved q.url
  headers : q.headers.without "Host" = r.headers.without "Host"
  host : (q.url = r.url ∧ q.headers = r.headers) ∨ q.host? = some (String.ofList q.url.endpoint)

variable {r q q' : Request} {t : Target}

theorem Moved.refl (r : Request) : r.Moved r :=
  ⟨rfl, rfl, .refl _, rfl, .inl ⟨rfl, rfl⟩⟩

theorem Moved.trans (h : r.Moved q) (k : q.Moved q') : r.Moved q' where
  method := k.method.trans h.method
  body := k.body.trans h.body
  url := h.url.trans k.url
  headers := k.headers.trans h.headers
  host := by
    rcases k.host with ⟨hurl, hheaders⟩ | hhost
    · rw [host?, hurl, hheaders]
      exact h.host
    · exact .inr hhost

/-- A request that is sent to another target is moved there. -/
theorem moved_of_retarget (hr : r.url.IsSettled) (h : r.retarget t = .ok q) :
    r.Moved q ∧ q.timeouts = r.timeouts := by
  obtain ⟨url, hurl, rfl⟩ := retarget_eq_ok_iff.1 h
  exact ⟨⟨rfl, rfl, hr.moved_withEndpoint hurl, Headers.without_set ..,
    .inr (Headers.get?_set ..)⟩, rfl⟩

end Request

/-! ## Adjusting twice -/

namespace Adjustment

variable {a : Adjustment} {r q : Request}

/-- Adjusting a request changes nothing but its read limit. -/
theorem apply_eq_ok (h : a.apply r = .ok q) :
    (a.change r = .ok none ∧ q = r) ∨
      ∃ s, a.change r = .ok (some s) ∧
        q = { r with timeouts := some { r.timeouts.getD {} with read := .seconds s } } := by
  unfold apply at h
  cases hchange : a.change r with
  | error f => simp [hchange, bind, Except.bind] at h
  | ok change =>
    cases change with
    | none =>
      simp only [hchange, bind, Except.bind, pure, Except.pure] at h
      exact .inl ⟨rfl, (Except.ok.inj h).symm⟩
    | some s =>
      simp only [hchange, bind, Except.bind, pure, Except.pure] at h
      exact .inr ⟨s, rfl, (Except.ok.inj h).symm⟩

/-- What an adjustment does depends on the limits of a request and on its query. -/
theorem change_congr (htimeouts : q.timeouts = r.timeouts) (hquery : q.url.query = r.url.query) :
    a.change q = a.change r := by
  unfold change
  rw [htimeouts, hquery]

/-- Adjusting leaves the URL. -/
theorem url_of_apply (h : a.apply r = .ok q) : q.url = r.url := by
  rcases apply_eq_ok h with ⟨-, rfl⟩ | ⟨s, -, rfl⟩ <;> rfl

/-- Requests with the same limits and the same query are given the same limits. -/
theorem apply_congr {r' : Request} (htimeouts : q.timeouts = r.timeouts)
    (hquery : q.url.query = r.url.query) (h : a.apply q = .ok r') :
    ∃ r'', a.apply r = .ok r'' ∧ r'.timeouts = r''.timeouts := by
  unfold apply
  rcases apply_eq_ok h with ⟨hchange, rfl⟩ | ⟨s, hchange, rfl⟩
  · rw [← change_congr htimeouts hquery, hchange]
    exact ⟨r, rfl, htimeouts⟩
  · rw [← change_congr htimeouts hquery, hchange]
    exact ⟨_, rfl, by rw [htimeouts]⟩

/-- A read limit that an adjustment sets depends on the wait alone, and not on the limit before. -/
theorem readLimit_of_ne {wait : Option String} {before limit : Option Int}
    (h : a.readLimit wait before = .ok limit) (hne : limit ≠ before) (before' : Option Int) :
    a.readLimit wait before' = .ok limit := by
  unfold readLimit at h ⊢
  split at h
  next => exact absurd (Except.ok.inj h).symm hne
  next henabled =>
    rw [if_neg henabled]
    cases hwait : Wait.parse wait with
    | error e =>
      rw [hwait] at h
      cases h
    | ok found =>
      cases found with
      | none =>
        rw [hwait] at h
        exact absurd (Except.ok.inj h).symm hne
      | some waitMs =>
        rw [hwait] at h
        exact h

/-- The read limit that an adjustment sets, if it sets one, is the one that it sets whatever the
limit of a request with this query was. -/
theorem change_twice {s : Float} (hr : a.change r = .ok (some s))
    (hquery : q.url.query = r.url.query) {o : Option Float} (hq : a.change q = .ok o) :
    o = none ∨ o = some s := by
  unfold change at hr hq
  rw [hquery] at hq
  cases hbefore : milliseconds (r.timeouts.getD {}).read with
  | error f => simp [hbefore, bind, Except.bind] at hr
  | ok before =>
  cases hlimit : a.readLimit (Query.first? "wait" r.url.query) before with
  | error f => simp [hbefore, hlimit, bind, Except.bind] at hr
  | ok limit =>
  simp only [hbefore, hlimit, bind, Except.bind, pure, Except.pure] at hr
  split at hr
  next => cases hr
  next hne =>
  cases hbefore' : milliseconds (q.timeouts.getD {}).read with
  | error f => simp [hbefore', bind, Except.bind] at hq
  | ok before' =>
  simp only [hbefore', readLimit_of_ne hlimit hne before', bind, Except.bind, pure,
    Except.pure] at hq
  split at hq
  next => exact .inl (Except.ok.inj hq).symm
  next => exact .inr (Except.ok.inj (hq.symm.trans hr))

end Adjustment

/-! ## Attempts -/

namespace Request

/-- `q` is an attempt at `r` that passed the adjustment: `r`, perhaps at another place, with the
limits that the adjustment gives to `r`. -/
structure IsAttempt (a : Adjustment) (r q : Request) : Prop where
  moved : r.Moved q
  adjusted : ∃ r', a.apply r = .ok r' ∧ q.timeouts = r'.timeouts

namespace IsAttempt

variable {a : Adjustment} {r q q' : Request}

/-- A request that is moved and then adjusted is an attempt. -/
theorem of_apply (h : r.Moved q) (ht : q.timeouts = r.timeouts) (k : a.apply q = .ok q') :
    r.IsAttempt a q' where
  moved := by
    refine h.trans ?_
    rcases Adjustment.apply_eq_ok k with ⟨-, rfl⟩ | ⟨s, -, rfl⟩
    · exact .refl _
    · exact ⟨rfl, rfl, .refl _, rfl, .inl ⟨rfl, rfl⟩⟩
  adjusted := Adjustment.apply_congr ht h.url.query k

/-- The limits of an attempt are those of the request, except for the read limit. -/
theorem limits (h : r.IsAttempt a q) :
    (q.timeouts.getD {}).connect = (r.timeouts.getD {}).connect ∧
      (q.timeouts.getD {}).write = (r.timeouts.getD {}).write ∧
      (q.timeouts.getD {}).pool = (r.timeouts.getD {}).pool := by
  obtain ⟨r', hr', htimeouts⟩ := h.adjusted
  rw [htimeouts]
  rcases Adjustment.apply_eq_ok hr' with ⟨-, rfl⟩ | ⟨s, -, rfl⟩
  · exact ⟨rfl, rfl, rfl⟩
  · exact ⟨rfl, rfl, rfl⟩

/-- An attempt that is moved is an attempt. -/
theorem of_moved (h : r.IsAttempt a q) (k : q.Moved q') (ht : q'.timeouts = q.timeouts) :
    r.IsAttempt a q' where
  moved := h.moved.trans k
  adjusted := by
    obtain ⟨r', hr', htimeouts⟩ := h.adjusted
    exact ⟨r', hr', ht.trans htimeouts⟩

/-- Adjusting an attempt changes nothing. -/
theorem apply_eq (h : r.IsAttempt a q) (k : a.apply q = .ok q') : q' = q := by
  obtain ⟨r', hr', htimeouts⟩ := h.adjusted
  rcases Adjustment.apply_eq_ok k with ⟨-, rfl⟩ | ⟨s, hs, rfl⟩
  · rfl
  · rcases Adjustment.apply_eq_ok hr' with ⟨hnone, rfl⟩ | ⟨s', hs', rfl⟩
    · rw [Adjustment.change_congr htimeouts h.moved.url.query, hnone] at hs
      cases hs
    · rcases Adjustment.change_twice hs' h.moved.url.query hs with hnone | hsame
      · cases hnone
      · cases hsame
        obtain ⟨method, url, headers, body, timeouts⟩ := q
        dsimp only at htimeouts
        rw [htimeouts]
        rfl

end IsAttempt

end Request

/-! ## The stack -/

namespace Failover

variable {τ : Type} [Seconds τ]

/-- The request of the next stage is the one at hand, or the one at hand sent to another target. -/
theorem stage_cases {p : Policy τ} {now : τ} {r q : Request} {tried : List Target}
    (h : (p.nextStage now r tried).1 = .ok (some q)) :
    (∃ here, Target.ofUrl r.url = .ok here) ∧ (q = r ∨ ∃ t, r.retarget t = .ok q) := by
  unfold Policy.nextStage Strategy.nextStage at h
  cases hhere : Target.ofUrl r.url with
  | error f =>
    rw [hhere] at h
    cases h
  | ok here =>
    refine ⟨⟨here, rfl⟩, ?_⟩
    rw [hhere] at h
    dsimp only at h
    generalize p.strategy.nextTarget now (some here) tried = out at h
    obtain ⟨_ | t, s⟩ := out
    · cases h
    · dsimp only at h
      by_cases ht : t = here
      · rw [if_pos ht] at h
        cases h
        exact .inl rfl
      · rw [if_neg ht] at h
        cases hq : r.retarget t with
        | error f =>
          rw [hq] at h
          cases h
        | ok q' =>
          rw [hq] at h
          cases h
          exact .inr ⟨t, hq⟩

/-- The request of a choice is the one at hand, perhaps at another place, and leads to the target of
the choice. -/
theorem moved_of_choose {p p' : Policy τ} {now : τ} {r q : Request} {t : Target}
    {tried : List Target} {last : Option (TransportFault × String)} (hr : r.url.IsNormal)
    (h : Exchange.choose now p r tried last = (.ok (q, t), p')) :
    r.Moved q ∧ q.timeouts = r.timeouts ∧ q.url.IsNormal ∧ Target.ofUrl q.url = .ok t := by
  unfold Exchange.choose at h
  cases hstage : p.nextStage now r tried with
  | mk stage p₁ =>
    rw [hstage] at h
    rcases stage with f | _ | q'
    · cases h
    · cases h
    · dsimp only at h
      cases hleads : Target.ofUrl q'.url with
      | error f =>
        rw [hleads] at h
        cases h
      | ok t' =>
        rw [hleads] at h
        cases h
        obtain ⟨⟨here, hhere⟩, rfl | ⟨u, hu⟩⟩ := stage_cases (congrArg Prod.fst hstage)
        · exact ⟨.refl _, rfl, hr, hleads⟩
        · obtain ⟨hmoved, htimeouts⟩ :=
            Request.moved_of_retarget (hr.isSettled (.inr (Url.host_ne_nil_of_ofUrl hhere))) hu
          exact ⟨hmoved, htimeouts, ⟨_, Url.rebuild_eq_ok (Request.retarget_eq_ok hu)⟩, hleads⟩

end Failover

namespace Exchange

/-- An exchange on its way through the standard stack: the transport has an attempt at `r`, which
leads to the target of the cycle, and each further attempt passes the adjustment. -/
structure Attempting (a : Adjustment) (r : Request) (x : Exchange) : Prop where
  attempt : r.IsAttempt a x.request
  isNormal : x.request.url.IsNormal
  outer : x.outer = none
  below : ∀ c, x.cycle = some c → c.below = [.adjusting a]
  leads : ∀ c, x.cycle = some c → Target.ofUrl x.request.url = .ok c.target

variable {τ : Type} [Seconds τ] {now : τ} {a : Adjustment} {r : Request} {x y : Exchange}

/-- What passes an adjusting layer above the transport is adjusted and sent. -/
theorem start_adjusting {policy : Option (Policy τ)} {q : Request}
    (h : (start now policy [.adjusting a] q).1 = .sent x) :
    a.apply q = .ok x.request ∧ x.cycle = none ∧ x.outer = none := by
  rw [start] at h
  cases hq : a.apply q with
  | error f =>
    rw [hq] at h
    cases h
  | ok q' =>
    rw [hq] at h
    cases h
    exact ⟨rfl, rfl, rfl⟩

/-- The first choice of a failover layer is a choice. -/
theorem choose_of_enter {p p' : Policy τ} {q : Request} {t : Target}
    (h : enter now p r = (.ok (q, t), p')) : ∃ p₁, choose now p₁ r [] none = (.ok (q, t), p') := by
  unfold enter at h
  split at h
  next => cases h
  next => cases h
  next p₁ _ => exact ⟨p₁, h⟩

/-- A request that was sent through a failover layer was sent to the first choice, through the
layers below. -/
theorem sent_of_start {policy : Option (Policy τ)} {below : List Layer}
    (h : (start now policy (.failover :: below) r).1 = .sent x) :
    ∃ p p' q t y, enter now p r = (.ok (q, t), p') ∧ (start now (some p') below q).1 = .sent y ∧
      x = { y.chosen t below with asked := r.url } := by
  cases policy with
  | none => cases h
  | some p =>
    rw [start] at h
    dsimp only at h
    split at h
    next => cases h
    next q t p' henter =>
      split at h
      next y _ hstart =>
        cases h
        exact ⟨p, p', q, t, y, henter, congrArg Prod.fst hstart, rfl⟩
      next hother => exact (hother _ _ (Prod.ext h rfl)).elim

/-- A request that is sent once more is sent to another choice of the cycle, through the layers
below. -/
theorem sent_of_receive {policy : Option (Policy τ)} {outcome : Outcome}
    (h : (x.receive now policy outcome).1 = .sent y) :
    ∃ cycle fault p p' q t z, x.cycle = some cycle ∧
      choose now p x.request (cycle.attempted ++ [cycle.target]) (some fault) = (.ok (q, t), p') ∧
      (start now (some p') cycle.below q).1 = .sent z ∧
      y = { z with
        asked := x.asked
        cycle := some { cycle with
          target := t, attempted := cycle.attempted ++ [cycle.target], last := some fault }
        outer := x.outer } := by
  unfold receive at h
  split at h
  next => cases h
  next fault text =>
    split at h
    next p cycle hcycle =>
      split at h
      next => cases h
      next p _ =>
        unfold proceed at h
        dsimp only at h
        split at h
        next => cases h
        next q t p' hchoose =>
          split at h
          next z _ hstart =>
            cases h
            exact ⟨cycle, (fault, text), p, p', q, t, z, hcycle, hchoose,
              congrArg Prod.fst hstart, rfl⟩
          next hother => exact (hother _ _ (Prod.ext h rfl)).elim
    next => cases h
  next => cases h

/-- The first attempt of the standard stack goes out moved and adjusted. -/
theorem attempting_of_start {failsOver : Bool} {policy : Option (Policy τ)} (hr : r.url.IsNormal)
    (h : (start now policy (Stack.standard failsOver a).layers r).1 = .sent x) :
    x.Attempting a r := by
  cases failsOver with
  | false =>
    obtain ⟨happly, hcycle, houter⟩ := start_adjusting h
    exact {
      attempt := .of_apply (.refl r) rfl happly
      isNormal := by rwa [Adjustment.url_of_apply happly]
      outer := houter
      below := by simp [hcycle]
      leads := by simp [hcycle] }
  | true =>
    obtain ⟨p, p', q, t, y, henter, hstart, rfl⟩ := sent_of_start h
    obtain ⟨p₁, hchoose⟩ := choose_of_enter henter
    obtain ⟨hmoved, htimeouts, hnormal, hleads⟩ := moved_of_choose hr hchoose
    obtain ⟨happly, hcycle, houter⟩ := start_adjusting hstart
    have hurl := Adjustment.url_of_apply happly
    unfold chosen
    rw [hcycle]
    exact {
      attempt := .of_apply hmoved htimeouts happly
      isNormal := by rwa [hurl]
      outer := houter
      below := fun c hc => by cases hc; rfl
      leads := fun c hc => by cases hc; rwa [hurl] }

/-- Each further attempt is made from the one before. -/
theorem Attempting.of_receive {policy : Option (Policy τ)} {outcome : Outcome}
    (hx : x.Attempting a r) (h : (x.receive now policy outcome).1 = .sent y) :
    y.Attempting a r := by
  obtain ⟨cycle, fault, p, p', q, t, z, hcycle, hchoose, hstart, rfl⟩ := sent_of_receive h
  obtain ⟨hmoved, htimeouts, hnormal, hleads⟩ := moved_of_choose hx.isNormal hchoose
  have hbelow := hx.below cycle hcycle
  rw [hbelow] at hstart
  obtain ⟨happly, -, -⟩ := start_adjusting hstart
  -- The request at hand passed the adjustment before, so passing it again leaves it as it is.
  have hattempt := hx.attempt.of_moved hmoved htimeouts
  have hsame : z.request = q := hattempt.apply_eq happly
  exact {
    attempt := by rwa [hsame]
    isNormal := by rwa [hsame]
    outer := hx.outer
    below := fun d hd => by cases hd; exact hbelow
    leads := fun d hd => by cases hd; rwa [hsame] }

/-- An exchange has a cycle when the stack fails over. -/
theorem isSome_cycle_of_start {failsOver : Bool} {policy : Option (Policy τ)}
    (h : (start now policy (Stack.standard failsOver a).layers r).1 = .sent x) :
    x.cycle.isSome = failsOver := by
  cases failsOver with
  | false =>
    obtain ⟨-, hcycle, -⟩ := start_adjusting h
    rw [hcycle]
    rfl
  | true =>
    obtain ⟨p, p', q, t, y, -, -, rfl⟩ := sent_of_start h
    unfold chosen
    cases y.cycle <;> rfl

/-- A request that is sent again keeps its cycle. -/
theorem isSome_cycle_of_receive {policy : Option (Policy τ)} {outcome : Outcome}
    (h : (x.receive now policy outcome).1 = .sent y) : y.cycle.isSome = x.cycle.isSome := by
  obtain ⟨cycle, fault, p, p', q, t, z, hcycle, -, -, rfl⟩ := sent_of_receive h
  rw [hcycle]
  rfl

/-- All attempts of an exchange that was sent once are attempts at the same request. -/
theorem isAttempt_of_follow {progress : Progress} {policy : Option (Policy τ)}
    (script : List (Reply τ)) (h : ∀ x, progress = .sent x → x.Attempting a r) :
    ∀ q ∈ (follow now script (progress, policy)).attempts, r.IsAttempt a q := by
  induction script generalizing now progress policy with
  | nil =>
    intro q hq
    cases progress with
    | answered response => rw [follow_answered] at hq; cases hq
    | failed f => rw [follow_failed] at hq; cases hq
    | sent x =>
      rw [follow] at hq
      exact List.mem_singleton.1 hq ▸ (h x rfl).attempt
  | cons reply script ih =>
    intro q hq
    cases progress with
    | answered response => rw [follow_answered] at hq; cases hq
    | failed f => rw [follow_failed] at hq; cases hq
    | sent x =>
      rw [follow_sent] at hq
      rcases List.mem_cons.1 hq with rfl | hq
      · exact (h x rfl).attempt
      · exact ih (fun y hy => (h x rfl).of_receive hy) q hq

end Exchange

/-! ## The cycle as a whole -/

section
variable {τ : Type} [Seconds τ]

/-- All attempts of a run through the standard stack agree: each has the method, the body and the
URL of the request beside the host and the port, and its header fields beside `Host`, which names
the host and the port of the attempt if it was moved. Its time limits are those of the request
except for the read limit, all attempts have the read limit that the adjustment gives to the
request, and adjusting an attempt once more changes nothing. -/
theorem Failover.attempts_agree (w : Waiting) (now : τ) (policy : Option (Policy τ))
    (failsOver : Bool) (a : Adjustment) {r : Request} (hr : r.url.IsNormal)
    (script : List (Reply τ)) :
    ∀ q ∈ (Stack.run w now policy (Stack.standard failsOver a) r script).attempts,
      (q.method = r.method ∧ q.body = r.body ∧
        q.url = { r.url with host := q.url.host, port := q.url.port } ∧
        q.headers.without "Host" = r.headers.without "Host") ∧
      ((q.url = r.url ∧ q.headers = r.headers) ∨
        q.host? = some (String.ofList q.url.endpoint)) ∧
      ((q.timeouts.getD {}).connect = (r.timeouts.getD {}).connect ∧
        (q.timeouts.getD {}).write = (r.timeouts.getD {}).write ∧
        (q.timeouts.getD {}).pool = (r.timeouts.getD {}).pool) ∧
      (∃ r', a.apply r = .ok r' ∧ q.timeouts = r'.timeouts) ∧
      ∀ q', a.apply q = .ok q' → q' = q := by
  intro q hq
  have h : r.IsAttempt a q := by
    unfold Stack.run at hq
    cases hcaller : Stack.checkCaller w (Stack.standard failsOver a) with
    | error f =>
      rw [hcaller] at hq
      cases hq
    | ok u =>
      rw [hcaller] at hq
      exact Exchange.isAttempt_of_follow script
        (fun x hx => Exchange.attempting_of_start hr hx) q hq
  exact ⟨⟨h.moved.method, h.moved.body, h.moved.url, h.moved.headers⟩, h.moved.host, h.limits,
    h.adjusted, fun q' hq' => h.apply_eq hq'⟩

/-- The request of the sample with a wait of ten seconds, and with limits of its own. -/
def Request.sampleWaiting : Request :=
  { Request.sample "a" with
    url := { (Request.sample "a").url with query := some "wait=10s".toList }
    timeouts := some { connect := .seconds 3, read := .seconds 5, pool := .unlimited } }

/-- Three attempts at a request that waits for ten seconds, each with the host and port that it goes
to, and each with a read limit that outlasts the wait. -/
theorem Failover.attempts_agree_sample :
    Request.sampleWaiting.url.IsNormal ∧
      ∃ attempts, attempts = (Stack.run .suspended 0 (some { strategy := Strategy.sample })
        (Stack.standard true {}) .sampleWaiting Reply.sample).attempts ∧
      attempts.map Request.host? = [some "a:8500", some "b:8500", some "c:8500"] ∧
      attempts.map (fun q => (q.timeouts.getD {}).read) = List.replicate 3 (.seconds 12.625) ∧
      ∀ q ∈ attempts, q.method = "GET" ∧ q.url.query = some "wait=10s".toList ∧
        (q.timeouts.getD {}).connect = .seconds 3 ∧ (q.timeouts.getD {}).write = .unset ∧
        (q.timeouts.getD {}).pool = .unlimited ∧
        ∀ q', Adjustment.apply {} q = .ok q' → q' = q := by
  have hnormal : Request.sampleWaiting.url.IsNormal :=
    ⟨{ scheme := "http".toList, userinfo := [], host := "a".toList, port := "8500".toList,
       path := "/v1/kv/sample".toList, query := some "wait=10s".toList, fragment := none },
      by decide +kernel⟩
  refine ⟨hnormal, _, rfl, by decide +kernel, by decide +kernel, fun q hq => ?_⟩
  obtain ⟨⟨hmethod, -, hurl, -⟩, -, ⟨hconnect, hwrite, hpool⟩, -, htwice⟩ :=
    attempts_agree .suspended 0 (some { strategy := Strategy.sample }) true {} hnormal
      Reply.sample q hq
  exact ⟨hmethod, congrArg Url.query hurl, hconnect, hwrite, hpool, htwice⟩

end

end BlockingQuery
