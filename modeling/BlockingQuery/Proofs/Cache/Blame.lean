import BlockingQuery.Proofs.Cache.Asking
import BlockingQuery.Proofs.Failover.Blame

/-!
# Whom a cache blames

A poll blames targets in two places. The failover layer blames the target of each attempt that the
transport fails, and the poll loop blames the target that served an answer with an error of the
server. `Exchange.guilty` says whom the outcome of an attempt puts in the wrong, and a `Poll` keeps
the list of those that the outcomes so far did, with the times of the outcomes.

In a cache with a policy that never fails (`Guided`), the records that a poll makes or renews are
those of its list (`blamed_of_guided`). An answer with an error of the server is put down to its
target only if the session comes to read its text (`Session.reads`); if it does not, nobody is
blamed (`not_blamesServers_of_unread`).
-/

namespace BlockingQuery

open Failure (Blameless)

/-! ## Answers -/

namespace Failure

/-- The target that is blamed for what became of a response. -/
def charged {α : Type} : Except Failure α → Option Target
  | .ok _ => none
  | .error f => f.blamed

/-- A failure that blames nobody is charged to nobody. -/
theorem Blameless.charged {α : Type} {e : Except Failure α} (h : Blameless e) :
    charged e = none := by
  cases e with
  | error f => exact h f rfl
  | ok _ => rfl

end Failure

namespace Answer

/-- Reading a dataset blames nobody. -/
theorem blameless_readDataset (target : Option Target) (body : List UInt8) :
    Blameless (readDataset target body) := by
  unfold readDataset
  split
  · exact .ok _
  · split
    · exact .ok _
    all_goals exact .error rfl

/-- A response is put down to the target that served it when it has the status of an error of the
server and its text is known. -/
theorem charged_ofResponse {r : Response} {t : Target} (ht : r.servedBy = some t) :
    Failure.charged (ofResponse r) =
      if 500 ≤ r.status ∧ (ContentType.text (r.headers.get? "Content-Type") r.body).isOk then some t
      else none := by
  have horigin : origin r = .ok (some t) := by
    unfold origin
    rw [ht]
  by_cases hmissing : r.status = 404
  · rw [ofResponse_missing horigin hmissing, hmissing, if_neg fun h => absurd h.1 (by decide)]
    rfl
  by_cases hok : r.Succeeds
  · have hlow : ¬500 ≤ r.status := by
      have hhigh := hok.2
      omega
    rw [ofResponse_success horigin hok, if_neg fun h => hlow h.1]
    exact ((blameless_readDataset _ _).map _).charged
  · rw [ofResponse_refused horigin hmissing hok]
    cases ContentType.text (r.headers.get? "Content-Type") r.body with
    | error fault => exact (if_neg fun h => Bool.noConfusion h.2).symm
    | ok text =>
      change Failure.blames (some t) (some r.status) = _
      by_cases hhigh : 500 ≤ r.status <;>
        simp [Failure.blames, Failure.serverError, hhigh, Except.isOk, Except.toBool]

end Answer

namespace Session

/-- Whether the session comes to read the text of a response: it came for a URL, its cookies can be
told apart, and the text is known. -/
def reads (s : Session) (r : Response) : Bool :=
  (r.url.all fun asked => (checkScheme asked).isOk && (s.cookies.receive asked r.headers).1) &&
    (ContentType.text (r.headers.get? "Content-Type") r.body).isOk

/-- Following a response that sends the client on blames nobody. -/
theorem blameless_checkRedirection (s : Session) (asked : Url) (r : Response) :
    Blameless (s.checkRedirection asked r) := by
  have hwhole (whole : Url) (fragment : List Char) :
      Blameless (if fragment.isEmpty || !(whole.fragment.getD []).isEmpty then pure whole
        else (whole.withFragment (Percent.decode fragment).toList).mapError .url) := by
    split
    · exact .ok _
    · exact .mapError (fun _ => rfl) _
  have hhosted (hosted : Url) (fragment : List Char) :
      Blameless (if hosted.isAbsolute then pure hosted >>= fun whole =>
          if fragment.isEmpty || !(whole.fragment.getD []).isEmpty then pure whole
          else (whole.withFragment (Percent.decode fragment).toList).mapError .url
        else (asked.join hosted).mapError .url >>= fun whole =>
          if fragment.isEmpty || !(whole.fragment.getD []).isEmpty then pure whole
          else (whole.withFragment (Percent.decode fragment).toList).mapError .url) := by
    split
    · exact hwhole hosted fragment
    · exact (Blameless.mapError (fun _ => rfl) _).bind fun whole => hwhole whole fragment
  have hredirection (location : String) : Blameless (redirection asked location) := by
    unfold redirection
    refine (Blameless.mapError (fun _ => rfl) _).bind fun u => ?_
    refine (Blameless.mapError (fun _ => rfl) _).bind fun name => ?_
    split
    · exact hhosted u _
    · split
      · exact hhosted u _
      · exact (Blameless.mapError (fun _ => rfl) _).bind fun host =>
          (Blameless.mapError (fun _ => rfl) _).bind fun hosted => hhosted hosted _
  unfold checkRedirection
  split
  · split
    · exact (hredirection _).bind fun u => (Blameless.mapError (fun _ => rfl) _).bind fun _ =>
        (Blameless.mapError (fun _ => rfl) _).bind fun _ => s.blameless_checkCookies u
    · exact .ok _
  · exact .ok _

/-- An error of the server sends nobody on. -/
theorem checkRedirection_of_high (s : Session) (asked : Url) {r : Response} (h : 500 ≤ r.status) :
    s.checkRedirection asked r = .ok () := by
  have hstays : redirects.contains r.status = false := by
    rw [List.contains_eq_mem, decide_eq_false_iff_not]
    intro hmem
    simp only [redirects, List.mem_cons, List.not_mem_nil, or_false] at hmem
    omega
  unfold checkRedirection
  split
  · rw [hstays]
    rfl
  · rfl

/-- A response is put down to the target that served it when it has the status of an error of the
server and the session comes to read it. -/
theorem charged_receive (s : Session) {r : Response} {t : Target} (ht : r.servedBy = some t) :
    Failure.charged (s.receive r).1 =
      if 500 ≤ r.status ∧ s.reads r = true then some t else none := by
  have hanswer := Answer.charged_ofResponse ht
  unfold receive reads
  cases r.url with
  | none => simpa using hanswer
  | some asked =>
    cases hscheme : checkScheme asked with
    | error f =>
      have hf := blameless_checkScheme asked f hscheme
      simpa [hscheme, Except.isOk, Except.toBool, Failure.charged] using hf
    | ok u =>
      cases hdecided : (s.cookies.receive asked r.headers).1 with
      | false => simp [hscheme, hdecided, Failure.charged, Failure.blamed]
      | true =>
        have hok : (Except.ok u : Except Failure Unit).isOk = true := rfl
        simp only [Option.all_some, hscheme, hdecided, hok, Bool.true_and, if_true]
        rw [← hanswer]
        generalize ({ s with cookies := (s.cookies.receive asked r.headers).2 } : Session) = s'
        cases hredirected : s'.checkRedirection asked r with
        | ok => rfl
        | error f =>
          have hlow : ¬500 ≤ r.status := fun hhigh => by
            rw [checkRedirection_of_high s' asked hhigh] at hredirected
            cases hredirected
          rw [hanswer, if_neg fun h => hlow h.1]
          exact s'.blameless_checkRedirection asked r f hredirected

end Session

/-! ## Polls -/

/-- The target that the request of an attempt goes to. -/
def Exchange.goesTo? (x : Exchange) : Option Target :=
  (Target.ofUrl x.request.url).toOption

/-- Whom the outcome of an attempt puts in the wrong: the target of the attempt if the transport
failed, or if the target answered with an error of the server and the session comes to read the
answer. Any other failure is blamed on nobody, unless it tells of an answer itself. -/
def Exchange.guilty (x : Exchange) (session : Session) : Outcome → Option Target
  | .raised (.transport _ _) => x.goesTo?
  | .raised f => f.blamed
  | .response status headers body =>
    if 500 ≤ status ∧
        session.reads { status, headers, body, url := some x.asked, servedBy := x.servedBy } = true
    then x.goesTo? else none

namespace Cache

/-- The policy is there, and never fails. -/
def Faultless (s : Cache) : Prop :=
  ∃ p, s.policy = some p ∧ p.faulty = none

/-- A cache that came through a run with a policy that never failed. -/
inductive Guided (c : Setup) : Cache → Prop
  | create {left : Surroundings} (h : (create left).Faultless) : Guided c (create left)
  | step {s t : Cache} {d : Setup} {heard : Option Answer} (h : Guided c s) (hv : c.Varies d)
    (hstep : Step d s heard t) (ht : t.Faultless) : Guided c t

/-- The loop takes up what became of an attempt. -/
def TakesUp (c : Setup) (s t : Cache) : Prop :=
  ∃ o x outcome, s.loop = .awaiting o x ∧ t = takeUp c o s (x.receive s.now s.policy outcome)

/-- A poll that began in `s` has come to `t`. In it the targets of `marks` were put in the wrong,
the last one first, each at the given time; `times` are the moments at which the poll went on.
Whatever else happens while it waits leaves the policy alone. -/
inductive Poll (c : Setup) (s : Cache) : List (Target × Float) → List Float → Cache → Prop
  | asked {d : Setup} {o : OpenSession} (hv : c.Varies d) (hloop : s.loop = .polling o) :
    Poll c s [] [s.now] (turn d s)
  | took {marks : List (Target × Float)} {times : List Float} {t : Cache} {d : Setup}
    {o : OpenSession} {x : Exchange} (h : Poll c s marks times t) (hv : c.Varies d)
    (hloop : t.loop = .awaiting o x) (outcome : Outcome) :
    Poll c s (((x.guilty o.session outcome).map (·, t.now)).toList ++ marks) (t.now :: times)
      (takeUp d o t (x.receive t.now t.policy outcome))
  | waited {marks : List (Target × Float)} {times : List Float} {t u : Cache} {d : Setup}
    {o : OpenSession} {x : Exchange} {heard : Option Answer} (h : Poll c s marks times t)
    (hv : c.Varies d) (hloop : t.loop = .awaiting o x) (hstep : Step d t heard u)
    (hother : ¬TakesUp d t u) (hsame : u.policy = t.policy) : Poll c s marks times u

section
variable {c d : Setup} {s t u : Cache} {o : OpenSession} {x : Exchange} {p : Policy Float}
  {heard : Option Answer}

/-- A guided cache came through a run. -/
theorem Guided.run (h : Guided c s) : ∃ as, Run c as s := by
  induction h with
  | @create left => exact ⟨[], left, .refl⟩
  | step _ hv hstep _ ih =>
    obtain ⟨as, h⟩ := ih
    exact ⟨_, h.steps (.tail .refl hv hstep)⟩

/-- The policy of a guided cache never fails. -/
theorem Guided.faultless (h : Guided c s) : s.Faultless := by
  cases h with
  | create h => exact h
  | step _ _ _ ht => exact ht

/-- The sessions of a guided cache fail over. -/
theorem Guided.asking (h : Guided c s) : Asking c (Queries c) (· = true) s := by
  induction h with
  | create =>
    refine .of_rests ⟨fun session hs => ?_, fun o x hx => ?_⟩ trivial
    · cases hs
    · cases hx
  | step h hv hstep _ ih =>
    obtain ⟨as, hrun⟩ := h.run
    obtain ⟨p, hp, -⟩ := h.faultless
    exact asking_step (keeps_queries c) hv (by rw [hp]; rfl) (hasHistory_of_run hrun).snapshot ih
      hstep

/-! ## Where the policy stays as it is -/

/-- The poll is over, and the policy is as it was. -/
structure Over (s t : Cache) : Prop where
  policy : t.policy = s.policy
  rests : ∀ o x, t.loop ≠ .awaiting o x

/-- A poll that is over at once is so also after states in which nothing was polled. -/
theorem Over.after (h : Over t u) (k : Unpolled s t) : Over s u :=
  ⟨h.policy.trans (congrArg Surroundings.policy k.surroundings), h.rests⟩

theorem over_leave (s : Cache) : Over s (leave s) :=
  ⟨rfl, fun _ _ h => by cases h⟩

theorem over_pause (o : OpenSession) (delay : Float) (s : Cache) : Over s (pause o delay s) := by
  unfold pause
  split
  next => exact over_leave s
  next =>
    refine ⟨rfl, fun _ _ h => ?_⟩
    dsimp only at h
    split at h <;> cases h

/-- Chance leaves the policy alone. -/
@[simp] theorem policy_draw (s : Cache) : s.draw.2.policy = s.policy := by
  unfold draw
  split <;> rfl

/-- Telling of a failure leaves the policy alone. -/
@[simp] theorem policy_announce (c : Setup) (b : Setback) (s : Cache) :
    (announce c b s).2.policy = s.policy :=
  (congrArg Surroundings.policy (unpolled_emit c .pollLoop _ _).surroundings).trans (policy_draw s)

/-- The policy after a failure was counted. -/
def charge (b : Option Target) (now : Float) (p : Policy Float) : Policy Float :=
  match b with
  | none => p
  | some t => { p with strategy := p.strategy.mark now t }

/-- What charging a target records. -/
theorem marks_charge (b : Option Target) (now : Float) (p : Policy Float) :
    p.Marks [now] (b.map (·, now)).toList (charge b now p) ∧
      ∀ t, (b.map (·, now)).toList.lookup t = none →
        (charge b now p).failure? t = p.failure? t := by
  cases b with
  | none => exact ⟨.refl _ p, fun _ _ => rfl⟩
  | some u =>
    refine ⟨.mark p now u, fun t ht => (p.failure?_mark now u t).trans (if_neg ?_)⟩
    rintro rfl
    simp at ht

/-- Counting a failure charges the target that it is blamed on. -/
theorem policy_fail (hp : s.policy = some p) (hfaulty : p.faulty = none) (c : Setup) (b : Setback) :
    (fail c b s).2.policy = some (charge b.blamed s.now p) := by
  have hmark (t : Target) : p.mark s.now t =
      (.ok (), { p with strategy := p.strategy.mark s.now t }) := by
    rw [Policy.mark, hfaulty]
    rfl
  unfold fail
  dsimp only
  rw [hp]
  cases b.blamed with
  | none => exact (policy_announce ..).trans hp
  | some t =>
    dsimp only
    rw [hmark]
    exact policy_announce ..

/-- A failure with the session kept ends the poll. -/
theorem policy_setBack (hp : s.policy = some p) (hfaulty : p.faulty = none) (c : Setup)
    (o : OpenSession) (b : Setback) :
    (setBack c o b s).policy = some (charge b.blamed s.now p) ∧
      ∀ o' x, (setBack c o b s).loop ≠ .awaiting o' x := by
  have hover := over_pause o (fail c b s).1 (fail c b s).2
  exact ⟨hover.policy.trans (policy_fail hp hfaulty c b), hover.rests⟩

/-- Counting a failure that is blamed on nobody leaves the policy alone. -/
@[simp] theorem policy_miss (c : Setup) (f : Failure) (s : Cache) :
    (fail c { failure := f } s).2.policy = s.policy := by
  unfold fail
  exact policy_announce ..

/-- A failure that blames nobody, after which the loop keeps its session, leaves the policy alone.
-/
theorem over_setBack (c : Setup) (o : OpenSession) (f : Failure) (s : Cache) :
    Over s (setBack c o { failure := f } s) := by
  have hover := over_pause o (fail c { failure := f } s).1 (fail c { failure := f } s).2
  exact ⟨hover.policy.trans (policy_miss c f s), hover.rests⟩

/-- A failure that left no session leaves the policy alone. -/
theorem over_retreat (c : Setup) (f : Failure) (s : Cache) : Over s (retreat c f s) := by
  refine ⟨policy_miss c f s, fun o x h => ?_⟩
  unfold retreat at h
  dsimp only at h
  split at h
  next => cases h
  next => split at h <;> cases h

/-- Having the listeners called leaves the policy alone, and no request under way. -/
theorem over_deliver (c : Setup) (o : OpenSession) (snapshot : Snapshot) (delay : Float)
    (s : Cache) : Over s (deliver c o snapshot delay s) := by
  have hround := unpolled_notify c .pollLoop snapshot s
  unfold deliver
  split
  next => exact over_leave s
  next =>
    split
    next => exact ⟨(over_pause ..).policy, (over_pause ..).rests⟩
    next =>
      generalize notify c .pollLoop snapshot s = round at hround ⊢
      obtain ⟨_ | held, t⟩ := round
      · exact (over_pause o delay t).after hround
      · exact ⟨congrArg Surroundings.policy hround.surroundings, fun _ _ h => by cases h⟩

/-- Taking up an answer leaves the policy alone, and no request under way. -/
theorem over_accept (c : Setup) (o : OpenSession) (a : Answer) (s : Cache) :
    Over s (accept c o a s) := by
  unfold accept
  dsimp only
  split
  next =>
    have hover := (over_pause o (pauseAfter c.config a) _).after
      (unpolled_emit c .pollLoop (.unchanged a.index) { s with errorCount := 0 })
    exact ⟨hover.policy, hover.rests⟩
  next =>
    have hcollected := unpolled_collect c a.dataset .empty s
    generalize collect c a.dataset .empty s = collected at hcollected ⊢
    obtain ⟨f | entries, t⟩ := collected
    · exact (over_setBack c o f t).after hcollected
    · let new : Snapshot :=
        { entries, index := a.index, knownLeader := a.knownLeader,
          lastContactMs := a.lastContactMs }
      have hover := (over_deliver c o new (pauseAfter c.config a) _).after
        (unpolled_emit c .pollLoop (.changed a.index entries.size a.target) (commit new t))
      exact Over.after (t := t) ⟨hover.policy, hover.rests⟩ hcollected

/-! ## What a poll does to the policy -/

/-- The policy of `t` is `p` after `marks` were recorded, and the cycle that the loop is in tried
all the targets in `tried`. -/
structure Marked (now : Float) (marks : List (Target × Float)) (tried : List Target)
    (p : Policy Float) (t : Cache) : Prop where
  policy : ∃ q, t.policy = some q ∧ p.Marks [now] marks q ∧
    ∀ u ∈ tried, marks.lookup u = none → q.failure? u = p.failure? u
  cycle : ∀ o x, t.loop = .awaiting o x → ∃ cycle, x.cycle = some cycle ∧
    tried ++ marks.map (·.1) ⊆ cycle.attempted

/-- A poll that is over at once records nobody. -/
theorem Over.marked (h : Over s t) (hp : s.policy = some p) (now : Float) (tried : List Target) :
    Marked now [] tried p t :=
  ⟨⟨p, h.policy.trans hp, .refl _ p, fun _ _ _ => rfl⟩, fun o x hx => absurd hx (h.rests o x)⟩

/-- A poll that ends with a failure records the target that is blamed, if there is one. -/
theorem marked_setBack (hp : s.policy = some p) (hfaulty : p.faulty = none) (c : Setup)
    (o : OpenSession) (b : Setback) (tried : List Target) :
    Marked s.now (b.blamed.map (·, s.now)).toList tried p (setBack c o b s) := by
  obtain ⟨hpolicy, hrests⟩ := policy_setBack hp hfaulty c o b
  obtain ⟨hmarks, hothers⟩ := marks_charge b.blamed s.now p
  exact ⟨⟨_, hpolicy, hmarks, fun u _ hu => hothers u hu⟩, fun o x hx => absurd hx (hrests o x)⟩

/-- A poll that ends with an answer, of whatever kind, records the target that it is charged to. -/
theorem marked_answered (hp : s.policy = some p) (hfaulty : p.faulty = none) (c : Setup)
    (o : OpenSession) (r : Response) (tried : List Target) :
    Marked s.now ((Failure.charged (o.session.receive r).1).map (·, s.now)).toList tried p
      (conclude c o s (.answered r)) := by
  unfold conclude
  dsimp only
  generalize o.session.receive r = received
  obtain ⟨f | a, session⟩ := received
  · exact marked_setBack hp hfaulty c { o with session } (.ofQuery f) tried
  · dsimp only
    split
    next =>
      exact marked_setBack hp hfaulty c { o with session }
        (.ofQuery (.missingIndex c.path a.target)) tried
    next =>
      have hover := over_accept c { o with session } a (s.note (.heard a))
      exact Over.marked (s := s) ⟨hover.policy, hover.rests⟩ hp _ _

/-- A poll that ends with a failure on the way, or goes on with an attempt, leaves the policy as it
is. -/
theorem marked_conclude (hp : s.policy = some p) (hfaulty : p.faulty = none) (c : Setup)
    (o : OpenSession) {tried : List Target} {progress : Progress}
    (h : Exchange.GoesOn tried progress) :
    (conclude c o s progress).policy = some p ∧
      ∀ o' x, (conclude c o s progress).loop = .awaiting o' x →
        ∃ cycle, x.cycle = some cycle ∧ cycle.attempted = tried := by
  cases h with
  | @failed f hf =>
    obtain ⟨hpolicy, hrests⟩ := policy_setBack hp hfaulty c o (.ofQuery f)
    refine ⟨?_, fun o' x hx => absurd hx (hrests o' x)⟩
    have hblamed : (Setback.ofQuery f).blamed = none := hf
    rw [hblamed] at hpolicy
    exact hpolicy
  | @sent x cycle hcycle htried =>
    refine ⟨hp, fun o' y hy => ?_⟩
    cases hy
    exact ⟨cycle, hcycle, htried⟩

/-- A poll that only looks at records makes none. -/
theorem marked_of_marks {q : Policy Float} {now : Float} (hq : p.Marks [now] [] q)
    (ht : t.policy = some q)
    (hcycle : ∀ o x, t.loop = .awaiting o x → ∃ cycle, x.cycle = some cycle) :
    Marked now [] [] p t where
  policy := ⟨q, ht, hq, fun _ hu => nomatch hu⟩
  cycle o x hx := by
    obtain ⟨cycle, h⟩ := hcycle o x hx
    exact ⟨cycle, h, by simp⟩

/-- A poll that makes no record makes none if records were looked at before it. -/
theorem Marked.look {q : Policy Float} {now : Float} (h : Marked now [] [] q t)
    (k : p.Marks [now] [] q) : Marked now [] [] p t := by
  obtain ⟨⟨q', hq', hmarks, -⟩, hcycle⟩ := h
  refine ⟨⟨q', hq', k.look hmarks fun _ h => Bool.noConfusion h, fun _ hu => nomatch hu⟩, hcycle⟩

/-- Sending a query records nobody. -/
theorem marked_query (hp : s.policy = some p) (hfaulty : p.faulty = none)
    (ho : o.session.Serves c (· = true)) (d : Setup) : Marked s.now [] [] p (query d o s) := by
  obtain ⟨_, rfl, hlayers⟩ := ho.layers
  unfold query
  dsimp only
  split
  next f hf =>
    have hblamed : (Setback.ofQuery f).blamed = none := o.session.blameless_request _ _ f hf
    have hset := marked_setBack hp hfaulty d o (.ofQuery f) []
    rw [hblamed] at hset
    exact hset
  next r hr =>
    rw [hlayers, hp]
    obtain ⟨progress, q, hstart, hmarks, hgoes⟩ :=
      Exchange.marks_start s.now p c.config.adjustment r
    rw [hstart]
    obtain ⟨hpolicy, hloop⟩ := marked_conclude (s := { s with policy := some q }) rfl
      (hmarks.faulty.trans hfaulty) d o hgoes
    refine marked_of_marks hmarks hpolicy fun o' x hx => ?_
    obtain ⟨cycle, hcycle, -⟩ := hloop o' x hx
    exact ⟨cycle, hcycle⟩

/-- Opening a session leaves the policy alone. -/
theorem over_openSession (c : Setup) (s : Cache) : Over s (openSession c s) := by
  unfold openSession
  dsimp only
  split
  next f _ =>
    have hover := over_retreat c f { s.note .opening with sessions := s.sessions + 1 }
    exact ⟨hover.policy, hover.rests⟩
  next =>
    split
    next f _ =>
      have hover := over_retreat c f
        (({ s.note .opening with sessions := s.sessions + 1 } : Cache).note .connected)
      exact ⟨hover.policy, hover.rests⟩
    next => exact ⟨rfl, fun _ _ hx => by cases hx⟩

/-- A poll that begins records nobody, whether it is refused or not. -/
theorem marked_poll (hp : s.policy = some p) (hfaulty : p.faulty = none)
    (ho : o.session.Serves c (· = true)) (d : Setup) : Marked s.now [] [] p (poll d o s) := by
  have hviable := p.marks_isViable s.now
  unfold poll
  rw [hp]
  dsimp only
  generalize p.isViable s.now = viable at hviable ⊢
  obtain ⟨f | _ | _, q⟩ := viable
  · have hover := over_retreat d ((d.closeFault o.number).getD f)
      (({ s with policy := some q } : Cache).note .closed)
    exact marked_of_marks hviable hover.policy fun o x hx => absurd hx (hover.rests o x)
  · exact (marked_setBack (s := { s with policy := some q }) rfl (hviable.faulty.trans hfaulty) d o
      (.ofQuery (.noViableTarget q.shownTargets)) []).look hviable
  · exact (marked_query (s := { s with policy := some q }) rfl (hviable.faulty.trans hfaulty)
      ho d).look hviable

/-- A turn of the loop that waits for no response records nobody. -/
theorem marked_turn (h : Asking c (Queries c) (· = true) s) (hp : s.policy = some p)
    (hfaulty : p.faulty = none) (d : Setup) (hloop : ∀ o x, s.loop ≠ .awaiting o x) :
    Marked s.now [] [] p (turn d s) := by
  have hover {t : Cache} (ht : Over s t) : Marked s.now [] [] p t := ht.marked hp _ _
  unfold turn
  split
  next =>
    split
    next => exact hover ⟨rfl, fun _ _ hx => by cases hx⟩
    next => exact hover (over_openSession d s)
  next o ho =>
    split
    next => exact hover (over_leave s)
    next => exact marked_poll hp hfaulty (h.serves o.session (by rw [ho]; rfl)) d
  next => exact hover ⟨rfl, hloop⟩

/-- An attempt that the transport failed leaves a record of its target. The cycle tries that target
no more. -/
theorem marked_transport {r : Request} {cycle : Cycle} (hp : s.policy = some p)
    (hfaulty : p.faulty = none) (hx : x.Attempting c.config.adjustment r)
    (hcycle : x.cycle = some cycle) (d : Setup) (o : OpenSession) (fault : TransportFault)
    (text : String) :
    Marked s.now [(cycle.target, s.now)] cycle.attempted p
      (takeUp d o s (x.receive s.now s.policy (.raised (.transport fault text)))) := by
  obtain ⟨progress, q, hreceive, hmarks, htried, hgoes⟩ :=
    Exchange.marks_receive s.now hfaulty hx hcycle fault text
  rw [hp, hreceive]
  obtain ⟨hpolicy, hloop⟩ := marked_conclude (s := { s with policy := some q }) rfl
    (hmarks.faulty.trans hfaulty) d o hgoes
  refine ⟨⟨q, hpolicy, hmarks, fun u hu hnone => htried u hu ?_⟩, fun o' y hy => ?_⟩
  · rintro rfl
    simp at hnone
  · obtain ⟨cycle', hcycle', hattempted⟩ := hloop o' y hy
    exact ⟨cycle', hcycle', by rw [hattempted]; exact fun u hu => hu⟩

/-- Taking up the outcome of an attempt records whom it puts in the wrong, and looks at no target
that was tried before. -/
theorem marked_takeUp {r : Request} {cycle : Cycle} (hp : s.policy = some p)
    (hfaulty : p.faulty = none) (hx : x.Attempting c.config.adjustment r)
    (hcycle : x.cycle = some cycle) (d : Setup) (o : OpenSession) (outcome : Outcome) :
    Marked s.now ((x.guilty o.session outcome).map (·, s.now)).toList cycle.attempted p
      (takeUp d o s (x.receive s.now s.policy outcome)) := by
  have hgoes : x.goesTo? = some cycle.target := by
    rw [Exchange.goesTo?, hx.leads cycle hcycle]
    rfl
  have hserved : x.servedBy = some cycle.target := by
    rw [Exchange.servedBy, hx.outer, hcycle]
    rfl
  cases outcome with
  | response status headers body =>
    have hcharged := o.session.charged_receive
      (r := { status, headers, body, url := some x.asked, servedBy := x.servedBy }) hserved
    have hanswered := marked_answered hp hfaulty d o
      { status, headers, body, url := some x.asked, servedBy := x.servedBy } cycle.attempted
    rw [hcharged] at hanswered
    unfold Exchange.guilty
    rw [hgoes]
    exact hanswered
  | raised f =>
    have failed (hguilty : x.guilty o.session (.raised f) = f.blamed)
        (hreceive : x.receive s.now s.policy (.raised f) = (.failed f, s.policy)) :
        Marked s.now ((x.guilty o.session (.raised f)).map (·, s.now)).toList cycle.attempted p
          (takeUp d o s (x.receive s.now s.policy (.raised f))) := by
      rw [hguilty, hreceive]
      exact marked_setBack hp hfaulty d o (.ofQuery f) cycle.attempted
    cases f with
    | transport fault text =>
      have hguilty : x.guilty o.session (.raised (.transport fault text)) = some cycle.target :=
        hgoes
      rw [hguilty]
      exact marked_transport hp hfaulty hx hcycle d o fault text
    | _ => exact failed rfl rfl

/-! ## Steps and polls -/

/-- The policy stays as it is, and the loop takes up no new attempt. -/
structure Stays (s t : Cache) : Prop where
  policy : t.policy = s.policy
  loop : ∀ o x, t.loop = .awaiting o x → s.loop = .awaiting o x

theorem Unpolled.stays (h : Unpolled s t) : Stays s t := by
  refine ⟨congrArg Surroundings.policy h.surroundings, fun o x hx => ?_⟩
  rcases h.loop with hloop | hended
  · exact hloop.symm.trans hx
  · cases hended.symm.trans hx

theorem Over.stays (h : Over s t) : Stays s t :=
  ⟨h.policy, fun o x hx => absurd hx (h.rests o x)⟩

/-- The policy stays as it is wherever a round leaves the worker. -/
theorem Stays.worked {round : Option Held × Cache} (h : Stays s round.2) :
    Stays s (worked round) := by
  obtain ⟨_ | held, u⟩ := round
  · exact h
  · exact ⟨h.policy, h.loop⟩

/-- The policy stays as it is wherever a round leaves the loop. -/
theorem Unpolled.stays_looped (o : OpenSession) (delay : Float) {round : Option Held × Cache}
    (h : Unpolled s round.2) : Stays s (looped o delay round) := by
  obtain ⟨_ | held, u⟩ := round
  · exact ((over_pause o delay u).after h).stays
  · refine ⟨congrArg Surroundings.policy h.surroundings, fun o' x hx => ?_⟩
    cases hx

/-- In a step the loop takes up an attempt or does its turn, or the surroundings change, or the
policy stays as it is. -/
theorem policy_step (hstep : Step d s heard t) (hother : ¬TakesUp d s t) :
    (∃ left, t = { s with toSurroundings := left }) ∨
      (t = turn d s ∧ ∀ o x, s.loop ≠ .awaiting o x) ∨ Stays s t := by
  cases hstep with
  | start _ =>
    have hemit := (unpolled_emit d .outside .started
      { s with lifecycle := .starting, loop := .opening }).stays
    exact .inr (.inr ⟨hemit.policy, fun o x hx => by cases hemit.loop o x hx⟩)
  | stop => exact .inr (.inr (unpolled_stop d .outside s).stays)
  | turn =>
    by_cases hloop : ∃ o x, s.loop = .awaiting o x
    · obtain ⟨o, x, hloop⟩ := hloop
      have hturn : turn d s = s := by
        unfold turn
        rw [hloop]
      exact .inl ⟨s.toSurroundings, hturn⟩
    · exact .inr (.inl ⟨rfl, fun o x hx => hloop ⟨o, x, hx⟩⟩)
  | @receive _ o x outcome hloop => exact absurd ⟨o, x, outcome, hloop, rfl⟩ hother
  | @wake _ delay o hloop =>
    refine .inr (.inr ⟨rfl, fun o' x hx => ?_⟩)
    cases o <;> cases hx
  | @goOn _ o held delay hloop =>
    exact .inr (.inr ((unpolled_release d .pollLoop held s).stays_looped o delay))
  | @goOnWorking _ held _ =>
    have hround := (unpolled_release d .worker held
      { s with worker := { s.worker with held := none } }).stays
    exact .inr (.inr (Stays.worked ⟨hround.policy, hround.loop⟩))
  | @workOn _ snapshot queue _ =>
    have hround := (unpolled_notify d .worker snapshot
      { s with worker := { held := none, queue } }).stays
    exact .inr (.inr (Stays.worked ⟨hround.policy, hround.loop⟩))
  | addListener l => exact .inr (.inr ((tolerant_unpolled d .outside).add l s).stays)
  | removeListener l => exact .inr (.inr ((tolerant_unpolled d .outside).remove l s).stays)
  | observers => exact .inr (.inr ⟨rfl, fun _ _ hx => hx⟩)
  | surround left => exact .inl ⟨left, rfl⟩

/-- A guided cache goes on so as long as its policy is there and does not come to fail. -/
theorem Guided.turn (h : Guided c s) (hv : c.Varies d) (hp : s.policy = some p)
    (hloop : ∀ o x, s.loop ≠ .awaiting o x) :
    Guided c (turn d s) ∧ Marked s.now [] [] p (turn d s) := by
  obtain ⟨p', hp', hfaulty⟩ := h.faultless
  obtain rfl : p' = p := Option.some.inj (hp'.symm.trans hp)
  have hmarked := marked_turn h.asking hp hfaulty d hloop
  obtain ⟨q, hq, hmarks, -⟩ := hmarked.policy
  exact ⟨h.step hv (.turn s) ⟨q, hq, hmarks.faulty.trans hfaulty⟩, hmarked⟩

/-- A guided cache takes up the outcome of an attempt. -/
theorem Guided.takeUp (h : Guided c s) (hv : c.Varies d) (hp : s.policy = some p)
    (hloop : s.loop = .awaiting o x) (outcome : Outcome) :
    ∃ cycle, x.cycle = some cycle ∧ Target.ofUrl x.request.url = .ok cycle.target ∧
      Guided c (takeUp d o s (x.receive s.now s.policy outcome)) ∧
      Marked s.now ((x.guilty o.session outcome).map (·, s.now)).toList cycle.attempted p
        (Cache.takeUp d o s (x.receive s.now s.policy outcome)) := by
  obtain ⟨p', hp', hfaulty⟩ := h.faultless
  obtain rfl : p' = p := Option.some.inj (hp'.symm.trans hp)
  obtain ⟨hcycle, r, -, hx⟩ := h.asking.attempts o x hloop
  obtain ⟨cycle, hcycle⟩ := Option.isSome_iff_exists.1 hcycle
  have hmarked := marked_takeUp hp hfaulty hx hcycle d o outcome
  obtain ⟨q, hq, hmarks, -⟩ := hmarked.policy
  exact ⟨cycle, hcycle, hx.leads cycle hcycle,
    h.step hv (.receive outcome hloop) ⟨q, hq, hmarks.faulty.trans hfaulty⟩, hmarked⟩

/-- What a poll has done to the policy so far: it has recorded those that were put in the wrong, and
while it waits for an outcome the targets of its records are those that its cycle tried. -/
theorem Guided.poll (h : Guided c s) (hp : s.policy = some p) {marks : List (Target × Float)}
    {times : List Float} (hpoll : Poll c s marks times t) :
    Guided c t ∧ ∃ q, t.policy = some q ∧ p.Marks times marks q ∧
      ∀ o x, t.loop = .awaiting o x →
        ∃ cycle, x.cycle = some cycle ∧ marks.map (·.1) ⊆ cycle.attempted := by
  induction hpoll with
  | asked hv hloop =>
    obtain ⟨hguided, ⟨q, hq, hmarks, -⟩, hcycle⟩ :=
      h.turn hv hp fun o x hx => by cases hloop.symm.trans hx
    exact ⟨hguided, q, hq, hmarks, hcycle⟩
  | @took marks times t d o x _ hv hloop outcome ih =>
    obtain ⟨hguided, q, hq, hmarks, hcycle⟩ := ih
    obtain ⟨cycle, hc, htried⟩ := hcycle o x hloop
    obtain ⟨cycle', hc', -, hguided', ⟨q', hq', hmarks', hothers⟩, hcycle'⟩ :=
      hguided.takeUp hv hq hloop outcome
    obtain rfl : cycle' = cycle := Option.some.inj (hc'.symm.trans hc)
    -- A record of this poll outlives later choices, as no choice looks at a target that was tried.
    refine ⟨hguided', q', hq', ?_, fun o' y hy => ?_⟩
    · refine (hmarks.mono (List.subset_cons_self ..)).trans
        (hmarks'.mono (List.cons_subset_cons _ (List.nil_subset _))) fun u hnone hsome => ?_
      refine hothers u (htried ?_) hnone
      obtain ⟨e, he, hu⟩ := List.lookup_isSome_iff.1 hsome
      exact List.mem_map.2 ⟨e, he, (beq_iff_eq.1 hu).symm⟩
    · obtain ⟨next, hnext, hsub⟩ := hcycle' o' y hy
      refine ⟨next, hnext, fun u hu => hsub ?_⟩
      rw [List.map_append, List.mem_append] at hu
      exact List.mem_append.2 (hu.symm.imp_left fun hu => htried hu)
  | @waited marks times t u d o x heard _ hv hloop hstep hother hsame ih =>
    obtain ⟨hguided, q, hq, hmarks, hcycle⟩ := ih
    refine ⟨hguided.step hv hstep (by rw [Faultless, hsame]; exact hguided.faultless), q,
      hsame.trans hq, hmarks, fun o' y hy => ?_⟩
    rcases policy_step hstep hother with ⟨left, rfl⟩ | ⟨-, hnot⟩ | hstays
    · exact hcycle o' y hy
    · exact absurd hloop (hnot o x)
    · exact hcycle o' y (hstays.loop o' y hy)

/-- In every run with a policy that never fails, the records that a poll makes or renews are those
of the targets that it put in the wrong, the latest time of each, and other records are gone at most
because they were over. One by one, an outcome is charged to the target of its attempt if the
transport failed, or if that target answered with an error of the server and the session comes to
read the answer; otherwise to nobody. No other step of the cache makes or renews a record,
whether it begins a poll or not. -/
theorem blamed_of_guided (h : Guided c s) (hp : s.policy = some p) :
    (∀ marks times t, Poll c s marks times t →
      ∃ q, t.policy = some q ∧ p.Marks times marks q) ∧
    (∀ d o x outcome, c.Varies d → s.loop = .awaiting o x →
      (∃ target, Target.ofUrl x.request.url = .ok target ∧ x.servedBy = some target) ∧
      ∃ q, (takeUp d o s (x.receive s.now s.policy outcome)).policy = some q ∧
        p.Marks [s.now] ((x.guilty o.session outcome).map (·, s.now)).toList q) ∧
    ∀ d heard t, c.Varies d → Step d s heard t → ¬TakesUp d s t →
      (∃ left, t = { s with toSurroundings := left }) ∨
        ∃ q, t.policy = some q ∧ p.Marks [s.now] [] q := by
  refine ⟨fun marks times t hpoll => ?_, fun d o x outcome hv hloop => ?_,
    fun d heard t hv hstep hother => ?_⟩
  · obtain ⟨-, q, hq, hmarks, -⟩ := h.poll hp hpoll
    exact ⟨q, hq, hmarks⟩
  · obtain ⟨cycle, hcycle, hleads, -, ⟨q, hq, hmarks, -⟩, -⟩ := h.takeUp hv hp hloop outcome
    obtain ⟨-, r, -, hx⟩ := h.asking.attempts o x hloop
    refine ⟨⟨cycle.target, hleads, ?_⟩, q, hq, hmarks⟩
    rw [Exchange.servedBy, hx.outer, hcycle]
    rfl
  · rcases policy_step hstep hother with hleft | ⟨rfl, hloop⟩ | hstays
    · exact .inl hleft
    · obtain ⟨-, ⟨q, hq, hmarks, -⟩, -⟩ := h.turn hv hp hloop
      exact .inr ⟨q, hq, hmarks⟩
    · exact .inr ⟨p, hstays.policy.trans hp, .refl _ p⟩

end

/-! ## A sample -/

/-- Takes up the outcome of the attempt that the loop waits for. -/
def told (c : Setup) (outcome : Outcome) (s : Cache) : Cache :=
  match s.loop with
  | .awaiting o x => takeUp c o s (x.receive s.now s.policy outcome)
  | _ => s

/-- Whom an outcome of that attempt puts in the wrong. -/
def culprit (outcome : Outcome) (s : Cache) : Option Target :=
  match s.loop with
  | .awaiting o x => x.guilty o.session outcome
  | _ => none

/-- Whether the loop waits for the outcome of an attempt. -/
def awaits (s : Cache) : Bool :=
  match s.loop with
  | .awaiting _ _ => true
  | _ => false

/-- The sample with two targets, started. -/
def guided : Cache :=
  turn .sample <| emit .sample .outside .started
    { create { now := 0, draws := [], policy := some { strategy :=
        { targets := [⟨"a", 8500⟩, ⟨"b", 8500⟩], window := 60 } } } with
      lifecycle := .starting, loop := .opening }

/-- The guided sample is guided, and about to poll. -/
theorem guided_guided : Guided .sample guided ∧ ∃ o, guided.loop = .polling o := by
  refine ⟨((Guided.create ⟨_, rfl, rfl⟩).step (.refl _) (.start rfl) ⟨_, rfl, rfl⟩).step (.refl _)
    (.turn _) ⟨_, rfl, rfl⟩, ?_⟩
  have hpolls : (match guided.loop with | .polling _ => true | _ => false) = true := by
    decide +kernel
  split at hpolls
  next o hloop => exact ⟨o, hloop⟩
  next => cases hpolls

/-- A poll of it goes on with an outcome. -/
theorem Poll.told {s t : Cache} {c : Setup} {marks : List (Target × Float)} {times : List Float}
    (h : Poll c s marks times t) (ht : t.awaits = true) (outcome : Outcome) (target : Target)
    (htarget : t.culprit outcome = some target) :
    Poll c s ((target, t.now) :: marks) (t.now :: times) (t.told c outcome) := by
  unfold awaits at ht
  split at ht
  next o x hloop =>
    have htook := h.took (.refl c) hloop outcome
    unfold culprit at htarget
    unfold Cache.told
    rw [hloop] at htarget ⊢
    dsimp only at htarget
    rw [htarget] at htook
    exact htook
  next => cases ht

/-- The sample cannot reach one target, and the other one answers with an error of the server: both
are on record. -/
theorem blamed_of_guided_sample : ∃ t q, Guided .sample guided ∧
    Poll .sample guided [(⟨"b", 8500⟩, 0), (⟨"a", 8500⟩, 0)] [0, 0, 0] t ∧ t.policy = some q ∧
      q.failure? ⟨"a", 8500⟩ = some 0 ∧ q.failure? ⟨"b", 8500⟩ = some 0 := by
  obtain ⟨hguided, o, hloop⟩ := guided_guided
  have hasked : Poll .sample guided [] [0] (turn .sample guided) := .asked (.refl _) hloop
  have hraised := hasked.told (by decide +kernel) (.raised (.transport .connectError "refused"))
    ⟨"a", 8500⟩ (by decide +kernel)
  have hanswered := hraised.told (by decide +kernel) (.response 503 [] []) ⟨"b", 8500⟩
    (by decide +kernel)
  obtain ⟨q, hq, hmarks⟩ := (blamed_of_guided hguided rfl).1 _ _ _ hanswered
  exact ⟨_, q, hguided, hanswered, hq, hmarks.marked _ _ (by decide +kernel),
    hmarks.marked _ _ (by decide +kernel)⟩

/-- The target that served an answer is blamed for it when it has the status of an error of the
server. -/
def BlamesServers (c : Setup) (s : Cache) : Prop :=
  ∀ o x status headers body target, s.loop = .awaiting o x → 500 ≤ status →
    x.servedBy = some target →
    ∃ q, (takeUp c o s (x.receive s.now s.policy (.response status headers body))).policy = some q ∧
      q.failure? target = some s.now

/-- Nobody is blamed for an answer whose text is not known, whatever error of the server it tells
of. -/
theorem not_blamesServers_of_unread :
    Guided .sample (turn .sample guided) ∧ ¬BlamesServers .sample (turn .sample guided) := by
  refine ⟨guided_guided.1.step (.refl _) (.turn _) ⟨_, rfl, rfl⟩, fun h => ?_⟩
  have hserved : ((turn .sample guided).loop.awaited?.bind fun e => e.2.servedBy) =
      some ⟨"a", 8500⟩ := by decide +kernel
  have hunread : ((turn .sample guided).told .sample (.response 503
      [("Content-Type", "text/html; charset=utf-16")] "oops".toUTF8.toList)).policy.bind
        (·.failure? ⟨"a", 8500⟩) = none := by
    rw [← Option.isNone_iff_eq_none]
    decide +kernel
  obtain ⟨⟨o, x⟩, hwaited, hserved⟩ := Option.bind_eq_some_iff.1 hserved
  have hloop := Loop.eq_of_awaited? hwaited
  obtain ⟨q, hq, hrecord⟩ := h o x 503 _ _ _ hloop (by decide) hserved
  rw [told, hloop, hq, Option.bind_some, hrecord] at hunread
  cases hunread

end Cache

end BlockingQuery
