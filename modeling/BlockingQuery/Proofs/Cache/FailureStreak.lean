import BlockingQuery.Proofs.Cache.Blame
import BlockingQuery.Proofs.Cache.RecordedStreak

/-!
# Blame that the policy does not record

When a poll fails with a failure that tells of a target to blame, the policy is to record it, and a
policy of the application may fail at that. Then the blame is `Unrecorded`: the poll is counted
twice, the observers are told of no failure, and the loop sleeps for the delay of the count that is
one too high (`Doubled`). No other poll that fails is counted twice (`reported_iff`).

A `FailureStreak` is a run in which the polls that failed in a row are counted from outside, and
those of them whose blame was not recorded once more by themselves. Every run is one
(`failureStreak_of_run`), and what the cache has for the number of failures in a row is the sum of
both (`counted_of_run`).
-/

namespace BlockingQuery

namespace Cache

/-- A poll fails, the failure tells of a target to blame, and the policy fails to record it. -/
def Unrecorded (c : Setup) (s t : Cache) : Prop :=
  Accusation c s t ∧ ¬s.RecordsBlame

/-- The delay after two more failures. -/
def doubledDelay (c : Setup) (s : Cache) : Float :=
  c.config.backoff (s.errorCount + 2 : Nat) s.draw.1

/-- Two failures were counted, the observers were told of none, and the loop sleeps for the delay
after two, if it is positive, before it goes on with the session `o`. In a cache that is stopped
the loop is over. -/
structure Doubled (c : Setup) (o : OpenSession) (s t : Cache) : Prop where
  count : t.errorCount = s.errorCount + 2
  reports : reports t.trace = reports s.trace
  loop : t.loop = if t.isStopped then .ended
    else if 0 < doubledDelay c s then .sleeping (doubledDelay c s) (some o) else awake (some o)

/-- A cache that came through a run, in the last `n` polls of which it failed, and in `k` of these
the policy failed to record the blame. -/
inductive FailureStreak (c : Setup) : Nat → Nat → Cache → Prop
  | create (left : Surroundings) : FailureStreak c 0 0 (create left)
  /-- Another poll fails, and is accounted for. -/
  | failed {n k : Nat} {s t : Cache} {d : Setup} (h : FailureStreak c n k s) (hv : c.Varies d)
    (hfail : Mishap d s t) (hnoted : ¬Unrecorded d s t) : FailureStreak c (n + 1) k t
  /-- Another poll fails, and its blame is not recorded. -/
  | unrecorded {n k : Nat} {s t : Cache} {d : Setup} (h : FailureStreak c n k s) (hv : c.Varies d)
    (hunrecorded : Unrecorded d s t) : FailureStreak c (n + 1) (k + 1) t
  /-- A poll succeeds. -/
  | succeeded {n k : Nat} {s t : Cache} {d : Setup} (h : FailureStreak c n k s) (hv : c.Varies d)
    (hsuccess : Success d s t) : FailureStreak c 0 0 t
  /-- Something else happens. -/
  | passed {n k : Nat} {s t : Cache} {d : Setup} {heard : Option Answer} (h : FailureStreak c n k s)
    (hv : c.Varies d) (hstep : Step d s heard t) (hfail : ¬Mishap d s t)
    (hsuccess : ¬Success d s t) : FailureStreak c n k t

section
variable {c : Setup} {s t u : Cache} {n k : Nat} {o : OpenSession} {b : Setback} {target : Target}
  {heard : Option Answer} {as : List Answer}

/-! ## A failure that is counted twice -/

/-- A policy that fails to record blame has the failure counted once more, and nobody told. -/
theorem fail_unrecorded (c : Setup) (hs : ¬s.RecordsBlame) (hb : b.blamed = some target) : ∃ policy,
    fail c b s = backoff c { s with policy, errorCount := s.errorCount + 2 } := by
  unfold RecordsBlame at hs
  push Not at hs
  obtain ⟨p, hp, hfaulty⟩ := hs
  have hmark : p.mark s.now target = (.error (.strategy .marking), p) := if_pos hfaulty
  refine ⟨some p, ?_⟩
  unfold fail
  dsimp only
  rw [hb, hp]
  dsimp only
  rw [hmark]

/-- The delay for the failures so far, which counts nothing. -/
theorem uncounted_backoff (c : Setup) (s : Cache) :
    (backoff c s).1 = c.config.backoff s.errorCount s.draw.1 ∧ Uncounted s (backoff c s).2 := by
  have hdrawn := uncounted_draw s
  refine ⟨?_, hdrawn⟩
  rw [← hdrawn.count]
  rfl

/-- The loop pauses after such a failure with the session that it has. -/
theorem doubled_setBack (c : Setup) (o : OpenSession) (hs : ¬s.RecordsBlame)
    (hb : b.blamed = some target) : Doubled c o s (setBack c o b s) := by
  obtain ⟨policy, hfail⟩ := fail_unrecorded c hs hb
  obtain ⟨hdelay, hcounted⟩ :=
    uncounted_backoff c { s with policy, errorCount := s.errorCount + 2 }
  have hdraw : ({ s with policy, errorCount := s.errorCount + 2 } : Cache).draw.1 = s.draw.1 :=
    draw_congr rfl
  rw [hdraw] at hdelay
  rw [← hfail] at hdelay hcounted
  have hpause := hcounted.trans (uncounted_pause o (doubledDelay c s) (fail c b s).2)
  have heq : setBack c o b s = pause o (doubledDelay c s) (fail c b s).2 := by
    rw [doubledDelay, ← hdelay]
    rfl
  rw [heq]
  exact ⟨hpause.count, hpause.reports, loop_pause ..⟩

/-- A failure is counted twice just as well if the policy was looked at before. -/
theorem Doubled.after {policy : Option (Policy Float)} (h : Doubled c o { s with policy } t) :
    Doubled c o s t := by
  have hdraw : ({ s with policy } : Cache).draw.1 = s.draw.1 := draw_congr rfl
  have hdelay : doubledDelay c { s with policy } = doubledDelay c s := by
    rw [doubledDelay, hdraw, doubledDelay]
  refine ⟨h.count, h.reports, ?_⟩
  rw [← hdelay]
  exact h.loop

/-- A policy that was given an outcome records the blame no better than before. -/
theorem not_recordsBlame_receive (hs : ¬s.RecordsBlame) (x : Exchange) (outcome : Outcome) :
    ¬({ s with policy := (x.receive s.now s.policy outcome).2 } : Cache).RecordsBlame := fun h =>
  hs (h.congr (x.faulty_receive s.now s.policy outcome).symm)

/-- A poll whose blame is not recorded is counted twice. -/
theorem doubled_of_unrecorded (h : Unrecorded c s t) : ∃ o, Doubled c o s t := by
  obtain ⟨haccused, hs⟩ := h
  cases haccused with
  | @unanswered o x f target outcome hloop h hblamed =>
    rw [takeUp_failed h]
    exact ⟨o, (doubled_setBack c o (not_recordsBlame_receive hs x outcome) hblamed).after⟩
  | @unread o x r f target outcome hloop hr h hblamed =>
    rw [takeUp_unread hr h]
    exact ⟨_, (doubled_setBack c _ (not_recordsBlame_receive hs x outcome) hblamed).after⟩

/-- A poll that fails is counted once and told once just if the policy does not fail to record its
blame. -/
theorem reported_iff (h : Mishap c s t) : (∃ o, Reported c o s t) ↔ ¬Unrecorded c s t := by
  constructor
  · rintro ⟨o, hreported⟩ hunrecorded
    obtain ⟨o', hdoubled⟩ := doubled_of_unrecorded hunrecorded
    have hcount := hreported.count.symm.trans hdoubled.count
    omega
  · intro hnoted
    obtain ⟨u, hbeforehand, hfailed⟩ := beforeFailure_of_mishap h
    obtain ⟨hdraws, hfaulty⟩ := hbeforehand.surroundings
    rcases hfailed with ⟨o, b, rfl, hblamed⟩ | ⟨f, rfl⟩
    · have hrecords (haccused : Accusation c s (setBack c o b u)) : u.RecordsBlame :=
        (not_not.1 fun hs => hnoted ⟨haccused, hs⟩).congr hfaulty
      exact ⟨_, (reported_setBack o (hblamed.imp_right hrecords)).after hbeforehand.uncounted
        hdraws⟩
    · exact ⟨_, (reported_retreat c f u).after hbeforehand.uncounted hdraws⟩

/-! ## Streaks of failures -/

/-- A streak goes on with any step. -/
theorem FailureStreak.step {d : Setup} (h : FailureStreak c n k s) (hv : c.Varies d)
    (hstep : Step d s heard t) : ∃ n k, FailureStreak c n k t := by
  by_cases hunrecorded : Unrecorded d s t
  · exact ⟨_, _, .unrecorded h hv hunrecorded⟩
  · by_cases hfail : Mishap d s t
    · exact ⟨_, _, .failed h hv hfail hunrecorded⟩
    · by_cases hsuccess : Success d s t
      · exact ⟨_, _, .succeeded h hv hsuccess⟩
      · exact ⟨_, _, .passed h hv hstep hfail hsuccess⟩

/-- Every run is a streak. -/
theorem failureStreak_of_run (h : Run c as s) : ∃ n k, FailureStreak c n k s := by
  obtain ⟨left, hsteps⟩ := h
  induction hsteps with
  | refl => exact ⟨0, 0, .create left⟩
  | tail _ hv hstep ih =>
    obtain ⟨n, k, h⟩ := ih
    exact h.step hv hstep

/-- The cache counts the polls of a streak, and those whose blame was not recorded once more. -/
theorem FailureStreak.count (h : FailureStreak c n k s) : s.errorCount = n + k := by
  induction h with
  | create => rfl
  | failed _ _ hfail hnoted ih =>
    obtain ⟨o, hreported⟩ := (reported_iff hfail).2 hnoted
    rw [hreported.count, ih]
    omega
  | unrecorded _ _ hunrecorded ih =>
    obtain ⟨o, hdoubled⟩ := doubled_of_unrecorded hunrecorded
    rw [hdoubled.count, ih]
    omega
  | succeeded _ _ hsuccess => exact (resets_of_success hsuccess).1
  | passed _ _ hstep hfail hsuccess ih =>
    exact (uncounted_of_passed hstep hfail hsuccess).count.trans ih

end

end Cache

/-! ## Errors of the server -/

/-- A response with the status of an error of the server gives no answer. -/
theorem Session.error_of_receive (session : Session) {r : Response} (h : 500 ≤ r.status) :
    ∃ f, (session.receive r).1 = .error f := by
  cases hreceive : (session.receive r).1 with
  | error f => exact ⟨f, rfl⟩
  | ok a =>
    exfalso
    rcases Answer.status_of_ofResponse (takesUp_of_receive hreceive).2 with hmissing | ⟨-, hhigh⟩
    all_goals omega

namespace Cache

section
variable {c : Setup} {s : Cache} {as : List Answer} {o : OpenSession} {x : Exchange} {r : Response}

/-- When a poll is answered with an error of the server, its blame is not recorded just if the
failure is charged to a target and the policy fails to record blame. -/
theorem unrecorded_iff (outcome : Outcome) (hloop : s.loop = .awaiting o x)
    (hr : (x.receive s.now s.policy outcome).1 = .answered r) (hstatus : 500 ≤ r.status) :
    Mishap c s (takeUp c o s (x.receive s.now s.policy outcome)) ∧
      (Unrecorded c s (takeUp c o s (x.receive s.now s.policy outcome)) ↔
        (Failure.charged (o.session.receive r).1).isSome ∧ ¬s.RecordsBlame) := by
  obtain ⟨f, hf⟩ := o.session.error_of_receive hstatus
  refine ⟨.unread outcome hloop hr hf, ?_⟩
  rw [hf]
  change _ ↔ f.blamed.isSome ∧ _
  constructor
  · intro hunrecorded
    refine ⟨?_, hunrecorded.2⟩
    -- Blaming nobody it would have been counted once.
    rw [Option.isSome_iff_ne_none]
    intro hnone
    have hreported := (reported_setBack (c := c) (b := .ofQuery f)
      (s := { s with policy := (x.receive s.now s.policy outcome).2 })
      { o with session := (o.session.receive r).2 } (.inl hnone))
    obtain ⟨o', hdoubled⟩ := doubled_of_unrecorded hunrecorded
    rw [← takeUp_unread hr hf] at hreported
    have hcount := hreported.count.symm.trans hdoubled.count
    dsimp only at hcount
    omega
  · rintro ⟨hsome, hs⟩
    obtain ⟨target, hblamed⟩ := Option.isSome_iff_exists.1 hsome
    exact ⟨.unread outcome hloop hr hf hblamed, hs⟩

/-- In every run the cache counts the polls that failed in a row, and those whose blame was not
recorded once more. Of the polls that fail now, one whose blame is not recorded is counted twice,
nobody is told, and the delay is the one after two failures; any other, however it fails, is counted
once, the observers are told so once, with the count and the delay that the configuration has for
it, and the loop sleeps for just that delay. A poll that is answered with an error of the server
fails, and its blame is not recorded just if the failure is charged to a target and the policy fails
to record that. -/
theorem counted_of_run (h : Run c as s) :
    ((∃ n k, FailureStreak c n k s) ∧ ∀ n k, FailureStreak c n k s → s.errorCount = n + k) ∧
    (∀ d t, c.Varies d → Mishap d s t →
      (Unrecorded d s t → ∃ o, Doubled d o s t) ∧ (¬Unrecorded d s t ↔ ∃ o, Reported d o s t)) ∧
    ∀ d o x outcome r, c.Varies d → s.loop = .awaiting o x →
      (x.receive s.now s.policy outcome).1 = .answered r → 500 ≤ r.status →
      Mishap d s (takeUp d o s (x.receive s.now s.policy outcome)) ∧
        (Unrecorded d s (takeUp d o s (x.receive s.now s.policy outcome)) ↔
          (Failure.charged (o.session.receive r).1).isSome ∧ ¬s.RecordsBlame) :=
  ⟨⟨failureStreak_of_run h, fun _ _ hstreak => hstreak.count⟩,
    fun _ _ _ hfail => ⟨doubled_of_unrecorded, (reported_iff hfail).symm⟩,
    fun _ _ _ outcome _ _ hloop hr hstatus => unrecorded_iff outcome hloop hr hstatus⟩

end

/-! ## A sample -/

end Cache

/-- The response to an attempt whose target is unavailable. -/
def Exchange.unavailable (x : Exchange) : Response :=
  { status := 503, headers := [], body := [], url := some x.asked, servedBy := x.servedBy }

namespace Cache

/-- The sample with a policy that fails to record any blame. Its first poll is under way. -/
def unrecording : Cache :=
  turn .sample <| turn .sample <| emit .sample .outside .started
    { create { now := 0, draws := [], policy := some {
        strategy := { targets := [⟨"a", 8500⟩], window := 60 }, faulty := some .marking } } with
      lifecycle := .starting, loop := .opening }

/-- The sample whose policy fails to record came through a run. -/
theorem run_unrecording : Run .sample [] unrecording := by
  refine ⟨_, ((Steps.refl.tail (.refl _) (.start rfl)).tail (.refl _) (.turn _)).tail (.refl _)
    (.turn _)⟩

/-- Whether a failure is charged to a target when the attempt that the loop waits for is answered
with an error of the server. -/
def charges (s : Cache) : Bool :=
  match s.loop with
  | .awaiting o x => (Failure.charged (o.session.receive x.unavailable).1).isSome
  | _ => false

/-- The policy of the sample fails to record blame, and the failure is charged to a target when the
poll is answered with an error of the server. -/
theorem unrecording_charged : ¬unrecording.RecordsBlame ∧ ∃ o x, unrecording.loop = .awaiting o x ∧
    (Failure.charged (o.session.receive x.unavailable).1).isSome := by
  have hfaulty : (unrecording.policy.map (·.faulty)) = some (some .marking) := by decide +kernel
  have hcharged : unrecording.charges = true := by decide +kernel
  constructor
  · intro hs
    obtain ⟨p, hp, hmarking⟩ := Option.map_eq_some_iff.1 hfaulty
    exact hs p hp hmarking
  · unfold charges at hcharged
    split at hcharged
    next o x hloop => exact ⟨o, x, hloop, hcharged⟩
    next => cases hcharged

/-- One error of the server and the sample has counted two failures, of which nobody was told. -/
theorem counted_of_run_unrecording : ∃ t, Run .sample [] unrecording ∧
    Mishap .sample unrecording t ∧ unrecording.errorCount = 0 ∧ t.errorCount = 2 ∧
    reports t.trace = [] := by
  obtain ⟨hs, o, x, hloop, hcharged⟩ := unrecording_charged
  obtain ⟨⟨⟨n, k, hstreak⟩, hcount⟩, hfails, herrors⟩ := counted_of_run run_unrecording
  obtain ⟨hfail, hunrecorded⟩ := herrors .sample o x (.response 503 [] []) x.unavailable
    (.refl _) hloop rfl (by decide : (500 : Int) ≤ 503)
  obtain ⟨o', hdoubled⟩ := (hfails .sample _ (.refl _) hfail).1 (hunrecorded.2 ⟨hcharged, hs⟩)
  have hnone : unrecording.errorCount = 0 ∧ reports unrecording.trace = [] := by decide +kernel
  refine ⟨_, run_unrecording, hfail, hnone.1, ?_, hdoubled.reports.trans hnone.2⟩
  rw [hdoubled.count, hnone.1]

/-- A poll that is answered with an error of the server is accounted for like any other failure when
the policy fails to note the blame. -/
def AccountsForErrors (c : Setup) (s : Cache) : Prop :=
  ∀ o x outcome r, s.loop = .awaiting o x →
    (x.receive s.now s.policy outcome).1 = .answered r → 500 ≤ r.status →
    (Failure.charged (o.session.receive r).1).isSome → ¬s.RecordsBlame →
    ∃ o', Reported c o' s (takeUp c o s (x.receive s.now s.policy outcome))

/-- The failed poll of the sample is counted twice. -/
theorem not_accountsForErrors_of_unrecording :
    Run .sample [] unrecording ∧ ¬AccountsForErrors .sample unrecording := by
  refine ⟨run_unrecording, fun h => ?_⟩
  obtain ⟨hs, o, x, hloop, hcharged⟩ := unrecording_charged
  obtain ⟨o', hreported⟩ := h o x (.response 503 [] []) x.unavailable hloop rfl
    (by decide : (500 : Int) ≤ 503) hcharged hs
  have hcount : (unrecording.told .sample (.response 503 [] [])).errorCount =
      unrecording.errorCount + 2 := by decide +kernel
  rw [told, hloop] at hcount
  have hone := hreported.count.symm.trans hcount
  omega

end Cache

end BlockingQuery
