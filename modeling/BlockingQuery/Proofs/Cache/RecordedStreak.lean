import BlockingQuery.Proofs.Cache.Ending
import BlockingQuery.Proofs.Cache.Mishap

/-!
# Polls that fail in a row

A `RecordedStreak` is a run with a policy that records blame, in which the polls that failed since
the last one that succeeded are counted from outside, by what happens to the polls and not by what
the cache keeps: a step in which a poll fails (`Mishap`) makes the streak longer, one in which a
poll succeeds (`Success`) ends it, and no other step has to do with it.

The cache keeps the same count, however sessions that are not opened, queries that fail and answers
come one after the other (`tallied_of_streak`). A poll that fails is told once, with that count and
the delay that is reckoned from it, and that is the delay that the loop sleeps for. Asleep, it wakes
up to go on, or it is stopped.
-/

namespace BlockingQuery

namespace Cache

/-- A cache that came through a run, in the last `n` polls of which it failed. Its policy records
blame all along. -/
inductive RecordedStreak (c : Setup) : Nat → Cache → Prop
  | create {left : Surroundings} (h : (create left).RecordsBlame) : RecordedStreak c 0 (create left)
  /-- Another poll fails. -/
  | failed {n : Nat} {s t : Cache} {d : Setup} (h : RecordedStreak c n s) (hv : c.Varies d)
    (hfail : Mishap d s t) (ht : t.RecordsBlame) : RecordedStreak c (n + 1) t
  /-- A poll succeeds. -/
  | succeeded {n : Nat} {s t : Cache} {d : Setup} (h : RecordedStreak c n s) (hv : c.Varies d)
    (hsuccess : Success d s t) (ht : t.RecordsBlame) : RecordedStreak c 0 t
  /-- Something else happens. -/
  | passed {n : Nat} {s t : Cache} {d : Setup} {heard : Option Answer} (h : RecordedStreak c n s)
    (hv : c.Varies d) (hstep : Step d s heard t) (hfail : ¬Mishap d s t) (hsuccess : ¬Success d s t)
    (ht : t.RecordsBlame) : RecordedStreak c n t

section
variable {c : Setup} {s t : Cache} {n : Nat} {delay : Float} {o : Option OpenSession}
  {heard : Option Answer}

/-- A poll that succeeds is a step. -/
theorem Success.step (h : Success c s t) : ∃ heard, Step c s heard t := by
  cases h with
  | unchanged outcome hloop | changed outcome hloop => exact ⟨_, .receive outcome hloop⟩

/-- No poll fails or succeeds but where one is under way. -/
theorem loop_of_verdict (h : Mishap c s t ∨ Success c s t) :
    isReady s.loop = true ∨ ∃ o x, s.loop = .awaiting o x := by
  rcases h with hfail | hsuccess
  · cases hfail with
    | unopened hloop | unbuilt hloop | unsaid hloop | unviable hloop | unasked hloop
    | unsent hloop => exact .inl (by rw [hloop]; rfl)
    | unanswered _ hloop | unread _ hloop | unindexed _ hloop | unkeyed _ hloop =>
      exact .inr ⟨_, _, hloop⟩
  · cases hsuccess with
    | unchanged _ hloop | changed _ hloop => exact .inr ⟨_, _, hloop⟩

/-- A streak is as long as before where no poll was under way. -/
theorem RecordedStreak.waits {d : Setup} (h : RecordedStreak c n s) (hv : c.Varies d)
    (hstep : Step d s heard t) (hready : ¬isReady s.loop = true)
    (hloop : ∀ o x, s.loop ≠ .awaiting o x) (ht : t.RecordsBlame) : RecordedStreak c n t := by
  have hidle : ¬(Mishap d s t ∨ Success d s t) := fun hverdict =>
    (loop_of_verdict hverdict).elim hready fun ⟨o, x, hl⟩ => hloop o x hl
  exact .passed h hv hstep (fun hfail => hidle (.inl hfail)) (fun hok => hidle (.inr hok)) ht

/-- A streak goes on with any step, as long as the policy records the blame. -/
theorem RecordedStreak.step {d : Setup} (h : RecordedStreak c n s) (hv : c.Varies d)
    (hstep : Step d s heard t) (ht : t.RecordsBlame) : ∃ m, RecordedStreak c m t := by
  by_cases hfail : Mishap d s t
  · exact ⟨n + 1, .failed h hv hfail ht⟩
  · by_cases hsuccess : Success d s t
    · exact ⟨0, .succeeded h hv hsuccess ht⟩
    · exact ⟨n, .passed h hv hstep hfail hsuccess ht⟩

/-- A streak is a run. -/
theorem RecordedStreak.run (h : RecordedStreak c n s) : ∃ as, Run c as s := by
  induction h with
  | @create left => exact ⟨[], left, .refl⟩
  | failed _ hv hfail _ ih =>
    obtain ⟨as, h⟩ := ih
    obtain ⟨heard, hstep⟩ := hfail.step
    exact ⟨_, h.steps (.tail .refl hv hstep)⟩
  | succeeded _ hv hsuccess _ ih =>
    obtain ⟨as, h⟩ := ih
    obtain ⟨heard, hstep⟩ := hsuccess.step
    exact ⟨_, h.steps (.tail .refl hv hstep)⟩
  | passed _ hv hstep _ _ _ ih =>
    obtain ⟨as, h⟩ := ih
    exact ⟨_, h.steps (.tail .refl hv hstep)⟩

/-- The policy records the blame where a streak has come to. -/
theorem RecordedStreak.recordsBlame (h : RecordedStreak c n s) : s.RecordsBlame := by
  cases h with
  | create h => exact h
  | failed _ _ _ ht | succeeded _ _ _ ht | passed _ _ _ _ _ ht => exact ht

/-- A step in which no poll fails or succeeds counts nothing. -/
theorem uncounted_of_passed (hstep : Step c s heard t) (hfail : ¬Mishap c s t)
    (hsuccess : ¬Success c s t) : Uncounted s t :=
  ((step_cases hstep).resolve_left hfail).resolve_left hsuccess

/-- The cache counts the polls of the streak. -/
theorem RecordedStreak.count (h : RecordedStreak c n s) : s.errorCount = n := by
  induction h with
  | create => rfl
  | failed h _ hfail _ ih =>
    obtain ⟨o, hreported⟩ := reported_of_mishap h.recordsBlame hfail
    rw [hreported.count, ih]
  | succeeded _ _ hsuccess => exact (resets_of_success hsuccess).1
  | passed _ _ hstep hfail hsuccess _ ih =>
    exact (uncounted_of_passed hstep hfail hsuccess).count.trans ih

/-- A loop that sleeps goes on sleeping, unless its sleep is over or the cache is stopped. -/
theorem asleep_step (hs : Steady s) (hloop : s.loop = .sleeping delay o) (h : Step c s heard t) :
    t.isStopped = true ∨ t.loop = .sleeping delay o ∨ t.loop = awake o := by
  cases loop_step h with
  | left h => exact h.imp_right fun ⟨_, hsame⟩ => .inl (hsame.trans hloop)
  | started hn =>
    have hidle := (hs.unstarted hn).1
    rw [hloop] at hidle
    cases hidle
  | turned hready =>
    rw [hloop] at hready
    cases hready
  | woken hl h =>
    cases hl.symm.trans hloop
    exact .inr (.inr h)
  | received hl => cases hl.symm.trans hloop
  | released hl => cases hl.symm.trans hloop

/-- In every run in which the policy does not fail when a target is blamed, the cache counts the
polls that failed in a row. When another one fails, however it fails, the observers are told so
once, with the count and the delay that the configuration has for it; the loop sleeps for just that
delay, or goes on at once if it is none, and in a cache that is stopped it ends. A poll that
succeeds ends the streak, whether it brought anything new or not, and nothing else counts or tells
anything. A loop that sleeps belongs to a cache that is not stopped, and it sleeps until the delay
is over, unless the cache is stopped before; then it is at rest. -/
theorem tallied_of_streak (h : RecordedStreak c n s) :
    s.errorCount = n ∧
    (∀ d t, c.Varies d → Mishap d s t → t.errorCount = n + 1 ∧
      ∃ delay o, delay = c.config.backoff (n + 1 : Nat) s.draw.1 ∧
        reports t.trace = reports s.trace ++ [(n + 1, delay)] ∧
        t.loop = if t.isStopped then .ended else if 0 < delay then .sleeping delay o else awake o) ∧
    (∀ d t, c.Varies d → Success d s t →
      t.errorCount = 0 ∧ reports t.trace = reports s.trace) ∧
    (∀ d heard t, c.Varies d → Step d s heard t → ¬Mishap d s t → ¬Success d s t →
      t.errorCount = n ∧ reports t.trace = reports s.trace) ∧
    ∀ delay o, s.loop = .sleeping delay o → s.isStopped = false ∧
      ∀ d heard t, c.Varies d → Step d s heard t →
        t.isStopped = true ∧ t.loop.IsAtRest ∨ t.loop = .sleeping delay o ∨ t.loop = awake o := by
  obtain ⟨as, hrun⟩ := h.run
  obtain ⟨left, -, hsteady⟩ := moves_of_run hrun
  refine ⟨h.count, fun d t hv hfail => ?_, fun d t _ hsuccess => resets_of_success hsuccess,
    fun d heard t _ hstep hfail hsuccess => ?_, fun delay o hloop => ⟨?_, ?_⟩⟩
  · obtain ⟨o, hcount, hreports, hloop⟩ := reported_of_mishap h.recordsBlame hfail
    have hdelay : nextDelay d s = c.config.backoff (n + 1 : Nat) s.draw.1 := by
      rw [nextDelay, h.count, hv.config]
    rw [h.count] at hcount hreports
    exact ⟨hcount, nextDelay d s, o, hdelay, hreports, hloop⟩
  · have hsame := uncounted_of_passed hstep hfail hsuccess
    exact ⟨hsame.count.trans h.count, hsame.reports⟩
  · rw [Bool.eq_false_iff]
    intro hs
    have hrest := hsteady.atRest hs
    rw [hloop] at hrest
    exact hrest
  · intro d heard t _ hstep
    rcases asleep_step hsteady hloop hstep with ht | ht
    · exact .inl ⟨ht, (steady_step hsteady hstep).atRest ht⟩
    · exact .inr ht

end

end Cache

/-- The sample where no session can be opened. -/
def Setup.refused : Setup :=
  { Setup.sample with openFault := fun _ => some (.transport .connectError "refused") }

namespace Cache

/-- The refused sample when it was started. -/
def refused : Cache :=
  emit .refused .outside .started
    { create { now := 0, draws := [], policy := none } with
      lifecycle := .starting, loop := .opening }

/-- The observers of the refused sample are told of two failures in a row, of the second one with
twice the delay. -/
theorem tallied_of_streak_refused : ∃ t u, RecordedStreak .refused 1 t ∧ Mishap .refused t u ∧
    u.errorCount = 2 ∧ reports u.trace = [(1, 1), (2, 2)] := by
  have records (t : Cache) (ht : t.policy = none) : t.RecordsBlame := fun p hp => by
    rw [ht] at hp
    cases hp
  have hcreate : RecordedStreak .refused 0 (create { now := 0, draws := [], policy := none }) :=
    .create (records _ rfl)
  have hstart : RecordedStreak .refused 0 refused :=
    hcreate.waits (.refl _) (.start rfl) Bool.false_ne_true (fun _ _ => Loop.noConfusion)
      (records _ rfl)
  have hfirst : Mishap .refused refused (turn .refused refused) := .unopened rfl rfl rfl
  have hone : RecordedStreak .refused 1 (turn .refused refused) :=
    .failed hstart (.refl _) hfirst (records _ rfl)
  have hcheck : (match (turn .refused refused).loop with
      | .sleeping _ none => true
      | .sleeping _ (some _) | .idle | .opening | .polling _ | .awaiting .. | .notifying ..
      | .ended => false) = true := by decide +kernel
  split at hcheck
  next delay hloop =>
    let awake : Cache := { turn .refused refused with loop := .opening }
    have hwake : RecordedStreak .refused 1 awake :=
      hone.waits (.refl _) (.wake hloop) (by rw [hloop]; exact Bool.false_ne_true)
        (fun _ _ hl => Loop.noConfusion (hl.symm.trans hloop)) (records _ rfl)
    have hsecond : Mishap .refused awake (turn .refused awake) := .unopened rfl rfl rfl
    obtain ⟨hcount, delay, o, hdelay, hreports, -⟩ :=
      (tallied_of_streak hwake).2.1 .refused _ (.refl _) hsecond
    refine ⟨awake, _, hwake, hsecond, hcount, hreports.trans ?_⟩
    rw [hdelay]
    decide +kernel
  all_goals cases hcheck

end Cache

end BlockingQuery
