import BlockingQuery.Proofs.Cache.Run

/-!
# Failures that are counted and told

A failure of the poll loop is counted, and the observers are told how many there have been in a row
and how long the delay is (`reports`). Nothing else does either: `Uncounted` holds of all that the
application does when it is called, of stopping, and of whatever the loop does on its way from one
poll to the next. Where a poll failed (`Reported`), there is one failure more, one report of it, and
the delay of the report is the pause that the loop makes, unless the cache is stopped. It takes a
policy that does not fail when a target is blamed (`RecordsBlame`).
-/

namespace BlockingQuery

/-- The failure that the observers are told of: how many there have been in a row, and the delay. -/
def Occurrence.report? : Occurrence → Option (Nat × Float)
  | .emitted (.failed _ count delay _) => some (count, delay)
  | _ => none

/-- A remark is no report. -/
theorem Occurrence.IsRemark.report?_eq_none {s : Cache} {o : Occurrence} (h : o.IsRemark s) :
    o.report? = none := by
  cases o with
  | emitted e =>
    cases e with
    | failed => exact h.elim
    | started | stopped | changed | unchanged | listenerFailed => rfl
  | opening | connected | closed | requested | heard | committed | observed | added | removed
  | called | looked | stopReturned => rfl

namespace Cache

/-- The failures that the observers were told of, in their order. -/
def reports (os : List Occurrence) : List (Nat × Float) :=
  (os.filterMap Occurrence.report?).reverse

/-- The policy, if there is one, does not fail when a target is blamed. -/
def RecordsBlame (s : Cache) : Prop :=
  ∀ p, s.policy = some p → p.faulty ≠ some .marking

/-- No failure is counted, and the observers are told of none. -/
structure Uncounted (s t : Cache) : Prop where
  count : t.errorCount = s.errorCount
  reports : reports t.trace = reports s.trace

section
variable {c : Setup} {place : Place} {s t u : Cache} {o : Occurrence} {os : List Occurrence}

/-- What is no report adds none. -/
@[simp] theorem reports_cons (h : o.report? = none) : reports (o :: os) = reports os := by
  simp [reports, h]

/-- A failure that the observers are told of adds a report. -/
@[simp] theorem reports_failed (f : Failure) (count : Nat) (delay : Float) (fatal : Bool)
    (os : List Occurrence) :
    reports (.emitted (.failed f count delay fatal) :: os) = reports os ++ [(count, delay)] := by
  simp [reports, Occurrence.report?]

namespace Uncounted

/-- A cache that stays as it is counts nothing. -/
protected theorem refl (s : Cache) : Uncounted s s :=
  ⟨rfl, rfl⟩

/-- What counts nothing may be followed by what counts nothing. -/
protected theorem trans (h : Uncounted s t) (k : Uncounted t u) : Uncounted s u :=
  ⟨k.count.trans h.count, k.reports.trans h.reports⟩

/-- Noting something that is no report counts nothing. -/
theorem note (s : Cache) (h : o.report? = none) : Uncounted s (s.note o) :=
  ⟨rfl, reports_cons h⟩

end Uncounted

/-! ## What counts nothing -/

/-- Each thing that stopping does counts nothing. -/
theorem halting_uncounted : Halting Uncounted where
  refl := .refl
  trans h k := h.trans k
  note s _ ho := .note s ho.report?_eq_none
  add l s := ⟨rfl, reports_cons rfl⟩
  remove l s := by
    unfold removeListener
    split
    next => exact ⟨rfl, reports_cons rfl⟩
    next => exact .refl s
  observers _ _ := ⟨rfl, rfl⟩
  stop s := .note s rfl
  mark _ := ⟨rfl, rfl⟩
  work _ _ := ⟨rfl, rfl⟩
  stopped s := .note s rfl
  call s _ _ := .note s rfl
  cancel s := by
    unfold cancelLoop
    split
    all_goals first | exact ⟨rfl, reports_cons rfl⟩ | exact ⟨rfl, rfl⟩

/-- Stopping counts nothing, wherever it is asked for. -/
theorem uncounted_stop (c : Setup) (place : Place) (s : Cache) :
    Uncounted s (stop c place s).2 :=
  halting_stop halting_uncounted c place s

/-- What the application does counts nothing, wherever it is called. -/
theorem uncounted_called (c : Setup) (place : Place) : Tolerant (stop c place) Uncounted :=
  halting_uncounted.tolerant c place

/-- Telling the observers of anything but a failure counts nothing. -/
theorem uncounted_emit (c : Setup) (place : Place) {e : Event}
    (he : (Occurrence.emitted e).report? = none) (s : Cache) : Uncounted s (emit c place e s) :=
  (uncounted_called c place).emitWith (.note s he)

/-- A round of calls from its beginning counts nothing. -/
theorem uncounted_notify (c : Setup) (place : Place) (snapshot : Snapshot) (s : Cache) :
    Uncounted s (notify c place snapshot s).2 := by
  unfold notify
  split
  next => exact .refl s
  next => exact (uncounted_called c place).notifyWith fun _ _ _ _ => .note _ rfl

/-- A round of calls that goes on counts nothing. -/
theorem uncounted_release (c : Setup) (place : Place) (held : Held) (s : Cache) :
    Uncounted s (release c place held s).2 :=
  (uncounted_called c place).releaseWith held fun _ _ _ _ => .note _ rfl

/-- Drawing a random number counts nothing. -/
theorem uncounted_draw (s : Cache) : Uncounted s s.draw.2 := by
  unfold draw
  split
  next => exact .refl s
  next => exact ⟨rfl, rfl⟩

/-- Leaving the loop counts nothing. -/
theorem uncounted_leave (s : Cache) : Uncounted s (leave s) :=
  ⟨rfl, reports_cons rfl⟩

/-- Pausing counts nothing. -/
theorem uncounted_pause (o : OpenSession) (delay : Float) (s : Cache) :
    Uncounted s (pause o delay s) := by
  unfold pause
  split
  next => exact uncounted_leave s
  next => exact ⟨rfl, rfl⟩

/-- The loop counts nothing where a round leaves it. -/
theorem uncounted_looped (o : OpenSession) (delay : Float) (round : Option Held × Cache) :
    Uncounted round.2 (looped o delay round) := by
  obtain ⟨_ | held, t⟩ := round
  · exact uncounted_pause o delay t
  · exact ⟨rfl, rfl⟩

/-- The worker counts nothing where a round leaves it. -/
theorem uncounted_worked (round : Option Held × Cache) : Uncounted round.2 (worked round) := by
  obtain ⟨_ | held, t⟩ := round <;> exact ⟨rfl, rfl⟩

/-- Having the listeners called counts nothing. -/
theorem uncounted_deliver (c : Setup) (o : OpenSession) (snapshot : Snapshot) (delay : Float)
    (s : Cache) : Uncounted s (deliver c o snapshot delay s) := by
  unfold deliver
  split
  next => exact uncounted_leave s
  next =>
    split
    next =>
      have hqueued : Uncounted s
          { s with worker := { s.worker with queue := s.worker.queue ++ [snapshot] } } := ⟨rfl, rfl⟩
      exact hqueued.trans (uncounted_pause o delay _)
    next =>
      exact (uncounted_notify c .pollLoop snapshot s).trans (uncounted_looped o delay _)

/-! ## A failure that is counted -/

/-- What is drawn does not depend on anything but the draws. -/
theorem draw_congr (h : t.draws = s.draws) : t.draw.1 = s.draw.1 := by
  unfold draw
  rw [h]
  cases s.draws <;> rfl

/-- The delay after another failure. -/
def nextDelay (c : Setup) (s : Cache) : Float :=
  c.config.backoff (s.errorCount + 1 : Nat) s.draw.1

/-- Another failure was counted, the observers were told of it once, and the loop sleeps for the
delay that they were told of, if it is positive, before it goes on with the session `o`, or opens
one. In a cache that is stopped the loop is over. -/
structure Reported (c : Setup) (o : Option OpenSession) (s t : Cache) : Prop where
  count : t.errorCount = s.errorCount + 1
  reports : reports t.trace = reports s.trace ++ [(s.errorCount + 1, nextDelay c s)]
  loop : t.loop = if t.isStopped then .ended
    else if 0 < nextDelay c s then .sleeping (nextDelay c s) o else awake o

/-- Telling the observers of the failures so far adds one report, with their number and the delay.
-/
theorem announce_reports (c : Setup) (b : Setback) (s : Cache) :
    (announce c b s).1 = c.config.backoff s.errorCount s.draw.1 ∧
      (announce c b s).2.errorCount = s.errorCount ∧
      reports (announce c b s).2.trace =
        reports s.trace ++ [(s.errorCount, c.config.backoff s.errorCount s.draw.1)] := by
  obtain ⟨hcount, hreports⟩ := uncounted_draw s
  have hdelay : (announce c b s).1 = c.config.backoff s.errorCount s.draw.1 := by
    rw [← hcount]
    rfl
  obtain ⟨kcount, kreports⟩ := (uncounted_called c .pollLoop).tell (c := c)
    (.failed b.failure s.draw.2.errorCount (announce c b s).1 b.fatal) s.draw.2
  refine ⟨hdelay, kcount.trans hcount, kreports.trans ?_⟩
  rw [note, reports_failed, hreports, hcount, hdelay]

/-- A policy records blame as long as it keeps its faults. -/
theorem RecordsBlame.congr (h : s.RecordsBlame)
    (hfaulty : t.policy.map (·.faulty) = s.policy.map (·.faulty)) : t.RecordsBlame := by
  intro q hq
  rw [hq] at hfaulty
  cases hp : s.policy with
  | none =>
    rw [hp] at hfaulty
    cases hfaulty
  | some p =>
    rw [hp] at hfaulty
    have hsame : q.faulty = p.faulty := Option.some.inj hfaulty
    rw [hsame]
    exact h p hp

/-- A failure is told if it blames nobody, or if the policy records the blame. -/
theorem fail_eq {b : Setback} (h : b.blamed = none ∨ s.RecordsBlame) : ∃ policy,
    fail c b s = announce c b { s with policy, errorCount := s.errorCount + 1 } := by
  unfold fail
  dsimp only
  split
  next t p hblamed hp =>
    have hs : s.RecordsBlame := h.resolve_left (by rw [hblamed]; exact Option.some_ne_none t)
    have hmark : p.mark s.now t = (.ok (), { p with strategy := p.strategy.mark s.now t }) :=
      if_neg (hs p hp)
    rw [hmark]
    exact ⟨_, rfl⟩
  next => exact ⟨s.policy, rfl⟩

/-- A failure that blames nobody, or whose blame the policy records, is counted once and told once,
with the delay that follows. -/
theorem fail_reports {b : Setback} (h : b.blamed = none ∨ s.RecordsBlame) :
    (fail c b s).1 = nextDelay c s ∧ (fail c b s).2.errorCount = s.errorCount + 1 ∧
      reports (fail c b s).2.trace = reports s.trace ++ [(s.errorCount + 1, nextDelay c s)] := by
  obtain ⟨policy, heq⟩ := fail_eq (c := c) h
  obtain ⟨hdelay, hcount, hreports⟩ :=
    announce_reports c b { s with policy, errorCount := s.errorCount + 1 }
  have hdraw : ({ s with policy, errorCount := s.errorCount + 1 } : Cache).draw.1 = s.draw.1 :=
    draw_congr rfl
  rw [hdraw] at hdelay hreports
  rw [heq]
  exact ⟨hdelay, hcount, hreports⟩

/-- A loop that pauses sleeps for the delay if that is positive, and is over in a cache that is
stopped. -/
theorem loop_pause (o : OpenSession) (delay : Float) (s : Cache) :
    (pause o delay s).loop = if (pause o delay s).isStopped then .ended
      else if 0 < delay then .sleeping delay (some o) else awake (some o) := by
  unfold pause
  split
  next h => exact (if_pos h).symm
  next h => exact (if_neg h).symm

/-- The loop pauses after a failure with the session that it has. -/
theorem reported_setBack (o : OpenSession) {b : Setback} (h : b.blamed = none ∨ s.RecordsBlame) :
    Reported c (some o) s (setBack c o b s) := by
  obtain ⟨hdelay, hcount, hreports⟩ := fail_reports (c := c) h
  have hpause := uncounted_pause o (nextDelay c s) (fail c b s).2
  have heq : setBack c o b s = pause o (nextDelay c s) (fail c b s).2 := by
    rw [← hdelay]
    rfl
  rw [heq]
  exact ⟨hpause.count.trans hcount, hpause.reports.trans hreports, loop_pause ..⟩

/-- A failure that left the loop without a session is reported, and the loop pauses. -/
theorem reported_retreat (c : Setup) (f : Failure) (s : Cache) :
    Reported c none s (retreat c f s) := by
  obtain ⟨hdelay, hcount, hreports⟩ := fail_reports (c := c) (b := { failure := f }) (.inl rfl)
  refine ⟨hcount, hreports, ?_⟩
  rw [← hdelay]
  rfl

/-- A failure is reported just as well after what counted nothing and drew nothing. -/
theorem Reported.after {r : Option OpenSession} (k : Reported c r t u) (h : Uncounted s t)
    (hdraws : t.draws = s.draws) : Reported c r s u := by
  have hdelay : nextDelay c t = nextDelay c s := by
    rw [nextDelay, h.count, draw_congr hdraws, nextDelay]
  refine ⟨?_, ?_, ?_⟩
  · rw [k.count, h.count]
  · rw [k.reports, h.reports, h.count, hdelay]
  · rw [← hdelay]
    exact k.loop

end

end Cache

end BlockingQuery
