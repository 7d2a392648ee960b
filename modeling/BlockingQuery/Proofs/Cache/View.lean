import BlockingQuery.Proofs.Cache.Run
import BlockingQuery.Proofs.Cache.Trace
import BlockingQuery.Proofs.Session

/-!
# The snapshot of a cache

What a cache shows depends on nothing but the answers that it heard. `Setup.view` folds over them:
an answer is adopted when its index is above that of the snapshot and its dataset can be keyed, and
any other answer leaves the snapshot alone. The invariant is `HasHistory`: the trace tells the
commits and the answers, the snapshot is the last commit, and whoever looked at the cache saw the
last commit there was. What is quiet keeps it, and so does a call of a listener, so it holds after
every run of what the fold says (`hasHistory_of_run`).
-/

namespace BlockingQuery

/-! ## The reference -/

namespace Setup

/-- The snapshots that answers make one after the other, the first of them after the snapshot `s`.
-/
def adoptions (c : Setup) (s : Snapshot) : List Answer → List Snapshot
  | [] => []
  | a :: as => match c.adopted? s a with
    | some new => new :: c.adoptions new as
    | none => c.adoptions s as

/-- The snapshot that answers lead to. -/
def view (c : Setup) (as : List Answer) : Snapshot :=
  as.foldl (fun s a => (c.adopted? s a).getD s) .empty

section
variable {c d : Setup} {s new : Snapshot} {a : Answer} {as : List Answer}

/-- The fold leads to the last snapshot that an answer made. -/
theorem foldl_eq_getLastD (c : Setup) (s : Snapshot) (as : List Answer) :
    as.foldl (fun s a => (c.adopted? s a).getD s) s = (c.adoptions s as).getLastD s := by
  induction as generalizing s with
  | nil => rfl
  | cons a as ih =>
    rw [List.foldl_cons, adoptions, ih]
    cases c.adopted? s a with
    | none => rfl
    | some new => exact (List.getLastD_cons ..).symm

/-- One answer more makes one snapshot more, if it is adopted. -/
theorem adoptions_concat (c : Setup) (s : Snapshot) (as : List Answer) (a : Answer) :
    c.adoptions s (as ++ [a]) =
      c.adoptions s as ++ (c.adopted? ((c.adoptions s as).getLastD s) a).toList := by
  induction as generalizing s with
  | nil => cases h : c.adopted? s a <;> simp [adoptions, h]
  | cons b as ih =>
    rw [List.cons_append, adoptions, adoptions]
    cases c.adopted? s b with
    | none => exact ih s
    | some new =>
      dsimp only
      rw [ih, List.getLastD_cons, List.cons_append]

/-- A snapshot is adopted from the answer alone, and its index is above the one before. -/
theorem of_adopted? (h : c.adopted? s a = some new) :
    c.snapshotOf a = .ok new ∧ s.isBelow a = true := by
  unfold adopted? at h
  split at h
  next hb =>
    cases hs : c.snapshotOf a with
    | error f => rw [hs] at h; cases h
    | ok t => rw [hs] at h; cases h; exact ⟨rfl, hb⟩
  next => cases h

/-- Keys that are taken in the same way make the same snapshots. -/
theorem Varies.adopted? (h : c.Varies d) (s : Snapshot) (a : Answer) :
    d.adopted? s a = c.adopted? s a := by
  have hkeyed (vs : List Json) : d.keyed vs = c.keyed vs := by
    induction vs with
    | nil => rfl
    | cons v vs ih => rw [keyed, keyed, h.key, ih]
  rw [Setup.adopted?, Setup.adopted?, snapshotOf, snapshotOf, hkeyed]

/-- Keys that are taken in the same way make the same snapshots one after the other. -/
theorem Varies.adoptions (h : c.Varies d) (s : Snapshot) (as : List Answer) :
    d.adoptions s as = c.adoptions s as := by
  induction as generalizing s with
  | nil => rfl
  | cons a as ih =>
    rw [Setup.adoptions, Setup.adoptions, h.adopted?]
    split
    · rw [ih]
    · exact ih s

end

end Setup

/-- The snapshot is what the dataset of an answer amounts to: each key where it comes first, with
the last entity that has it, and what else the answer tells. -/
structure Snapshot.Keys (c : Setup) (a : Answer) (s : Snapshot) : Prop where
  keyed : ∃ es, c.keyed a.dataset = .ok es ∧ s.entries.entries = OrderedMap.latest es
  index : s.index = a.index
  knownLeader : s.knownLeader = a.knownLeader
  lastContactMs : s.lastContactMs = a.lastContactMs

/-- One snapshot has a lesser index than another one. -/
def Snapshot.Precedes (s t : Snapshot) : Prop :=
  ∃ i j, s.index = some i ∧ t.index = some j ∧ i < j

section
variable {c : Setup} {s t u new : Snapshot} {a : Answer}

/-- What precedes a snapshot precedes those after it. -/
theorem Snapshot.Precedes.trans (h : s.Precedes t) (k : t.Precedes u) : s.Precedes u := by
  obtain ⟨i, j, hi, hj, hij⟩ := h
  obtain ⟨j', k, hj', hk, hjk⟩ := k
  obtain rfl : j = j' := Option.some.inj (hj.symm.trans hj')
  exact ⟨i, k, hi, hk, hij.trans hjk⟩

/-- A snapshot that is made from an answer is what the dataset amounts to. -/
theorem Setup.keys_of_snapshotOf (h : c.snapshotOf a = .ok new) : new.Keys c a := by
  unfold snapshotOf at h
  cases hk : c.keyed a.dataset with
  | error f => rw [hk] at h; cases h
  | ok es =>
    rw [hk] at h
    cases h
    exact ⟨⟨es, hk, OrderedMap.entries_ofList es⟩, rfl, rfl, rfl⟩

/-- A snapshot that is adopted is available, and comes after an available one. -/
theorem Setup.precedes_of_adopted? (h : c.adopted? s a = some new) :
    new.available = true ∧ (s.available = true → s.Precedes new) := by
  obtain ⟨hnew, hbelow⟩ := of_adopted? h
  have hindex := (keys_of_snapshotOf hnew).index
  unfold Snapshot.isBelow at hbelow
  unfold Snapshot.available Snapshot.Precedes
  rw [hindex]
  cases hj : a.index with
  | none => simp [hj] at hbelow
  | some j =>
    cases hi : s.index with
    | none => simp
    | some i => exact ⟨rfl, fun _ => ⟨i, j, rfl, rfl, by simpa [hi, hj] using hbelow⟩⟩

/-- Snapshots are adopted in the order of their indexes. -/
theorem Setup.adoptions_increase (c : Setup) (s : Snapshot) (as : List Answer) :
    (c.adoptions s as).Pairwise Snapshot.Precedes ∧
      ∀ t ∈ c.adoptions s as, t.available = true ∧ (s.available = true → s.Precedes t) := by
  induction as generalizing s with
  | nil => exact ⟨.nil, by simp [adoptions]⟩
  | cons a as ih =>
    rw [adoptions]
    split
    next new h =>
      obtain ⟨havail, hafter⟩ := precedes_of_adopted? h
      obtain ⟨hpair, hall⟩ := ih new
      refine ⟨List.pairwise_cons.2 ⟨fun t ht => (hall t ht).2 havail, hpair⟩, fun t ht => ?_⟩
      rcases List.mem_cons.1 ht with rfl | ht
      · exact ⟨havail, hafter⟩
      · exact ⟨(hall t ht).1, fun hs => (hafter hs).trans ((hall t ht).2 havail)⟩
    next => exact ih s

/-- Every snapshot that is adopted comes from one of the answers. -/
theorem Setup.snapshotOf_of_mem_adoptions {as : List Answer} (h : t ∈ c.adoptions s as) :
    ∃ a ∈ as, c.snapshotOf a = .ok t := by
  induction as generalizing s with
  | nil => cases h
  | cons a as ih =>
    rw [adoptions] at h
    split at h
    next new hnew =>
      rcases List.mem_cons.1 h with rfl | h
      · exact ⟨a, List.mem_cons_self, (of_adopted? hnew).1⟩
      · obtain ⟨b, hb, ht⟩ := ih h
        exact ⟨b, List.mem_cons_of_mem a hb, ht⟩
    next =>
      obtain ⟨b, hb, ht⟩ := ih h
      exact ⟨b, List.mem_cons_of_mem a hb, ht⟩

/-- Once an answer was adopted, there is a snapshot. -/
theorem Setup.available_foldl (c : Setup) (as : List Answer) (h : s.available = true) :
    (as.foldl (fun s a => (c.adopted? s a).getD s) s).available = true := by
  induction as generalizing s with
  | nil => exact h
  | cons a as ih =>
    refine ih ?_
    cases hnew : c.adopted? s a with
    | none => simpa [hnew] using h
    | some new => simpa [hnew] using (precedes_of_adopted? hnew).1

end

/-! ## The invariant -/

namespace Cache

/-- The trace tells the commits `news` and the answers `heard`, and the snapshot that the cache
shows, and showed to everybody who looked at it, is the last commit. -/
structure HasHistory (news : List Snapshot) (heard : List Answer) (s : Cache) : Prop where
  commits : commits s.trace = news
  answers : answers s.trace = heard
  snapshot : s.snapshot = latest s.trace
  looks : Always (fun o os => ∀ who seen, o = .looked who seen → seen.snapshot = latest os) s.trace

section
variable {c d : Setup} {s t : Cache} {news : List Snapshot} {heard : List Answer}

/-- The invariant speaks of the snapshot and the trace alone. -/
theorem HasHistory.congr (h : HasHistory news heard s) (hsnap : t.snapshot = s.snapshot)
    (htrace : t.trace = s.trace) :
    HasHistory news heard t where
  commits := htrace ▸ h.commits
  answers := htrace ▸ h.answers
  snapshot := by rw [hsnap, htrace, h.snapshot]
  looks := htrace ▸ h.looks

/-- What is quiet tells nothing new. -/
theorem hasHistory_quiet (h : HasHistory news heard s) (k : Quiet s t) :
    HasHistory news heard t := by
  obtain ⟨os, hos, hq, -⟩ := k.grown
  have hcommits : commits (os ++ s.trace) = commits s.trace :=
    commits_append fun o ho => committed?_of_isQuiet (hq o ho)
  refine ⟨?_, ?_, ?_, ?_⟩
  · rw [hos, hcommits, h.commits]
  · rw [hos, answers_append fun o ho => heard?_of_isQuiet (hq o ho), h.answers]
  · rw [k.snapshot, hos, latest, hcommits, h.snapshot, latest]
  · rw [hos]
    refine h.looks.append ?_
    rintro o os' hs who seen rfl
    have hseen := hq _ (hs.mem List.mem_cons_self)
    have hq' : ∀ o ∈ os', o.committed? = none :=
      fun o ho => committed?_of_isQuiet (hq o (hs.mem (List.mem_cons_of_mem _ ho)))
    rw [latest, commits_append hq']
    exact hseen.trans h.snapshot

/-- A call of a listener tells nothing new. -/
theorem hasHistory_called (h : HasHistory news heard s) (l : String) (snapshot : Snapshot) :
    HasHistory news heard (s.note (.called l snapshot)) where
  commits := (commits_cons rfl).trans h.commits
  answers := (answers_cons rfl).trans h.answers
  snapshot := by
    change s.snapshot = latest (.called l snapshot :: s.trace)
    rw [h.snapshot, latest, latest, commits_cons rfl]
  looks := ⟨by simp, h.looks⟩

/-- An answer is heard. -/
theorem hasHistory_heard (h : HasHistory news heard s) (a : Answer) :
    HasHistory news (heard ++ [a]) (s.note (.heard a)) where
  commits := (commits_cons rfl).trans h.commits
  answers := by
    change Cache.answers (.heard a :: s.trace) = heard ++ [a]
    rw [answers_heard, h.answers]
  snapshot := by
    change s.snapshot = latest (.heard a :: s.trace)
    rw [h.snapshot, latest, latest, commits_cons rfl]
  looks := ⟨by simp, h.looks⟩

/-- A snapshot is committed. -/
theorem hasHistory_commit (h : HasHistory news heard s) (new : Snapshot) :
    HasHistory (news ++ [new]) heard (commit new s) where
  commits := by
    change Cache.commits (.committed new :: s.trace) = news ++ [new]
    rw [commits_committed, h.commits]
  answers := (answers_cons rfl).trans h.answers
  snapshot := by
    change new = latest (.committed new :: s.trace)
    rw [latest, commits_committed, List.getLastD_concat]
  looks := ⟨by simp, h.looks⟩

/-- A pause tells nothing new, wherever the loop is. -/
theorem hasHistory_pause (h : HasHistory news heard s) (o : OpenSession) (delay : Float) :
    HasHistory news heard (pause o delay s) := by
  rw [← pause_loop o delay .ended s]
  exact hasHistory_quiet (h.congr (t := { s with loop := .ended }) rfl rfl)
    (quiet_pause o delay (.inr rfl))

/-- A round tells nothing new. -/
theorem hasHistory_rounded {snapshot : Snapshot} {round : Option Held × Cache}
    (h : Rounded (fun _ t => HasHistory news heard t) snapshot round) :
    HasHistory news heard round.2 := by
  obtain ⟨_ | held, t⟩ := round
  · obtain ⟨_, ht, _⟩ := h
    exact ht
  · exact h.1

/-- The loop tells nothing new where a round leaves it. -/
theorem hasHistory_looped {round : Option Held × Cache} (h : HasHistory news heard round.2)
    (o : OpenSession) (delay : Float) : HasHistory news heard (looped o delay round) := by
  obtain ⟨_ | held, t⟩ := round
  · exact hasHistory_pause h o delay
  · exact h.congr rfl rfl

/-- The worker tells nothing new where a round leaves it. -/
theorem hasHistory_worked {round : Option Held × Cache} (h : HasHistory news heard round.2) :
    HasHistory news heard (worked round) := by
  obtain ⟨_ | held, t⟩ := round
  · exact h
  · exact h.congr rfl rfl

/-- A round from its beginning tells nothing new. -/
theorem hasHistory_notify (h : HasHistory news heard s) (place : Place) (snapshot : Snapshot) :
    HasHistory news heard (notify c place snapshot s).2 :=
  hasHistory_rounded
    (rounded_notify
      (fun l _ _ _ _ ht hu => hasHistory_quiet (hasHistory_called ht l snapshot) hu.quiet) h)

/-- A round from where it was held up tells nothing new. -/
theorem hasHistory_release (h : HasHistory news heard s) (place : Place) (held : Held) :
    HasHistory news heard (release c place held s).2 :=
  hasHistory_rounded (rounded_release
    (fun l _ _ _ _ ht hu => hasHistory_quiet (hasHistory_called ht l held.snapshot) hu.quiet)
    (fun _ _ _ ht hu => hasHistory_quiet ht hu.quiet) h)

/-- Having the listeners called tells nothing new. -/
theorem hasHistory_deliver (h : HasHistory news heard s) (o : OpenSession) (snapshot : Snapshot)
    (delay : Float) :
    HasHistory news heard (deliver c o snapshot delay s) := by
  have hround := hasHistory_notify (c := c) h .pollLoop snapshot
  unfold deliver
  split
  next =>
    exact hasHistory_quiet (h.congr (t := { s with loop := .ended }) rfl rfl)
      (quiet_leave (.inr rfl))
  next =>
    split
    next =>
      let queued : Worker := { s.worker with queue := s.worker.queue ++ [snapshot] }
      exact hasHistory_pause (h.congr (t := { s with worker := queued }) rfl rfl) o delay
    next => exact hasHistory_looped hround o delay

end

/-! ## Steps -/

section
variable {c d : Setup} {s t : Cache} {as : List Answer}

/-- An answer that is taken up is adopted when the fold says so. -/
theorem hasHistory_accept (o : OpenSession) {a : Answer} (ha : a.index.isSome)
    (h : HasHistory (c.adoptions .empty as) as s) (hs : s.IsFree) :
    HasHistory (c.adoptions .empty (as ++ [a])) (as ++ [a]) (accept c o a (s.note (.heard a))) := by
  have hheard := hasHistory_heard h a
  have hlast : (c.adoptions .empty as).getLastD .empty = s.snapshot := by
    rw [h.snapshot, latest, h.commits]
  rw [Setup.adoptions_concat, hlast]
  rcases accept_cases c o (s := s.note (.heard a)) ha hs with ⟨hnone, hq⟩ | ⟨new, t, hsome, hq, heq⟩
  · have hnone' : c.adopted? s.snapshot a = none := hnone
    rw [hnone', Option.toList_none, List.append_nil]
    exact hasHistory_quiet hheard hq
  · have hsome' : c.adopted? s.snapshot a = some new := hsome
    rw [hsome', Option.toList_some, heq]
    exact hasHistory_deliver (hasHistory_quiet (hasHistory_commit (hasHistory_quiet hheard hq) new)
      (reacts_emit c .pollLoop _ _).quiet) o new _

/-- What became of a request tells what the fold says of the answer, if it is one. -/
theorem hasHistory_takeUp (o : OpenSession) (r : Progress × Option (Policy Float))
    (h : HasHistory (c.adoptions .empty as) as s) (hs : s.IsFree) :
    HasHistory (c.adoptions .empty (as ++ (o.session.heard? r.1).toList))
      (as ++ (o.session.heard? r.1).toList)
      (takeUp c o s r) := by
  have hpolicy : HasHistory (c.adoptions .empty as) as { s with policy := r.2 } := h.congr rfl rfl
  unfold takeUp
  rcases conclude_cases c o r.1 (s := { s with policy := r.2 }) hs with
    ⟨hnone, hq⟩ | ⟨a, o', hsome, hindex, heq⟩
  · rw [hnone, Option.toList_none, List.append_nil]
    exact hasHistory_quiet hpolicy hq
  · rw [hsome, Option.toList_some, heq]
    exact hasHistory_accept o' hindex hpolicy hs

/-- Every step tells what the fold says. -/
theorem hasHistory_step {heard : Option Answer} (h : HasHistory (c.adoptions .empty as) as s)
    (hstep : Step c s heard t) :
    HasHistory (c.adoptions .empty (as ++ heard.toList)) (as ++ heard.toList) t := by
  have silent {u : Cache} (k : HasHistory (c.adoptions .empty as) as u) :
      HasHistory (c.adoptions .empty (as ++ none.toList)) (as ++ none.toList) u := by
    rwa [Option.toList_none, List.append_nil]
  cases hstep with
  | start _ =>
    have hstarting : HasHistory (c.adoptions .empty as) as
        { s with lifecycle := .starting, loop := .opening } := h.congr rfl rfl
    exact silent (hasHistory_quiet hstarting (reacts_emit c .outside .started _).quiet)
  | stop => exact silent (hasHistory_quiet h (reacts_stop c .outside s).quiet)
  | turn => exact silent (hasHistory_quiet h (quiet_turn c s))
  | receive outcome hl => exact hasHistory_takeUp _ _ h (.inr (by rw [hl]; rfl))
  | wake _ => exact silent (h.congr rfl rfl)
  | goOn _ => exact silent (hasHistory_looped (hasHistory_release h .pollLoop _) _ _)
  | goOnWorking _ =>
    have hfree : HasHistory (c.adoptions .empty as) as
        { s with worker := { s.worker with held := none } } :=
      h.congr rfl rfl
    exact silent (hasHistory_worked (hasHistory_release hfree .worker _))
  | @workOn _ snapshot queue _ =>
    have hfree : HasHistory (c.adoptions .empty as) as
        { s with worker := { held := none, queue } } :=
      h.congr rfl rfl
    exact silent (hasHistory_worked (hasHistory_notify hfree .worker snapshot))
  | addListener l => exact silent (hasHistory_quiet h (Reacts.addListener l s).quiet)
  | removeListener l => exact silent (hasHistory_quiet h (Reacts.removeListener l s).quiet)
  | observers os => exact silent (h.congr rfl rfl)
  | surround left => exact silent (h.congr rfl rfl)

/-- An answer is heard in a step when the loop takes up a response that counts as the answer. -/
theorem counts_step {a : Answer} (hstep : Step c s (some a) t) :
    ∃ o x status headers body, s.loop = .awaiting o x ∧
      t = takeUp c o s (x.receive s.now s.policy (.response status headers body)) ∧
      Answer.Counts (x.responded status headers body) a := by
  generalize hheard : some a = heard at hstep
  cases hstep with
  | @receive _ o x outcome hloop =>
    obtain ⟨r, hr⟩ : ∃ r, (x.receive s.now s.policy outcome).1 = .answered r := by
      generalize (x.receive s.now s.policy outcome).1 = p at hheard
      cases p with
      | answered r => exact ⟨r, rfl⟩
      | sent | failed => cases hheard
    obtain ⟨status, headers, body, rfl⟩ := Exchange.response_of_answered hr
    exact ⟨o, x, status, headers, body, hloop, rfl, (Session.heard?_eq_some_iff.1 hheard.symm).2⟩
  | _ => cases hheard

/-! ## Runs -/

/-- After a run the trace tells what the fold over its answers says. -/
theorem hasHistory_of_run (h : Run c as s) : HasHistory (c.adoptions .empty as) as s := by
  obtain ⟨left, h⟩ := h
  refine h.keep (P := fun as s => HasHistory (c.adoptions .empty as) as s) ?_ (l := [])
    ⟨rfl, rfl, rfl, trivial⟩
  intro d as s heard t hv hs hstep
  have hd : HasHistory (d.adoptions .empty as) as s := by rwa [hv.adoptions]
  have ht := hasHistory_step hd hstep
  rwa [hv.adoptions] at ht

/-- After a run a cache shows the snapshot that its answers lead to. -/
theorem snapshot_of_run (h : Run c as s) : s.snapshot = c.view as := by
  have htold := hasHistory_of_run h
  rw [htold.snapshot, latest, htold.commits, Setup.view, Setup.foldl_eq_getLastD]

/-- The indexes of the commits increase. -/
theorem commits_increase (h : Run c as s) : (commits s.trace).Pairwise Snapshot.Precedes := by
  rw [(hasHistory_of_run h).commits]
  exact (c.adoptions_increase .empty as).1

/-- Nothing is committed twice. -/
theorem nodup_commits (h : Run c as s) : (commits s.trace).Nodup :=
  (commits_increase h).imp fun {t u} htu heq => by
    obtain ⟨i, j, hi, hj, hij⟩ := htu
    rw [heq, hj] at hi
    cases hi
    exact lt_irrefl _ hij

/-- Only answers that responses count as are heard in a run. -/
theorem counts_of_steps (h : Steps c s as t) : ∀ a ∈ as, ∃ r, Answer.Counts r a := by
  induction h with
  | refl => simp
  | tail _ _ hstep ih =>
    intro a ha
    rcases List.mem_append.1 ha with ha | ha
    · exact ih a ha
    · rw [Option.mem_toList] at ha
      rw [ha] at hstep
      obtain ⟨o, x, status, headers, body, -, -, hcounts⟩ := counts_step hstep
      exact ⟨_, hcounts⟩

/-- In every run, and in whatever order things happen in it, a cache shows the snapshot that the
fold over its answers leads to, and showed the last commit to everybody who looked at it. The
commits are the snapshots that the fold goes through: each is what the dataset of one answer
amounts to, their indexes increase, and there is no way back to a cache without a snapshot.

When a response comes in, the answers go on with the one that the response counts as, if the session
can take the response up, which it can if the URL that was asked names a scheme and a server.
Responses of status 404 and successful ones whose body can be read count as answers if they name an
index. Nothing else does, and the answers go on in no other way. -/
theorem snapshot_eq_view (h : Run c as s) :
    s.snapshot = c.view as ∧
    commits s.trace = c.adoptions .empty as ∧
    answers s.trace = as ∧ (∀ a ∈ as, ∃ r, Answer.Counts r a) ∧
    (∀ {d o x} status headers body, c.Varies d → s.loop = .awaiting o x →
      (x.asked.Names → o.session.TakesUp (x.responded status headers body)) ∧
      ∃ heard : Option Answer,
        (∀ a, heard = some a ↔ o.session.TakesUp (x.responded status headers body) ∧
          Answer.Counts (x.responded status headers body) a) ∧
        Run c (as ++ heard.toList)
          (takeUp d o s (x.receive s.now s.policy (.response status headers body))) ∧
        (takeUp d o s (x.receive s.now s.policy (.response status headers body))).snapshot =
          c.view (as ++ heard.toList)) ∧
    (∀ {d a t}, Step d s (some a) t → ∃ o x status headers body, s.loop = .awaiting o x ∧
      t = takeUp d o s (x.receive s.now s.policy (.response status headers body)) ∧
      Answer.Counts (x.responded status headers body) a) ∧
    (∀ new ∈ commits s.trace, ∃ a ∈ as, new.Keys c a) ∧
    (commits s.trace).Pairwise Snapshot.Precedes ∧
    Always (fun o os => ∀ who seen, o = .looked who seen → seen.snapshot = latest os) s.trace ∧
    ∀ bs t, Steps c s bs t → s.snapshot.available = true → t.snapshot.available = true := by
  have htold := hasHistory_of_run h
  obtain ⟨left, hsteps⟩ := h
  have hrun : Run c as s := ⟨left, hsteps⟩
  refine ⟨snapshot_of_run hrun, htold.commits, htold.answers, counts_of_steps hsteps,
    fun {d o x} status headers body hv hloop => ⟨fun hnames => ?_, ?_⟩, counts_step,
    fun new hnew => ?_, commits_increase hrun, htold.looks, fun bs t ht havail => ?_⟩
  · refine Session.takesUp_of_names fun asked hasked => ?_
    obtain rfl := Option.some.inj hasked
    exact hnames
  · have hrun' := Run.steps hrun (.tail .refl hv (.receive (.response status headers body) hloop))
    exact ⟨_, fun a => Session.heard?_eq_some_iff, hrun', snapshot_of_run hrun'⟩
  · rw [htold.commits] at hnew
    obtain ⟨a, ha, hof⟩ := Setup.snapshotOf_of_mem_adoptions hnew
    exact ⟨a, ha, Setup.keys_of_snapshotOf hof⟩
  · rw [snapshot_of_run hrun] at havail
    rw [snapshot_of_run (hrun.steps ht), Setup.view, List.foldl_append]
    exact c.available_foldl bs havail

end

end Cache

/-- A response that there is nothing, with the index `index`. -/
def Outcome.missing (index : String) : Outcome :=
  .response 404 [("X-Consul-Index", index)] []

namespace Cache

/-- The sample after it heard that the index is 7, that there is nothing at 8, and that the index is
3. -/
def sampleEmptied : Cache :=
  after .sample [.start, .respond none (.sample "7"), .respond none (.missing "8"),
    .respond none (.sample "3")]
    (create { now := 0, draws := [], policy := none })

/-- The emptied sample heard three answers, adopted the first two, and shows that there is nothing.
Being told so again at a greater index it hears another answer. -/
theorem snapshot_eq_view_sample : ∃ as o x a, Run .sample as sampleEmptied ∧ as.length = 3 ∧
    sampleEmptied.snapshot = Setup.sample.view as ∧
    (commits sampleEmptied.trace).map (·.index) = [some 7, some 8] ∧
    sampleEmptied.snapshot.entries.size = 0 ∧ sampleEmptied.loop = .awaiting o x ∧
    Answer.Counts (x.responded 404 [("X-Consul-Index", "11")] []) a ∧
    (takeUp .sample o sampleEmptied
      (x.receive sampleEmptied.now sampleEmptied.policy (.missing "11"))).snapshot =
        Setup.sample.view (as ++ [a]) := by
  obtain ⟨as, h⟩ := run_after .sample _ _
  obtain ⟨hview, -, hanswers, -, hresponse, -⟩ := snapshot_eq_view (s := sampleEmptied) h
  have hwaits : (sampleEmptied.loop.awaited?.any fun e =>
      e.2.asked.scheme == "http".toList && !e.2.asked.authority.isEmpty && e.2.servedBy.isNone &&
        (Target.ofUrl e.2.asked).toOption.isSome) = true := by decide +kernel
  obtain ⟨⟨o, x⟩, hwaited, hasked⟩ := (Option.any_eq_true ..).1 hwaits
  have hloop := Loop.eq_of_awaited? hwaited
  simp only [Bool.and_eq_true, beq_iff_eq, Bool.not_eq_true', Option.isNone_iff_eq_none] at hasked
  obtain ⟨⟨⟨hscheme, hserver⟩, hserved⟩, htarget⟩ := hasked
  have hnames : x.asked.Names := by
    refine ⟨?_, ?_, List.isEmpty_eq_false_iff.1 hserver⟩
    · simp [hscheme]
    · simp [hscheme]
  obtain ⟨t, ht⟩ : ∃ t, Target.ofUrl x.asked = .ok t := by
    cases htry : Target.ofUrl x.asked with
    | error f => rw [htry] at htarget; cases htarget
    | ok t => exact ⟨t, rfl⟩
  have hindex : Headers.get? [("X-Consul-Index", "11")] "X-Consul-Index" = some "11" := by
    decide +kernel
  let r := x.responded 404 [("X-Consul-Index", "11")] []
  have hcounts : Answer.Counts r (.stated r (some t) [] true) :=
    .missing ⟨"11", 11, hindex, by decide +kernel⟩ (.asked hserved rfl ht) rfl
  obtain ⟨htakes, heard, hheard, -, hshows⟩ :=
    hresponse 404 [("X-Consul-Index", "11")] [] (Setup.Varies.refl .sample) hloop
  rw [(hheard _).2 ⟨htakes hnames, hcounts⟩] at hshows
  refine ⟨as, o, x, _, h, ?_, hview, by decide +kernel, by decide +kernel, hloop, hcounts, hshows⟩
  rw [← hanswers]
  decide +kernel

end Cache

end BlockingQuery
