import BlockingQuery.Proofs.Cache.Moments
import BlockingQuery.Proofs.Cache.Stopping

/-!
# What a stopped cache shows

Once a call of `stop` has come back, a cache should show what it showed then: the same snapshot, the
same flag, the same life (`Freezes`), and so should all those see who look at it from then on
(`SeenSince`). Nothing but a commit changes what a cache shows, so that is to say that no commit
comes after the return of a call of `stop` (`freezes_iff_sealed`). The loop looks
whether the cache is stopped before it sends a query, and again before it calls the listeners, but
not between taking the keys of an answer and committing the snapshot. So a call of `stop` in the
middle of an answer, from the code that takes its keys, comes back before the commit
(`stopReturned_mem_collect`), and that is the one way in which a stopped cache does not freeze
(`freezes_iff_of_run`). No commit follows on that one.
-/

namespace BlockingQuery

namespace Cache

/-- From the moment on at which a call of `stop` has come back, what the cache shows stays. -/
def Freezes (s : Cache) : Prop :=
  ∀ u v, Moment s u → Moves u v → Moves v s → .stopReturned ∈ u.trace →
    v.snapshot = u.snapshot ∧ v.initialized = u.initialized ∧ v.lifecycle = u.lifecycle

/-- Whoever looked at the cache after `os` had happened saw what it shows now. -/
def SeenSince (s : Cache) (os : List Occurrence) : Prop :=
  ∀ ps, s.trace = ps ++ os → ∀ v ∈ looks ps, v = s.shown

/-- Nothing was committed after a call of `stop` had come back. -/
def Sealed (os : List Occurrence) : Prop :=
  Always (fun o os => .stopReturned ∈ os → o.committed? = none) os

/-- On the way to `s` the snapshot `new` was made from an answer, and the code that took the keys of
the answer stopped the cache. -/
def StoppedInKeying (c : Setup) (new : Snapshot) (s : Cache) : Prop :=
  ∃ as bs d u a v, Run c as u ∧ c.Varies d ∧ Step d u (some a) v ∧ Steps c v bs s ∧
    d.adopted? u.snapshot a = some new ∧ ∃ e ∈ a.dataset, (d.extract e).stops = true

section
variable {c d : Setup} {s t u v : Cache} {as bs : List Answer} {a : Answer} {new : Snapshot}
  {os ps : List Occurrence}

/-! ## Moves -/

/-- Moves only add to a trace. -/
theorem suffix_of_moves (h : Moves s t) : s.trace <:+ t.trace := by
  induction h with
  | refl => exact List.suffix_refl _
  | tail _ hlast ih =>
    rcases trace_move hlast with hsame | ⟨o, hgrown, -, -⟩
    · rwa [hsame]
    · rw [hgrown]
      exact ih.trans (List.suffix_cons _ _)

/-- Nothing begins after a call of `stop` has come back, however many moves there are. -/
theorem stopIsFinal_moves (h : StopIsFinal s) (hmoves : Moves s t) : StopIsFinal t := by
  induction hmoves with
  | refl => exact h
  | tail _ hlast ih => exact stopIsFinal_move ih hlast

/-- What a cache shows at any moment is the last commit. -/
theorem latest_moves (h : s.snapshot = latest s.trace) (hmoves : Moves s t) :
    t.snapshot = latest t.trace := by
  induction hmoves with
  | refl => exact h
  | @tail t t' _ hlast ih =>
    rcases shown_move hlast with ⟨hsnapshot, -, -⟩ | ⟨new, -, -, rfl⟩
    · rcases trace_move hlast with hsame | ⟨o, hgrown, hfits, -⟩
      · rw [hsnapshot, hsame, ih]
      · cases ho : o.committed? with
        | none => rw [hsnapshot, hgrown, latest, commits_cons ho, ih, latest]
        | some new =>
          obtain rfl := eq_of_committed? ho
          rw [hgrown, latest, commits_committed, List.getLastD_concat]
          exact hfits
    · change new = latest (.committed new :: t.trace)
      rw [latest, commits_committed, List.getLastD_concat]

/-- At every moment of a run nothing has begun after `stop` came back, and the snapshot is the last
commit. -/
theorem Moment.stopIsFinal (h : Moment s u) : StopIsFinal u ∧ u.snapshot = latest u.trace := by
  obtain ⟨left, hmoves, -⟩ := h
  exact ⟨stopIsFinal_moves (s := create left) ⟨nofun, trivial⟩ hmoves,
    latest_moves (s := create left) rfl hmoves⟩

/-! ## Looks -/

/-- Moves that lead past moments of one showing only let nobody see another. -/
theorem looks_moves {w : Shown} (hmoves : Moves s t)
    (hstays : ∀ v, Moves s v → Moves v t → v.shown = w) :
    ∃ ps, t.trace = ps ++ s.trace ∧ ∀ v ∈ looks ps, v = w := by
  induction hmoves with
  | refl => exact ⟨[], rfl, nofun⟩
  | @tail u t hbefore hlast ih =>
    obtain ⟨ps, htrace, hlooks⟩ := ih fun v hsv hvu => hstays v hsv (hvu.tail hlast)
    rcases trace_move hlast with hsame | ⟨o, hgrown, hfits, -⟩
    · exact ⟨ps, hsame.trans htrace, hlooks⟩
    · refine ⟨o :: ps, by rw [hgrown, htrace, List.cons_append], ?_⟩
      cases o with
      | looked who v =>
        obtain rfl : v = t.shown := hfits
        rw [looks_looked]
        intro v hv
        rcases List.mem_append.1 hv with hv | hv
        · exact hlooks v hv
        · rw [List.mem_singleton.1 hv]
          exact hstays t (hbefore.tail hlast) .refl
      | _ => rwa [looks_cons rfl]

/-- After moves that lead past moments of one showing only, whoever looked in between saw what the
cache shows now. -/
theorem seenSince_of_moves (hmoves : Moves s t)
    (hstays : ∀ v, Moves s v → Moves v t → v.shown = s.shown) : SeenSince t s.trace := by
  obtain ⟨ps, htrace, hlooks⟩ := looks_moves hmoves hstays
  intro ps' htrace' v hv
  obtain rfl : ps' = ps := List.append_cancel_right (htrace'.symm.trans htrace)
  exact (hlooks v hv).trans (hstays t hmoves .refl).symm

/-- A trace between two that hold the same commits holds them as well. -/
theorem commits_eq_of_suffix {qs : List Occurrence} (h : os <:+ ps) (k : ps <:+ qs)
    (hsame : commits qs = commits os) : commits ps = commits os := by
  have hfirst := isPrefix_commits h
  have hlast := isPrefix_commits k
  rw [hsame] at hlast
  exact hlast.eq_of_length_le hfirst.length_le

/-- A stopped cache shows at two moments the same if nothing was committed in between. -/
theorem Moment.shown_eq (hu : Moment s u) (hv : Moment s v) (hus : u.isStopped = true)
    (hvs : v.isStopped = true) (hcommits : commits v.trace = commits u.trace) :
    v.shown = u.shown := by
  have hsnapshot : v.snapshot = u.snapshot := by
    rw [hv.stopIsFinal.2, hu.stopIsFinal.2, latest, latest, hcommits]
  have hlife : v.lifecycle = u.lifecycle := (isStopped_iff.1 hvs).trans (isStopped_iff.1 hus).symm
  have hflag : v.shown.initialized = u.shown.initialized := by
    rw [Bool.eq_iff_iff, hv.coherent.initialized, hu.coherent.initialized]
    change v.snapshot.available = true ↔ u.snapshot.available = true
    rw [hsnapshot]
  change (⟨v.snapshot, v.lifecycle, v.shown.initialized⟩ : Shown) =
    ⟨u.snapshot, u.lifecycle, u.shown.initialized⟩
  rw [hsnapshot, hlife, hflag]

/-! ## Freezing and commits -/

/-- A trace stays sealed when nothing is committed. -/
theorem Sealed.append (h : Sealed ps) (hnone : commits os = []) : Sealed (os ++ ps) := by
  refine Always.append h fun o os' hs _ => ?_
  rw [commits, List.reverse_eq_nil_iff, List.filterMap_eq_nil_iff] at hnone
  exact hnone o (hs.mem List.mem_cons_self)

/-- If nothing is committed after a call of `stop` has come back, a move changes nothing that the
cache shows. -/
theorem frozen_move (hsealed : Sealed t.trace) (hs : StopIsFinal s) (hret : .stopReturned ∈ s.trace)
    (hmove : Move s t) :
    t.snapshot = s.snapshot ∧ t.initialized = s.initialized ∧ t.lifecycle = s.lifecycle := by
  have hstopped := hs.isStopped hret
  have hlife : t.lifecycle = s.lifecycle :=
    (isStopped_iff.1 (isStopped_move hstopped hmove)).trans (isStopped_iff.1 hstopped).symm
  rcases shown_move hmove with ⟨hsnapshot, hinitialized, -⟩ | ⟨new, -, -, rfl⟩
  · exact ⟨hsnapshot, hinitialized, hlife⟩
  · have hnone : (Occurrence.committed new).committed? = none := hsealed.1 hret
    cases hnone

/-- A cache freezes if nothing is committed after a call of `stop` has come back. -/
theorem freezes_of_sealed (hsealed : Sealed s.trace) : Freezes s := by
  intro u v hu huv hvs hret
  have hfinal := hu.stopIsFinal.1
  clear hu
  induction huv with
  | refl => exact ⟨rfl, rfl, rfl⟩
  | @tail w v huw hlast ih =>
    obtain ⟨hsnapshot, hinitialized, hlife⟩ := ih (.head hlast hvs)
    have hv : Sealed v.trace :=
      always_iff.2 fun o os hos => hsealed.of_suffix (hos.trans (suffix_of_moves hvs))
    obtain ⟨ksnapshot, kinitialized, klife⟩ := frozen_move hv (stopIsFinal_moves hfinal huw)
      ((suffix_of_moves huw).mem hret) hlast
    exact ⟨ksnapshot.trans hsnapshot, kinitialized.trans hinitialized, klife.trans hlife⟩

/-- A commit after the return of a call of `stop` changes what the cache shows. -/
theorem not_freezes_of_committed (h : Run c as s) (hos : .committed new :: os <:+ s.trace)
    (hret : .stopReturned ∈ os) : ¬Freezes s := by
  intro hfreezes
  obtain ⟨left, hmoves, -⟩ := moves_of_run h
  obtain ⟨v, hv, hvs, hvtrace, hfits⟩ := exists_moment hmoves rfl hos
  obtain ⟨u, hu, huv, hutrace, -⟩ :=
    exists_moment hv rfl (hvtrace ▸ List.suffix_cons _ os)
  have hmoment : Moment s u := ⟨left, hu, huv.trans hvs⟩
  have hnew : v.snapshot = new := hfits _ _ rfl
  have hsame : new = latest os := by
    rw [← hnew, (hfreezes u v hmoment huv hvs (hutrace ▸ hret)).1, hmoment.stopIsFinal.2, hutrace]
  -- a snapshot is committed once, and the one before all is never committed
  have hcommits : commits (.committed new :: os) <+: commits s.trace := isPrefix_commits hos
  rw [commits_committed] at hcommits
  cases hnone : commits os using List.reverseRecOn with
  | nil =>
    have havailable : new.available = true := by
      refine ((c.adoptions_increase .empty as).2 new ?_).1
      rw [← (hasHistory_of_run h).commits]
      exact hcommits.subset (by simp)
    rw [hsame, latest, hnone] at havailable
    cases havailable
  | append_singleton news last =>
    have hlast : new = last := by rw [hsame, latest, hnone, List.getLastD_concat]
    have hnodup := (nodup_commits h).sublist hcommits.sublist
    rw [hnone, hlast, List.append_assoc] at hnodup
    simpa using (List.nodup_append.1 hnodup).2.1

/-- A cache freezes if and only if nothing is committed after a call of `stop` has come back. -/
theorem freezes_iff_sealed (h : Run c as s) : Freezes s ↔ Sealed s.trace := by
  refine ⟨fun hfreezes => always_iff.2 fun o os hos hret => ?_, freezes_of_sealed⟩
  cases ho : o.committed? with
  | none => rfl
  | some new =>
    obtain rfl := eq_of_committed? ho
    exact absurd hfreezes (not_freezes_of_committed h hos hret)

/-! ## Taking keys -/

/-- Once the keys of a dataset are taken, a call of `stop` has come back if and only if one had come
back before, or the code that took one of the keys made one. -/
theorem stopReturned_mem_collect {vs : List Json} {es : List (Key × Json)}
    (h : c.keyed vs = .ok es) (taken : Entries) (s : Cache) :
    .stopReturned ∈ (collect c vs taken s).2.trace ↔
      .stopReturned ∈ s.trace ∨ ∃ e ∈ vs, (c.extract e).stops = true := by
  induction vs generalizing es taken s with
  | nil => simp [collect]
  | cons e vs ih =>
    have hfirst :
        .stopReturned ∈ (if (c.extract e).stops then (stop c .pollLoop s).2 else s).trace ↔
          .stopReturned ∈ s.trace ∨ (c.extract e).stops = true := by
      split
      next hstops =>
        obtain ⟨t, -, ht⟩ := stop_returns c .pollLoop s
        rw [ht]
        exact iff_of_true List.mem_cons_self (.inr hstops)
      next hgoes => exact ⟨.inl, fun h => h.resolve_right hgoes⟩
    unfold Setup.keyed Setup.key at h
    unfold collect
    dsimp only
    cases hkey : (c.extract e).key with
    | error f => simp [hkey, Except.bind] at h
    | ok j =>
      cases hk : Key.ofJson? j with
      | none => simp [hkey, hk, Except.bind] at h
      | some k =>
        cases hrest : c.keyed vs with
        | error f => simp [hkey, hk, hrest, Except.bind, Except.map] at h
        | ok rest =>
          simp only [hk]
          rw [ih hrest, hfirst, List.exists_mem_cons_iff, or_assoc]

/-- An answer that is adopted is committed where the taking of its keys leads. -/
theorem accept_of_adopted (c : Setup) (o : OpenSession) (h : c.adopted? s.snapshot a = some new) :
    accept c o a s = deliver c o new (pauseAfter c.config a)
      (emit c .pollLoop (.changed a.index new.entries.size a.target)
        (commit new (collect c a.dataset .empty s).2)) := by
  obtain ⟨hnew, hbelow⟩ := Setup.of_adopted? h
  have ha := Snapshot.isSome_of_isBelow hbelow
  have hfresh : ¬(s.snapshot.available && !indexIncreased s.snapshot.index a.index) = true := by
    rw [Snapshot.isBelow_eq _ ha, Bool.not_eq_true'] at hbelow
    rw [hbelow]
    exact Bool.false_ne_true
  have hcollected := collect_eq c a.dataset s
  unfold Setup.snapshotOf at hnew
  unfold accept
  rw [if_neg hfresh]
  generalize collect c a.dataset .empty s = collected at hcollected ⊢
  obtain ⟨r, t⟩ := collected
  cases hkeyed : c.keyed a.dataset with
  | error f =>
    rw [hkeyed] at hnew
    cases hnew
  | ok es =>
    rw [hkeyed] at hnew hcollected
    cases hnew
    obtain rfl : r = .ok (.ofList es) := hcollected
    rfl

/-- Taking in an answer that is adopted goes on from the commit by doings. -/
theorem proceeds_of_adopted (c : Setup) (o : OpenSession)
    (h : c.adopted? s.snapshot a = some new) :
    Proceeds c (commit new (collect c a.dataset .empty s).2) (accept c o a s) := by
  have hemit := proceeds_emit c .pollLoop (e := .changed a.index new.entries.size a.target)
    ⟨nofun, nofun⟩ (commit new (collect c a.dataset .empty s).2)
  rw [accept_of_adopted c o h]
  exact hemit.trans (proceeds_deliver c o new _ _)

/-! ## Steps -/

/-- A cache that hears an answer is not stopped. -/
theorem isStopped_of_heard (hs : Steady s) (hstep : Step d s (some a) t) : s.isStopped = false := by
  generalize hheard : some a = heard at hstep
  cases hstep with
  | receive _ hloop => exact hs.isStopped_of_awaiting hloop
  | _ => cases hheard

/-- In the step that brings an answer that is adopted, the keys are taken, then the snapshot is
committed, and then comes all the rest. -/
theorem moves_of_adopted (hs : Steady s) (hfresh : Fresh s) (hstep : Step d s (some a) t)
    (hnew : d.adopted? s.snapshot a = some new) :
    ∃ u, Moves s u ∧ Moves (commit new u) t ∧
      (.stopReturned ∈ u.trace ↔
        .stopReturned ∈ s.trace ∨ ∃ e ∈ a.dataset, (d.extract e).stops = true) := by
  generalize hheard : some a = heard at hstep
  cases hstep with
  | @receive _ o x outcome hloop =>
    generalize x.receive s.now s.policy outcome = r at hheard ⊢
    have hgo := hs.isStopped_of_awaiting hloop
    have hbegun : s.Begun := hs.begun_of_loop fun hidle => by rw [hidle] at hloop; cases hloop
    have hfree : ({ s with policy := r.2 } : Cache).IsFree := .inr (by rw [hloop]; rfl)
    rcases conclude_cases d o r.1 hfree with ⟨hnone, -⟩ | ⟨a', o', hsome, -, htaken⟩
    · cases hheard.trans hnone
    · cases hheard.trans hsome
      let told : Cache := { s with policy := r.2 }.note (.heard a)
      obtain ⟨es, hes, -⟩ := (Setup.keys_of_snapshotOf (Setup.of_adopted? hnew).1).keyed
      let u : Cache := (collect d a.dataset .empty told).2
      have htold : Proceeds d s told :=
        (Proceeds.turns s { s.toSurroundings with policy := r.2 } s.errorCount s.sessions
          s.loop).trans (.note _ (o := .heard a) trivial)
      have hcollect : Doings d s u :=
        (htold.trans ((tolerant_proceeds d .pollLoop).collect a.dataset .empty told)) hbegun
      have hrest : Proceeds d (commit new u) (takeUp d o s r) := by
        have hdone : takeUp d o s r = accept d o' a told := htaken
        rw [hdone]
        exact proceeds_of_adopted d o' (s := told) hnew
      have hu : Moves s u := moves_doings hfresh hcollect
      have hbegunU : u.Begun := begun_doings hbegun hcollect
      have havailable := (Setup.precedes_of_adopted? hnew).1
      have hcommit : Move u (commit new u) := .deed (.commits havailable hbegunU)
      refine ⟨u, hu, moves_doings (fresh_move (fresh_moves hfresh hu) hcommit)
        (hrest (begun_move hbegunU hcommit)), ?_⟩
      rw [stopReturned_mem_collect hes]
      refine or_congr_left ⟨fun h => ?_, fun h => List.mem_cons_of_mem _ h⟩
      exact (List.mem_cons.1 h).resolve_left nofun
  | _ => cases hheard

/-- After a run a cache is steady, and what it tells is fresh. -/
theorem Run.ready (h : Run c as s) : Steady s ∧ Fresh s ∧ Moment s s := by
  obtain ⟨left, hmoves, hsteady⟩ := moves_of_run h
  exact ⟨hsteady, fresh_moves (s := create left) (fun _ => List.not_mem_nil) hmoves,
    left, hmoves, .refl⟩

/-- A step of a run commits the snapshot that its answer makes, if it brings one that is adopted. -/
theorem commits_step {heard : Option Answer} (h : Run c as s) (hv : c.Varies d)
    (hstep : Step d s heard t) :
    commits t.trace = commits s.trace ++ (heard.bind (d.adopted? s.snapshot)).toList := by
  have hnext : Run c (as ++ heard.toList) t := h.steps (.tail .refl hv hstep)
  rw [(hasHistory_of_run hnext).commits, (hasHistory_of_run h).commits]
  cases heard with
  | none => simp
  | some a =>
    have hlast : (c.adoptions .empty as).getLastD .empty = s.snapshot := by
      rw [(hasHistory_of_run h).snapshot, latest, (hasHistory_of_run h).commits]
    rw [Option.toList_some, Setup.adoptions_concat, hlast, Option.bind_some, hv.adopted?]

/-- A step keeps a trace sealed, unless it brings an answer that is adopted and the code that takes
the keys of the answer stops the cache. -/
theorem sealed_step {heard : Option Answer} (h : Run c as s) (hv : c.Varies d)
    (hstep : Step d s heard t) (hsealed : Sealed s.trace) :
    Sealed t.trace ∨ ∃ a new, heard = some a ∧ d.adopted? s.snapshot a = some new ∧
      ∃ e ∈ a.dataset, (d.extract e).stops = true := by
  obtain ⟨hsteady, hfresh, hmoment⟩ := h.ready
  have hcommits := commits_step h hv hstep
  cases hadopted : heard.bind (d.adopted? s.snapshot) with
  | none =>
    left
    obtain ⟨os, hos⟩ := suffix_of_moves (moves_doings hfresh (doings_step hsteady hstep))
    rw [hadopted, ← hos, commits_later, Option.toList_none, List.append_right_inj] at hcommits
    exact hos ▸ hsealed.append hcommits
  | some new =>
    obtain ⟨a, rfl, hnew⟩ := Option.bind_eq_some_iff.1 hadopted
    by_cases hstops : ∃ e ∈ a.dataset, (d.extract e).stops = true
    · exact .inr ⟨a, new, rfl, hnew, hstops⟩
    · left
      obtain ⟨u, hu, hut, hret⟩ := moves_of_adopted hsteady hfresh hstep hnew
      obtain ⟨before, hbefore⟩ := suffix_of_moves hu
      obtain ⟨after, hafter⟩ := suffix_of_moves hut
      -- the one commit of the step is the one that is known
      have hone : commits before = [] ∧ commits after = [] := by
        have htrace : (commit new u).trace = .committed new :: u.trace := rfl
        rw [hadopted, ← hafter, commits_later, htrace, commits_committed, ← hbefore,
          commits_later] at hcommits
        have hlength := congrArg List.length hcommits
        simp only [List.length_append, Option.toList_some, List.length_singleton] at hlength
        exact ⟨List.length_eq_zero_iff.1 (by omega), List.length_eq_zero_iff.1 (by omega)⟩
      have hgoing : .stopReturned ∉ u.trace := by
        rw [hret]
        rintro (hmem | hmem)
        · exact absurd (hmoment.stopIsFinal.1.isStopped hmem)
            (Bool.eq_false_iff.1 (isStopped_of_heard hsteady hstep))
        · exact hstops hmem
      have hu' : Sealed u.trace := hbefore ▸ hsealed.append hone.1
      have hcommit : Sealed (commit new u).trace := ⟨fun hmem => absurd hmem hgoing, hu'⟩
      exact hafter ▸ hcommit.append hone.2

/-! ## Runs -/

/-- After a run whose trace is not sealed, an answer that was adopted had the code that took its
keys stop the cache. -/
theorem sealed_or_stoppedInKeying (h : Run c as s) :
    Sealed s.trace ∨ ∃ new, StoppedInKeying c new s := by
  obtain ⟨left, hsteps⟩ := h
  induction hsteps with
  | refl => exact .inl trivial
  | @tail as t u d heard hbefore hv hstep ih =>
    rcases ih with hsealed | ⟨new, as', bs, d', v, a, w, hrun, hv', hkeying, hafter, hstopped⟩
    · refine (sealed_step ⟨left, hbefore⟩ hv hstep hsealed).imp_right ?_
      rintro ⟨a, new, rfl, hstopped⟩
      exact ⟨new, as, [], d, t, a, u, ⟨left, hbefore⟩, hv, hstep, .refl, hstopped⟩
    · exact .inr ⟨new, as', _, d', v, a, w, hrun, hv', hkeying, hafter.tail hv hstep, hstopped⟩

/-- What is committed when the code that takes the keys stops the cache comes after the return of
that call. -/
theorem exists_committed_of_stoppedInKeying (h : StoppedInKeying c new s) :
    ∃ os, .committed new :: os <:+ s.trace ∧ .stopReturned ∈ os := by
  obtain ⟨as, bs, d, u, a, v, hrun, hv, hstep, hafter, hnew, hstops⟩ := h
  obtain ⟨hsteady, hfresh, -⟩ := hrun.ready
  obtain ⟨w, -, hwv, hret⟩ := moves_of_adopted hsteady hfresh hstep hnew
  have hnext : Run c (as ++ [a]) v := hrun.steps (.tail .refl hv hstep)
  have hvs : v.trace <:+ s.trace :=
    suffix_of_moves (moves_steps hafter hnext.ready.1 hnext.ready.2.1).1
  exact ⟨w.trace, (suffix_of_moves hwv).trans hvs, hret.2 (.inr hstops)⟩

/-- A stopped cache hears nothing any more. -/
theorem eq_nil_of_isStopped (hs : Steady s) (hstopped : s.isStopped = true) (h : Steps c s as t) :
    as = [] ∧ Steady t ∧ t.isStopped = true := by
  induction h with
  | refl => exact ⟨rfl, hs, hstopped⟩
  | @tail as t u d heard _ _ hstep ih =>
    obtain ⟨rfl, hsteady, hst⟩ := ih
    have hfresh : Fresh t := fun hgo => absurd hst (Bool.eq_false_iff.1 hgo)
    have hmoves := moves_doings hfresh (doings_step hsteady hstep)
    refine ⟨?_, steady_step hsteady hstep, (grown_moves hst hmoves).1⟩
    cases heard with
    | none => rfl
    | some a =>
      exact absurd hst (Bool.eq_false_iff.1 (isStopped_of_heard hsteady hstep))

/-- What a stopped cache shows between two steps stays, at every moment after them. -/
theorem frozen_of_isStopped (h : Run c as s) (hs : s.isStopped = true) (hsteps : Steps c s bs t)
    (hsv : Moves s v) (hvt : Moves v t) : v.shown = s.shown := by
  obtain ⟨rfl, -, -⟩ := eq_nil_of_isStopped h.ready.1 hs hsteps
  have hsame : commits t.trace = commits s.trace := by
    rw [(hasHistory_of_run (h.steps hsteps)).commits, List.append_nil,
      (hasHistory_of_run h).commits]
  obtain ⟨left, hmoves, -⟩ := moves_of_run h
  have hv : Moment v v := ⟨left, hmoves.trans hsv, .refl⟩
  exact Moment.shown_eq (s := v) ⟨left, hmoves, hsv⟩ hv hs (grown_moves hs hsv).1
    (commits_eq_of_suffix (suffix_of_moves hsv) (suffix_of_moves hvt) hsame)

/-- An answer that was adopted although the code that took its keys stopped the cache is the last:
its snapshot is shown from then on. -/
theorem shown_of_stoppedInKeying (h : StoppedInKeying c new s) :
    s.snapshot = new ∧ s.initialized = true ∧ s.lifecycle = .stopped := by
  obtain ⟨as', bs, d, u, a, v, hrun, hv, hstep, hafter, hadopted, hstops⟩ := h
  have hnext : Run c (as' ++ [a]) v := hrun.steps (.tail .refl hv hstep)
  have hkeyed : StoppedInKeying c new v :=
    ⟨as', [], d, u, a, v, hrun, hv, hstep, .refl, hadopted, hstops⟩
  obtain ⟨os, hos, hret⟩ := exists_committed_of_stoppedInKeying hkeyed
  have hmem : .stopReturned ∈ v.trace := hos.mem (List.mem_cons_of_mem _ hret)
  have hstopped : v.isStopped = true := hnext.ready.2.2.stopIsFinal.1.isStopped hmem
  have hshown : s.shown = v.shown := frozen_of_isStopped hnext hstopped hafter
    (moves_steps hafter hnext.ready.1 hnext.ready.2.1).1 .refl
  have hnewest : v.snapshot = new := by
    rw [(hasHistory_of_run hnext).snapshot, latest, commits_step hrun hv hstep, Option.bind_some,
      hadopted, Option.toList_some, List.getLastD_concat]
  have hset : v.initialized = true :=
    hnext.ready.2.2.coherent.initialized.2
      ((congrArg Snapshot.available hnewest).trans (Setup.precedes_of_adopted? hadopted).1)
  exact ⟨(congrArg Shown.snapshot hshown).trans hnewest,
    (congrArg Shown.initialized hshown).trans hset,
    (congrArg Shown.lifecycle hshown).trans (isStopped_iff.1 hstopped)⟩

/-- The commit of the snapshot that a cache shows is the last one, as no snapshot is committed
twice. -/
theorem commits_of_shown (h : Run c as s) (hos : .committed new :: os <:+ s.trace)
    (hnew : s.snapshot = new) : commits s.trace = commits (.committed new :: os) := by
  obtain ⟨ps, hps⟩ := hos
  have hcommits : commits s.trace = commits os ++ new :: commits ps := by
    rw [← hps, commits_later, commits_committed, List.append_assoc, List.singleton_append]
  have hnodup := nodup_commits h
  have hlatest : (commits s.trace).getLastD .empty = new :=
    (hasHistory_of_run h).snapshot.symm.trans hnew
  rw [hcommits] at hnodup hlatest
  have hlater : new ∉ commits ps := (List.nodup_cons.1 (List.nodup_append.1 hnodup).2.1).1
  cases hnone : commits ps using List.reverseRecOn with
  | nil => rw [hcommits, hnone, commits_committed]
  | append_singleton news last =>
    rw [hnone, ← List.cons_append, ← List.append_assoc, List.getLastD_concat] at hlatest
    rw [hnone, hlatest] at hlater
    exact absurd (List.mem_append_right news (List.mem_singleton.2 rfl)) hlater

/-- If what a cache shows stays, those see it who look at the cache after `stop` has come back. -/
theorem seenSince_of_freezes (h : Run c as s) (hfreezes : Freezes s) (hos : os <:+ s.trace)
    (hret : .stopReturned ∈ os) : SeenSince s os := by
  obtain ⟨left, hmoves, -⟩ := moves_of_run h
  obtain ⟨u, hu, hus, rfl, -⟩ := exists_moment hmoves rfl hos
  refine seenSince_of_moves hus fun v huv hvs => ?_
  obtain ⟨hsnapshot, hinitialized, hlife⟩ := hfreezes u v ⟨left, hu, hus⟩ huv hvs hret
  unfold shown
  rw [hsnapshot, hinitialized, hlife]

/-- The snapshot of an answer that was adopted although the code that took its keys stopped the
cache is what those see who look at the cache after it was committed. -/
theorem seenSince_of_stoppedInKeying (h : StoppedInKeying c new s) :
    ∃ os, .committed new :: os <:+ s.trace ∧ .stopReturned ∈ os ∧
      SeenSince s (.committed new :: os) := by
  obtain ⟨os, hos, hret⟩ := exists_committed_of_stoppedInKeying h
  refine ⟨os, hos, hret, ?_⟩
  obtain ⟨as, hrun⟩ : ∃ as, Run c as s := by
    obtain ⟨as', bs, d, u, a, v, hrun, hv, hstep, hafter, -⟩ := h
    exact ⟨_, (hrun.steps (.tail .refl hv hstep)).steps hafter⟩
  obtain ⟨left, hmoves, -⟩ := moves_of_run hrun
  obtain ⟨u, hu, hus, hutrace, hfits⟩ := exists_moment hmoves rfl hos
  rw [← hutrace]
  have hstopped {v : Cache} (hv : Moment s v) (hsuffix : u.trace <:+ v.trace) :
      v.isStopped = true :=
    hv.stopIsFinal.1.isStopped (hsuffix.mem (hutrace ▸ List.mem_cons_of_mem _ hret))
  have hmoment : Moment s u := ⟨left, hu, hus⟩
  have hlatest : commits s.trace = commits u.trace :=
    hutrace ▸ commits_of_shown hrun hos (shown_of_stoppedInKeying h).1
  refine seenSince_of_moves hus fun v huv hvs => ?_
  have hv : Moment s v := ⟨left, hu.trans huv, hvs⟩
  exact hmoment.shown_eq hv (hstopped hmoment (List.suffix_refl _))
    (hstopped hv (suffix_of_moves huv))
    (commits_eq_of_suffix (suffix_of_moves huv) (suffix_of_moves hvs) hlatest)

/-- Nothing is committed after a call of `stop` has come back if and only if no answer was adopted
although the code that took its keys stopped the cache. -/
theorem sealed_iff_of_run (h : Run c as s) :
    Sealed s.trace ↔ ∀ new, ¬StoppedInKeying c new s := by
  constructor
  · intro hsealed new hnew
    obtain ⟨os, hos, hret⟩ := exists_committed_of_stoppedInKeying hnew
    have hnone : (Occurrence.committed new).committed? = none := hsealed.of_suffix hos hret
    cases hnone
  · intro hnone
    refine (sealed_or_stoppedInKeying h).resolve_right ?_
    rintro ⟨new, hnew⟩
    exact hnone new hnew

/-- In every run, a cache is stopped from the moment on at which a call of `stop` has come back,
wherever the call was made, and what it shows stays from then on if and only if no answer was
adopted although the code that took its keys stopped the cache. Such an answer is committed after
that call has come back, and it is the last: the stopped cache shows its snapshot from then on. In
any case what a stopped cache shows between two steps stays at every moment after them. Listeners
and observers see it: if what the cache shows stays, those who look at it after `stop` has come back
see what it shows to the end; otherwise those do who look at it after that commit, and in any case
those who look at it after a step in which it was stopped. -/
theorem freezes_iff_of_run (h : Run c as s) :
    (∀ u, Moment s u → .stopReturned ∈ u.trace → u.lifecycle = .stopped) ∧
    (Freezes s ↔ ∀ new, ¬StoppedInKeying c new s) ∧
    (∀ new, StoppedInKeying c new s →
      s.snapshot = new ∧ s.initialized = true ∧ s.lifecycle = .stopped) ∧
    (s.isStopped = true → ∀ bs t v, Steps c s bs t → Moves s v → Moves v t →
      v.snapshot = s.snapshot ∧ v.initialized = s.initialized ∧ v.lifecycle = .stopped) ∧
    (Freezes s → ∀ os, os <:+ s.trace → .stopReturned ∈ os → SeenSince s os) ∧
    (∀ new, StoppedInKeying c new s → ∃ os, .committed new :: os <:+ s.trace ∧
      .stopReturned ∈ os ∧ SeenSince s (.committed new :: os)) ∧
    (s.isStopped = true → ∀ bs t, Steps c s bs t → SeenSince t s.trace) := by
  refine ⟨fun u hu hret => isStopped_iff.1 (hu.stopIsFinal.1.isStopped hret),
    (freezes_iff_sealed h).trans (sealed_iff_of_run h),
    fun new hnew => shown_of_stoppedInKeying hnew, fun hs bs t v hsteps hsv hvt => ?_,
    fun hfreezes os hos hret => seenSince_of_freezes h hfreezes hos hret,
    fun new hnew => seenSince_of_stoppedInKeying hnew,
    fun hs bs t hsteps => seenSince_of_moves (moves_steps hsteps h.ready.1 h.ready.2.1).1
      fun v hsv hvt => frozen_of_isStopped h hs hsteps hsv hvt⟩
  have hshown := frozen_of_isStopped h hs hsteps hsv hvt
  exact ⟨congrArg Shown.snapshot hshown, congrArg Shown.initialized hshown,
    isStopped_iff.1 (grown_moves hs hsv).1⟩

end

end Cache

/-- Every cache of the setup freezes, whatever happens to it. -/
def Setup.FreezesCaches (c : Setup) : Prop :=
  ∀ as s, Cache.Run c as s → s.Freezes

/-- The sample with code that stops the cache when it takes a key. -/
def Setup.interrupting : Setup :=
  { Setup.sample with extract := fun v => { stops := true, key := .ok v } }

/-- The interrupting sample when the first answer came in. -/
def Cache.interrupted : Cache :=
  after .interrupting [.start, .respond none (.sample "7")]
    (create { now := 0, draws := [], policy := none })

namespace Cache

/-- The stopping sample is stopped by a listener, which looks at it then, and shows the snapshot
with the index 7 from then on. -/
theorem freezes_iff_of_run_stopping : ∃ as, Run .stopping as stopping ∧
    stopping.lifecycle = .stopped ∧ stopping.snapshot.index = some 7 ∧
    (looks stopping.trace).map (fun v => (v.lifecycle, v.snapshot.index, v.initialized)) =
      [(.stopped, some 7, true)] ∧
    (∀ bs t v, Steps .stopping stopping bs t → Moves stopping v → Moves v t →
      v.snapshot = stopping.snapshot ∧ v.initialized = stopping.initialized ∧
        v.lifecycle = .stopped) ∧
    ∀ bs t, Steps .stopping stopping bs t → SeenSince t stopping.trace := by
  obtain ⟨as, h⟩ := run_after .stopping _ _
  obtain ⟨-, -, -, hstays, -, -, hseen⟩ := freezes_iff_of_run (s := stopping) h
  have hs : stopping.isStopped = true := by decide +kernel
  exact ⟨as, h, isStopped_iff.1 hs, by decide +kernel, by decide +kernel, hstays hs, hseen hs⟩

/-- The code that takes the key of the entity stops the cache, and the snapshot is committed after
that. -/
theorem not_freezesCaches_of_interrupting : ¬Setup.interrupting.FreezesCaches := by
  intro hall
  obtain ⟨as, h⟩ : ∃ as, Run .interrupting as interrupted := run_after ..
  have hcommitted : (interrupted.trace[2]?.bind Occurrence.committed?).isSome = true := by
    decide +kernel
  have hreturned : (match interrupted.trace[3]? with
      | some .stopReturned => true
      | none | some .opening | some .connected | some .closed | some (.requested _)
      | some (.heard _) | some (.committed _) | some (.emitted _) | some (.observed ..)
      | some (.added _) | some (.removed _) | some (.called ..) | some (.looked ..) => false) =
      true := by decide +kernel
  obtain ⟨new, hnew⟩ := Option.isSome_iff_exists.1 hcommitted
  obtain ⟨o, ho, hcommit⟩ := Option.bind_eq_some_iff.1 hnew
  obtain rfl := eq_of_committed? hcommit
  obtain ⟨hlength, ho⟩ := List.getElem?_eq_some_iff.1 ho
  split at hreturned
  next hret =>
    -- the call of `stop` came back right before the commit
    have hmem : .stopReturned ∈ interrupted.trace.drop 3 :=
      List.mem_of_getElem? (i := 0) (by rw [List.getElem?_drop, hret])
    have hos : .committed new :: interrupted.trace.drop 3 <:+ interrupted.trace := by
      rw [← ho, ← List.drop_eq_getElem_cons]
      exact List.drop_suffix 2 _
    exact not_freezes_of_committed h hos hmem (hall as interrupted h)
  all_goals cases hreturned

end Cache

end BlockingQuery
