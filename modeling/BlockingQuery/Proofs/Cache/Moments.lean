import BlockingQuery.Proofs.Cache.Turns

/-!
# Every moment of a run

A run takes a cache from one moment to the next, and the application may look at it at any of them:
between two commands, and in the middle of each call of a listener and of an observer. What the
cache shows, how far it is in its life and whether it counts as initialized agree at every moment
(`Shown.Coherent`), and over a run none of them goes back (`Shown.LeadsTo`). So it is with all that
is seen by those who look at the cache when they are called (`Witnessed`), as each of them sees the
cache of the moment.
-/

namespace BlockingQuery

open Relation (ReflTransGen)

/-- What is shown agrees: the flag is set if and only if there is a snapshot, a running cache has
one, and a cache before its first commit has none. -/
structure Shown.Coherent (v : Shown) : Prop where
  initialized : v.initialized = true ↔ v.snapshot.available = true
  running : v.lifecycle = .running → v.snapshot.available = true
  early : v.lifecycle = .notStarted ∨ v.lifecycle = .starting → v.snapshot.available = false

/-- A cache that shows `v` may come to show `w`: its life goes one way, and a snapshot and the flag
stay. -/
structure Shown.LeadsTo (v w : Shown) : Prop where
  lifecycle : ReflTransGen Lifecycle.Next v.lifecycle w.lifecycle
  available : v.snapshot.available = true → w.snapshot.available = true
  initialized : v.initialized = true → w.initialized = true

theorem Shown.LeadsTo.refl (v : Shown) : v.LeadsTo v :=
  ⟨.refl, id, id⟩

theorem Shown.LeadsTo.trans {u v w : Shown} (h : u.LeadsTo v) (k : v.LeadsTo w) : u.LeadsTo w :=
  ⟨h.lifecycle.trans k.lifecycle, fun hu => k.available (h.available hu),
    fun hu => k.initialized (h.initialized hu)⟩

namespace Cache

/-- The cache `s` was as `u` on its way from its creation. -/
def Moment (s u : Cache) : Prop :=
  ∃ left, Moves (create left) u ∧ Moves u s

/-- An event came about once at most. -/
def Once (e : Event) (os : List Occurrence) : Prop :=
  Always (fun o before => o = .emitted e → .emitted e ∉ before) os

section
variable {c : Setup} {s t u v : Cache} {as : List Answer} {os : List Occurrence}

/-- A move keeps what a cache shows in agreement with its life. -/
theorem coherent_move (h : s.shown.Coherent) (hmove : Move s t) : t.shown.Coherent := by
  rcases shown_move hmove with ⟨hsnapshot, hinitialized, hlife⟩ | ⟨new, hnew, hbegun, rfl⟩
  · have havailable : t.shown.snapshot.available = s.shown.snapshot.available :=
      congrArg Snapshot.available hsnapshot
    refine ⟨?_, fun hrun => ?_, fun hearly => ?_⟩
    · rw [havailable, ← h.initialized]
      exact Eq.congr_left hinitialized
    · rw [havailable]
      rcases hlife with hsame | ⟨-, hstarting⟩ | ⟨-, hstopped⟩
      · exact h.running (hsame.symm.trans hrun)
      · cases hstarting.symm.trans hrun
      · cases hstopped.symm.trans hrun
    · rw [havailable]
      rcases hlife with hsame | ⟨hn, -⟩ | ⟨-, hstopped⟩
      · exact h.early (hearly.imp hsame.symm.trans hsame.symm.trans)
      · exact h.early (.inl hn)
      · rcases hearly with hearly | hearly <;> cases hstopped.symm.trans hearly
  · refine ⟨iff_of_true rfl hnew, fun _ => hnew, fun hearly => ?_⟩
    unfold commit shown at hearly
    dsimp only at hearly
    split at hearly
    next => rcases hearly with hearly | hearly <;> cases hearly
    next hstarting =>
      rcases hearly with hearly | hearly
      · exact absurd hearly hbegun
      · exact absurd hearly hstarting

/-- What a cache shows leads to what it shows after a move. -/
theorem leadsTo_move (hmove : Move s t) : s.shown.LeadsTo t.shown := by
  refine ⟨?_, ?_, ?_⟩
  · rcases lifecycle_move hmove with hsame | hnext
    · change ReflTransGen _ s.lifecycle t.lifecycle
      rw [hsame]
    · exact .single hnext
  all_goals
    rcases shown_move hmove with ⟨hsnapshot, hinitialized, -⟩ | ⟨new, hnew, -, rfl⟩
  · exact fun hs => (congrArg Snapshot.available hsnapshot).trans hs
  · exact fun _ => hnew
  · exact fun hs => hinitialized.trans hs
  · exact fun _ => rfl

/-- What a cache shows leads to what it shows after moves, and stays in agreement with its life. -/
theorem coherent_moves (h : s.shown.Coherent) (hmoves : Moves s t) :
    t.shown.Coherent ∧ s.shown.LeadsTo t.shown := by
  induction hmoves with
  | refl => exact ⟨h, .refl _⟩
  | tail _ hlast ih => exact ⟨coherent_move ih.1 hlast, ih.2.trans (leadsTo_move hlast)⟩

/-- What a cache shows that was created agrees with its life. -/
theorem coherent_create (left : Surroundings) : (create left).shown.Coherent :=
  ⟨iff_of_false nofun nofun, nofun, fun _ => rfl⟩

/-- At every moment of a run what a cache shows agrees with its life. -/
theorem Moment.coherent (h : Moment s u) : u.shown.Coherent := by
  obtain ⟨left, hmoves, -⟩ := h
  exact (coherent_moves (coherent_create left) hmoves).1

/-- What was seen of a cache agreed with its life, and led to what was seen later and to what the
cache shows now. -/
structure Witnessed (s : Cache) : Prop where
  shown : s.shown.Coherent
  coherent : ∀ v ∈ looks s.trace, v.Coherent
  ordered : (looks s.trace).Pairwise Shown.LeadsTo
  leads : ∀ v ∈ looks s.trace, v.LeadsTo s.shown

/-- Whoever looks at a cache in a move sees what it shows. -/
theorem witnessed_move (h : Witnessed s) (hmove : Move s t) : Witnessed t := by
  have hshown := coherent_move h.shown hmove
  have hleads (v : Shown) (hv : v ∈ looks s.trace) : v.LeadsTo t.shown :=
    (h.leads v hv).trans (leadsTo_move hmove)
  have unseen (hsame : looks t.trace = looks s.trace) : Witnessed t :=
    ⟨hshown, hsame ▸ h.coherent, hsame ▸ h.ordered, hsame ▸ hleads⟩
  rcases trace_move hmove with hsame | ⟨o, htrace, hfits, -⟩
  · exact unseen (congrArg looks hsame)
  · cases o with
    | looked who v =>
      obtain rfl : v = t.shown := hfits
      have hseen : looks t.trace = looks s.trace ++ [t.shown] := by rw [htrace, looks_looked]
      refine ⟨hshown, fun v hv => ?_, ?_, fun v hv => ?_⟩
      · rw [hseen] at hv
        rcases List.mem_append.1 hv with hv | hv
        · exact h.coherent v hv
        · rwa [List.mem_singleton.1 hv]
      · rw [hseen, List.pairwise_append]
        exact ⟨h.ordered, List.pairwise_singleton .., by simpa using hleads⟩
      · rw [hseen] at hv
        rcases List.mem_append.1 hv with hv | hv
        · exact hleads v hv
        · rw [List.mem_singleton.1 hv]
          exact .refl _
    | _ => exact unseen (by rw [htrace, looks_cons rfl])

/-- Whoever looks at a cache sees what it shows, however many moves there are. -/
theorem witnessed_moves (h : Witnessed s) (hmoves : Moves s t) : Witnessed t := by
  induction hmoves with
  | refl => exact h
  | tail _ hlast ih => exact witnessed_move ih hlast

/-- Whatever happened, there was a moment when it had just happened, and it fits that moment. -/
theorem exists_moment (h : Moves s t) (hnothing : s.trace = []) (hos : os <:+ t.trace) :
    ∃ u, Moves s u ∧ Moves u t ∧ u.trace = os ∧ ∀ o before, os = o :: before → o.Fits u := by
  induction h with
  | refl =>
    rw [hnothing, List.suffix_nil] at hos
    exact ⟨s, .refl, .refl, hnothing.trans hos.symm, fun o before ho => by rw [hos] at ho; cases ho⟩
  | @tail t t' hmoves hlast ih =>
    have earlier (hbefore : os <:+ t.trace) : ∃ u, Moves s u ∧ Moves u t' ∧ u.trace = os ∧
        ∀ o before, os = o :: before → o.Fits u := by
      obtain ⟨u, hu, ht, htrace⟩ := ih hbefore
      exact ⟨u, hu, ht.tail hlast, htrace⟩
    rcases trace_move hlast with hsame | ⟨o, htrace, hfits, -⟩
    · exact earlier (hsame ▸ hos)
    · -- the moment is the one after the last move, or an earlier one
      rw [htrace, List.suffix_cons_iff] at hos
      rcases hos with rfl | hos
      · refine ⟨t', hmoves.tail hlast, .refl, htrace, fun p before hp => ?_⟩
        obtain ⟨rfl, -⟩ := List.cons_eq_cons.1 hp
        exact hfits
      · exact earlier hos

/-- That a cache was started and that it was stopped is told once at most. -/
theorem once_moves (h : Moves s t) (hnothing : s.trace = []) :
    (t.lifecycle = .notStarted → .emitted .started ∉ t.trace) ∧
      Once .started t.trace ∧ Once .stopped t.trace := by
  induction h with
  | refl =>
    rw [hnothing]
    exact ⟨fun _ => List.not_mem_nil, trivial, trivial⟩
  | @tail t t' _ hlast ih =>
    obtain ⟨hunstarted, hstarted, hstopped⟩ := ih
    have before (hn : t'.lifecycle = .notStarted) : .emitted .started ∉ t.trace :=
      hunstarted (Decidable.not_not.1 fun hbegun => begun_move hbegun hlast hn)
    rcases trace_move hlast with hsame | ⟨o, htrace, hfits, hfirst⟩
    · rw [hsame]
      exact ⟨before, hstarted, hstopped⟩
    · rw [htrace]
      refine ⟨fun hn hmem => ?_, ⟨fun ho => ?_, hstarted⟩, ⟨fun ho => ?_, hstopped⟩⟩
      · rcases List.mem_cons.1 hmem with rfl | hmem
        · exact Lifecycle.noConfusion (hn.symm.trans hfits)
        · exact before hn hmem
      · subst ho
        exact hunstarted hfirst
      · subst ho
        exact hfirst

/-- A cache that is started again is left alone, and one that was stopped is refused. -/
theorem start_cases (c : Setup) (s : Cache) :
    (start c s).1 = (if s.lifecycle = .stopped then .refused (.stopped c.name) else .done) ∧
      (s.Begun → (start c s).2 = s) := by
  unfold start Begun
  cases s.lifecycle <;> simp

/-- At every moment of a run, between two commands and in the middle of what the application does,
the flag is set if and only if there is a snapshot, a running cache has one, and a cache before its
first commit has none; the application is called only after the start, and for everything that
happened there was a moment that it fits. From one moment to a later one the life of the cache goes
one way, and the snapshot and the flag stay. All this is so of what listeners and observers see who
look at the cache when they are called, one after the other, and of what the cache shows between
two steps. It is told at most once that the cache was started, and at most once that it was stopped.
At every moment another start is refused if and only if the cache was stopped, and changes nothing
unless the cache was not started. -/
theorem coherent_of_run (h : Run c as s) :
    Moment s s ∧
    (∀ os, os <:+ s.trace → ∃ u, Moment s u ∧ u.trace = os ∧
      ∀ o before, os = o :: before → o.Fits u) ∧
    (∀ u, Moment s u → u.shown.Coherent) ∧
    (∀ u v, Moment s u → Moves u v → Moment s v → u.shown.LeadsTo v.shown) ∧
    (∀ v ∈ looks s.trace, v.Coherent ∧ v.LeadsTo s.shown) ∧
    (looks s.trace).Pairwise Shown.LeadsTo ∧
    s.shown.Coherent ∧ (∀ bs t, Steps c s bs t → s.shown.LeadsTo t.shown) ∧
    Once .started s.trace ∧ Once .stopped s.trace ∧
    ∀ d u, Moment s u →
      (start d u).1 = (if u.lifecycle = .stopped then .refused (.stopped d.name) else .done) ∧
      (u.lifecycle ≠ .notStarted → (start d u).2 = u) := by
  obtain ⟨left, hmoves, hsteady⟩ := moves_of_run h
  have honce := once_moves hmoves rfl
  have hwitnessed : Witnessed s :=
    witnessed_moves ⟨coherent_create left, nofun, .nil, nofun⟩ hmoves
  have hfresh : Fresh s := fresh_moves (s := create left) (fun _ => List.not_mem_nil) hmoves
  refine ⟨⟨left, hmoves, .refl⟩, fun os hos => ?_, fun u hu => hu.coherent,
    fun u v hu huv _ => (coherent_moves hu.coherent huv).2,
    fun v hv => ⟨hwitnessed.coherent v hv, hwitnessed.leads v hv⟩, hwitnessed.ordered,
    hwitnessed.shown,
    fun bs t hsteps => (coherent_moves hwitnessed.shown (moves_steps hsteps hsteady hfresh).1).2,
    honce.2.1, honce.2.2, fun d u _ => start_cases d u⟩
  obtain ⟨u, hbefore, hafter, hu⟩ := exists_moment hmoves rfl hos
  exact ⟨u, ⟨left, hbefore, hafter⟩, hu⟩

end

end Cache

/-- The sample with observers that look at the cache. -/
def Setup.sampleWatched : Setup :=
  { Setup.sample with observer := fun _ _ => [.look] }

namespace Cache

/-- The watched sample with a listener and an observer, which was started, heard that the index is 7
and was stopped. -/
def sampleWatched : Cache :=
  after .sampleWatched [.addListener "listener", .addObserver "observer", .start,
    .respond none (.sample "7"), .stop] (create { now := 0, draws := [], policy := none })

/-- The observer looked at the cache when that was started, when its snapshot changed and when it
was stopped, and the listener when it was called with the snapshot. -/
theorem coherent_of_run_sample : ∃ as, Run .sampleWatched as sampleWatched ∧
    (looks sampleWatched.trace).map (fun v => (v.lifecycle, v.snapshot.index, v.initialized)) =
      [(.starting, none, false), (.running, some 7, true), (.running, some 7, true),
        (.stopped, some 7, true)] ∧
    (∀ v ∈ looks sampleWatched.trace, v.Coherent ∧ v.LeadsTo sampleWatched.shown) ∧
    (looks sampleWatched.trace).Pairwise Shown.LeadsTo ∧
    Once .started sampleWatched.trace ∧ Once .stopped sampleWatched.trace := by
  obtain ⟨as, h⟩ := run_after .sampleWatched _ _
  obtain ⟨-, -, -, -, hseen, hordered, -, -, hstarted, hstopped, -⟩ :=
    coherent_of_run (s := sampleWatched) h
  exact ⟨as, h, by decide +kernel, hseen, hordered, hstarted, hstopped⟩

end Cache

end BlockingQuery
