import BlockingQuery.Proofs.Cache.Callback
import BlockingQuery.Proofs.Cache.Lifecycle
import Mathlib.Logic.Relation

/-!
# What a cache does, one thing at a time

A step of a run is many things one after the other: notes, commits, turns of the loop, and what the
application does in between. Here they are taken apart. A `Deed` is one thing that is no part of
stopping; a `Doing` is a deed or a whole call of `stop`, wherever it comes from; and a `Move` is a
deed or one of the things that `stop` consists of. Every step is doings (`doings_step`), and every
doing is moves (`moves_doing`), so what a single move keeps holds at every moment of a run, in the
middle of a call of a listener as well as between two commands.

A move adds to the trace what fits the cache that it leads to (`trace_move`), takes the life of the
cache one way only (`lifecycle_move`), and shows another snapshot only by a commit (`shown_move`).
-/

namespace BlockingQuery

/-- A session is opened, a request is sent, or a listener is called. -/
def Occurrence.Begins : Occurrence → Prop
  | .opening | .connected | .requested _ | .called .. => True
  | _ => False

/-- What is true of a cache in which an occurrence has just happened. -/
def Occurrence.Fits (s : Cache) : Occurrence → Prop
  | .opening | .connected | .requested _ | .called .. => s.Begun ∧ s.isStopped = false
  | .committed new => s.snapshot = new
  | .emitted .started => s.lifecycle = .starting
  | .emitted .stopped | .stopReturned => s.isStopped = true
  | .looked _ seen => seen = s.shown
  | .closed | .heard _ | .emitted _ | .observed .. => s.Begun
  | .added _ | .removed _ => True

/-- What is true of a cache in which an occurrence is about to happen for the first time, if it can
happen once only. -/
def Occurrence.IsFirst (s : Cache) : Occurrence → Prop
  | .emitted .started => s.lifecycle = .notStarted
  | .emitted .stopped => .emitted .stopped ∉ s.trace
  | _ => True

/-- The ways that the life of a cache goes. -/
inductive Lifecycle.Next : Lifecycle → Lifecycle → Prop
  | start : Next .notStarted .starting
  | run : Next .starting .running
  | stop {a : Lifecycle} (h : a ≠ .stopped) : Next a .stopped

/-- The loop never ran, is over, or waits for a listener and for nothing else. -/
def Loop.IsAtRest : Loop → Prop
  | .idle | .notifying .. | .ended => True
  | .opening | .polling _ | .awaiting .. | .sleeping .. => False

/-- A loop that goes on: at once, or when the transport, a delay or a listener is done. -/
def Loop.IsLive : Loop → Prop
  | .opening | .polling _ | .awaiting .. | .sleeping .. | .notifying .. => True
  | .idle | .ended => False

namespace Cache

open Relation (ReflTransGen)

/-- One thing that changes a cache and is no part of stopping it. -/
inductive Deed : Cache → Cache → Prop
  | note {s : Cache} {o : Occurrence} (h : o.IsPassing s) (hs : s.Begun) : Deed s (s.note o)
  | add (l : String) (s : Cache) : Deed s (s.addListener l)
  | remove (l : String) (s : Cache) : Deed s (s.removeListener l).2
  | observers (os : List String) (s : Cache) : Deed s { s with observers := os }
  | start {s : Cache} (h : s.lifecycle = .notStarted) :
    Deed s ({ s with lifecycle := .starting, loop := .opening }.note (.emitted .started))
  /-- Nothing begins in a cache that is stopped. -/
  | begins {s : Cache} {o : Occurrence} (h : o.Begins) (hs : s.Begun) (hgo : s.isStopped = false) :
    Deed s (s.note o)
  | commits {s : Cache} {new : Snapshot} (h : new.available = true) (hs : s.Begun) :
    Deed s (commit new s)
  /-- The loop and the worker go where they go, but the worker of a stopped cache has no new rounds
  to begin. -/
  | turns {s : Cache} (left : Surroundings) (errors sessions : Nat) (loop : Loop) {worker : Worker}
    (h : s.isStopped = true → worker.queue <:+ s.worker.queue) :
    Deed s { s with toSurroundings := left, errorCount := errors, sessions, loop, worker }

/-- One thing that changes a cache, a whole call of `stop` being one of them. -/
inductive Doing (c : Setup) : Cache → Cache → Prop
  | deed {s t : Cache} (h : Deed s t) : Doing c s t
  | stop (place : Place) (s : Cache) : Doing c s (Cache.stop c place s).2

/-- What changes a cache from one moment to the next. -/
inductive Move : Cache → Cache → Prop
  | deed {s t : Cache} (h : Deed s t) : Move s t
  /-- A call of `stop` marks the cache. -/
  | mark {s : Cache} (h : s.isStopped = false) : Move s { s with lifecycle := .stopped }
  /-- A call of `stop` tells that the cache was stopped. -/
  | farewell {s : Cache} (h : s.isStopped = true) (hfirst : .emitted .stopped ∉ s.trace) :
    Move s (s.note (.emitted .stopped))
  /-- A call of `stop` comes back. -/
  | returned {s : Cache} (h : s.isStopped = true) : Move s (s.note .stopReturned)

/-- One thing after the other. -/
abbrev Doings (c : Setup) : Cache → Cache → Prop :=
  ReflTransGen (Doing c)

/-- One moment after the other. -/
abbrev Moves : Cache → Cache → Prop :=
  ReflTransGen Move

/-! ## Stopping -/

/-- As long as a cache is not stopped, it has not told that it was. -/
def Fresh (s : Cache) : Prop :=
  s.isStopped = false → .emitted .stopped ∉ s.trace

/-- What may happen to a stopped cache on the way through `stop`, before it tells that it was
stopped. -/
structure Winding (s t : Cache) : Prop where
  moves : Moves s t
  isStopped : t.isStopped = true
  silent : .emitted .stopped ∈ t.trace → .emitted .stopped ∈ s.trace

section
variable {c : Setup} {s t u : Cache}

/-- A stopped cache was begun. -/
theorem begun_of_isStopped (hs : s.isStopped = true) : s.Begun := by
  rw [isStopped_iff] at hs
  rw [Begun, hs]
  exact Lifecycle.noConfusion

/-- A stopped cache that stays as it is is on its way through `stop`. -/
theorem Winding.refl (hs : s.isStopped = true) : Winding s s :=
  ⟨.refl, hs, id⟩

/-- The way through `stop` goes on where it has come to. -/
theorem Winding.trans (h : Winding s t) (k : Winding t u) : Winding s u :=
  ⟨h.moves.trans k.moves, k.isStopped, fun hu => h.silent (k.silent hu)⟩

/-- A deed that tells nothing may happen on the way through `stop`. -/
theorem Winding.deed (hs : t.isStopped = true) (h : Deed s t) (htrace : t.trace = s.trace) :
    Winding s t :=
  ⟨.single (.deed h), hs, fun ht => htrace ▸ ht⟩

/-- What may be noted at any time may be noted on the way through `stop`. -/
theorem Winding.note (hs : s.isStopped = true) {o : Occurrence} (ho : o.IsPassing s) :
    Winding s (s.note o) := by
  refine ⟨.single (.deed (.note ho (begun_of_isStopped hs))), hs, fun ht => ?_⟩
  rcases List.mem_cons.1 ht with rfl | ht
  · exact absurd rfl ho.2
  · exact ht

/-- On the way through `stop` the loop goes anywhere, and the worker drops rounds. -/
theorem Winding.turns (hs : s.isStopped = true) (loop : Loop) {worker : Worker}
    (h : worker.queue <:+ s.worker.queue) : Winding s { s with loop, worker } :=
  .deed hs (.turns s.toSurroundings s.errorCount s.sessions loop fun _ => h) rfl

/-- What the application does on the way leaves the loop and the worker alone. -/
theorem tolerant_stopAgain : Tolerant stopAgain fun s t =>
    s.isStopped = true → Winding s t ∧ t.loop = s.loop ∧ t.worker = s.worker where
  refl _ hs := ⟨.refl hs, rfl, rfl⟩
  trans h k hs := by
    obtain ⟨ht, hloop, hworker⟩ := h hs
    obtain ⟨hu, kloop, kworker⟩ := k ht.isStopped
    exact ⟨ht.trans hu, kloop.trans hloop, kworker.trans hworker⟩
  note _ _ ho hs := ⟨.note hs ho.isPassing, rfl, rfl⟩
  add l s hs :=
    ⟨⟨.single (.deed (.add l s)), hs, fun h => (List.mem_cons.1 h).resolve_left nofun⟩, rfl, rfl⟩
  remove l s hs := by
    have hmove : Move s (s.removeListener l).2 := .deed (.remove l s)
    unfold Cache.removeListener at hmove ⊢
    split at hmove
    next =>
      exact ⟨⟨.single hmove, hs, fun h => (List.mem_cons.1 h).resolve_left nofun⟩, rfl, rfl⟩
    next => exact ⟨.refl hs, rfl, rfl⟩
  observers os s hs := ⟨.deed hs (.observers os s) rfl, rfl, rfl⟩
  stop _ hs :=
    ⟨⟨.single (.returned hs), hs, fun h => (List.mem_cons.1 h).resolve_left nofun⟩, rfl, rfl⟩

/-- Cancelling the loop leaves it at rest. -/
theorem winding_cancelLoop (hs : s.isStopped = true) :
    Winding s (cancelLoop s) ∧ (cancelLoop s).loop.IsAtRest := by
  have hclosed : Winding s { s.note .closed with loop := .ended } :=
    (Winding.note (o := .closed) hs trivial).trans
      (.turns (s := s.note .closed) hs .ended (List.suffix_refl _))
  have hended : Winding s { s with loop := .ended } := .turns hs .ended (List.suffix_refl _)
  unfold cancelLoop
  split
  next => exact ⟨hclosed, trivial⟩
  next => exact ⟨hclosed, trivial⟩
  next => exact ⟨hclosed, trivial⟩
  next => exact ⟨hended, trivial⟩
  next => exact ⟨hended, trivial⟩
  next hl => exact ⟨.refl hs, by rw [hl]; trivial⟩
  next hl => exact ⟨.refl hs, by rw [hl]; trivial⟩
  next hl => exact ⟨.refl hs, by rw [hl]; trivial⟩

/-- Letting the worker finish its call does not touch the loop. -/
theorem winding_freeWorker (c : Setup) (hs : s.isStopped = true) :
    Winding s (freeWorker c s) ∧ (freeWorker c s).loop = s.loop := by
  unfold freeWorker
  split
  next => exact ⟨.refl hs, rfl⟩
  next held _ =>
    have hfree : Winding s { s with worker := { s.worker with held := none } } :=
      .turns hs s.loop (List.suffix_refl _)
    obtain ⟨hround, hloop, -⟩ := tolerant_stopAgain.releaseWith (c := c)
      { held with acts := unblocked held.acts } (fun l t ht hgo => by
        rw [(ht hs).1.isStopped] at hgo
        cases hgo) (hfree.isStopped)
    exact ⟨hfree.trans hround, hloop⟩

/-- What a call of `stop` leaves of a cache that was not stopped. -/
structure Halted (place : Place) (s t : Cache) : Prop where
  moves : Fresh s → Moves s t
  returned : ∃ u : Cache, u.isStopped = true ∧ t = u.note .stopReturned
  dropped : t.worker.queue = []
  atRest : place ≠ .pollLoop → t.loop.IsAtRest

/-- Stopping a cache marks it, takes hold of the loop and the worker, and tells of it. -/
theorem halted_stop (c : Setup) (place : Place) (hgo : s.isStopped = false) :
    Halted place s (stop c place s).2 := by
  let marked : Cache := { s with lifecycle := .stopped }
  have hmark : Move s marked := .mark hgo
  have hmarked : marked.isStopped = true := rfl
  -- a call from the loop does not cancel the loop, and one from the worker does not wait for it
  obtain ⟨t, ht, hwind, hrest⟩ :
      ∃ t, t = (if place = .pollLoop then marked else cancelLoop marked) ∧
        Winding marked t ∧ (place ≠ .pollLoop → t.loop.IsAtRest) := by
    refine ⟨_, rfl, ?_⟩
    split
    next hplace => exact ⟨.refl hmarked, fun hother => absurd hplace hother⟩
    next => exact ⟨(winding_cancelLoop hmarked).1, fun _ => (winding_cancelLoop hmarked).2⟩
  have dropped {u : Cache} (hu : u.isStopped = true) : Winding u u.dropQueue :=
    .turns hu u.loop List.nil_suffix
  unfold stop
  rw [if_neg (Bool.eq_false_iff.1 hgo)]
  dsimp only
  rw [← ht]
  split
  next f _ =>
    have hend := hwind.trans (dropped hwind.isStopped)
    exact ⟨fun _ => ((ReflTransGen.single hmark).trans hend.moves).tail (.returned hend.isStopped),
      ⟨_, hend.isStopped, rfl⟩, rfl, hrest⟩
  next =>
    obtain ⟨u, hu, hfree, hloop⟩ : ∃ u, u = (if place = .worker then t else freeWorker c t) ∧
        Winding t u ∧ u.loop = t.loop := by
      refine ⟨_, rfl, ?_⟩
      split
      next => exact ⟨.refl hwind.isStopped, rfl⟩
      next => exact winding_freeWorker c hwind.isStopped
    rw [← hu]
    have hend := (hwind.trans hfree).trans (dropped (hwind.trans hfree).isStopped)
    have hsaid : (u.dropQueue.note (.emitted .stopped)).isStopped = true := hend.isStopped
    obtain ⟨htold, ktold, wtold⟩ := (tolerant_stopAgain.tell (c := c) .stopped u.dropQueue) hsaid
    refine ⟨fun hfresh => ?_, ⟨_, htold.isStopped, rfl⟩, congrArg Worker.queue wtold,
      fun hplace => ?_⟩
    · have hfirst : .emitted .stopped ∉ u.dropQueue.trace := fun h => hfresh hgo (hend.silent h)
      exact ((((ReflTransGen.single hmark).trans hend.moves).tail
        (.farewell hend.isStopped hfirst)).trans htold.moves).tail (.returned htold.isStopped)
    · have hkept : (stopAgain (emitWith c stopAgain .stopped u.dropQueue)).2.loop = t.loop :=
        ktold.trans hloop
      rw [hkept]
      exact hrest hplace

/-- Whenever a call of `stop` comes back, the cache is stopped. -/
theorem stop_returns (c : Setup) (place : Place) (s : Cache) :
    ∃ u : Cache, u.isStopped = true ∧ (stop c place s).2 = u.note .stopReturned := by
  by_cases hs : s.isStopped = true
  · exact ⟨s, hs, congrArg Prod.snd (if_pos hs)⟩
  · exact (halted_stop c place (Bool.eq_false_iff.2 hs)).returned

/-! ## What a move does -/

/-- A removal is noted, or nothing is removed. -/
theorem removeListener_cases (l : String) (s : Cache) :
    (∃ registry, (s.removeListener l).2 = { s.note (.removed l) with registry }) ∨
      (s.removeListener l).2 = s := by
  unfold removeListener
  split
  next registry _ => exact .inl ⟨registry, rfl⟩
  next => exact .inr rfl

/-- A deed adds one occurrence to the trace, or none. -/
theorem trace_deed (h : Deed s t) :
    t.trace = s.trace ∨ ∃ o, t.trace = o :: s.trace ∧ o.Fits t ∧ o.IsFirst s := by
  cases h with
  | @note _ o ho hs =>
    refine .inr ⟨o, rfl, ?_⟩
    cases o with
    | observed | closed | heard => exact ⟨hs, trivial⟩
    | emitted e =>
      cases e with
      | started => exact absurd rfl ho.1
      | stopped => exact absurd rfl ho.2
      | changed | unchanged | failed | listenerFailed => exact ⟨hs, trivial⟩
    | looked => exact ⟨ho, trivial⟩
    | opening | connected | requested | committed | added | removed | called | stopReturned =>
      exact ho.elim
  | add l => exact .inr ⟨.added l, rfl, trivial, trivial⟩
  | remove l =>
    rcases removeListener_cases l s with ⟨registry, hremoved⟩ | hsame
    · exact .inr ⟨.removed l, by rw [hremoved]; rfl, trivial, trivial⟩
    · exact .inl (congrArg trace hsame)
  | observers | turns => exact .inl rfl
  | start hn => exact .inr ⟨_, rfl, rfl, hn⟩
  | @begins _ o ho hs hgo =>
    refine .inr ⟨o, rfl, ?_⟩
    cases o with
    | opening | connected | requested | called => exact ⟨⟨hs, hgo⟩, trivial⟩
    | closed | heard | committed | emitted | observed | added | removed | looked | stopReturned =>
      exact ho.elim
  | @commits _ new => exact .inr ⟨.committed new, rfl, rfl, trivial⟩

/-- A move adds one occurrence to the trace, or none. -/
theorem trace_move (h : Move s t) :
    t.trace = s.trace ∨ ∃ o, t.trace = o :: s.trace ∧ o.Fits t ∧ o.IsFirst s := by
  cases h with
  | deed h => exact trace_deed h
  | mark => exact .inl rfl
  | farewell hs hfirst => exact .inr ⟨_, rfl, hs, hfirst⟩
  | returned hs => exact .inr ⟨_, rfl, hs, trivial⟩

/-- A deed commits a snapshot, or it leaves alone what the cache shows and does no more to its life
than to start it. -/
theorem shown_deed (h : Deed s t) :
    (t.snapshot = s.snapshot ∧ t.initialized = s.initialized ∧
      (t.lifecycle = s.lifecycle ∨ s.lifecycle = .notStarted ∧ t.lifecycle = .starting)) ∨
    ∃ new, new.available = true ∧ s.Begun ∧ t = commit new s := by
  cases h with
  | note | begins | observers | turns | add => exact .inl ⟨rfl, rfl, .inl rfl⟩
  | remove l =>
    rcases removeListener_cases l s with ⟨registry, hremoved⟩ | hsame
    · rw [hremoved]
      exact .inl ⟨rfl, rfl, .inl rfl⟩
    · rw [hsame]
      exact .inl ⟨rfl, rfl, .inl rfl⟩
  | start hn => exact .inl ⟨rfl, rfl, .inr ⟨hn, rfl⟩⟩
  | commits hnew hs => exact .inr ⟨_, hnew, hs, rfl⟩

/-- A move commits a snapshot, or it leaves alone what the cache shows and does no more to its life
than to start or to stop it. -/
theorem shown_move (h : Move s t) :
    (t.snapshot = s.snapshot ∧ t.initialized = s.initialized ∧
      (t.lifecycle = s.lifecycle ∨ s.lifecycle = .notStarted ∧ t.lifecycle = .starting ∨
        s.lifecycle ≠ .stopped ∧ t.lifecycle = .stopped)) ∨
    ∃ new, new.available = true ∧ s.Begun ∧ t = commit new s := by
  cases h with
  | deed h =>
    rcases shown_deed h with ⟨hsnapshot, hinitialized, hlife⟩ | hcommit
    · exact .inl ⟨hsnapshot, hinitialized, hlife.imp_right .inl⟩
    · exact .inr hcommit
  | mark hgo =>
    refine .inl ⟨rfl, rfl, .inr (.inr ⟨fun hs => ?_, rfl⟩)⟩
    rw [isStopped_iff.2 hs] at hgo
    cases hgo
  | farewell | returned => exact .inl ⟨rfl, rfl, .inl rfl⟩

/-- The life of a cache goes one way, or stays where it is. -/
theorem lifecycle_move (h : Move s t) :
    t.lifecycle = s.lifecycle ∨ s.lifecycle.Next t.lifecycle := by
  rcases shown_move h with ⟨-, -, hsame | ⟨hn, hstarting⟩ | ⟨hgo, hstopped⟩⟩ | ⟨new, -, -, rfl⟩
  · exact .inl hsame
  · exact .inr (hn ▸ hstarting ▸ .start)
  · exact .inr (hstopped ▸ .stop hgo)
  · unfold commit
    dsimp only
    split
    next hstarting => exact .inr (hstarting ▸ .run)
    next => exact .inl rfl

/-- A cache that was begun stays so, and a stopped cache stays stopped. -/
theorem lifecycle_stays {a b : Lifecycle} (h : b = a ∨ a.Next b) :
    (a ≠ .notStarted → b ≠ .notStarted) ∧ (a = .stopped → b = .stopped) := by
  rcases h with rfl | h
  · exact ⟨id, id⟩
  · cases h with
    | start => exact ⟨fun hn => absurd rfl hn, nofun⟩
    | run => exact ⟨nofun, nofun⟩
    | stop => exact ⟨nofun, fun _ => rfl⟩

/-- A move does not undo the beginning. -/
theorem begun_move (hs : s.Begun) (h : Move s t) : t.Begun :=
  (lifecycle_stays (lifecycle_move h)).1 hs

/-- A move sets no stopped cache going again. -/
theorem isStopped_move (hs : s.isStopped = true) (h : Move s t) : t.isStopped = true :=
  isStopped_iff.2 ((lifecycle_stays (lifecycle_move h)).2 (isStopped_iff.1 hs))

/-- A doing does not undo the beginning. -/
theorem begun_doing (hs : s.Begun) (h : Doing c s t) : t.Begun := by
  cases h with
  | deed h => exact begun_move hs (.deed h)
  | stop place => exact begun_quiet hs (reacts_stop c place s).quiet

/-- A cache tells that it was stopped only when it was. -/
theorem fresh_move (hfresh : Fresh s) (h : Move s t) : Fresh t := by
  intro hgo hmem
  have hs : s.isStopped = false := Bool.eq_false_iff.2 fun hs =>
    Bool.eq_false_iff.1 hgo (isStopped_move hs h)
  rcases trace_move h with htrace | ⟨o, htrace, hfits, -⟩
  · exact hfresh hs (htrace ▸ hmem)
  · rw [htrace] at hmem
    rcases List.mem_cons.1 hmem with rfl | hmem
    · exact Bool.eq_false_iff.1 hgo hfits
    · exact hfresh hs hmem

/-- A cache tells that it was stopped only when it was, however many moves there are. -/
theorem fresh_moves (hfresh : Fresh s) (h : Moves s t) : Fresh t := by
  induction h with
  | refl => exact hfresh
  | tail _ hlast ih => exact fresh_move ih hlast

/-! ## Doings are moves -/

/-- A doing is moves. -/
theorem moves_doing (hfresh : Fresh s) (h : Doing c s t) : Moves s t := by
  cases h with
  | deed h => exact .single (.deed h)
  | stop place =>
    by_cases hs : s.isStopped = true
    · have hagain : stop c place s = stopAgain s := if_pos hs
      rw [hagain]
      exact .single (.returned hs)
    · exact (halted_stop c place (Bool.eq_false_iff.2 hs)).moves hfresh

/-- One doing after the other is one move after the other. -/
theorem moves_doings (hfresh : Fresh s) (h : Doings c s t) : Moves s t := by
  induction h with
  | refl => exact .refl
  | tail _ hlast ih => exact ih.trans (moves_doing (fresh_moves hfresh ih) hlast)

end

end Cache

end BlockingQuery
