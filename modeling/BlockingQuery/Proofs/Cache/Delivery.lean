import BlockingQuery.Proofs.Cache.Lifecycle
import BlockingQuery.Proofs.Cache.View

/-!
# Delivery to listeners

A listener that was registered before the first commit, and was not removed since (`Standing`), is
handed the commits one after the other. The invariant is an account: as long as the cache is not
stopped, what was committed is what the listener was handed and then what it is still owed
(`Owing`), and it is owed the snapshots of the rounds in which its turn has yet to come
(`outstanding`). A commit adds to what is owed, a call of the listener pays the first snapshot of
it, and nothing else enters the account. A stopped cache owes nothing any more, and begins no call.

The account is the same for both ways of calling listeners, since only one of the two is in use
(`Delivering.inline`, `Delivering.background`).
-/

namespace BlockingQuery

namespace Cache

/-! ## Standing listeners -/

/-- The listener was registered before the first commit, and not removed since. -/
def Standing (l : String) (os : List Occurrence) : Prop :=
  ∃ after before, os = after ++ .added l :: before ∧ commits before = [] ∧ .removed l ∉ after

/-- At every moment a listener had been handed commits in their order, from the first one on. -/
def InOrder (l : String) (os : List Occurrence) : Prop :=
  Always (fun o os => handed l (o :: os) <+: commits (o :: os)) os

/-- Listeners are called with snapshots that were committed before. -/
def Grounded (os : List Occurrence) : Prop :=
  Always (fun o os => ∀ l s, o = .called l s → s ∈ commits os) os

section
variable {l : String} {o : Occurrence} {os ps : List Occurrence}

/-- A listener stands if it stood before and is not removed, or if it is added before the first
commit. -/
theorem standing_cons :
    Standing l (o :: os) ↔ Standing l os ∧ o ≠ .removed l ∨ commits os = [] ∧ o = .added l := by
  constructor
  · rintro ⟨after, before, heq, hfirst, hkept⟩
    cases after with
    | nil =>
      obtain ⟨rfl, rfl⟩ := List.cons_eq_cons.1 heq
      exact .inr ⟨hfirst, rfl⟩
    | cons p after =>
      obtain ⟨rfl, rfl⟩ := List.cons_eq_cons.1 heq
      refine .inl ⟨⟨after, before, rfl, hfirst, fun h => hkept (List.mem_cons_of_mem _ h)⟩, ?_⟩
      rintro rfl
      exact hkept List.mem_cons_self
  · rintro (⟨⟨after, before, rfl, hfirst, hkept⟩, ho⟩ | ⟨hfirst, rfl⟩)
    · refine ⟨o :: after, before, rfl, hfirst, fun h => ?_⟩
      rcases List.mem_cons.1 h with h | h
      · exact ho h.symm
      · exact hkept h
    · exact ⟨[], os, rfl, hfirst, List.not_mem_nil⟩

/-- Whether an occurrence registers the listener. -/
instance decidableEqAdded (l : String) : ∀ o : Occurrence, Decidable (o = .added l)
  | .added m => decidable_of_iff (m = l) (by simp)
  | .opening | .connected | .closed | .requested _ | .heard _ | .committed _ | .emitted _
  | .observed ..
  | .removed _ | .called .. | .looked .. | .stopReturned => isFalse nofun

/-- Whether an occurrence removes the listener. -/
instance decidableEqRemoved (l : String) : ∀ o : Occurrence, Decidable (o = .removed l)
  | .removed m => decidable_of_iff (m = l) (by simp)
  | .opening | .connected | .closed | .requested _ | .heard _ | .committed _ | .emitted _
  | .observed ..
  | .added _ | .called .. | .looked .. | .stopReturned => isFalse nofun

/-- Whether a listener stands can be told from the trace. -/
instance decidableStanding (l : String) : ∀ os, Decidable (Standing l os)
  | [] => isFalse (by rintro ⟨after, before, heq, -⟩; simp at heq)
  | o :: os =>
    have := decidableStanding l os
    have : Decidable (commits os = []) := decidable_of_iff ((commits os).isEmpty = true) (by simp)
    decidable_of_iff _ standing_cons.symm

/-- A listener stands that stood before, unless there was no commit yet. -/
theorem standing_append (h : Standing l (os ++ ps)) : Standing l ps ∨ commits ps = [] := by
  induction os with
  | nil => exact .inl h
  | cons o os ih =>
    rcases standing_cons.1 h with ⟨h, -⟩ | ⟨hnil, -⟩
    · exact ih h
    · right
      have hall : commits (os ++ ps) = commits ps ++ commits os := by simp [commits]
      exact (List.append_eq_nil_iff.1 (hall ▸ hnil)).1

/-- A listener that stands is registered. -/
theorem mem_replay_of_standing (h : Standing l os) : l ∈ (Registry.replay os {}).listeners := by
  induction os with
  | nil =>
    obtain ⟨after, before, heq, -⟩ := h
    simp at heq
  | cons o os ih =>
    rw [Registry.replay_cons]
    rcases standing_cons.1 h with ⟨h, hkept⟩ | ⟨-, rfl⟩
    · exact Registry.mem_after (ih h) hkept
    · exact Registry.mem_add.2 (.inr rfl)

/-- What is in order stays so when the next moment is. -/
theorem InOrder.cons (h : InOrder l os) (hnow : handed l (o :: os) <+: commits (o :: os)) :
    InOrder l (o :: os) :=
  ⟨hnow, h⟩

/-- What is true at every moment is true now. -/
theorem InOrder.handed_isPrefix (h : InOrder l os) : handed l os <+: commits os := by
  cases os with
  | nil => exact List.nil_prefix
  | cons o os => exact h.1

/-- Before the first commit nobody is handed anything. -/
theorem Grounded.handed_eq_nil (h : Grounded os) (hnone : commits os = []) : handed l os = [] := by
  induction os with
  | nil => rfl
  | cons o os ih =>
    cases hc : o.committed? with
    | some s => simp [commits, hc] at hnone
    | none =>
      rw [commits_cons hc] at hnone
      cases ho : o.handed? l with
      | none => rw [handed_cons ho, ih h.2 hnone]
      | some s =>
        cases o with
        | called m t =>
          have hmem := h.1 m t rfl
          rw [hnone] at hmem
          cases hmem
        | _ => cases ho

/-- Before the first commit everything is in order. -/
theorem Grounded.inOrder (h : Grounded os) (hnone : commits os = []) : InOrder l os := by
  induction os with
  | nil => trivial
  | cons o os ih =>
    have hbefore : commits os = [] := by
      cases hc : o.committed? with
      | some s => simp [commits, hc] at hnone
      | none => rwa [commits_cons hc] at hnone
    refine (ih h.2 hbefore).cons ?_
    rw [h.handed_eq_nil hnone]
    exact List.nil_prefix

end

/-! ## The account -/

/-- What was committed is what every listener that stands was handed, and then what it is still
owed. A cache that is stopped owes nothing. -/
structure Owing (owed : String → List Snapshot) (s : Cache) : Prop where
  registry : s.registry = Registry.replay s.trace {}
  grounded : Grounded s.trace
  told : s.isStopped = true → .stopReturned ∈ s.trace
  covered : s.isStopped = false → ∀ l, ∀ snapshot ∈ owed l, snapshot ∈ commits s.trace
  inOrder : ∀ l, Standing l s.trace → InOrder l s.trace
  balanced : s.isStopped = false → ∀ l, Standing l s.trace →
    commits s.trace = handed l s.trace ++ owed l

section
variable {s t : Cache} {owed owed' : String → List Snapshot}

/-- What a stopped cache owes makes no difference. -/
theorem Owing.of_stopped (h : Owing owed s) (hs : s.isStopped = true) : Owing owed' s where
  registry := h.registry
  grounded := h.grounded
  told := h.told
  covered hgo := by rw [hs] at hgo; cases hgo
  inOrder := h.inOrder
  balanced hgo := by rw [hs] at hgo; cases hgo

/-- What is owed to those who do not stand makes no difference. -/
theorem Owing.of_standing (h : Owing owed s) (hless : ∀ l, ∀ snapshot ∈ owed' l, snapshot ∈ owed l)
    (heq : ∀ l, Standing l s.trace → owed' l = owed l) : Owing owed' s where
  registry := h.registry
  grounded := h.grounded
  told := h.told
  covered hgo l snapshot hsnap := h.covered hgo l snapshot (hless l snapshot hsnap)
  inOrder := h.inOrder
  balanced hgo l hl := by rw [heq l hl]; exact h.balanced hgo l hl

/-- What happens without a commit and without a call of a listener does not enter the account. -/
theorem Owing.grown (h : Owing owed s) {os : List Occurrence} (htrace : t.trace = os ++ s.trace)
    (hcommitted : ∀ o ∈ os, o.committed? = none) (hhanded : ∀ l, ∀ o ∈ os, o.handed? l = none)
    (hregistry : t.registry = s.registry.replay os)
    (hstays : s.isStopped = true → t.isStopped = true)
    (htold : t.isStopped = true → s.isStopped = true ∨ .stopReturned ∈ t.trace) : Owing owed t := by
  have hgo (ht : t.isStopped = false) : s.isStopped = false := by
    rw [← Bool.not_eq_true] at ht ⊢
    exact fun hs => ht (hstays hs)
  have hcommits : commits t.trace = commits s.trace := by rw [htrace, commits_append hcommitted]
  have hgrounded : Grounded t.trace := by
    rw [htrace]
    refine h.grounded.append ?_
    rintro o os' hs l snapshot rfl
    have hnone := hhanded l _ (hs.mem List.mem_cons_self)
    simp [Occurrence.handed?] at hnone
  refine ⟨?_, hgrounded, fun ht => ?_, fun ht => ?_, fun l hl => ?_, fun ht l hl => ?_⟩
  · rw [hregistry, h.registry, htrace, Registry.replay_append]
  · rcases htold ht with hs | hm
    · rw [htrace]
      exact List.mem_append_right os (h.told hs)
    · exact hm
  · rw [hcommits]
    exact h.covered (hgo ht)
  · rcases standing_append (htrace ▸ hl) with hstood | hnone
    · rw [htrace]
      refine (h.inOrder l hstood).append ?_
      intro o os' hs
      have hc : ∀ p ∈ o :: os', p.committed? = none := fun p hp => hcommitted p (hs.mem hp)
      have hh : ∀ p ∈ o :: os', p.handed? l = none := fun p hp => hhanded l p (hs.mem hp)
      rw [← List.cons_append, commits_append hc, handed_append hh]
      exact (h.inOrder l hstood).handed_isPrefix
    · exact hgrounded.inOrder (hcommits.trans hnone)
  · rcases standing_append (htrace ▸ hl) with hstood | hnone
    · rw [hcommits, htrace, handed_append (hhanded l)]
      exact h.balanced (hgo ht) l hstood
    · have howed : owed l = [] := by
        rw [List.eq_nil_iff_forall_not_mem]
        intro snapshot hsnap
        have hmem := h.covered (hgo ht) l snapshot hsnap
        rw [hnone] at hmem
        cases hmem
      rw [hcommits, hnone, howed, hgrounded.handed_eq_nil (hcommits.trans hnone)]
      rfl

/-- The account speaks of the trace, the registry and the life of the cache alone. -/
theorem Owing.congr (h : Owing owed s) (htrace : t.trace = s.trace)
    (hregistry : t.registry = s.registry) (hstopped : t.isStopped = s.isStopped) :
    Owing owed t := by
  have hnothing : t.trace = [] ++ s.trace := htrace
  exact h.grown hnothing (by simp) (by simp) hregistry (fun hs => hstopped.trans hs)
    fun ht => .inl (hstopped ▸ ht)

/-- What is quiet does not enter the account. -/
theorem owing_quiet (h : Owing owed s) (k : Quiet s t) : Owing owed t := by
  obtain ⟨os, htrace, hquiet, hregistry⟩ := k.grown
  exact h.grown htrace (fun o ho => committed?_of_isQuiet (hquiet o ho))
    (fun l o ho => handed?_of_isQuiet l (hquiet o ho)) hregistry k.isStopped k.told

/-- An answer that is heard does not enter the account. -/
theorem owing_heard (h : Owing owed s) (a : Answer) : Owing owed (s.note (.heard a)) := by
  have hone : (s.note (.heard a)).trace = [.heard a] ++ s.trace := rfl
  exact h.grown hone (by simp [Occurrence.committed?]) (by simp [Occurrence.handed?]) rfl id .inl

/-- A call of a listener pays the first snapshot that it is owed. -/
theorem owing_called (h : Owing owed s) (hgo : s.isStopped = false) {l : String}
    {snapshot : Snapshot} (hpaid : owed l = snapshot :: owed' l)
    (hothers : ∀ m, m ≠ l → owed' m = owed m) :
    Owing owed' (s.note (.called l snapshot)) := by
  have hcommits : commits (.called l snapshot :: s.trace) = commits s.trace := commits_cons rfl
  have hsnapshot : snapshot ∈ commits s.trace :=
    h.covered hgo l snapshot (hpaid ▸ List.mem_cons_self)
  have hless (m : String) : ∀ t ∈ owed' m, t ∈ owed m := by
    intro t ht
    by_cases hm : m = l
    · rw [hm] at ht ⊢
      rw [hpaid]
      exact List.mem_cons_of_mem _ ht
    · rwa [← hothers m hm]
  have hstood {m : String} (hm : Standing m (.called l snapshot :: s.trace)) : Standing m s.trace :=
    (standing_cons.1 hm).elim And.left fun hadded => by cases hadded.2
  have hbalanced (m : String) (hm : Standing m s.trace) :
      commits s.trace = handed m (.called l snapshot :: s.trace) ++ owed' m := by
    rw [h.balanced hgo m hm]
    by_cases hml : m = l
    · rw [hml, hpaid, handed_called, List.append_assoc, List.singleton_append]
    · have hnone : (Occurrence.called l snapshot).handed? m = none := if_neg (Ne.symm hml)
      rw [handed_cons hnone, hothers m hml]
  refine ⟨h.registry, ⟨?_, h.grounded⟩, fun hs => ?_, fun _ m t ht => ?_,
    fun m hm => (h.inOrder m (hstood hm)).cons ?_, fun _ m hm => ?_⟩
  · rintro m t heq
    cases heq
    exact hsnapshot
  · exact List.mem_cons_of_mem _ (h.told hs)
  · exact hcommits ▸ h.covered hgo m t (hless m t ht)
  · rw [hcommits, hbalanced m (hstood hm)]
    exact List.prefix_append _ _
  · exact hcommits.trans (hbalanced m (hstood hm))

/-- A commit does not stop a cache, nor does it set one going again. -/
@[simp] theorem isStopped_commit (new : Snapshot) (s : Cache) :
    (commit new s).isStopped = s.isStopped := by
  unfold isStopped commit
  dsimp only
  split
  next hstarting => simp [hstarting]
  next => rfl

/-- A commit is owed to everybody. -/
theorem owing_commit (h : Owing owed s) (new : Snapshot) :
    Owing (fun l => owed l ++ [new]) (commit new s) := by
  have hstopped := isStopped_commit new s
  have htrace : (commit new s).trace = .committed new :: s.trace := rfl
  have hhanded (l : String) : handed l (.committed new :: s.trace) = handed l s.trace :=
    handed_cons rfl
  have hstood {l : String} (hl : Standing l (.committed new :: s.trace)) : Standing l s.trace :=
    (standing_cons.1 hl).elim And.left fun hadded => by cases hadded.2
  refine ⟨h.registry, ⟨by simp, h.grounded⟩, fun hs => ?_, fun hgo l t ht => ?_,
    fun l hl => (h.inOrder l (hstood hl)).cons ?_, fun hgo l hl => ?_⟩
  · exact List.mem_cons_of_mem _ (h.told (hstopped ▸ hs))
  · rw [htrace, commits_committed]
    rcases List.mem_append.1 ht with ht | ht
    · exact List.mem_append_left _ (h.covered (hstopped ▸ hgo) l t ht)
    · exact List.mem_append_right _ ht
  · rw [hhanded, commits_committed]
    exact (h.inOrder l (hstood hl)).handed_isPrefix.trans (List.prefix_append _ _)
  · rw [htrace, commits_committed, hhanded, h.balanced (hstopped ▸ hgo) l (hstood hl),
      List.append_assoc]

end

/-! ## Rounds -/

/-- What a listener is owed of a round whose listeners `rest` are still to be called. -/
def due (snapshot : Snapshot) (rest : List String) (l : String) : List Snapshot :=
  if l ∈ rest then [snapshot] else []

/-- A round that began in the state `s`: the listeners `rest` are still to be called, and the
snapshots `queue` come after it. -/
structure Calling (snapshot : Snapshot) (queue : List Snapshot) (s : Cache) (rest : List String)
    (t : Cache) : Prop where
  owing : Owing (fun l => due snapshot rest l ++ queue) t
  nodup : t.isStopped = false → rest.Nodup
  framed : Framed s t

section
variable {c : Setup} {place : Place} {snapshot : Snapshot} {queue : List Snapshot}
  {rest : List String}
  {s t u : Cache}

/-- What the application does in the course of a round does not enter the account. -/
theorem Calling.reacts (h : Calling snapshot queue s rest t) (k : Reacts t u) :
    Calling snapshot queue s rest u where
  owing := owing_quiet h.owing k.quiet
  nodup hu := h.nodup (by
    rw [← Bool.not_eq_true] at hu ⊢
    exact fun ht => hu (k.isStopped ht))
  framed := h.framed.reacts k

/-- A round goes on with the next listener. -/
theorem Calling.called {l : String} (h : Calling snapshot queue s (l :: rest) t)
    (hgo : t.isStopped = false) (k : Reacts (t.note (.called l snapshot)) u) :
    Calling snapshot queue s rest u := by
  have hnodup := List.nodup_cons.1 (h.nodup hgo)
  have hpaid : due snapshot (l :: rest) l ++ queue =
      snapshot :: (due snapshot rest l ++ queue) := by
    simp [due, hnodup.1]
  have hothers (m : String) (hm : m ≠ l) :
      due snapshot rest m ++ queue = due snapshot (l :: rest) m ++ queue := by
    simp [due, hm]
  have hnoted : Calling snapshot queue s rest (t.note (.called l snapshot)) :=
    ⟨owing_called h.owing hgo hpaid hothers, fun _ => hnodup.2, h.framed⟩
  exact hnoted.reacts k

/-- A round that is over has paid what it owed. -/
theorem Calling.over (h : Calling snapshot queue s rest t)
    (hover : rest = [] ∨ t.isStopped = true) :
    Calling snapshot queue s [] t := by
  rcases hover with rfl | hs
  · exact h
  · exact ⟨h.owing.of_stopped hs, fun _ => .nil, h.framed⟩

/-- A round, from its beginning to where it is over or held up. Everybody who stands is called. -/
theorem calling_notify (c : Setup) (place : Place) (h : Owing (fun _ => snapshot :: queue) s) :
    Rounded (Calling snapshot queue s) snapshot (notify c place snapshot s) := by
  have hnodup : s.registry.listeners.Nodup := h.registry ▸ Registry.nodup_replay s.trace
  refine rounded_notify (fun l ls t u hgo ht hu => ht.called hgo hu)
    ⟨h.of_standing (fun l t ht => ?_) fun l hl => ?_, fun _ => hnodup, .inr ⟨rfl, rfl, rfl⟩⟩
  · rcases List.mem_append.1 ht with ht | ht
    · unfold due at ht
      split at ht
      · rw [List.mem_singleton.1 ht]
        exact List.mem_cons_self
      · cases ht
    · exact List.mem_cons_of_mem _ ht
  · have hmem : l ∈ s.registry.listeners := h.registry ▸ mem_replay_of_standing hl
    simp [due, hmem]

/-- A round keeps its account from where it was held up to where it is over or held up again. -/
theorem calling_release (c : Setup) (place : Place) {held : Held}
    (h : Calling held.snapshot queue s held.round.rest s) :
    Rounded (Calling held.snapshot queue s) held.snapshot (release c place held s) :=
  rounded_release (fun _ _ _ _ hgo ht hu => ht.called hgo hu) (fun _ _ _ ht hu => ht.reacts hu) h

end

/-! ## The invariant -/

/-- What a listener is owed of a round that is held up, if there is one. -/
def dueOf (held : Option Held) (l : String) : List Snapshot :=
  match held with
  | none => []
  | some h => due h.snapshot h.round.rest l

/-- The snapshots that a listener is still owed: those of the rounds that are held up and in which
its turn has yet to come, and those of the rounds to come. -/
def outstanding (s : Cache) (l : String) : List Snapshot :=
  dueOf s.loop.held? l ++ dueOf s.worker.held l ++ s.worker.queue

/-- Listeners are called in one way only: by the loop, or by the worker. -/
structure OneWay (c : Setup) (s : Cache) : Prop where
  inline : s.isStopped = false → c.config.dispatchInBackground = false → s.worker = {}
  background : s.isStopped = false → c.config.dispatchInBackground = true → s.loop.held? = none
  nodup : s.isStopped = false →
    ∀ h, s.loop.held? = some h ∨ s.worker.held = some h → h.round.rest.Nodup

/-- The account is balanced with what is outstanding. -/
structure Delivering (c : Setup) (s : Cache) : Prop where
  owing : Owing (outstanding s) s
  oneWay : OneWay c s

section
variable {c : Setup} {s t : Cache} {owed : String → List Snapshot}

/-- Nobody is called any more once the cache is stopped. -/
theorem OneWay.of_stopped (hs : s.isStopped = true) : OneWay c s where
  inline hgo := by rw [hs] at hgo; cases hgo
  background hgo := by rw [hs] at hgo; cases hgo
  nodup hgo := by rw [hs] at hgo; cases hgo

/-- As long as the rounds wait as they did, the way of calling is the same. -/
theorem OneWay.congr (h : OneWay c s) (hstays : s.isStopped = true → t.isStopped = true)
    (hwaits : t.isStopped = true ∨ t.loop.held? = s.loop.held? ∧ t.worker = s.worker) :
    OneWay c t := by
  by_cases ht : t.isStopped = true
  · exact .of_stopped ht
  · obtain ⟨hloop, hworker⟩ := hwaits.resolve_left ht
    have hgo : s.isStopped = false := by
      rw [← Bool.not_eq_true]
      exact fun hs => ht (hstays hs)
    refine ⟨fun _ hc => hworker.trans (h.inline hgo hc),
      fun _ hc => hloop.trans (h.background hgo hc), fun _ => ?_⟩
    rw [hloop, hworker]
    exact h.nodup hgo

/-- A loop that waits for a round calls the listeners. -/
theorem OneWay.of_loop (h : OneWay c s) (hgo : s.isStopped = false) (hheld : s.loop.held? ≠ none) :
    c.config.dispatchInBackground = false ∧ s.worker = {} := by
  have hinline : c.config.dispatchInBackground = false := by
    rw [← Bool.not_eq_true]
    exact fun hc => hheld (h.background hgo hc)
  exact ⟨hinline, h.inline hgo hinline⟩

/-- A worker that has something to do calls the listeners. -/
theorem OneWay.of_worker (h : OneWay c s) (hgo : s.isStopped = false) (hbusy : s.worker ≠ {}) :
    c.config.dispatchInBackground = true ∧ s.loop.held? = none := by
  have hbackground : c.config.dispatchInBackground = true := by
    rw [← Bool.not_eq_false]
    exact fun hc => hbusy (h.inline hgo hc)
  exact ⟨hbackground, h.background hgo hbackground⟩

/-- A cache that is stopped has only its account to keep. -/
theorem Delivering.of_stopped (h : Owing owed s) (hs : s.isStopped = true) : Delivering c s :=
  ⟨h.of_stopped hs, .of_stopped hs⟩

/-- What is outstanding depends on the rounds that wait. -/
theorem outstanding_congr (hloop : t.loop.held? = s.loop.held?) (hworker : t.worker = s.worker) :
    outstanding t = outstanding s := by
  funext l
  rw [outstanding, outstanding, hloop, hworker]

/-- What is quiet keeps the invariant. -/
theorem delivering_quiet (h : Delivering c s) (k : Quiet s t) : Delivering c t := by
  have howing := owing_quiet h.owing k
  rcases k.waits with ht | ⟨hloop, hworker⟩
  · exact .of_stopped howing ht
  · exact ⟨outstanding_congr hloop hworker ▸ howing, h.oneWay.congr k.isStopped k.waits⟩

/-- A round of the loop, with the loop at a place where no more is owed than before. -/
theorem Calling.delivering {snapshot : Snapshot} {rest : List String}
    (h : Calling snapshot [] s rest t)
    (hway : s.isStopped = false → c.config.dispatchInBackground = false ∧ s.worker = {}) (l : Loop)
    (hdue : ∀ m, dueOf l.held? m = due snapshot rest m)
    (hrest : ∀ held, l.held? = some held → held.round.rest = rest) :
    Delivering c { t with loop := l } := by
  have howing : Owing (fun m => due snapshot rest m ++ []) { t with loop := l } :=
    h.owing.congr rfl rfl rfl
  by_cases ht : t.isStopped = true
  · exact .of_stopped howing ht
  · have hgo : t.isStopped = false := Bool.eq_false_iff.2 ht
    obtain ⟨hinline, hidle⟩ := hway (h.framed.isStopped_eq_false hgo)
    have hworker : t.worker = {} := (h.framed.resolve_left ht).2.2.trans hidle
    have howed : outstanding { t with loop := l } = fun m => due snapshot rest m ++ [] := by
      funext m
      change dueOf l.held? m ++ dueOf t.worker.held m ++ t.worker.queue = _
      rw [hdue, hworker]
      simp [dueOf]
    refine ⟨howed ▸ howing, fun _ _ => hworker, fun _ hc => ?_, fun _ held hheld => ?_⟩
    · exact Bool.noConfusion (hinline.symm.trans hc)
    · rcases hheld with hheld | hheld
      · rw [hrest held hheld]
        exact h.nodup hgo
      · change t.worker.held = some held at hheld
        rw [hworker] at hheld
        cases hheld

/-- A round of the loop leaves it where it goes on, or where it is held up. -/
theorem delivering_looped (o : OpenSession) (delay : Float) {snapshot : Snapshot}
    {round : Option Held × Cache}
    (hway : s.isStopped = false → c.config.dispatchInBackground = false ∧ s.worker = {})
    (h : Rounded (Calling snapshot [] s) snapshot round) : Delivering c (looped o delay round) := by
  obtain ⟨_ | held, t⟩ := round
  · obtain ⟨rest, hcalling, hover⟩ := h
    have hended : Delivering c { t with loop := .ended } :=
      (hcalling.over hover).delivering hway .ended (fun _ => rfl) nofun
    change Delivering c (pause o delay t)
    rw [← pause_loop o delay .ended t]
    exact delivering_quiet hended (quiet_pause o delay (.inr rfl))
  · obtain ⟨hcalling, hsnapshot⟩ := h
    refine hcalling.delivering hway (.notifying o held delay) (fun m => ?_) fun other hother => ?_
    · exact congrArg (due · held.round.rest m) hsnapshot
    · cases hother
      rfl

/-- A round of the worker leaves it free, or held up. -/
theorem delivering_worked {snapshot : Snapshot} {queue : List Snapshot}
    {round : Option Held × Cache}
    (hway : s.isStopped = false → c.config.dispatchInBackground = true ∧ s.loop.held? = none ∧
      s.worker = { held := none, queue })
    (h : Rounded (Calling snapshot queue s) snapshot round) : Delivering c (worked round) := by
  have waits {t : Cache} (hframed : Framed s t) (hgo : t.isStopped = false) :
      c.config.dispatchInBackground = true ∧ t.loop.held? = none ∧
        t.worker = { held := none, queue } := by
    obtain ⟨hbackground, hloop, hworker⟩ := hway (hframed.isStopped_eq_false hgo)
    obtain ⟨-, kloop, kworker⟩ := hframed.resolve_left (Bool.eq_false_iff.1 hgo)
    exact ⟨hbackground, (congrArg _ kloop).trans hloop, kworker.trans hworker⟩
  obtain ⟨_ | held, t⟩ := round
  · obtain ⟨rest, hcalling, hover⟩ := h
    have hpaid := (hcalling.over hover).owing
    change Delivering c t
    by_cases ht : t.isStopped = true
    · exact .of_stopped hpaid ht
    · obtain ⟨hbackground, hloop, hworker⟩ := waits hcalling.framed (Bool.eq_false_iff.2 ht)
      have howed : outstanding t = fun m => due snapshot [] m ++ queue := by
        funext m
        rw [outstanding, hloop, hworker]
        rfl
      refine ⟨howed ▸ hpaid, fun _ hc => ?_, fun _ _ => hloop, fun _ held hheld => ?_⟩
      · exact Bool.noConfusion (hbackground.symm.trans hc)
      · rw [hloop, hworker] at hheld
        rcases hheld with hheld | hheld <;> cases hheld
  · obtain ⟨hcalling, hsnapshot⟩ := h
    let t' : Cache := { t with worker := { t.worker with held := some held } }
    have howing : Owing (fun m => due snapshot held.round.rest m ++ queue) t' :=
      hcalling.owing.congr rfl rfl rfl
    change Delivering c t'
    by_cases ht : t.isStopped = true
    · exact .of_stopped howing ht
    · have hgo : t.isStopped = false := Bool.eq_false_iff.2 ht
      obtain ⟨hbackground, hloop, hworker⟩ := waits hcalling.framed hgo
      have howed : outstanding t' = fun m => due snapshot held.round.rest m ++ queue := by
        funext m
        change dueOf t.loop.held? m ++ due held.snapshot held.round.rest m ++ t.worker.queue = _
        rw [hloop, hworker, hsnapshot]
        rfl
      refine ⟨howed ▸ howing, fun _ hc => ?_, fun _ _ => hloop, fun _ other hother => ?_⟩
      · exact Bool.noConfusion (hbackground.symm.trans hc)
      · rcases hother with hother | hother
        · change t.loop.held? = some other at hother
          rw [hloop] at hother
          cases hother
        · cases hother
          exact hcalling.nodup hgo

/-- Having the listeners called with a snapshot that everybody is owed last keeps the invariant. -/
theorem delivering_deliver (o : OpenSession) (new : Snapshot) (delay : Float) (hway : OneWay c s)
    (hfree : s.IsFree) (h : Owing (fun l => outstanding s l ++ [new]) s) :
    Delivering c (deliver c o new delay s) := by
  unfold deliver
  split
  next hs => exact delivering_quiet (.of_stopped h hs) (quiet_leave (.inl hs))
  next hs =>
    have hgo : s.isStopped = false := Bool.eq_false_iff.2 hs
    have hloop : s.loop.held? = none := hfree.resolve_left hs
    split
    next hbackground =>
      let queued : Worker := { s.worker with queue := s.worker.queue ++ [new] }
      have howed : outstanding { s with worker := queued } = fun l => outstanding s l ++ [new] := by
        funext l
        simp [outstanding, queued, List.append_assoc]
      have hqueued : Delivering c { s with worker := queued } :=
        ⟨howed ▸ h.congr rfl rfl rfl,
          fun _ hc => Bool.noConfusion (hbackground.symm.trans hc), hway.background, hway.nodup⟩
      exact delivering_quiet hqueued (quiet_pause o delay (.inr hloop))
    next hinline =>
      have hc : c.config.dispatchInBackground = false := Bool.eq_false_iff.2 hinline
      have hworker := hway.inline hgo hc
      have howed : (fun l => outstanding s l ++ [new]) = fun _ => [new] := by
        funext l
        simp [outstanding, hloop, hworker, dueOf]
      exact delivering_looped o delay (fun _ => ⟨hc, hworker⟩)
        (calling_notify c .pollLoop (howed ▸ h))

/-- An answer that is taken up keeps the invariant. -/
theorem delivering_accept (o : OpenSession) {a : Answer} (ha : a.index.isSome) (h : Delivering c s)
    (hs : s.IsFree) : Delivering c (accept c o a s) := by
  rcases accept_cases c o ha hs with ⟨-, hq⟩ | ⟨new, t, -, hq, heq⟩
  · exact delivering_quiet h hq
  · have ht := delivering_quiet h hq
    have hemit :=
      reacts_emit c .pollLoop (.changed a.index new.entries.size a.target) (commit new t)
    have hcommit := owing_quiet (owing_commit ht.owing new) hemit.quiet
    have hway : OneWay c (commit new t) :=
      ht.oneWay.congr (fun hs => (isStopped_commit new t).trans hs) (.inr ⟨rfl, rfl⟩)
    have hfree : (commit new t).IsFree :=
      (hq.isFree hs).imp_left fun hs => (isStopped_commit new t).trans hs
    rw [heq]
    generalize emit c .pollLoop (.changed a.index new.entries.size a.target) (commit new t) = u
      at hemit hcommit ⊢
    by_cases hu : u.isStopped = true
    · have hleave : deliver c o new (pauseAfter c.config a) u = leave u := if_pos hu
      rw [hleave]
      exact delivering_quiet (.of_stopped hcommit hu) (quiet_leave (.inl hu))
    · obtain ⟨hloop, hworker⟩ := hemit.waits.resolve_left hu
      have howed : outstanding u = outstanding t := outstanding_congr (congrArg _ hloop) hworker
      exact delivering_deliver o new _ (hway.congr hemit.isStopped hemit.quiet.waits)
        (hemit.quiet.isFree hfree) (howed ▸ hcommit)

/-- Every step keeps the invariant. -/
theorem delivering_step {heard : Option Answer} (hidle : s.Idle) (h : Delivering c s)
    (hstep : Step c s heard t) : Delivering c t := by
  have side (k : Reacts s t) : Delivering c t := delivering_quiet h k.quiet
  -- Steps that leave the rounds alone, and the life of the cache or at least its end.
  have still {u : Cache} (htrace : u.trace = s.trace) (hregistry : u.registry = s.registry)
      (hstopped : u.isStopped = s.isStopped) (hloop : u.loop.held? = s.loop.held?)
      (hworker : u.worker = s.worker) : Delivering c u :=
    ⟨outstanding_congr hloop hworker ▸ h.owing.congr htrace hregistry hstopped,
      h.oneWay.congr (fun hs => hstopped.trans hs) (.inr ⟨hloop, hworker⟩)⟩
  cases hstep with
  | start hn =>
    have hloop : s.loop.held? = none := by rw [hidle hn]; rfl
    have hstopped : s.isStopped = false := by rw [isStopped, hn]; rfl
    exact delivering_quiet (still (u := { s with lifecycle := .starting, loop := .opening }) rfl rfl
      hstopped.symm hloop.symm rfl) (reacts_emit c .outside .started _).quiet
  | stop => exact side (reacts_stop c .outside s)
  | turn => exact delivering_quiet h (quiet_turn c s)
  | @receive _ o x outcome hl =>
    have hs : s.IsFree := .inr (by rw [hl]; rfl)
    generalize x.receive s.now s.policy outcome = r
    unfold takeUp
    have hpolicy : Delivering c { s with policy := r.2 } := still rfl rfl rfl rfl rfl
    rcases conclude_cases c o r.1 (s := { s with policy := r.2 }) hs with
      ⟨-, hq⟩ | ⟨a, o', -, hindex, heq⟩
    · exact delivering_quiet hpolicy hq
    · rw [heq]
      have hheard : Delivering c ({ s with policy := r.2 }.note (.heard a)) :=
        ⟨owing_heard hpolicy.owing a, hpolicy.oneWay.congr id (.inr ⟨rfl, rfl⟩)⟩
      exact delivering_accept o' hindex hheard hs
  | @wake _ delay o hl =>
    have hloop : s.loop.held? = none := by rw [hl]; rfl
    exact still rfl rfl rfl (by cases o <;> exact hloop.symm) rfl
  | @goOn _ o held delay hl =>
    have hheld : s.loop.held? = some held := by rw [hl]; rfl
    have hway (hgo : s.isStopped = false) := h.oneWay.of_loop hgo (by simp [hheld])
    have howing : Owing (fun l => due held.snapshot held.round.rest l ++ []) s := by
      by_cases hs : s.isStopped = true
      · exact h.owing.of_stopped hs
      · have howed : outstanding s = fun l => due held.snapshot held.round.rest l ++ [] := by
          funext l
          rw [outstanding, hheld, (hway (Bool.eq_false_iff.2 hs)).2]
          simp [dueOf]
        exact howed ▸ h.owing
    exact delivering_looped o delay hway (calling_release c .pollLoop
      ⟨howing, fun hgo => h.oneWay.nodup hgo held (.inl hheld), .inr ⟨rfl, rfl, rfl⟩⟩)
  | @goOnWorking _ held hheld =>
    let freed : Cache := { s with worker := { s.worker with held := none } }
    have hbusy : s.worker ≠ {} := by
      intro hw
      rw [hw] at hheld
      cases hheld
    have hway (hgo : s.isStopped = false) := h.oneWay.of_worker hgo hbusy
    have howing : Owing (fun l => due held.snapshot held.round.rest l ++ s.worker.queue) freed := by
      by_cases hs : s.isStopped = true
      · exact (h.owing.of_stopped hs).congr rfl rfl rfl
      · have howed : outstanding s = fun l =>
            due held.snapshot held.round.rest l ++ s.worker.queue := by
          funext l
          rw [outstanding, hheld, (hway (Bool.eq_false_iff.2 hs)).2]
          rfl
        exact (howed ▸ h.owing).congr rfl rfl rfl
    exact delivering_worked (s := freed) (fun hgo => ⟨(hway hgo).1, (hway hgo).2, rfl⟩)
      (calling_release c .worker
        ⟨howing, fun hgo => h.oneWay.nodup hgo held (.inr hheld), .inr ⟨rfl, rfl, rfl⟩⟩)
  | @workOn _ snapshot queue hworker =>
    let begun : Cache := { s with worker := { held := none, queue } }
    have hway (hgo : s.isStopped = false) := h.oneWay.of_worker hgo (by simp [hworker])
    have howing : Owing (fun _ => snapshot :: queue) begun := by
      by_cases hs : s.isStopped = true
      · exact (h.owing.of_stopped hs).congr rfl rfl rfl
      · have howed : outstanding s = fun _ => snapshot :: queue := by
          funext l
          rw [outstanding, hworker, (hway (Bool.eq_false_iff.2 hs)).2]
          rfl
        exact (howed ▸ h.owing).congr rfl rfl rfl
    exact delivering_worked (s := begun) (fun hgo => ⟨(hway hgo).1, (hway hgo).2, rfl⟩)
      (calling_notify c .worker howing)
  | addListener l => exact side (.addListener l s)
  | removeListener l => exact side (.removeListener l s)
  | observers os => exact side (.observers os s)
  | surround left => exact still rfl rfl rfl rfl rfl

end

/-! ## Runs -/

section
variable {c d : Setup} {s : Cache} {as : List Answer} {l : String}

/-- Listeners are called in the same way under a setup that is configured alike. -/
theorem Delivering.varies (h : Delivering c s) (hconfig : d.config = c.config) : Delivering d s :=
  ⟨h.owing, hconfig ▸ h.oneWay.inline, hconfig ▸ h.oneWay.background, h.oneWay.nodup⟩

/-- The account is balanced after every run. -/
theorem delivering_of_run (h : Run c as s) : Delivering c s := by
  obtain ⟨left, h⟩ := h
  have hkept : s.Idle ∧ Delivering c s := by
    refine h.keep (P := fun _ s => s.Idle ∧ Delivering c s) (l := []) (fun hv hs hstep => ?_)
      ⟨fun _ => rfl, ?_⟩
    · exact ⟨idle_step hs.1 hstep,
        (delivering_step hs.1 (hs.2.varies hv.config) hstep).varies hv.config.symm⟩
    · refine ⟨⟨rfl, trivial, nofun, fun _ _ _ h => (nomatch h), fun l hl => ?_, fun _ l hl => ?_⟩,
        fun _ _ => rfl, fun _ _ => rfl, fun _ h hh => ?_⟩
      · trivial
      · rfl
      · rcases hh with hh | hh <;> cases hh
  exact hkept.2

/-- In every run a listener that was registered before the first commit, and not removed since, is
handed the commits in their order, from the first one on and each one once, and at no moment
anything else. As long as `stop` was not called, what it was not handed yet is what is outstanding:
the snapshots of the rounds that are held up by a listener, and of those that the worker has yet to
begin. When there are none it was handed everything. -/
theorem handed_of_run (h : Run c as s) (hl : Standing l s.trace) :
    Always (fun o os => handed l (o :: os) <+: commits (o :: os)) s.trace ∧
    handed l s.trace <+: commits s.trace ∧
    (commits s.trace).Nodup ∧
    (.stopReturned ∉ s.trace →
      commits s.trace = handed l s.trace ++ outstanding s l ∧
      (c.config.dispatchInBackground = false → s.worker = {}) ∧
      (c.config.dispatchInBackground = true → s.loop.held? = none) ∧
      (s.loop.held? = none → s.worker.held = none → s.worker.queue = [] →
        handed l s.trace = commits s.trace)) := by
  have hdelivering := delivering_of_run h
  have horder := hdelivering.owing.inOrder l hl
  have hdistinct : (commits s.trace).Nodup := (commits_increase h).imp fun {t u} htu heq => by
    obtain ⟨i, j, hi, hj, hij⟩ := htu
    rw [heq, hj] at hi
    cases hi
    exact lt_irrefl _ hij
  refine ⟨horder, horder.handed_isPrefix, hdistinct, fun hnot => ?_⟩
  have hgo : s.isStopped = false := by
    rw [← Bool.not_eq_true]
    exact fun hs => hnot (hdelivering.owing.told hs)
  have hbalanced := hdelivering.owing.balanced hgo l hl
  refine ⟨hbalanced, hdelivering.oneWay.inline hgo, hdelivering.oneWay.background hgo, ?_⟩
  intro hloop hheld hqueue
  rw [hbalanced, outstanding, hloop, hheld, hqueue]
  simp [dueOf]

/-- The listener of the sample was handed both commits. -/
theorem handed_of_run_sample : ∃ as, Run .sample as sample ∧ Standing "listener" sample.trace ∧
    handed "listener" sample.trace = commits sample.trace ∧ (commits sample.trace).length = 2 := by
  obtain ⟨as, h⟩ := run_after .sample _ _
  have hstands : Standing "listener" sample.trace := by decide +kernel
  obtain ⟨-, -, -, hall⟩ := handed_of_run (s := sample) h hstands
  have hnot : Occurrence.stopReturned ∉ sample.trace := by
    intro hmem
    have hany : sample.trace.any (· matches .stopReturned) = true :=
      List.any_eq_true.2 ⟨_, hmem, rfl⟩
    have hnone : sample.trace.any (· matches .stopReturned) = false := by decide +kernel
    rw [hnone] at hany
    cases hany
  have hloop : sample.loop.held? = none := Option.isNone_iff_eq_none.1 (by decide +kernel)
  have hworker : sample.worker.held = none := Option.isNone_iff_eq_none.1 (by decide +kernel)
  exact ⟨as, h, hstands, (hall hnot).2.2.2 hloop hworker (List.isEmpty_iff.1 (by decide +kernel)),
    by decide +kernel⟩

end

end Cache

end BlockingQuery
