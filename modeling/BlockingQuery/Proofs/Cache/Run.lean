import BlockingQuery.Cache.Fleet
import BlockingQuery.Proofs.Cache.Quiet
import BlockingQuery.Proofs.Cache.Round

/-!
# Runs of a cache

A run takes a cache from its creation through steps. A `Step` is the least that can happen: the
cache is started or stopped, the poll loop does its next turn, the transport makes something of a
request, a delay is over, a listener that was held up goes on, the worker begins a round, somebody
registers or removes a listener or an observer, or the surroundings change in any way at all. Steps
come in any order, and between two of them the application may change its mind: `Setup.Varies`
leaves everything that listeners and observers do open, and fixes what the cache was configured
with and how keys are taken.

A step is labelled with the answer that it brings. `Steps` collects the answers of a run.

What a cache does when it obeys a command is steps (`Cache.reaches_obey`), whatever the command. In
a fleet the others go a step as well, since their surroundings change, so that a command to one
cache of a fleet is steps of each (`Fleet.reaches_obey`).
-/

namespace BlockingQuery

/-- `d` is `c`, but for what the application does when it is called. Keys are taken in the same
way. -/
structure Setup.Varies (c d : Setup) : Prop where
  name : d.name = c.name
  path : d.path = c.path
  config : d.config = c.config
  params : d.params = c.params
  client : d.client = c.client
  key : ∀ v, d.key v = c.key v

/-- A setup is no different from itself. -/
theorem Setup.Varies.refl (c : Setup) : c.Varies c :=
  ⟨rfl, rfl, rfl, rfl, rfl, fun _ => rfl⟩

namespace Cache

/-- Where a round leaves the loop. -/
def looped (o : OpenSession) (delay : Float) : Option Held × Cache → Cache
  | (some h, s) => { s with loop := .notifying o h delay }
  | (none, s) => pause o delay s

/-- Lets a listener go on that holds up the loop. -/
def goOn (c : Setup) (o : OpenSession) (h : Held) (delay : Float) (s : Cache) : Cache :=
  looped o delay (release c .pollLoop h s)

/-- What a round leaves of the worker. -/
def worked : Option Held × Cache → Cache
  | (some h, s) => { s with worker := { s.worker with held := some h } }
  | (none, s) => s

/-- Lets a listener go on that holds up the worker. -/
def goOnWorking (c : Setup) (h : Held) (s : Cache) : Cache :=
  worked (release c .worker h { s with worker := { s.worker with held := none } })

/-- Begins a round of the worker, `queue` being the rounds after it. -/
def workOn (c : Setup) (snapshot : Snapshot) (queue : List Snapshot) (s : Cache) : Cache :=
  worked (notify c .worker snapshot { s with worker := { held := none, queue } })

/-- Takes up what became of the request that the loop waits for. -/
def takeUp (c : Setup) (o : OpenSession) (s : Cache) (r : Progress × Option (Policy Float)) :
    Cache :=
  conclude c o { s with policy := r.2 } r.1

/-- Where the loop goes on after a delay. -/
def awake : Option OpenSession → Loop
  | some o => .polling o
  | none => .opening

/-- The least that can happen to a cache, and the answer that it hears. -/
inductive Step (c : Setup) : Cache → Option Answer → Cache → Prop
  | start {s : Cache} (h : s.lifecycle = .notStarted) :
    Step c s none (emit c .outside .started { s with lifecycle := .starting, loop := .opening })
  | stop (s : Cache) : Step c s none (stop c .outside s).2
  | turn (s : Cache) : Step c s none (turn c s)
  | receive {s : Cache} {o : OpenSession} {x : Exchange} (outcome : Outcome)
    (h : s.loop = .awaiting o x) :
    Step c s (o.session.heard? (x.receive s.now s.policy outcome).1)
      (takeUp c o s (x.receive s.now s.policy outcome))
  | wake {s : Cache} {delay : Float} {o : Option OpenSession} (h : s.loop = .sleeping delay o) :
    Step c s none { s with loop := awake o }
  | goOn {s : Cache} {o : OpenSession} {held : Held} {delay : Float}
    (h : s.loop = .notifying o held delay) :
    Step c s none (goOn c o held delay s)
  | goOnWorking {s : Cache} {held : Held} (h : s.worker.held = some held) :
    Step c s none (goOnWorking c held s)
  | workOn {s : Cache} {snapshot : Snapshot} {queue : List Snapshot}
    (h : s.worker = { held := none, queue := snapshot :: queue }) :
    Step c s none (workOn c snapshot queue s)
  | addListener (l : String) (s : Cache) : Step c s none (s.addListener l)
  | removeListener (l : String) (s : Cache) : Step c s none (s.removeListener l).2
  | observers (os : List String) (s : Cache) : Step c s none { s with observers := os }
  | surround (left : Surroundings) (s : Cache) : Step c s none { s with toSurroundings := left }

/-- What happens step by step, and the answers that are heard. -/
inductive Steps (c : Setup) (s : Cache) : List Answer → Cache → Prop
  | refl : Steps c s [] s
  | tail {as : List Answer} {t u : Cache} {d : Setup} {heard : Option Answer} :
    Steps c s as t → c.Varies d → Step d t heard u → Steps c s (as ++ heard.toList) u

/-- A cache after a run in which it heard the answers `as`. -/
def Run (c : Setup) (as : List Answer) (s : Cache) : Prop :=
  ∃ left, Steps c (create left) as s

section
variable {c : Setup} {s t u : Cache} {as bs : List Answer}

/-- Steps may follow steps. -/
theorem Steps.trans (h : Steps c s as t) (k : Steps c t bs u) : Steps c s (as ++ bs) u := by
  induction k with
  | refl => simpa using h
  | tail _ hv hs ih =>
    rw [← List.append_assoc]
    exact .tail ih hv hs

/-- A run goes on. -/
theorem Run.steps (h : Run c as s) (k : Steps c s bs t) : Run c (as ++ bs) t := by
  obtain ⟨left, h⟩ := h
  exact ⟨left, h.trans k⟩

/-- A step of the application as it is is one step of many. -/
theorem Step.steps {heard : Option Answer} (h : Step c s heard t) : Steps c s heard.toList t :=
  .tail .refl (.refl c) h

/-- A property that steps keep holds after any number of them. -/
theorem Steps.keep {P : List Answer → Cache → Prop} {l : List Answer}
    (hstep : ∀ {d as s heard t}, c.Varies d → P as s → Step d s heard t → P (as ++ heard.toList) t)
    (h : Steps c s bs t) (hs : P l s) : P (l ++ bs) t := by
  induction h with
  | refl => simpa using hs
  | tail _ hv hstp ih =>
    rw [← List.append_assoc]
    exact hstep hv ih hstp

end

/-! ## Commands -/

section
variable (c : Setup)

/-- The cache comes to be as it is by steps. -/
def Reaches (s t : Cache) : Prop :=
  ∃ as, Steps c s as t

variable {c} {s t u : Cache}

/-- A cache reaches itself. -/
theorem Reaches.refl (s : Cache) : Reaches c s s :=
  ⟨[], .refl⟩

/-- What is reached from a cache that is reached is reached. -/
theorem Reaches.trans (h : Reaches c s t) (k : Reaches c t u) : Reaches c s u := by
  obtain ⟨as, h⟩ := h
  obtain ⟨bs, k⟩ := k
  exact ⟨as ++ bs, h.trans k⟩

/-- A single step reaches the cache that it leads to. -/
theorem Step.reaches {heard : Option Answer} (h : Step c s heard t) : Reaches c s t :=
  ⟨heard.toList, h.steps⟩

/-- Turns of the loop are steps, however many. -/
theorem reaches_settle (c : Setup) (n : Nat) (s : Cache) : Reaches c s (settle c n s) := by
  induction n generalizing s with
  | zero => exact .refl s
  | succ n ih =>
    unfold settle
    split
    · exact (Step.turn s).reaches.trans (ih _)
    · exact .refl s

/-- The rounds of the worker are steps. -/
theorem reaches_work (c : Setup) (queue : List Snapshot) {s : Cache}
    (h : s.worker = { held := none, queue }) : Reaches c s (work c queue s) := by
  induction queue generalizing s with
  | nil => exact .refl s
  | cons snapshot queue ih =>
    have hstep : Reaches c s (workOn c snapshot queue s) := (Step.workOn h).reaches
    have hframed := framed_notify c .worker snapshot { s with worker := { held := none, queue } }
    unfold workOn at hstep
    unfold work
    dsimp only
    generalize notify c .worker snapshot { s with worker := { held := none, queue } } = round
      at hstep hframed ⊢
    obtain ⟨held, t⟩ := round
    cases held with
    | some held => exact hstep
    | none =>
      dsimp only at hstep ⊢
      split
      next => exact hstep
      next hgo => exact hstep.trans (ih (hframed.resolve_left hgo).2.2)

/-- The worker runs by steps. -/
theorem reaches_runWorker (c : Setup) (s : Cache) : Reaches c s (runWorker c s) := by
  unfold runWorker
  split
  next => exact .refl s
  next h =>
    refine reaches_work c _ ?_
    have hheld : s.worker.held = none := by simpa using h
    cases hw : s.worker
    rw [hw] at hheld
    simp_all

/-- The loop and the worker run by steps. -/
theorem reaches_run (c : Setup) (s : Cache) : Reaches c s (run c s) :=
  (reaches_settle c patience s).trans (reaches_runWorker c _)

/-- Starting a cache is steps. -/
theorem reaches_start (c : Setup) (s : Cache) : Reaches c s (start c s).2 := by
  unfold start
  split
  next => exact .refl s
  next => exact .refl s
  next => exact .refl s
  next h => exact (Step.start h).reaches.trans (reaches_run c _)

/-- Time passes in a step. -/
theorem reaches_pass (c : Setup) (seconds : Float) (s : Cache) : Reaches c s (pass seconds s) :=
  (Step.surround { s.toSurroundings with now := s.now + seconds } s).reaches

/-- What the transport makes of a request is taken up in steps. -/
theorem reaches_respond (c : Setup) (passing : Option Float) (outcome : Outcome) (s : Cache) :
    Reaches c s (respond c passing outcome s).2 := by
  unfold respond
  split
  next o x hl =>
    cases passing with
    | none => exact (Step.receive outcome hl).reaches.trans (reaches_run c _)
    | some seconds =>
      have hl' : (pass seconds s).loop = .awaiting o x := hl
      exact (reaches_pass c seconds s).trans
        ((Step.receive outcome hl').reaches.trans (reaches_run c _))
  next => exact .refl s

/-- The loop goes on after a delay in steps. -/
theorem reaches_wake (c : Setup) (passing : Option Float) (s : Cache) :
    Reaches c s (wake c passing s).2 := by
  unfold wake
  split
  next delay o hl =>
    have hl' : (pass (passing.getD delay) s).loop = .sleeping delay o := hl
    have hwake := (reaches_pass c (passing.getD delay) s).trans (Step.wake hl').reaches
    cases o <;> exact hwake.trans (reaches_run c _)
  next => exact .refl s

/-- A listener goes on in steps. -/
theorem reaches_unblock (c : Setup) (s : Cache) : Reaches c s (unblock c s).2 := by
  unfold unblock
  split
  next _ o held delay hl =>
    have hstep : Reaches c s (goOn c o held delay s) := (Step.goOn hl).reaches
    unfold goOn at hstep
    generalize release c .pollLoop held s = round at hstep ⊢
    obtain ⟨_ | held, t⟩ := round
    · exact hstep.trans (reaches_run c _)
    · exact hstep
  next held hw _ =>
    have hstep : Reaches c s (goOnWorking c held s) := (Step.goOnWorking hw).reaches
    unfold goOnWorking at hstep
    generalize release c .worker held { s with worker := { s.worker with held := none } } = round
      at hstep ⊢
    obtain ⟨_ | held, t⟩ := round
    · dsimp only
      split
      · exact hstep
      · exact hstep.trans (reaches_runWorker c t)
    · exact hstep
  next => exact .refl s

/-- Whatever is done with the policy is done in a step. -/
theorem reaches_withPolicy (c : Setup) (action : Policy Float → Result × Policy Float) (s : Cache) :
    Reaches c s (s.withPolicy action).2 := by
  unfold withPolicy
  split
  next => exact .refl s
  next p _ => exact (Step.surround { s.toSurroundings with policy := some (action p).2 } s).reaches

/-- A cache obeys a command in steps. -/
theorem reaches_obey (c : Setup) (command : Command) (s : Cache) :
    Reaches c s (obey c s command).2 := by
  cases command with
  | start => exact reaches_start c s
  | stop =>
    have hstop := (Step.stop (c := c) s).reaches
    unfold obey
    generalize stop c .outside s = stopped at hstop ⊢
    obtain ⟨_ | _, t⟩ := stopped <;> exact hstop
  | respond passing outcome => exact reaches_respond c passing outcome s
  | wake passing => exact reaches_wake c passing s
  | release => exact reaches_unblock c s
  | pass seconds => exact reaches_pass c seconds s
  | addListener l => exact (Step.addListener l s).reaches
  | removeListener l => exact (Step.removeListener l s).reaches
  | addObserver o => exact (Step.observers _ s).reaches
  | removeObserver o => exact (Step.observers _ s).reaches
  | mark t => exact reaches_withPolicy c _ s
  | blacklisted => exact reaches_withPolicy c _ s
  | setFaulty hook => exact reaches_withPolicy c _ s

/-- A cache that obeyed commands since it was created came through a run. -/
theorem run_after (c : Setup) (commands : List Command) (left : Surroundings) :
    ∃ as, Run c as (after c commands (create left)) := by
  have hreach : ∀ s, Reaches c s (after c commands s) := by
    induction commands with
    | nil => exact .refl
    | cons command commands ih => exact fun s => (reaches_obey c command s).trans (ih _)
  obtain ⟨as, h⟩ := hreach (create left)
  exact ⟨as, left, h⟩

/-- The worker goes on until there are no rounds left, a listener holds it up, or the cache is
stopped. -/
theorem worker_runWorker (c : Setup) (s : Cache) :
    (runWorker c s).isStopped = true ∨ (runWorker c s).worker.held.isSome = true ∨
      (runWorker c s).worker.queue = [] := by
  have hwork (queue : List Snapshot) : ∀ s : Cache, s.worker.queue = queue →
      (work c queue s).isStopped = true ∨ (work c queue s).worker.held.isSome = true ∨
        (work c queue s).worker.queue = [] := by
    induction queue with
    | nil => exact fun s h => .inr (.inr h)
    | cons snapshot queue ih =>
      intro s _
      have hframed := framed_notify c .worker snapshot { s with worker := { held := none, queue } }
      unfold work
      dsimp only
      generalize notify c .worker snapshot { s with worker := { held := none, queue } } = round
        at hframed ⊢
      obtain ⟨_ | held, t⟩ := round
      · dsimp only
        split
        next hs => exact .inl hs
        next hgo => exact ih t (congrArg Worker.queue (hframed.resolve_left hgo).2.2)
      · exact .inr (.inl rfl)
  unfold runWorker
  split
  next hheld => exact .inr (.inl hheld)
  next => exact hwork _ s rfl

end

end Cache

/-- A cache whose entities are their own keys, and whose listeners look at what it shows. -/
def Setup.sample : Setup where
  name := "sample"
  path := "/v1/kv/sample"
  config := Config.standard
  params := .empty
  client := { baseUrl := "http://a:8500", limits := {}, options := {}, headers := .empty }
  extract v := { stops := false, key := .ok v }
  listener _ _ := [.look]
  observer _ _ := []
  openFault _ := none
  closeFault _ := none

/-- A response with the index `index` and the entity `1`. -/
def Outcome.sample (index : String) : Outcome :=
  .response 200 [("X-Consul-Index", index)] "[1]".toUTF8.toList

/-- The sample after it was given a listener and heard that the index is 7, and 3, and 9. -/
def Cache.sample : Cache :=
  after .sample [.addListener "listener", .start, .respond none (.sample "7"),
    .respond none (.sample "3"), .respond none (.sample "9")]
    (create { now := 0, draws := [], policy := none })

namespace Fleet

/-- Each cache of a fleet came to where it is in another one by steps of its own. -/
def Reaches (f g : Fleet) : Prop :=
  List.Forall₂ (fun before after => after.1 = before.1 ∧
    Cache.Reaches before.1 before.2 after.2) f.caches g.caches

/-- What is done with one cache of a fleet changes the surroundings of the others, in a step. -/
theorem reaches_surround (c : Setup) (commonPolicy : Bool) (left : Surroundings) (s : Cache) :
    Cache.Reaches c s (Fleet.surround commonPolicy left s) :=
  (Cache.Step.surround _ s).reaches

/-- Whatever is done with one cache of a fleet by steps is done by steps of each cache. -/
theorem reaches_update {α : Type} {action : Setup → Cache → α × Cache}
    (haction : ∀ c s, Cache.Reaches c s (action c s).2) (f : Fleet) (i : Nat) :
    f.Reaches (f.update i action).2 := by
  unfold Reaches update
  cases hi : f.caches[i]? with
  | none => exact List.forall₂_same.2 fun p _ => ⟨rfl, .refl p.2⟩
  | some p =>
    obtain ⟨c, s⟩ := p
    obtain ⟨hlength, hi⟩ := List.getElem?_eq_some_iff.1 hi
    refine List.forall₂_iff_get.2 ⟨by simp, fun j hj hj' => ?_⟩
    simp only [List.get_eq_getElem, List.getElem_set, List.getElem_map]
    split
    next hij =>
      subst hij
      rw [hi]
      exact ⟨rfl, haction c s⟩
    next => exact ⟨rfl, reaches_surround ..⟩

/-- A command to one cache of a fleet is steps of each cache. -/
theorem reaches_obey (f : Fleet) (i : Nat) (command : Command) :
    f.Reaches (f.update i fun c s => Cache.obey c s command).2 :=
  reaches_update (fun c s => Cache.reaches_obey c command s) f i

/-- A fleet whose caches came through runs is one whose caches came through runs after any command
to one of them. -/
theorem run_obey {f : Fleet} (h : ∀ p ∈ f.caches, ∃ as, Cache.Run p.1 as p.2) (i : Nat)
    (command : Command) :
    ∀ p ∈ (f.update i fun c s => Cache.obey c s command).2.caches, ∃ as, Cache.Run p.1 as p.2 := by
  intro p hp
  obtain ⟨q, hq, hsetup, as, hsteps⟩ :
      ∃ q ∈ f.caches, p.1 = q.1 ∧ Cache.Reaches q.1 q.2 p.2 := by
    obtain ⟨j, hj, rfl⟩ := List.mem_iff_getElem.1 hp
    obtain ⟨hlength, hget⟩ := List.forall₂_iff_get.1 (f.reaches_obey i command)
    have hj' : j < f.caches.length := hlength ▸ hj
    exact ⟨_, List.getElem_mem hj', hget j hj' hj⟩
  obtain ⟨bs, hrun⟩ := h q hq
  rw [hsetup]
  exact ⟨_, hrun.steps hsteps⟩

end Fleet

end BlockingQuery
