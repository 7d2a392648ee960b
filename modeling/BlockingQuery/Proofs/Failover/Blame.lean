import BlockingQuery.Proofs.Failover.Attempts
import BlockingQuery.Proofs.Failover.Choice
import BlockingQuery.Session

/-!
# Who is blamed for an exchange

An exchange looks at the records of its policy and makes new ones. `Policy.Marks` says which: every
record that is made or renewed is in a list, with the time that it has, and any other record goes
at most because it is over. A choice of a target makes no record (`Exchange.marks_choose`), and
neither does a request on its way down the stack (`Exchange.marks_start`); an attempt that the
transport fails makes one, of the target of the attempt (`Exchange.marks_receive`). Nobody looks at
the record of a target that was tried before in the cycle.

The failures that come up on the way blame nobody themselves (`Failure.Blameless`).
-/

namespace BlockingQuery

open Failover

/-! ## Failures that blame nobody -/

namespace Failure

/-- If this fails, the failure blames no target. -/
def Blameless {α : Type} (e : Except Failure α) : Prop :=
  ∀ f, e = .error f → f.blamed = none

section
variable {α β ε : Type} {e : Except Failure α}

theorem Blameless.ok (a : α) : Blameless (.ok a) :=
  fun _ h => nomatch h

theorem Blameless.error {f : Failure} (h : f.blamed = none) :
    Blameless (.error f : Except Failure α) := fun g hg => by
  cases hg
  exact h

/-- One check after the other blames nobody if neither does. -/
theorem Blameless.bind (h : Blameless e) {k : α → Except Failure β} (hk : ∀ a, Blameless (k a)) :
    Blameless (e >>= k) := fun f hf => by
  cases e with
  | error g =>
    cases hf
    exact h f rfl
  | ok a => exact hk a f hf

/-- A fault of another kind, told as a failure. -/
theorem Blameless.mapError {g : ε → Failure} (hg : ∀ x, (g x).blamed = none) (e : Except ε α) :
    Blameless (e.mapError g) := fun f hf => by
  cases e with
  | error x =>
    cases hf
    exact hg x
  | ok a => cases hf

theorem Blameless.map (h : Blameless e) (k : α → β) : Blameless (e.map k) := fun f hf => by
  cases e with
  | error g =>
    cases hf
    exact h f rfl
  | ok a => cases hf

end

end Failure

open Failure (Blameless)

namespace Adjustment

/-- The fault of a number blames nobody. -/
@[simp] theorem blamed_ofFault (fault : Exact.Fault) : (ofFault fault).blamed = none := by
  cases fault <;> rfl

/-- Adjusting a request blames nobody. -/
theorem blameless_apply (a : Adjustment) (r : Request) : Blameless (a.apply r) := by
  have hmilliseconds (limit : Limit) : Blameless (milliseconds limit) := by
    cases limit with
    | seconds s => exact (Blameless.mapError blamed_ofFault _).map _
    | unset | unlimited => exact .ok _
  have hlate (waitMs : Nat) : Blameless (late waitMs) := by
    unfold late
    split
    · exact .error rfl
    · exact .mapError blamed_ofFault _
  have hlimit (wait : Option String) (before : Option Int) :
      Blameless (a.readLimit wait before) := by
    unfold readLimit
    split
    · exact .ok _
    · split
      · exact .error rfl
      · exact .ok _
      · exact (hlate _).map _
  have hchange : Blameless (a.change r) := by
    refine (hmilliseconds _).bind fun before => (hlimit _ _).bind fun limit => ?_
    split
    · exact .ok _
    · split
      · exact .ok _
      · split
        · exact .ok _
        · exact .error rfl
  refine hchange.bind fun change => ?_
  split <;> exact .ok _

end Adjustment

namespace Session

/-- Asking for a scheme blames nobody. -/
theorem blameless_checkScheme (u : Url) : Blameless (checkScheme u) := by
  unfold checkScheme
  dsimp only
  generalize Url.cutLast '#' u.toChars = cut
  obtain ⟨whole | whole, fragment⟩ := cut <;> dsimp only <;> split
  all_goals first | exact .ok _ | exact .error rfl

/-- Asking whether cookies can be sent blames nobody. -/
theorem blameless_checkCookies (s : Session) (u : Url) : Blameless (s.checkCookies u) := by
  unfold checkCookies
  split
  · exact .ok _
  · exact blameless_checkScheme u

/-- Making a request blames nobody. -/
theorem blameless_request (s : Session) (path : String) (params : Params) :
    Blameless (s.request path params) := by
  refine (Blameless.mapError (fun _ => rfl) _).bind fun resolved =>
    (Blameless.mapError (fun _ => rfl) _).bind fun url =>
      (s.blameless_checkCookies url).bind fun _ =>
        (Blameless.mapError (fun _ => rfl) _).bind fun r => ?_
  split <;> exact .ok _

end Session

/-! ## Records that are made and records that go -/

namespace Policy

variable {τ : Type} [Seconds τ] {p q q' : Policy τ} {readings readings' : List τ}
  {marks marks' : List (Target × τ)} {now : τ} {t : Target}

/-- The time of the failure on record for a target. -/
def failure? (p : Policy τ) (t : Target) : Option τ :=
  p.strategy.blacklist.failure? t

/-- `q` is `p` after the given records were made, the latest one of each target first. Any other
record is gone at most because it was over at one of the moments. -/
structure Marks (readings : List τ) (marks : List (Target × τ)) (p q : Policy τ) : Prop where
  targets : q.strategy.targets = p.strategy.targets
  window : q.strategy.window = p.strategy.window
  faulty : q.faulty = p.faulty
  marked : ∀ t x, marks.lookup t = some x → q.failure? t = some x
  others : ∀ t, marks.lookup t = none →
    p.strategy.blacklist.Ages p.strategy.window readings q.strategy.blacklist t

/-- A policy to which nothing happens records nobody. -/
protected theorem Marks.refl (readings : List τ) (p : Policy τ) : p.Marks readings [] p :=
  ⟨rfl, rfl, rfl, nofun, fun _ _ => .inl rfl⟩

/-- A policy whose records are looked at. -/
theorem Marks.inspect (p : Policy τ) (now : τ) (t : Target) :
    p.Marks [now] [] { p with strategy := p.strategy.inspect now t } :=
  ⟨rfl, rfl, rfl, nofun, fun _ _ => Blacklist.ages_inspect List.mem_cons_self t⟩

omit [Seconds τ] in
/-- The record of a target after one was made. -/
theorem failure?_mark (p : Policy τ) (now : τ) (t u : Target) :
    ({ p with strategy := p.strategy.mark now t } : Policy τ).failure? u =
      if u = t then some now else p.failure? u :=
  Blacklist.failure?_record ..

/-- A policy that makes a record. -/
theorem Marks.mark (p : Policy τ) (now : τ) (t : Target) :
    p.Marks [now] [(t, now)] { p with strategy := p.strategy.mark now t } where
  targets := rfl
  window := rfl
  faulty := rfl
  marked u x h := by
    rw [failure?_mark]
    by_cases hu : u = t
    · rw [if_pos hu, ← h, hu]
      simp
    · rw [List.lookup_cons, beq_false_of_ne hu] at h
      cases h
  others u h := by
    have hu : u ≠ t := by
      rintro rfl
      simp at h
    exact .inl ((failure?_mark p now t u).trans (if_neg hu))

/-- What may be gone by some moments may be gone by more. -/
theorem Marks.mono (h : p.Marks readings marks q) (hsub : readings ⊆ readings') :
    p.Marks readings' marks q :=
  { h with
    others := fun t ht => (h.others t ht).imp_right fun ⟨hgone, x, hx, y, hy, hover⟩ =>
      ⟨hgone, x, hx, y, hsub hy, hover⟩ }

/-- Records are made one after the other, those made before being kept or renewed. -/
theorem Marks.trans (h : p.Marks readings marks q) (k : q.Marks readings marks' q')
    (hkept : ∀ t, marks'.lookup t = none → (marks.lookup t).isSome →
      q'.failure? t = q.failure? t) : p.Marks readings (marks' ++ marks) q' where
  targets := k.targets.trans h.targets
  window := k.window.trans h.window
  faulty := k.faulty.trans h.faulty
  marked t x ht := by
    rw [List.lookup_append] at ht
    cases hlater : marks'.lookup t with
    | some y =>
      rw [hlater, Option.some_or] at ht
      rw [k.marked t y hlater, ht]
    | none =>
      rw [hlater, Option.none_or] at ht
      rw [hkept t hlater (by rw [ht]; rfl), h.marked t x ht]
  others t ht := by
    rw [List.lookup_append, Option.or_eq_none_iff] at ht
    have hlater := k.others t ht.1
    rw [h.window] at hlater
    exact (h.others t ht.2).trans hlater

/-- Looking at a policy keeps the records made before, as far as nobody looks at them. -/
theorem Marks.look (h : p.Marks readings marks q) (k : q.Marks readings [] q')
    (hkept : ∀ t, (marks.lookup t).isSome → q'.failure? t = q.failure? t) :
    p.Marks readings marks q' :=
  h.trans k fun t _ => hkept t

/-! ## What a policy is asked -/

/-- Asking whether there is a target makes no record. -/
theorem marks_isViable (p : Policy τ) (now : τ) : p.Marks [now] [] (p.isViable now).2 := by
  unfold isViable
  split
  next => exact .refl _ p
  next =>
    rw [Strategy.isViable_eq]
    cases pick p.strategy.window now p.strategy.blacklist [] p.strategy.targets with
    | none => exact .refl _ p
    | some t => exact .inspect p now t

/-- Asking for the next request makes no record, and looks at no target that was tried. -/
theorem marks_nextStage (p : Policy τ) (now : τ) (r : Request) (tried : List Target) :
    p.Marks [now] [] (p.nextStage now r tried).2 ∧
      ∀ t ∈ tried, (p.nextStage now r tried).2.failure? t = p.failure? t := by
  unfold nextStage Strategy.nextStage
  cases Target.ofUrl r.url with
  | error f => exact ⟨.refl _ p, fun _ _ => rfl⟩
  | ok here =>
    dsimp only
    rw [Strategy.nextTarget_eq]
    cases hpick : pick p.strategy.window now p.strategy.blacklist tried
        (here :: p.strategy.targets) with
    | none => exact ⟨.refl _ p, fun _ _ => rfl⟩
    | some t =>
      have hlook : p.Marks [now] [] { p with strategy := p.strategy.inspect now t } ∧
          ∀ u ∈ tried, ({ p with strategy := p.strategy.inspect now t } : Policy τ).failure? u =
            p.failure? u := by
        refine ⟨.inspect p now t, fun u hu => ?_⟩
        have hne : u ≠ t := by
          rintro rfl
          exact (pick_eq_some hpick).2.1 hu
        exact (Blacklist.failure?_inspect ..).trans (if_neg fun h => hne h.1)
      dsimp only
      split <;> exact hlook

end Policy

/-! ## Exchanges -/

namespace Exchange

variable {τ : Type} [Seconds τ] {now : τ} {a : Adjustment} {r : Request} {x : Exchange}
  {cycle : Cycle}

/-- A choice makes no record, looks at no target that was tried, and blames nobody. -/
theorem marks_choose (now : τ) (p : Policy τ) (r : Request) (tried : List Target)
    (last : Option (TransportFault × String)) :
    p.Marks [now] [] (choose now p r tried last).2 ∧
      (∀ t ∈ tried, (choose now p r tried last).2.failure? t = p.failure? t) ∧
      Blameless (choose now p r tried last).1 := by
  obtain ⟨hmarks, hkept⟩ := p.marks_nextStage now r tried
  rw [snd_choose]
  refine ⟨hmarks, hkept, ?_⟩
  have hstage : Blameless (p.nextStage now r tried).1 :=
    Blameless.mapError (fun fault => by cases fault <;> rfl) _
  unfold choose
  generalize p.nextStage now r tried = out at hstage ⊢
  obtain ⟨f | _ | q, p'⟩ := out
  · exact .error (hstage f rfl)
  · exact .error rfl
  · dsimp only
    split
    · exact .error rfl
    · exact .ok _

/-- The first choice of a layer records nobody and blames nobody. -/
theorem marks_enter (now : τ) (p : Policy τ) (r : Request) :
    p.Marks [now] [] (enter now p r).2 ∧ Blameless (enter now p r).1 := by
  have hviable := p.marks_isViable now
  have hblameless : Blameless (p.isViable now).1 := by
    unfold Policy.isViable
    split
    · exact .error rfl
    · exact .ok _
  unfold enter
  generalize p.isViable now = out at hviable hblameless ⊢
  obtain ⟨f | _ | _, q⟩ := out
  · exact ⟨hviable, .error (hblameless f rfl)⟩
  · exact ⟨hviable, .error rfl⟩
  · obtain ⟨hmarks, -, hchoice⟩ := marks_choose now q r [] none
    exact ⟨hviable.look hmarks fun _ h => Bool.noConfusion h, hchoice⟩

/-- A request that fails on its way down the layers blames nobody. -/
theorem blamed_of_start {layers : List Layer} {policy : Option (Policy τ)} {f : Failure}
    (h : (start now policy layers r).1 = .failed f) : f.blamed = none := by
  induction layers generalizing policy r f with
  | nil => cases h
  | cons layer below ih =>
    cases layer with
    | adjusting a =>
      rw [start] at h
      have hblameless := a.blameless_apply r
      cases happly : a.apply r with
      | error g =>
        rw [happly] at h
        cases h
        exact hblameless f happly
      | ok q =>
        rw [happly] at h
        exact ih h
    | failover =>
      unfold start at h
      cases policy with
      | none =>
        cases h
        rfl
      | some p =>
        obtain ⟨-, hblameless⟩ := marks_enter now p r
        dsimp only at h
        generalize enter now p r = entered at h hblameless
        obtain ⟨g | ⟨stage, t⟩, q⟩ := entered
        · cases h
          exact hblameless f rfl
        · dsimp only at h
          split at h
          next => cases h
          next => exact ih h

/-- An exchange is at an attempt of a cycle that has tried these targets, or it failed and blames
nobody. -/
inductive GoesOn (tried : List Target) : Progress → Prop
  | failed {f : Failure} (hf : f.blamed = none) : GoesOn tried (.failed f)
  | sent {x : Exchange} {cycle : Cycle} (hcycle : x.cycle = some cycle)
    (htried : cycle.attempted = tried) : GoesOn tried (.sent x)

/-- How far an exchange is below the failover layer, after passing the adjustment. -/
theorem start_below (now : τ) (policy : Option (Policy τ)) (a : Adjustment) (r : Request) :
    (∃ f, start now policy [.adjusting a] r = (.failed f, policy) ∧ f.blamed = none) ∨
      ∃ x, start now policy [.adjusting a] r = (.sent x, policy) := by
  have hblameless := a.blameless_apply r
  rw [start]
  cases happly : a.apply r with
  | error f => exact .inl ⟨f, rfl, hblameless f happly⟩
  | ok q => exact .inr ⟨_, rfl⟩

/-- A request on its way down the stack makes no record. The cycle is at its beginning. -/
theorem marks_start (now : τ) (p : Policy τ) (a : Adjustment) (r : Request) :
    ∃ progress q,
      start now (some p) (Stack.standard true a).layers r = (progress, some q) ∧
      p.Marks [now] [] q ∧ GoesOn [] progress := by
  obtain ⟨hmarks, hblameless⟩ := marks_enter now p r
  change ∃ progress q, start now (some p) [.failover, .adjusting a] r = (progress, some q) ∧ _
  rw [start]
  dsimp only
  generalize enter now p r = entered at hmarks hblameless ⊢
  obtain ⟨f | ⟨stage, t⟩, q⟩ := entered
  · exact ⟨_, q, rfl, hmarks, .failed (hblameless f rfl)⟩
  · dsimp only
    rcases start_below now (some q) a stage with ⟨f, hstart, hf⟩ | ⟨x, hstart⟩
    · rw [hstart]
      exact ⟨_, q, rfl, hmarks, .failed hf⟩
    · obtain ⟨-, hcycle, -⟩ := start_adjusting (congrArg Prod.fst hstart)
      have hchosen : (x.chosen t [.adjusting a]).cycle =
          some { below := [.adjusting a], target := t } := by
        unfold chosen
        rw [hcycle]
      rw [hstart]
      exact ⟨_, q, rfl, hmarks, .sent hchosen rfl⟩

/-- Going on to the next target of a cycle makes no record, and looks at no target that was tried.
The cycle then has tried one more. -/
theorem marks_proceed (now : τ) (p : Policy τ) (hx : x.Attempting a r)
    (hcycle : x.cycle = some cycle) (fault : TransportFault × String) :
    ∃ progress q, proceed now p x cycle fault = (progress, some q) ∧ p.Marks [now] [] q ∧
      (∀ t ∈ cycle.attempted ++ [cycle.target], q.failure? t = p.failure? t) ∧
      GoesOn (cycle.attempted ++ [cycle.target]) progress := by
  obtain ⟨hlook, hkept, hblameless⟩ :=
    marks_choose now p x.request (cycle.attempted ++ [cycle.target]) (some fault)
  unfold proceed
  dsimp only
  generalize choose now p x.request (cycle.attempted ++ [cycle.target]) (some fault) = chosen
    at hlook hkept hblameless ⊢
  obtain ⟨f | ⟨stage, t⟩, q⟩ := chosen
  · exact ⟨_, q, rfl, hlook, hkept, .failed (hblameless f rfl)⟩
  · dsimp only
    rw [hx.below cycle hcycle]
    rcases start_below now (some q) a stage with ⟨f, hstart, hf⟩ | ⟨y, hstart⟩
    · rw [hstart]
      exact ⟨_, q, rfl, hlook, hkept, .failed hf⟩
    · rw [hstart]
      exact ⟨_, q, rfl, hlook, hkept, .sent rfl rfl⟩

/-- An attempt that the transport fails makes a record of its target, and no other. The request
goes on to the next attempt of the cycle, or fails and blames nobody else. -/
theorem marks_receive (now : τ) {p : Policy τ} (hp : p.faulty = none) (hx : x.Attempting a r)
    (hcycle : x.cycle = some cycle) (fault : TransportFault) (text : String) :
    ∃ progress q,
      x.receive now (some p) (.raised (.transport fault text)) = (progress, some q) ∧
      p.Marks [now] [(cycle.target, now)] q ∧
      (∀ t ∈ cycle.attempted, t ≠ cycle.target → q.failure? t = p.failure? t) ∧
      GoesOn (cycle.attempted ++ [cycle.target]) progress := by
  have hmark : p.mark now cycle.target =
      (.ok (), { p with strategy := p.strategy.mark now cycle.target }) := by
    rw [Policy.mark, hp]
    rfl
  have hmarked := Policy.Marks.mark p now cycle.target
  have hothers := p.failure?_mark now cycle.target
  generalize ({ p with strategy := p.strategy.mark now cycle.target } : Policy τ) = p₁
    at hmark hmarked hothers
  obtain ⟨progress, q, hproceed, hlook, hkept, hgoes⟩ :=
    marks_proceed now p₁ hx hcycle (fault, text)
  have hreceive : x.receive now (some p) (.raised (.transport fault text)) =
      (progress, some q) := by
    unfold receive
    rw [hcycle]
    dsimp only
    rw [hmark]
    exact hproceed
  refine ⟨progress, q, hreceive, hmarked.look hlook fun t ht => hkept t ?_, fun t ht hne => ?_,
    hgoes⟩
  · by_cases heq : t = cycle.target
    · simp [heq]
    · rw [List.lookup_cons, beq_false_of_ne heq] at ht
      cases ht
  · rw [hkept t (List.mem_append_left _ ht), hothers, if_neg hne]

end Exchange

end BlockingQuery
