import BlockingQuery.Proofs.Cache.Registry
import Mathlib.Data.Set.Card

/-!
# Who is registered

A registry is used by anybody who has got it. Listeners are added and removed, the removers that
were handed out are called at any time after, and in a round every listener may do the same, and
begin rounds of its own. All of this is a run (`Usage.Runs`), which writes down each use of the
registry, what it came to, and who was registered after it.

Who should be registered can be told from the uses alone, with no list of listeners: a listener is
present since the first use that added it after the last use that took it out (`since?`). The
registry is the ordered set of those that are present, in the order of these times (`Holds`). Each
kind of use keeps it so, whatever the use is part of, and so it holds after every use of every run
(`Usage.holds_of_runs`).
-/

namespace BlockingQuery.Registry

/-! ## The reference -/

/-- A use of a registry, and what it came to. -/
inductive Use (ι : Type)
  | added (l : ι)
  | removed (l : ι) (found : Bool)
  /-- The remover with a number was called. Removers are numbered as they were handed out. -/
  | withdrawn (n : Nat) (found : Bool)
  | cleared
  | counted (n : Nat)
  deriving DecidableEq, Repr

/-- The listener that a use registers. -/
def Use.registered? {ι : Type} : Use ι → Option ι
  | .added l => some l
  | .removed .. | .withdrawn .. | .cleared | .counted _ => none

/-- The listeners that uses register, in the order of the removers that are handed out. The uses are
given latest first, here and below. -/
def registrations {ι : Type} (us : List (Use ι)) : List ι :=
  us.reverse.filterMap Use.registered?

/-- A use registers one listener more, or none. -/
@[simp] theorem registrations_cons {ι : Type} (u : Use ι) (us : List (Use ι)) :
    registrations (u :: us) = registrations us ++ u.registered?.toList := by
  rw [registrations, List.reverse_cons, List.filterMap_append]
  cases h : u.registered? <;> simp [registrations, h]

section
variable {ι : Type} [DecidableEq ι]

/-- When a listener was registered since it was last absent, as the number of uses before that.
There is no such time while it is absent. -/
def since? (l : ι) : List (Use ι) → Option Nat
  | [] => none
  | .added m :: us => if m = l then (since? l us).or (some us.length) else since? l us
  | .removed m _ :: us => if m = l then none else since? l us
  | .withdrawn n _ :: us => if (registrations us)[n]? = some l then none else since? l us
  | .cleared :: _ => none
  | .counted _ :: us => since? l us

/-- The list holds those that are present after some uses, nobody twice, and in the order in which
they were registered since they were last absent. -/
structure Holds (us : List (Use ι)) (ls : List ι) : Prop where
  nodup : ls.Nodup
  present (l : ι) : l ∈ ls ↔ (since? l us).isSome
  ordered : ls.Pairwise fun l m => ∀ i ∈ since? l us, ∀ j ∈ since? m us, i < j

/-- A use came to what it should after the earlier uses, if `before` were registered when it began,
and `after` when it was over. Adding a listener that is present changes nothing. A removal tells
whether the listener was present, be it by a remover or not. A count is that of those present. -/
def Use.Fits (earlier : List (Use ι)) (before after : List ι) : Use ι → Prop
  | .added l => (since? l earlier).isSome → after = before
  | .removed l found => found = (since? l earlier).isSome
  | .withdrawn n found =>
    ∃ l, (registrations earlier)[n]? = some l ∧ found = (since? l earlier).isSome
  | .cleared => after = []
  | .counted n => n = Set.ncard {l | (since? l earlier).isSome} ∧ after = before

end

/-! ## Runs -/

/-- A registry in use: the removers that were handed out, and the uses with those who were
registered after them, latest first. What users remember besides is up to them. -/
structure Usage (ι μ : Type) where
  registry : Registry ι := {}
  removers : List (Registry ι → Bool × Registry ι) := []
  history : List (Use ι × List ι) := []
  memory : μ

/-- Who was registered after the last use. -/
def left {ι : Type} : List (Use ι × List ι) → List ι
  | [] => []
  | (_, ls) :: _ => ls

namespace Usage

variable {ι μ : Type}

/-- The uses, latest first. -/
def uses (s : Usage ι μ) : List (Use ι) :=
  s.history.map (·.1)

/-- A new registry. -/
def fresh (m : μ) : Usage ι μ where
  memory := m

/-- What a use makes of the registry is written down. -/
def put (s : Usage ι μ) (u : Use ι) (r : Registry ι) : Usage ι μ :=
  { s with registry := r, history := (u, r.listeners) :: s.history }

/-- Calls a remover. -/
def withdraw (s : Usage ι μ) (n : Nat) (f : Registry ι → Bool × Registry ι) : Usage ι μ :=
  s.put (.withdrawn n (f s.registry).1) (f s.registry).2

/-- Removes all listeners. -/
def clear (s : Usage ι μ) : Usage ι μ :=
  s.put .cleared .empty

/-- Counts the listeners. -/
def count (s : Usage ι μ) : Usage ι μ :=
  s.put (.counted s.registry.size) s.registry

variable [DecidableEq ι]

/-- Registers a listener. -/
def add (s : Usage ι μ) (l : ι) : Usage ι μ :=
  { s.put (.added l) (s.registry.add l) with removers := s.removers ++ [remover l] }

/-- Removes a listener. -/
def remove (s : Usage ι μ) (l : ι) : Usage ι μ :=
  s.put (.removed l (s.registry.remove l).1) (s.registry.remove l).2

/-- What can be done with a registry: uses one after the other, and rounds in which each listener
that is called, and the handler of failures, again do what can be done. -/
inductive Runs : Usage ι μ → Usage ι μ → Prop
  | refl (s : Usage ι μ) : Runs s s
  | trans {s t u : Usage ι μ} : Runs s t → Runs t u → Runs s u
  | add (s : Usage ι μ) (l : ι) : Runs s (s.add l)
  | remove (s : Usage ι μ) (l : ι) : Runs s (s.remove l)
  | withdraw (s : Usage ι μ) {n : Nat} {f : Registry ι → Bool × Registry ι} :
    s.removers[n]? = some f → Runs s (s.withdraw n f)
  | clear (s : Usage ι μ) : Runs s s.clear
  | count (s : Usage ι μ) : Runs s s.count
  | remember (s : Usage ι μ) (m : μ) : Runs s { s with memory := m }
  | round {ε : Type} (c : Courier ι ε Empty (Usage ι μ)) {s t : Usage ι μ} {n : Nat} :
    (∀ l s, Runs s (c.call l s).state) →
    (∀ f, c.handler = some f → ∀ l e s, Runs s (f l e s).2) →
    s.registry.notify c s = .finished n t → Runs s t

end Usage

/-! ## Single uses -/

section
variable {ι : Type} [DecidableEq ι] {us : List (Use ι)} {ls : List ι} {l : ι}

/-- A listener was registered before now. -/
theorem since?_lt {i : Nat} (h : since? l us = some i) : i < us.length := by
  induction us with
  | nil => cases h
  | cons u us ih =>
    have hearlier (h : since? l us = some i) : i < (u :: us).length :=
      (ih h).trans (Nat.lt_succ_self _)
    cases u with
    | added m =>
      rw [since?] at h
      split at h
      next =>
        obtain h | ⟨-, h⟩ := Option.or_eq_some_iff.1 h
        · exact hearlier h
        · cases h
          exact Nat.lt_succ_self _
      next => exact hearlier h
    | removed m found =>
      rw [since?] at h
      split at h
      next => cases h
      next => exact hearlier h
    | withdrawn n found =>
      rw [since?] at h
      split at h
      next => cases h
      next => exact hearlier h
    | cleared => cases h
    | counted n => exact hearlier h

namespace Holds

/-- Nobody is registered before the first use. -/
theorem nil : Holds ([] : List (Use ι)) [] :=
  ⟨.nil, fun l => by simp [since?], .nil⟩

/-- Whether a listener is registered can be asked of the list. -/
theorem found_eq (h : Holds us ls) (l : ι) : decide (l ∈ ls) = (since? l us).isSome := by
  rw [Bool.eq_iff_iff, decide_eq_true_eq, h.present]

/-- Whoever is not in the list is absent. -/
theorem since?_eq_none (h : Holds us ls) (hl : l ∉ ls) : since? l us = none := by
  rwa [← Option.not_isSome_iff_eq_none, ← h.present]

/-- After a use that takes listeners out, and leaves the others as they were, the shorter list holds
those that are present. -/
theorem of_sublist {us' : List (Use ι)} {ls' : List ι} (h : Holds us ls) (hsub : ls'.Sublist ls)
    (hin : ∀ l ∈ ls', since? l us' = since? l us) (hout : ∀ l, l ∉ ls' → since? l us' = none) :
    Holds us' ls' where
  nodup := h.nodup.sublist hsub
  present l := by
    constructor
    · intro hl
      rw [hin l hl]
      exact (h.present l).1 (hsub.mem hl)
    · intro hsome
      by_contra hl
      rw [hout l hl] at hsome
      cases hsome
  ordered := by
    refine (h.ordered.sublist hsub).imp_of_mem fun {l m} hl hm hlm => ?_
    rw [hin l hl, hin m hm]
    exact hlm

/-- After a use that changes nothing the list holds those that are present. -/
theorem of_eq {us' : List (Use ι)} (h : Holds us ls) (heq : ∀ l, since? l us' = since? l us) :
    Holds us' ls := by
  refine h.of_sublist (.refl ls) (fun l _ => heq l) fun l hl => ?_
  rw [heq, h.since?_eq_none hl]

/-- A listener that was absent is present from now on, after all others. -/
theorem added_of_notMem (h : Holds us ls) (hl : l ∉ ls) :
    Holds (.added l :: us) (ls ++ [l]) := by
  have hself : since? l (.added l :: us) = some us.length := by
    rw [since?, if_pos rfl, h.since?_eq_none hl, Option.none_or]
  have hother {m : ι} (hm : m ≠ l) : since? m (.added l :: us) = since? m us := by
    rw [since?, if_neg hm.symm]
  have hne {m : ι} (hm : m ∈ ls) : m ≠ l := by
    rintro rfl
    exact hl hm
  refine ⟨?_, fun m => ?_, ?_⟩
  · exact List.nodup_append.2 ⟨h.nodup, by simp, fun m hm k hk => by
      rw [List.mem_singleton.1 hk]
      exact hne hm⟩
  · by_cases hm : m = l
    · subst hm
      simp [hself]
    · rw [hother hm, ← h.present]
      simp [hm]
  · rw [List.pairwise_append]
    refine ⟨?_, List.pairwise_singleton .., fun m hm k hk i hi j hj => ?_⟩
    · refine h.ordered.imp_of_mem fun {m k} hm hk hmk => ?_
      rw [hother (hne hm), hother (hne hk)]
      exact hmk
    · -- The new one comes now, and the others came before.
      rw [List.mem_singleton.1 hk, hself] at hj
      cases hj
      rw [hother (hne hm)] at hi
      exact since?_lt hi

/-- After a listener is registered the list holds those that are present. -/
theorem add (r : Registry ι) (h : Holds us r.listeners) (l : ι) :
    Holds (.added l :: us) (r.add l).listeners := by
  unfold Registry.add
  split
  next hl =>
    refine h.of_eq fun m => ?_
    rw [since?]
    split
    next heq =>
      subst heq
      exact Option.or_of_isSome ((h.present l).1 hl)
    next => rfl
  next hl => exact h.added_of_notMem hl

/-- A use that takes one listener out, if it is there, and tells whether it was. -/
theorem remove {u : Use ι} (r : Registry ι) (h : Holds us r.listeners)
    (hself : since? l (u :: us) = none)
    (hother : ∀ m, m ≠ l → since? m (u :: us) = since? m us) :
    Holds (u :: us) (r.remove l).2.listeners ∧ (r.remove l).1 = (since? l us).isSome := by
  rw [← h.found_eq]
  unfold Registry.remove
  split
  next hl =>
    refine ⟨h.of_sublist List.erase_sublist (fun m hm => ?_) fun m hm => ?_, by simp [hl]⟩
    · exact hother m (h.nodup.mem_erase_iff.1 hm).1
    · by_cases heq : m = l
      · rw [heq, hself]
      · rw [hother m heq]
        exact h.since?_eq_none fun hmem => hm (h.nodup.mem_erase_iff.2 ⟨heq, hmem⟩)
  next hl =>
    refine ⟨h.of_eq fun m => ?_, by simp [hl]⟩
    by_cases heq : m = l
    · rw [heq, hself, h.since?_eq_none hl]
    · exact hother m heq

/-- The number of listeners is that of those present. -/
theorem length_eq (h : Holds us ls) : ls.length = Set.ncard {l | (since? l us).isSome} := by
  have hset : {l | (since? l us).isSome = true} = (ls.toFinset : Set ι) := by
    ext l
    simp [← h.present]
  rw [hset, Set.ncard_coe_finset, List.toFinset_card_of_nodup h.nodup]

end Holds

end

/-! ## Whole runs -/

/-- A round keeps what each call and the handler keep. -/
theorem deliver_keeps {ι ε σ : Type} {c : Courier ι ε Empty σ} {P : σ → Prop} {ls : List ι}
    {n m : Nat} {s t : σ} (hcall : ∀ l s, P s → P (c.call l s).state)
    (hhandler : ∀ f, c.handler = some f → ∀ l e s, P s → P (f l e s).2) (hs : P s)
    (h : deliver c ls n s = .finished m t) : P t := by
  induction ls generalizing n s with
  | nil =>
    cases h
    exact hs
  | cons l ls ih =>
    cases hmay : c.mayCall s with
    | false =>
      rw [deliver_of_mayNot hmay] at h
      cases h
      exact hs
    | true =>
      have hcalled := hcall l s hs
      cases hc : c.call l s with
      | returned u =>
        rw [hc] at hcalled
        rw [deliver_of_returned hmay hc] at h
        exact ih hcalled h
      | raised e u =>
        rw [hc] at hcalled
        rw [deliver_of_raised hmay hc] at h
        refine ih ?_ h
        unfold Courier.handle
        cases hf : c.handler with
        | none => exact hcalled
        | some f => exact hhandler f hf l e u hcalled
      | held k u => exact nomatch k

namespace Usage

section
variable {ι μ : Type} [DecidableEq ι] {s t : Usage ι μ}

/-- What holds of a registry in use: it is the ordered set of those that are present, and it was
after every use, and each use came to what it should. -/
structure Kept (s : Usage ι μ) : Prop where
  holds : Holds s.uses s.registry.listeners
  left : left s.history = s.registry.listeners
  removers : s.removers = (registrations s.uses).map remover
  entries : ∀ u ls earlier, (u, ls) :: earlier <:+ s.history →
    Holds (u :: earlier.map (·.1)) ls ∧
      u.Fits (earlier.map (·.1)) (Registry.left earlier) ls

/-- A registry that a use leaves with those who are present, and as it should, is kept with that
use. -/
theorem Kept.put {u : Use ι} {r : Registry ι} (h : Kept s)
    (hholds : Holds (u :: s.uses) r.listeners)
    (hfits : u.Fits s.uses s.registry.listeners r.listeners)
    (fs : List (Registry ι → Bool × Registry ι))
    (hremovers : fs = (registrations (u :: s.uses)).map remover) :
    Kept { s.put u r with removers := fs } where
  holds := hholds
  left := rfl
  removers := hremovers
  entries v ls earlier hsuffix := by
    obtain heq | hsuffix := List.suffix_cons_iff.1 hsuffix
    · cases heq
      rw [h.left]
      exact ⟨hholds, hfits⟩
    · exact h.entries v ls earlier hsuffix

/-- A registry is kept with a use that hands out no remover, if the use leaves it as it should. -/
theorem Kept.put_of_none {u : Use ι} {r : Registry ι} (h : Kept s) (hnone : u.registered? = none)
    (hholds : Holds (u :: s.uses) r.listeners)
    (hfits : u.Fits s.uses s.registry.listeners r.listeners) : Kept (s.put u r) := by
  refine h.put hholds hfits s.removers ?_
  rw [registrations_cons, hnone, Option.toList_none, List.append_nil, h.removers]

/-- In a new registry nobody is present, and no use was made of it. -/
theorem kept_fresh (m : μ) : Kept (fresh m : Usage ι μ) where
  holds := .nil
  left := rfl
  removers := rfl
  entries u ls earlier hsuffix := by
    cases List.suffix_nil.1 hsuffix

/-- A run keeps a registry. -/
theorem Runs.kept (h : Runs s t) (hs : Kept s) : Kept t := by
  induction h with
  | refl s => exact hs
  | trans _ _ ih ih' => exact ih' (ih hs)
  | add s l =>
    refine hs.put (.add s.registry hs.holds l) (fun hpresent => ?_) _ ?_
    · have hl : l ∈ s.registry.listeners := (hs.holds.present l).2 hpresent
      rw [Registry.add, if_pos hl]
    · rw [registrations_cons, List.map_append, hs.removers]
      rfl
  | remove s l =>
    obtain ⟨hholds, hfound⟩ := Holds.remove (l := l)
      (u := .removed l (s.registry.remove l).1) s.registry hs.holds (by rw [since?, if_pos rfl])
      fun m hm => by rw [since?, if_neg hm.symm]
    exact hs.put_of_none rfl hholds hfound
  | @withdraw s n f hf =>
    rw [hs.removers, List.getElem?_map, Option.map_eq_some_iff] at hf
    obtain ⟨l, hl, rfl⟩ := hf
    obtain ⟨hholds, hfound⟩ := Holds.remove (l := l)
      (u := .withdrawn n (s.registry.remove l).1) s.registry hs.holds (by rw [since?, if_pos hl])
      fun m hm => by
        rw [since?, if_neg]
        rw [hl]
        exact fun heq => hm (Option.some.inj heq).symm
    exact hs.put_of_none rfl hholds ⟨l, hl, hfound⟩
  | clear s =>
    refine hs.put_of_none rfl ?_ rfl
    exact hs.holds.of_sublist (List.nil_sublist _) (fun l hl => nomatch hl) fun l _ => rfl
  | count s =>
    exact hs.put_of_none rfl (hs.holds.of_eq fun l => rfl) ⟨hs.holds.length_eq, rfl⟩
  | remember s m => exact ⟨hs.holds, hs.left, hs.removers, hs.entries⟩
  | round c _ _ hend ih ih' => exact deliver_keeps ih ih' hs hend

/-- Whatever is done with a new registry, by calls of removers old and new, inside rounds and out of
them, it is an ordered set. After every use it holds those that are present, nobody twice, in the
order in which they were registered since they were last absent. Adding one that is present changes
nothing, a removal and a remover tell whether the listener was present, and a count is that of those
present. -/
theorem holds_of_runs {m : μ} (h : Runs (fresh m) s) :
    Holds s.uses s.registry.listeners ∧
    ∀ u ls earlier, (u, ls) :: earlier <:+ s.history →
      Holds (u :: earlier.map (·.1)) ls ∧
        u.Fits (earlier.map (·.1)) (Registry.left earlier) ls := by
  have hkept := h.kept (kept_fresh m)
  exact ⟨hkept.holds, hkept.entries⟩

end

/-- Calls listeners of which 1 removes itself and registers again. -/
def sampleCourier : Courier Nat Empty Empty (Usage Nat Unit) where
  mayCall _ := true
  call l s := .returned (if l = 1 then (s.remove 1).add 1 else s)
  handler := none

/-- The listener 1, who comes after 2 since it registered again in a round, is taken out by the
remover of its first registration, and there is nothing left for that to remove. -/
theorem holds_of_runs_sample : ∃ s : Usage Nat Unit,
    s.uses = [.withdrawn 0 false, .withdrawn 0 true, .added 1, .removed 1 true, .added 2,
      .added 1] ∧
    Holds (s.uses.drop 2) [2, 1] ∧ Holds s.uses [2] := by
  let s : Usage Nat Unit := ((fresh ()).add 1).add 2
  let t := (s.remove 1).add 1
  let u := (t.withdraw 0 (remover 1)).withdraw 0 (remover 1)
  have hbegin : Runs (fresh ()) s := .trans (.add ..) (.add ..)
  have hcall (l : Nat) (s : Usage Nat Unit) : Runs s (sampleCourier.call l s).state := by
    change Runs s (if l = 1 then (s.remove 1).add 1 else s)
    split
    next => exact .trans (.remove ..) (.add ..)
    next => exact .refl s
  have hround : Runs s t := .round sampleCourier hcall (fun _ hnone => nomatch hnone) (n := 0) rfl
  have hwithdraws : Runs t u := .trans (.withdraw t rfl) (.withdraw _ rfl)
  exact ⟨u, rfl, (holds_of_runs (hbegin.trans hround)).1,
    (holds_of_runs ((hbegin.trans hround).trans hwithdraws)).1⟩

end Usage

end BlockingQuery.Registry
