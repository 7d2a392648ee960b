import BlockingQuery.Proofs.Cache.Trace
import Mathlib.Logic.Relation

/-!
# Who is called with what

A commit is one thing, the round in which listeners are called with it another one, and listeners
come and go in between. A `Dispatch` is what is decided at a moment: the snapshots that wait for
their rounds, and the calls that are left of the round under way. It moves by commits, by rounds
that begin, with one call for each listener who is registered then, by calls, and by stopping, which
drops everything (`Dispatch.Move`).

What a listener is handed from a moment on is what it is owed then, in order, and what is committed
later (`since_moves`). It is owed its calls in the round under way and all snapshots that wait,
although they were committed before, and even if it was not registered at that time. Between two
moments a listener that stays registered misses nothing, as long as the dispatch is not halted.
-/

namespace BlockingQuery

open Relation (ReflTransGen)

/-- What is decided about the calls of listeners. -/
structure Dispatch where
  /-- What has happened, the latest first. -/
  trace : List Occurrence := []
  /-- The snapshots whose rounds have yet to begin, in the order in which they were committed. -/
  waiting : List Snapshot := []
  /-- The calls that are left of the round under way. -/
  calls : List (String × Snapshot) := []
  /-- Whether the cache was stopped. -/
  halted : Bool := false

namespace Dispatch

open Cache (handed commits handed_cons commits_cons)

/-- The listeners that are registered. -/
def registered (D : Dispatch) : List String :=
  (Registry.replay D.trace {}).listeners

/-- The calls of a round. -/
def round (snapshot : Snapshot) (ls : List String) : List (String × Snapshot) :=
  ls.map (·, snapshot)

/-- The snapshots that a listener is called with. -/
def callsOf (l : String) (calls : List (String × Snapshot)) : List Snapshot :=
  calls.filterMap fun e => if e.1 = l then some e.2 else none

/-- What a listener is still to be handed of what was committed: the snapshots of its calls in the
round under way, and those that wait. -/
def owes (D : Dispatch) (l : String) : List Snapshot :=
  callsOf l D.calls ++ D.waiting

/-- What happens to the calls of listeners, one thing at a time. -/
inductive Move : Dispatch → Dispatch → Prop
  | note {D : Dispatch} {o : Occurrence} (hcommitted : o.committed? = none)
    (hhanded : ∀ l, o.handed? l = none) : Move D { D with trace := o :: D.trace }
  | commit (snapshot : Snapshot) (D : Dispatch) :
    Move D { D with trace := .committed snapshot :: D.trace, waiting := D.waiting ++ [snapshot] }
  /-- A round begins when the one before is over, and it is for those who are registered. -/
  | begins {D : Dispatch} {snapshot : Snapshot} {rest : List Snapshot} (hgo : D.halted = false)
    (hover : D.calls = []) (hnext : D.waiting = snapshot :: rest) :
    Move D { D with waiting := rest, calls := round snapshot D.registered }
  | call {D : Dispatch} {l : String} {snapshot : Snapshot} {rest : List (String × Snapshot)}
    (hgo : D.halted = false) (hnext : D.calls = (l, snapshot) :: rest) :
    Move D { D with trace := .called l snapshot :: D.trace, calls := rest }
  /-- What is left is dropped. -/
  | halt (D : Dispatch) : Move D { D with waiting := [], calls := [], halted := true }

/-- One thing after the other. -/
abbrev Moves : Dispatch → Dispatch → Prop :=
  ReflTransGen Move

section
variable {D E F : Dispatch} {l : String} {snapshot : Snapshot} {ls : List String}
  {os ps : List Occurrence}

/-- A round has one call for each of its listeners. -/
theorem callsOf_round (hnodup : ls.Nodup) :
    callsOf l (round snapshot ls) = if l ∈ ls then [snapshot] else [] := by
  induction ls with
  | nil => rfl
  | cons m ls ih =>
    obtain ⟨hm, hls⟩ := List.nodup_cons.1 hnodup
    have hcons : callsOf l (round snapshot (m :: ls)) =
        (if m = l then [snapshot] else []) ++ callsOf l (round snapshot ls) := by
      by_cases hml : m = l <;> simp [callsOf, round, hml]
    rw [hcons, ih hls]
    by_cases hml : m = l
    · subst hml
      simp [hm]
    · simp [hml, Ne.symm hml]

/-! ## From one moment to another -/

/-- What the listener was handed since a moment, and what it is owed now, is what it was owed at
that moment and what was committed since, or less. A listener that was registered and is not removed
misses nothing, unless the dispatch is halted. -/
structure Since (l : String) (D E : Dispatch) (new : List Occurrence) : Prop where
  grown : E.trace = new ++ D.trace
  atMost : (handed l new ++ E.owes l).Sublist (D.owes l ++ commits new)
  halted : E.halted = false → D.halted = false
  registered : l ∈ D.registered → .removed l ∉ new → l ∈ E.registered
  exactly : E.halted = false → l ∈ D.registered → .removed l ∉ new →
    handed l new ++ E.owes l = D.owes l ++ commits new

/-- A dispatch that does not move on owes a listener what it owed. -/
protected theorem Since.refl (l : String) (D : Dispatch) : Since l D D [] where
  grown := rfl
  atMost := by simp [handed, commits]
  halted := id
  registered h _ := h
  exactly _ _ _ := by simp [handed, commits]

/-- What a listener is handed in two stretches is what it is handed in the first one and then in the
second. -/
protected theorem Since.trans (h : Since l D E os) (k : Since l E F ps) :
    Since l D F (ps ++ os) := by
  have hhanded := Cache.handed_later l ps os
  have hcommits := Cache.commits_later ps os
  refine ⟨by rw [k.grown, h.grown, List.append_assoc], ?_, fun hF => h.halted (k.halted hF),
    fun hl hkept => ?_, fun hF hl hkept => ?_⟩
  · rw [hhanded, hcommits, List.append_assoc, ← List.append_assoc (D.owes l)]
    refine (List.Sublist.append_left k.atMost _).trans ?_
    rw [← List.append_assoc]
    exact h.atMost.append_right _
  all_goals
    rw [List.mem_append, not_or] at hkept
    have hstays := h.registered hl hkept.2
  · exact k.registered hstays hkept.1
  · rw [hhanded, hcommits, List.append_assoc, k.exactly hF hstays hkept.1, ← List.append_assoc,
      h.exactly (k.halted hF) hl hkept.2, List.append_assoc]

/-- What a single move adds, and what it does to what is owed. -/
theorem since_move (l : String) (h : Move D E) : ∃ new, Since l D E new := by
  have stays {o : Occurrence} (hl : l ∈ D.registered) (ho : .removed l ∉ [o]) :
      l ∈ (Registry.replay (o :: D.trace) {}).listeners :=
    Registry.mem_after hl fun heq => ho (by simp [heq])
  cases h with
  | @note D o hcommitted hhanded =>
    have hnone : handed l [o] = [] := handed_cons (hhanded l)
    have hnothing : commits [o] = [] := commits_cons hcommitted
    refine ⟨[o], rfl, ?_, id, stays, fun _ _ _ => ?_⟩ <;> rw [hnone, hnothing, List.append_nil]
    · exact .refl _
    · rfl
  | commit snapshot D =>
    have hone : commits [.committed snapshot] = [snapshot] := rfl
    have hnone : handed l [.committed snapshot] = [] := rfl
    have heq : handed l [.committed snapshot] ++
        ({ D with trace := .committed snapshot :: D.trace, waiting := D.waiting ++ [snapshot] } :
          Dispatch).owes l = D.owes l ++ commits [.committed snapshot] := by
      rw [hone, hnone]
      simp [owes]
    exact ⟨[.committed snapshot], rfl, heq ▸ .refl _, id, stays, fun _ _ _ => heq⟩
  | @begins D snapshot rest hgo hover hnext =>
    -- A snapshot that waits is owed to everybody, and one that is called with to those registered.
    have hbefore : D.owes l = snapshot :: rest := by
      rw [owes, hover, hnext]
      rfl
    have hafter : ({ D with waiting := rest, calls := round snapshot D.registered } :
        Dispatch).owes l = (if l ∈ D.registered then [snapshot] else []) ++ rest := by
      rw [← callsOf_round (show D.registered.Nodup from Registry.nodup_replay D.trace)]
      rfl
    refine ⟨[], rfl, ?_, id, fun hl _ => hl, fun _ hl _ => ?_⟩
    · rw [hbefore, hafter]
      split
      · simp [handed, commits]
      · simp [handed, commits]
    · rw [hbefore, hafter, if_pos hl]
      simp [handed, commits]
  | @call D m snapshot rest hgo hnext =>
    have hnothing : commits [.called m snapshot] = [] := rfl
    have heq : handed l [.called m snapshot] ++
        ({ D with trace := .called m snapshot :: D.trace, calls := rest } : Dispatch).owes l =
          D.owes l ++ commits [.called m snapshot] := by
      rw [hnothing, List.append_nil]
      unfold owes
      rw [hnext]
      by_cases hm : m = l <;> simp [handed, Occurrence.handed?, callsOf, hm]
    exact ⟨[.called m snapshot], rfl, heq ▸ .refl _, id, stays, fun _ _ _ => heq⟩
  | halt D =>
    refine ⟨[], rfl, ?_, fun h => Bool.noConfusion h, fun hl _ => hl, fun h => Bool.noConfusion h⟩
    simp [handed, owes, callsOf]

/-- From one moment to any later one a listener is handed what it was owed and what is committed
since, as far as it is not owed still. -/
theorem since_moves (l : String) (h : Moves D E) : ∃ new, Since l D E new := by
  induction h with
  | refl => exact ⟨[], .refl l D⟩
  | tail _ hlast ih =>
    obtain ⟨os, h⟩ := ih
    obtain ⟨ps, k⟩ := since_move l hlast
    exact ⟨ps ++ os, h.trans k⟩

/-- Whatever happened, there was a moment when it had just happened. -/
theorem exists_moment_of_moves (h : Moves D E) (hos : os <:+ E.trace) (hD : D.trace <:+ os) :
    ∃ M, Moves D M ∧ Moves M E ∧ M.trace = os := by
  induction h with
  | refl =>
    exact ⟨D, .refl, .refl, (hos.eq_of_length (le_antisymm hos.length_le hD.length_le)).symm⟩
  | @tail E F hmoves hlast ih =>
    have earlier (hbefore : os <:+ E.trace) : ∃ M, Moves D M ∧ Moves M F ∧ M.trace = os := by
      obtain ⟨M, hM, hE, htrace⟩ := ih hbefore
      exact ⟨M, hM, hE.tail hlast, htrace⟩
    have latest {o : Occurrence} (htrace : F.trace = o :: E.trace) :
        ∃ M, Moves D M ∧ Moves M F ∧ M.trace = os := by
      rw [htrace, List.suffix_cons_iff] at hos
      rcases hos with rfl | hos
      · exact ⟨F, hmoves.tail hlast, .refl, htrace⟩
      · exact earlier hos
    -- Rounds that begin and halts leave no trace, so they come after the moment.
    cases hlast with
    | note | commit | call => exact latest rfl
    | begins | halt => exact earlier hos

/-- What is owed was committed before. -/
theorem owes_subset_commits (h : Moves {} D) (l : String) : D.owes l ⊆ commits D.trace := by
  obtain ⟨new, hsince⟩ := since_moves l h
  intro snapshot hsnapshot
  have hmem := hsince.atMost.subset (List.mem_append_right _ hsnapshot)
  rw [hsince.grown]
  simpa [owes, callsOf] using hmem

end

end Dispatch

end BlockingQuery
