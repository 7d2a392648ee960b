import BlockingQuery.Proofs.Cache.Quiet

/-!
# What a trace tells

A trace holds the latest occurrence first. `commits`, `answers`, `handed` and `looks` read it in the
order in which things happened: the snapshots that were committed, the answers that were heard, the
snapshots that a listener was called with, and what was seen by those who looked at the cache. What
is quiet adds to none of the first three. `Always` says of each occurrence of a trace what had
happened before it.
-/

namespace BlockingQuery

namespace Occurrence

/-- The snapshot that is committed. -/
def committed? : Occurrence → Option Snapshot
  | .committed s => some s
  | _ => none

/-- The answer that is heard. -/
def heard? : Occurrence → Option Answer
  | .heard a => some a
  | _ => none

/-- The snapshot that a listener is called with. -/
def handed? (l : String) : Occurrence → Option Snapshot
  | .called m s => if m = l then some s else none
  | _ => none

/-- What somebody sees who looks at the cache. -/
def look? : Occurrence → Option Shown
  | .looked _ seen => some seen
  | _ => none

end Occurrence

namespace Cache

/-- The snapshots that were committed, in their order. -/
def commits (os : List Occurrence) : List Snapshot :=
  (os.filterMap Occurrence.committed?).reverse

/-- The answers that were heard, in their order. -/
def answers (os : List Occurrence) : List Answer :=
  (os.filterMap Occurrence.heard?).reverse

/-- The snapshots that a listener was called with, in their order. -/
def handed (l : String) (os : List Occurrence) : List Snapshot :=
  (os.filterMap (Occurrence.handed? l)).reverse

/-- What listeners and observers saw who looked at the cache, in their order. -/
def looks (os : List Occurrence) : List Shown :=
  (os.filterMap Occurrence.look?).reverse

/-- The snapshot that was committed last, or the one before all. -/
def latest (os : List Occurrence) : Snapshot :=
  (commits os).getLastD .empty

/-- Something is true of every occurrence of a trace and what happened before it. -/
def Always (P : Occurrence → List Occurrence → Prop) : List Occurrence → Prop
  | [] => True
  | o :: os => P o os ∧ Always P os

section
variable {i : Snapshot} {o : Occurrence} {os ps : List Occurrence}

/-- A commit comes after the commits before it. -/
@[simp] theorem commits_committed (s : Snapshot) (os : List Occurrence) :
    commits (.committed s :: os) = commits os ++ [s] := by
  simp [commits, Occurrence.committed?]

/-- What is no commit adds none. -/
@[simp] theorem commits_cons (h : o.committed? = none) : commits (o :: os) = commits os := by
  simp [commits, h]

/-- An answer comes after the answers before it. -/
@[simp] theorem answers_heard (a : Answer) (os : List Occurrence) :
    answers (.heard a :: os) = answers os ++ [a] := by
  simp [answers, Occurrence.heard?]

/-- What is no answer adds none. -/
@[simp] theorem answers_cons (h : o.heard? = none) : answers (o :: os) = answers os := by
  simp [answers, h]

/-- A call of a listener comes after the calls before it. -/
@[simp] theorem handed_called (l : String) (s : Snapshot) (os : List Occurrence) :
    handed l (.called l s :: os) = handed l os ++ [s] := by
  simp [handed, Occurrence.handed?]

/-- What is no call of a listener adds none. -/
@[simp] theorem handed_cons {l : String} (h : o.handed? l = none) :
    handed l (o :: os) = handed l os := by
  simp [handed, h]

/-- A look comes after the looks before it. -/
@[simp] theorem looks_looked (who : String) (v : Shown) (os : List Occurrence) :
    looks (.looked who v :: os) = looks os ++ [v] := by
  simp [looks, Occurrence.look?]

/-- What is no look adds none. -/
@[simp] theorem looks_cons (h : o.look? = none) : looks (o :: os) = looks os := by
  simp [looks, h]

/-- An occurrence that commits a snapshot is the commit of it. -/
theorem eq_of_committed? {new : Snapshot} (h : o.committed? = some new) : o = .committed new := by
  cases o <;> cases h
  rfl

/-- What is quiet is no commit. -/
theorem committed?_of_isQuiet (h : o.IsQuiet i) : o.committed? = none := by
  cases o <;> first | rfl | exact h.elim

/-- What is quiet is no answer. -/
theorem heard?_of_isQuiet (h : o.IsQuiet i) : o.heard? = none := by
  cases o <;> first | rfl | exact h.elim

/-- What is quiet is no call of a listener. -/
theorem handed?_of_isQuiet (l : String) (h : o.IsQuiet i) : o.handed? l = none := by
  cases o <;> first | rfl | exact h.elim

/-- A trace in which nothing is committed adds no commit. -/
theorem commits_append (h : ∀ o ∈ os, o.committed? = none) : commits (os ++ ps) = commits ps := by
  rw [commits, List.filterMap_append, List.filterMap_eq_nil_iff.2 h, List.nil_append, commits]

/-- A trace in which nothing is heard adds no answer. -/
theorem answers_append (h : ∀ o ∈ os, o.heard? = none) : answers (os ++ ps) = answers ps := by
  rw [answers, List.filterMap_append, List.filterMap_eq_nil_iff.2 h, List.nil_append, answers]

/-- A trace in which nothing is handed to a listener adds nothing to what it was handed. -/
theorem handed_append {l : String} (h : ∀ o ∈ os, o.handed? l = none) :
    handed l (os ++ ps) = handed l ps := by
  rw [handed, List.filterMap_append, List.filterMap_eq_nil_iff.2 h, List.nil_append, handed]

/-- What is committed later comes after what was committed before. -/
@[simp] theorem commits_later (os ps : List Occurrence) :
    commits (os ++ ps) = commits ps ++ commits os := by
  simp [commits]

/-- What is handed to a listener later comes after what it was handed before. -/
@[simp] theorem handed_later (l : String) (os ps : List Occurrence) :
    handed l (os ++ ps) = handed l ps ++ handed l os := by
  simp [handed]

/-- What is always true stays so when it is true of what is added. -/
theorem Always.append {P : Occurrence → List Occurrence → Prop} (hp : Always P ps)
    (h : ∀ o os', o :: os' <:+ os → P o (os' ++ ps)) : Always P (os ++ ps) := by
  induction os with
  | nil => exact hp
  | cons o os ih =>
    refine ⟨h o os (List.suffix_refl _), ih fun o os' hs => ?_⟩
    exact h o os' (hs.trans (List.suffix_cons _ _))

/-- What is always true implies something else. -/
theorem Always.imp {P Q : Occurrence → List Occurrence → Prop} (h : Always P os)
    (hpq : ∀ o os', o :: os' <:+ os → P o os' → Q o os') : Always Q os := by
  induction os with
  | nil => trivial
  | cons o os ih =>
    exact ⟨hpq o os (List.suffix_refl _) h.1,
      ih h.2 fun o' os' hs => hpq o' os' (hs.trans (List.suffix_cons _ _))⟩

/-- What is always true is true at any moment. -/
theorem Always.of_suffix {P : Occurrence → List Occurrence → Prop} (h : Always P ps)
    (hs : o :: os <:+ ps) : P o os := by
  induction ps with
  | nil => simp at hs
  | cons p ps ih =>
    rcases List.suffix_cons_iff.1 hs with heq | hs
    · cases heq
      exact h.1
    · exact ih h.2 hs

/-- What is always true is true at every moment, and only that. -/
theorem always_iff {P : Occurrence → List Occurrence → Prop} :
    Always P ps ↔ ∀ o os, o :: os <:+ ps → P o os := by
  refine ⟨fun h o os hs => h.of_suffix hs, fun h => ?_⟩
  induction ps with
  | nil => trivial
  | cons p ps ih =>
    exact ⟨h p ps (List.suffix_refl _), ih fun o os hs => h o os (hs.trans (List.suffix_cons _ _))⟩

/-- What was committed by a moment is committed first. -/
theorem isPrefix_commits (h : os <:+ ps) : commits os <+: commits ps := by
  rw [commits, commits, List.reverse_prefix]
  exact h.filterMap _

end

end Cache

end BlockingQuery
