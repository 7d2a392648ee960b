import BlockingQuery.Cache.Registry
import BlockingQuery.Failure

/-!
# Scripted listeners

Listeners that do what a script says when they are called: fail, change the registry that calls them, or
begin a round of their own inside the round that they are called in. `Scripted.round` is a round of
notifications among such listeners.
-/

namespace BlockingQuery.Scripted

/-- What a listener does. -/
inductive Act
  | fail (f : Failure)
  | add (name : String)
  | remove (name : String)
  | clear
  /-- Begins a round with the next index, if the index is below the bound. -/
  | notify (below : Int)

/-- The handler of failures of a round. -/
inductive Handler
  | none
  | recording
  | failing
  deriving DecidableEq, Repr

/-- The listeners that are registered, and the calls and failures so far, the latest first. -/
structure State where
  registry : Registry String := {}
  calls : List (String × Int) := []
  failures : List (String × Failure) := []

/-- What each listener does. -/
abbrev Script := String → List Act

/-- The state after a round, in which no listener is held up. -/
def settled : Registry.Delivery String Empty State → Nat × State
  | .finished n s => (n, s)
  | .held _ k _ _ => nomatch k

/-- Does what a script says, up to the first failure; `inner` is a round inside. -/
def perform (index : Int) (inner : State → State) : List Act → State → Registry.Call Failure Empty State
  | [], s => .returned s
  | .fail f :: _, s => .raised f s
  | .add l :: acts, s => perform index inner acts { s with registry := s.registry.add l }
  | .remove l :: acts, s => perform index inner acts { s with registry := (s.registry.remove l).2 }
  | .clear :: acts, s => perform index inner acts { s with registry := .empty }
  | .notify below :: acts, s => perform index inner acts (if index < below then inner s else s)

/-- The handler of a round as a function on the state. -/
def Handler.handle (h : Handler) : Option (String → Failure → State → Except Failure Unit × State) :=
  let record (l : String) (f : Failure) (s : State) : State := { s with failures := (l, f) :: s.failures }
  match h with
  | .none => Option.none
  | .recording => some fun l f s => (.ok (), record l f s)
  | .failing => some fun l f s => (.error f, record l f s)

/-- Who calls scripted listeners: no more than `limit` calls begin. Rounds inside have neither a limit nor a
handler; at most `depth` of them lie inside each other. -/
def courier (script : Script) (limit : Option Int) (handler : Handler) :
    (depth : Nat) → (index : Int) → Registry.Courier String Failure Empty State
  | depth, index =>
    { mayCall := fun s => limit.all fun n => (s.calls.length : Int) < n
      call := fun l s =>
        let inner (s : State) : State :=
          match depth with
          | 0 => s
          | depth + 1 => (settled (s.registry.notify (courier script none .none depth (index + 1)) s)).2
        perform index inner (script l) { s with calls := (l, index) :: s.calls }
      handler := handler.handle }

/-- The greatest bound on rounds inside. -/
def bound (acts : List Act) : Int :=
  acts.foldl (fun n a => match a with
    | .notify below => max n below
    | _ => n) 0

/-- A round with an index: how many listeners failed, and the state afterwards, with only the calls and
failures of this round. -/
def round (script : Script) (names : List String) (index : Int) (limit : Option Int) (handler : Handler)
    (s : State) : Nat × State :=
  let deepest := (names.map fun n => bound (script n)).foldl max 0
  let c := courier script limit handler (deepest - index).toNat index
  settled (s.registry.notify c { s with calls := [], failures := [] })

end BlockingQuery.Scripted
