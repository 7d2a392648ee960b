import BlockingQuery.Number.Numeral

/-!
# Wait budgets

How long a server may hold a request open is written as a number of seconds or minutes, `10s` or `5m`.
`Wait.parse` reads such a text as milliseconds, and `Wait.format` is the text of a budget, in whole minutes
where that can be. A budget whose number has too many digits is not written (`Wait.write`).
-/

namespace BlockingQuery.Wait

open Text

/-- The length of a unit in milliseconds. -/
def unit? : Char → Option Nat
  | 's' => some 1000
  | 'm' => some 60000
  | _ => none

/-- The values of the characters if all of them are digits and there is one at least. -/
def digits? (cs : List Char) : Option (List Nat) :=
  if cs.isEmpty then none else cs.mapM digit?

/-- The milliseconds of a text without blanks around it, if it is a number and a unit. -/
def parseTrimmed (cs : List Char) : Except Numeral.TooLong (Option Nat) :=
  match cs.getLast? >>= unit?, digits? cs.dropLast with
  | some unit, some ds => (Numeral.natural ds).map fun n => some (n * unit)
  | _, _ => .ok none

/-- The milliseconds that a text writes; nothing if it is absent or written otherwise. -/
def parse : Option String → Except Numeral.TooLong (Option Nat)
  | none => .ok none
  | some s => parseTrimmed (trim s.toList)

/-- The text of a budget in seconds. -/
def format (seconds : Int) : String :=
  if 60 ≤ seconds ∧ seconds % 60 = 0 then String.ofList (decimal (seconds / 60) ++ ['m'])
  else String.ofList (decimal seconds ++ ['s'])

/-- The number in the text of a budget. -/
def number (seconds : Int) : Int :=
  if 60 ≤ seconds ∧ seconds % 60 = 0 then seconds / 60 else seconds

/-- Writes a budget in seconds, if its number has no more digits than may be written. -/
def write (seconds : Int) : Except Numeral.TooGreat String :=
  (Numeral.written (number seconds)).map fun _ => format seconds

end BlockingQuery.Wait
