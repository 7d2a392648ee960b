/-!
# Character sets

A `CharacterSet` is a table of characters in rows, of which an encoding names one by its row and its place in
the row. `CharacterSet.lacking` numbers the characters that a set lacks, which is how later encodings extend
earlier ones.
-/

namespace BlockingQuery.Text

/-- Characters in rows. No set has the full stop of ASCII, which marks a place without a character. -/
structure CharacterSet where
  rows : List String
  deriving DecidableEq, Repr

namespace CharacterSet

/-- The character at a place, rows and places counted from 0. -/
def at? (s : CharacterSet) (row place : Nat) : Option Char :=
  (s.rows[row]?.bind fun r => r.toList[place]?).filter (· != '.')

/-- The character of two numbers that count rows and places from 0x21. -/
def char? (s : CharacterSet) (a b : Nat) : Option Char :=
  if 0x21 ≤ a ∧ 0x21 ≤ b then s.at? (a - 0x21) (b - 0x21) else none

/-- The code points of the characters in a run of rows, in rising order. -/
def points (s : CharacterSet) (first count : Nat) : List Nat :=
  (((s.rows.drop first).take count).flatMap fun r => r.toList.map Char.toNat).mergeSort

/-- Of the code points that are missing in a rising list, the one that follows `n` others from `start` on. -/
def lacking (members : List Nat) (start n : Nat) : Nat :=
  members.foldl (fun p m => if m ≤ p then p + 1 else p) (start + n)

end CharacterSet

end BlockingQuery.Text
