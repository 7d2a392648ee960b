/-!
# Tables in texts

Long tables of numbers are written as rows of hexadecimal numbers with spaces between them. `Table.numbers`
reads such rows, `Table.pairs` and `Table.triples` take the numbers in twos and threes.
-/

namespace BlockingQuery.Text.Table

/-- The value of a hexadecimal digit in capitals. -/
def digit (c : Char) : Nat :=
  if c.toNat < 0x3A then c.toNat - 0x30 else c.toNat - 0x37

/-- The numbers in a row, given the one that is being read. -/
def ofRow (current : Nat) : List Char → List Nat
  | [] => [current]
  | ' ' :: cs => current :: ofRow 0 cs
  | c :: cs => ofRow (16 * current + digit c) cs

/-- The numbers in rows. -/
def numbers (rows : List String) : List Nat :=
  rows.flatMap fun row => ofRow 0 row.toList

/-- Numbers in twos. -/
def inPairs : List Nat → List (Nat × Nat)
  | a :: b :: rest => (a, b) :: inPairs rest
  | _ => []

/-- Numbers in threes. -/
def inTriples : List Nat → List (Nat × Nat × Nat)
  | a :: b :: c :: rest => (a, b, c) :: inTriples rest
  | _ => []

/-- The pairs in rows. -/
def pairs (rows : List String) : List (Nat × Nat) :=
  inPairs (numbers rows)

/-- The triples in rows. -/
def triples (rows : List String) : List (Nat × Nat × Nat) :=
  inTriples (numbers rows)

/-- Whether a number lies in one of the runs, each given by its first and its last number. -/
def within (runs : List (Nat × Nat)) (n : Nat) : Bool :=
  runs.any fun (first, last) => first ≤ n && n ≤ last

/-- The value of the run that a number lies in. -/
def valueAt? (runs : List (Nat × Nat × Nat)) (n : Nat) : Option Nat :=
  (runs.find? fun (first, last, _) => first ≤ n && n ≤ last).map fun (_, _, value) => value

end BlockingQuery.Text.Table
