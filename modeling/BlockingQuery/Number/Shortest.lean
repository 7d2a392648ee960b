import BlockingQuery.Number.Binary64
import BlockingQuery.Text.Digit

/-!
# The shortest decimal text of a double

`Shortest.decimal` finds the fewest digits that read back as a double: for one digit, two digits and so on it
tests the two neighbours of the number on that decimal grid, and takes the nearer one that lies among the
numbers that round to the double. `Shortest.text` writes these digits, positionally where the power of ten of
the first digit is from -4 to 15.
-/

namespace BlockingQuery.Shortest

open Text

/-- A positive number and the bounds of the numbers that round to it, over a common denominator. The bounds
themselves round to it if `closed`. -/
structure Interval where
  value : Nat
  low : Nat
  high : Nat
  denominator : Nat
  closed : Bool

/-- The interval of `m · 2 ^ e`. Below a power of two the doubles lie twice as close. -/
def interval (m : Nat) (e : Int) : Interval :=
  let gap := if m = twoTo 52 ∧ -1074 < e then 1 else 2
  let power := twoTo (e - 2).toNat
  { value := 4 * m * power, low := (4 * m - gap) * power, high := (4 * m + 2) * power,
    denominator := twoTo (2 - e).toNat, closed := m % 2 = 0 }

/-- The power of ten of the first digit of `n / d`. -/
def leadingPower (n d : Nat) : Int :=
  if d ≤ n then ((digits (n / d)).length : Int) - 1
  else
    let k := (digits (d / n)).length
    if d ≤ n * tenTo (k - 1) then -((k : Int) - 1) else -(k : Int)

/-- The interval in units of `10 ^ p`. -/
def Interval.inUnits (i : Interval) (p : Int) : Interval :=
  let scale := tenTo (-p).toNat
  { i with value := i.value * scale, low := i.low * scale, high := i.high * scale,
           denominator := i.denominator * tenTo p.toNat }

/-- Whether a whole number of units lies in the interval. -/
def Interval.holds (i : Interval) (c : Nat) : Bool :=
  let x := c * i.denominator
  if i.closed then i.low ≤ x && x ≤ i.high else i.low < x && x < i.high

/-- The whole number of units in the interval that is nearest to the value, a tie going to the even
one. -/
def Interval.nearest? (i : Interval) : Option Nat :=
  let below := i.value / i.denominator
  let rest := i.value % i.denominator
  match i.holds below, i.holds (below + 1) with
  | false, false => none
  | true, false => some below
  | false, true => some (below + 1)
  | true, true =>
    some (if 2 * rest < i.denominator then below
      else if i.denominator < 2 * rest then below + 1
      else below + below % 2)

/-- The fewest digits, as a number, and the power of ten of their last one. Seventeen always do. -/
def decimal (m : Nat) (e : Int) : Nat × Int :=
  let i := interval m e
  let top := leadingPower i.value i.denominator
  let attempt (n : Nat) : Option (Nat × Int) :=
    let p := top - n
    (i.inUnits p).nearest?.map (·, p)
  ((List.range 17).findSome? attempt).getD (0, 0)

/-- The digits without the zeros at the end, and the power of ten of the first one. -/
def leading (c : Nat) (p : Int) : List Char × Int :=
  let ds := digits c
  ((ds.reverse.dropWhile (· == '0')).reverse, p + ds.length - 1)

/-- An exponent, with its sign and at least two digits. -/
def exponent (p : Int) : List Char :=
  let ds := digits p.natAbs
  'e' :: (if p < 0 then '-' else '+') :: (if ds.length < 2 then '0' :: ds else ds)

/-- Digits whose first one has the power of ten `p`, as a decimal numeral. -/
def layout (ds : List Char) (p : Int) : List Char :=
  if -4 ≤ p ∧ p < 0 then '0' :: '.' :: List.replicate (-p - 1).toNat '0' ++ ds
  else if 0 ≤ p ∧ p < 16 then
    let whole := ds.take (p.toNat + 1)
    let part := ds.drop (p.toNat + 1)
    whole ++ List.replicate (p.toNat + 1 - whole.length) '0' ++
      '.' :: (if part.isEmpty then ['0'] else part)
  else match ds with
    | d :: rest => (d :: if rest.isEmpty then [] else '.' :: rest) ++ exponent p
    | [] => []

/-- The text of a double. -/
def text (x : Float) : List Char :=
  match Exact.ofFloat x with
  | .nan => "nan".toList
  | .infinite negative => (if negative then ['-'] else []) ++ "inf".toList
  | .finite negative m e =>
    let magnitude := if m = 0 then "0.0".toList
      else
        let (c, p) := decimal m e
        let (ds, first) := leading c p
        layout ds first
    (if negative then ['-'] else []) ++ magnitude

end BlockingQuery.Shortest
