/-!
# Exact arithmetic beside double precision

`Exact.ofFloat` is the number that a double stands for, as a mantissa times a power of two.
`Binary64.ofRatio?` goes the other way: it rounds a quotient of natural numbers to the nearest double, a
tie to the even mantissa. Rounding to integers (`Exact.round?`, `Exact.ceil?`) is exact as well.
-/

namespace BlockingQuery

/-- What a double stands for: a number `± mantissa · 2 ^ exponent`, an infinity, or no number. -/
inductive Exact
  | nan
  | infinite (negative : Bool)
  | finite (negative : Bool) (mantissa : Nat) (exponent : Int)
  deriving DecidableEq, Repr

/-- Why a double has no nearest integer. -/
inductive Exact.Fault
  | notANumber
  | infinite
  deriving DecidableEq, Repr

/-- A power of two. -/
def twoTo (n : Nat) : Nat :=
  Nat.pow 2 n

/-- A power of ten. -/
def tenTo (n : Nat) : Nat :=
  Nat.pow 10 n

namespace Binary64

/-- The quotient `n / d` rounded to the nearest integer, a tie to the even one. -/
def roundDiv (n d : Nat) : Nat :=
  let q := n / d
  let r := n % d
  if 2 * r < d then q else if d < 2 * r then q + 1 else q + q % 2

/-- A numerator and a denominator of `n / (d · 2 ^ e)`. -/
def scale (n d : Nat) (e : Int) : Nat × Nat :=
  if 0 ≤ e then (n, d * twoTo e.toNat) else (n * twoTo (-e).toNat, d)

/-- The exponent for a mantissa of 53 bits of `n / d`, but no less than the least exponent there is. -/
def exponent (n d : Nat) : Int :=
  let e : Int := (n.log2 : Int) - (d.log2 : Int) - 53
  let (a, b) := scale n d e
  max (if a / b < twoTo 53 then e else e + 1) (-1074)

/-- The bits of `± m · 2 ^ e` for a mantissa of at most 53 bits; a mantissa of `2 ^ 53` carries into the
exponent. -/
def pack (negative : Bool) (m : Nat) (e : Int) : Float :=
  let magnitude := if m < twoTo 52 then m else (e + 1075).toNat * twoTo 52 + (m - twoTo 52)
  Float.ofBits (UInt64.ofNat ((if negative then twoTo 63 else 0) + magnitude))

/-- The double nearest to `± n / d`, or nothing when that is beyond the greatest double. -/
def ofRatio? (negative : Bool) (n d : Nat) : Option Float :=
  if n = 0 then some (pack negative 0 0)
  else
    let e := exponent n d
    let (a, b) := scale n d e
    let m := roundDiv a b
    if 971 < e ∨ (e = 971 ∧ m = twoTo 53) then none else some (pack negative m e)

/-- The double nearest to an integer divided by `d`. -/
def quotient? (n : Int) (d : Nat) : Option Float :=
  ofRatio? (decide (n < 0)) n.natAbs d

/-- Infinity, with a sign. -/
def infinity (negative : Bool) : Float :=
  pack negative (twoTo 52) 972

/-- No number. -/
def nan : Float :=
  Float.ofBits 0x7FF8000000000000

/-- The double nearest to `± m · 10 ^ e`, or an infinity. Far outside the range of doubles the power of
ten is not computed. -/
def ofDecimal (negative : Bool) (m : Nat) (e : Int) : Float :=
  let magnitude : Int := ((m.log2 * 30103 / 100000 : Nat) : Int) + e
  if m = 0 ∨ magnitude < -400 then pack negative 0 0
  else if 400 < magnitude then infinity negative
  else
    (if 0 ≤ e then ofRatio? negative (m * tenTo e.toNat) 1
      else ofRatio? negative m (tenTo (-e).toNat)).getD (infinity negative)

/-- The double nearest to an integer, or an infinity. -/
def ofInt (n : Int) : Float :=
  (quotient? n 1).getD (infinity (decide (n < 0)))

end Binary64

namespace Exact

/-- The number that a double stands for. -/
def ofFloat (x : Float) : Exact :=
  let bits := x.toBits.toNat
  let negative := decide (twoTo 63 ≤ bits)
  let field : Nat := bits / twoTo 52 % 2048
  let fraction : Nat := bits % twoTo 52
  if field = 2047 then (if fraction = 0 then .infinite negative else .nan)
  else if field = 0 then .finite negative fraction (-1074)
  else .finite negative (twoTo 52 + fraction) ((field : Int) - 1075)

/-- A magnitude with its sign. -/
def signed (negative : Bool) (n : Nat) : Int :=
  if negative then -(n : Int) else n

/-- The nearest integer, a tie to the even one. -/
def round? : Exact → Except Fault Int
  | .nan => .error .notANumber
  | .infinite _ => .error .infinite
  | .finite negative m e =>
    let (a, b) := Binary64.scale m 1 (-e)
    .ok (signed negative (Binary64.roundDiv a b))

/-- The least integer that is not below the number. -/
def ceil? : Exact → Except Fault Int
  | .nan => .error .notANumber
  | .infinite _ => .error .infinite
  | .finite negative m e =>
    let (a, b) := Binary64.scale m 1 (-e)
    .ok (if negative then -((a / b : Nat) : Int) else ((a + b - 1) / b : Nat))

end Exact

end BlockingQuery
