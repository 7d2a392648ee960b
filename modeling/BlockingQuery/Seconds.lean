/-!
# Seconds

Durations and clock readings. The rules on them are the same whether they are reckoned in doubles or
exactly in rational numbers, so they are stated over any `Seconds`.
-/

namespace BlockingQuery

/-- Numbers of seconds, with the arithmetic that failover windows and backoff delays need. -/
class Seconds (τ : Type) extends Add τ, Sub τ, Mul τ, Div τ, LT τ, LE τ where
  zero : τ
  one : τ
  decidableLT : DecidableLT τ
  decidableLE : DecidableLE τ

namespace Seconds

instance : Seconds Float where
  zero := 0
  one := 1
  decidableLT := inferInstance
  decidableLE := inferInstance

instance : Seconds Rat where
  zero := 0
  one := 1
  decidableLT := inferInstance
  decidableLE := inferInstance

variable {τ : Type} [Seconds τ]

instance (priority := low) : DecidableLT τ := decidableLT

instance (priority := low) : DecidableLE τ := decidableLE

/-- Two. -/
def two : τ := one + one

/-- A power of two. -/
def twoPow : Nat → τ
  | 0 => one
  | n + 1 => two * twoPow n

/-- The second one if it is smaller, and else the first one. -/
def lesser (a b : τ) : τ :=
  if b < a then b else a

/-- The second one if it is greater, and else the first one. -/
def greater (a b : τ) : τ :=
  if a < b then b else a

end Seconds

end BlockingQuery
