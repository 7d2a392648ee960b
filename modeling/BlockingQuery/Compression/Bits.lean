/-!
# Bits of bytes

`Bits` is what is left of a text of bytes that is read bit by bit, the least significant bit of each byte
first. `number?` reads numbers, whose least significant bit comes first as well; `align` goes on to the next
whole byte.
-/

namespace BlockingQuery

/-- Bits still to be read: those left of a byte, and the bytes after it. -/
structure Bits where
  pending : List Bool := []
  bytes : List UInt8

namespace Bits

/-- The bits of a byte, the least significant one first. -/
def ofByte (b : UInt8) : List Bool :=
  (List.range 8).map fun i => b.toNat.testBit i

/-- The next bit. -/
def next? : Bits → Option (Bool × Bits)
  | ⟨b :: bs, bytes⟩ => some (b, ⟨bs, bytes⟩)
  | ⟨[], byte :: bytes⟩ =>
    match ofByte byte with
    | b :: bs => some (b, ⟨bs, bytes⟩)
    | [] => none
  | ⟨[], []⟩ => none

/-- The number that so many bits write. -/
def number? : Nat → Bits → Option (Nat × Bits)
  | 0, b => some (0, b)
  | n + 1, b => do
    let (bit, b) ← b.next?
    let (higher, b) ← number? n b
    return (2 * higher + bit.toNat, b)

/-- The bits from the next whole byte on. -/
def align (b : Bits) : Bits :=
  { b with pending := [] }

/-- How many bits there are. -/
def size (b : Bits) : Nat :=
  b.pending.length + 8 * b.bytes.length

end Bits

end BlockingQuery
