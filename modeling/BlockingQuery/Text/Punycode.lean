import BlockingQuery.Text.Encoding

/-!
# Punycode

A text in ASCII letters, digits and hyphens. The ASCII characters of the text come first, and what follows the
last hyphen tells the others and their places: numbers in a base of 36, each of which counts the steps from one
character to the next, a step being either a place further on or, after the last place, a greater code point.
-/

namespace BlockingQuery.Text.Punycode

/-! ## Numbers -/

/-- The number from which on a digit at a place of a number is not its last digit. -/
def threshold (place bias : Nat) : Nat :=
  min 26 (max 1 (36 * (place + 1) - bias))

/-- Brings a number of steps below a bound, and counts what that takes. -/
def reduce (n count : Nat) : Nat × Nat :=
  if h : 455 < n then reduce (n / 35) (count + 36) else (n, count)
termination_by n
decreasing_by exact Nat.div_lt_self (by omega) (by omega)

/-- The bias after a number of steps. -/
def adapt (steps : Nat) (first : Bool) (size : Nat) : Nat :=
  let halved := if first then steps / 700 else steps / 2
  let (n, count) := reduce (halved + halved / size) 0
  count + 36 * n / (n + 38)

/-- The first bias. -/
def initialBias : Nat := 72

/-- The first code point that is not ASCII. -/
def initialPoint : Nat := 0x80

/-! ## Reading -/

/-- Why a text cannot be read. -/
inductive Fault
  /-- A byte is not ASCII. -/
  | notAscii
  /-- A number breaks off or has something that is no digit. -/
  | malformed
  /-- A number is too great for a code point. -/
  | tooGreat
  deriving DecidableEq, Repr

/-- The value of a digit: letters in either case, then decimal digits. -/
def digit? (b : UInt8) : Option Nat :=
  let n := b.toNat
  if 0x61 ≤ n ∧ n ≤ 0x7A then some (n - 0x61)
  else if 0x41 ≤ n ∧ n ≤ 0x5A then some (n - 0x41)
  else if 0x30 ≤ n ∧ n ≤ 0x39 then some (n - 22)
  else none

/-- A number, the least significant digit first, and the rest. -/
def readNumber (bias : Nat) : (place weight sum : Nat) → List UInt8 → Option (Nat × List UInt8)
  | _, _, _, [] => none
  | place, weight, sum, b :: bs =>
    match digit? b with
    | none => none
    | some d =>
      let t := threshold place bias
      if d < t then some (sum + d * weight, bs)
      else readNumber bias (place + 1) (weight * (36 - t)) (sum + d * weight) bs

/-- Puts characters into a text. `steps` counts the steps to the next place after the last one. If a text need
not be correct, what cannot be read is left out and what is too great is a question mark. -/
def insertAll (strict : Bool) : (fuel : Nat) → (text : CodePoints) → (point next bias : Nat) →
    (first : Bool) → List UInt8 → Except Fault CodePoints
  | 0, text, _, _, _, _, _ => .ok text
  | n + 1, text, point, next, bias, first, bs =>
    if bs.isEmpty then .ok text
    else match readNumber bias 0 1 0 bs with
      | none => if strict then .error .malformed else .ok text
      | some (steps, rest) =>
        let total := next + steps
        let reached := point + total / (text.length + 1)
        let place := total % (text.length + 1)
        if strict && 0x10FFFF < reached then .error .tooGreat
        else
          let point := if 0x10FFFF < reached then '?'.toNat else reached
          let text := text.take place ++ UInt32.ofNat point :: text.drop place
          insertAll strict n text point (place + 1) (adapt steps first text.length) false rest

/-- The text that bytes write. Only the bytes of the ASCII characters may be others, if a text need not be
correct. -/
def decode (strict : Bool) (bs : List UInt8) : Except Fault CodePoints :=
  let extended := (bs.reverse.takeWhile (· != 0x2D)).reverse
  let basic := (bs.take (bs.length - extended.length)).dropLast
  if extended.any (0x80 ≤ ·) || (strict && basic.any (0x80 ≤ ·)) then .error .notAscii
  else
    let text := basic.map fun b => if b < 0x80 then b.toUInt32 else 0xFFFD
    insertAll strict (extended.length + 1) text initialPoint 0 initialBias true extended

/-! ## Writing -/

/-- The digit of a number below 36. -/
def digit (n : Nat) : Char :=
  Char.ofNat (if n < 26 then 0x61 + n else n + 22)

/-- A number with the least significant digit first. Each digit takes one unit of fuel. -/
def number (bias : Nat) : (fuel place n : Nat) → List Char
  | 0, _, _ => []
  | fuel + 1, place, n =>
    let t := threshold place bias
    if n < t then [digit n]
    else digit (t + (n - t) % (36 - t)) :: number bias fuel (place + 1) ((n - t) / (36 - t))

/-- What has been written of a text: how many of its characters, the steps since the last number, the bias, and
the digits. -/
structure Writer where
  written : Nat
  steps : Nat := 0
  bias : Nat := initialBias
  digits : List Char := []

/-- Passes a character, all below `point` being written and `point` being next. -/
def Writer.pass (basic : Nat) (point : Nat) (w : Writer) (c : CodePoint) : Writer :=
  if c.toNat < point then { w with steps := w.steps + 1 }
  else if c.toNat = point then
    { written := w.written + 1, steps := 0,
      bias := adapt w.steps (w.written == basic) (w.written + 1),
      digits := w.digits ++ number w.bias (w.steps + 1) 0 w.steps }
  else w

/-- Writes the characters of the given code points, which rise, after those below `next`. -/
def writeAll (text : CodePoints) (basic : Nat) : (points : List Nat) → (next : Nat) → Writer → Writer
  | [], _, w => w
  | p :: points, next, w =>
    let reached := { w with steps := w.steps + (p - next) * (w.written + 1) }
    let passed := text.foldl (Writer.pass basic p) reached
    writeAll text basic points (p + 1) { passed with steps := passed.steps + 1 }

/-- A text in ASCII letters, digits and hyphens. -/
def encode (text : CodePoints) : List Char :=
  let basic := text.filter (· < 0x80)
  let points := ((text.filter (0x80 ≤ ·)).map UInt32.toNat).mergeSort.eraseDups
  let w := writeAll text basic.length points initialPoint { written := basic.length }
  (basic.map fun c => Char.ofNat c.toNat) ++ (if basic.isEmpty then [] else ['-']) ++ w.digits

end BlockingQuery.Text.Punycode
