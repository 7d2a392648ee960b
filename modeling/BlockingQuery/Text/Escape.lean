import BlockingQuery.Text.Lead

/-!
# Escapes with backslashes

Bytes that stand for the first 256 code points, with escapes for the others. `Escape.numberLead` knows the
escapes of a number alone, `Escape.lead` those of string literals as well.
-/

namespace BlockingQuery.Text.Escape

/-- The value of a hexadecimal digit in either case. -/
def hexValue? (b : UInt8) : Option UInt32 :=
  if 0x30 ≤ b && b ≤ 0x39 then some (b - 0x30).toUInt32
  else if 0x41 ≤ b && b ≤ 0x46 then some (b - 0x37).toUInt32
  else if 0x61 ≤ b && b ≤ 0x66 then some (b - 0x57).toUInt32
  else none

/-- The values of the digits that a text begins with, of so many at most. -/
def digits (value? : UInt8 → Option UInt32) (most : Nat) (bs : List UInt8) : List UInt32 :=
  ((bs.take most).takeWhile fun b => (value? b).isSome).filterMap value?

/-- The number that digits write. -/
def number (base : UInt32) (ds : List UInt32) : UInt32 :=
  ds.foldl (fun n d => n * base + d) 0

/-- An escape with a number of so many hexadecimal digits, after a backslash and a letter. -/
def numbered (count : Nat) (rest : List UInt8) : Lead Unit :=
  let ds := digits hexValue? count rest
  let n := number 16 ds
  if ds.length < count ∨ 0x110000 ≤ n then .hole (2 + ds.length) else .text (2 + count) [n] ()

/-- The letters of escapes with a number, and how many digits it has. -/
def numberLetters : List (UInt8 × Nat) := [(0x75, 4), (0x55, 8)]

/-- A text in which only numbers are escaped. A backslash before something else stands for itself, and so does
what is after it. -/
def numberLead : Unit → List UInt8 → Lead Unit
  | _, 0x5C :: b :: rest =>
    match numberLetters.lookup b with
    | some count => numbered count rest
    | none => .text 2 [0x5C, b.toUInt32] ()
  | _, b :: _ => .text 1 [b.toUInt32] ()
  | _, [] => .broken 0

/-- The characters that stand for others after a backslash. A line break is left out. -/
def letters : List (UInt8 × CodePoints) :=
  [(0x0A, []), (0x5C, [0x5C]), (0x27, [0x27]), (0x22, [0x22]), (0x62, [0x08]), (0x66, [0x0C]), (0x74, [0x09]),
    (0x6E, [0x0A]), (0x72, [0x0D]), (0x76, [0x0B]), (0x61, [0x07])]

/-- The value of an octal digit. -/
def octalValue? (b : UInt8) : Option UInt32 :=
  if 0x30 ≤ b && b ≤ 0x37 then some (b - 0x30).toUInt32 else none

/-- An escape with the name of a character in braces. -/
def named (name? : List UInt8 → Option CodePoint) : List UInt8 → Lead Unit
  | 0x7B :: rest =>
    let name := rest.takeWhile (· != 0x7D)
    if name.isEmpty || name.length == rest.length then .hole (3 + name.length)
    else match name? name with
      | some c => .text (4 + name.length) [c] ()
      | none => .hole (4 + name.length)
  | _ => .hole 2

/-- What a backslash and a byte after it begin. -/
def afterBackslash (name? : List UInt8 → Option CodePoint) (b : UInt8) (rest : List UInt8) : Lead Unit :=
  let octal := digits octalValue? 3 (b :: rest)
  match letters.lookup b, ((0x78, 2) :: numberLetters).lookup b with
  | some cs, _ => .text 2 cs ()
  | none, some count => numbered count rest
  | none, none =>
    if !octal.isEmpty then .text (1 + octal.length) [number 8 octal] ()
    else if b == 0x4E then named name? rest
    else .text 2 [0x5C, b.toUInt32] ()

/-- A text with the escapes of string literals. A backslash at its end escapes nothing. -/
def lead (name? : List UInt8 → Option CodePoint) : Unit → List UInt8 → Lead Unit
  | _, 0x5C :: b :: rest => afterBackslash name? b rest
  | _, [0x5C] => .hole 1
  | _, b :: _ => .text 1 [b.toUInt32] ()
  | _, [] => .broken 0

end BlockingQuery.Text.Escape
