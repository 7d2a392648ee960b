import BlockingQuery.Text.Encoding

/-!
# Percent encoding

`Percent.encode` writes the characters outside a set as the percent escapes of their UTF-8 bytes, and
`Percent.decode` reads escapes back. `encodeForm` and `decodeForm` are the variants for form data, where a
plus sign is a space.
-/

namespace BlockingQuery.Percent

open Text

/-- Characters that never need an escape. -/
def isUnreserved (c : Char) : Bool :=
  c.isAlphanum || c == '_' || c == '.' || c == '-' || c == '~'

/-- A hexadecimal digit, with capitals. -/
def hexDigit (n : UInt8) : Char :=
  if n < 10 then Char.ofNat (0x30 + n.toNat) else Char.ofNat (0x37 + n.toNat)

/-- The value of a hexadecimal digit in either case. -/
def hexValue? (c : Char) : Option UInt8 :=
  if '0' ≤ c ∧ c ≤ '9' then some (UInt8.ofNat (c.toNat - 0x30))
  else if 'A' ≤ c ∧ c ≤ 'F' then some (UInt8.ofNat (c.toNat - 0x37))
  else if 'a' ≤ c ∧ c ≤ 'f' then some (UInt8.ofNat (c.toNat - 0x57))
  else none

/-- The escape of a byte. -/
def escape (b : UInt8) : List Char :=
  ['%', hexDigit (b / 16), hexDigit (b % 16)]

/-- The text with every character outside `safe` as escapes. -/
def encode (safe : Char → Bool) (cs : List Char) : List Char :=
  cs.flatMap fun c => if safe c then [c] else (String.utf8EncodeChar c).flatMap escape

/-- The bytes of a text, an escape being the byte that it names. A percent sign without two hexadecimal
digits after it stands for itself. -/
def bytes : List Char → List UInt8
  | [] => []
  | '%' :: a :: b :: cs =>
    match hexValue? a, hexValue? b with
    | some x, some y => (x * 16 + y) :: bytes cs
    | _, _ => 0x25 :: bytes (a :: b :: cs)
  | c :: cs => String.utf8EncodeChar c ++ bytes cs

/-- The text that the bytes of a text write. -/
def decode (cs : List Char) : String :=
  Encoding.utf8.decodeLossy (bytes cs)

/-- The text in which each escape is the character of the number that it names. -/
def decodeBytewise : List Char → List Char
  | [] => []
  | '%' :: a :: b :: cs =>
    match hexValue? a, hexValue? b with
    | some x, some y => Char.ofNat (x * 16 + y).toNat :: decodeBytewise cs
    | _, _ => '%' :: decodeBytewise (a :: b :: cs)
  | c :: cs => c :: decodeBytewise cs

/-- A name or a value of form data. -/
def encodeForm (cs : List Char) : List Char :=
  cs.flatMap fun c => if c == ' ' then ['+'] else encode isUnreserved [c]

/-- A name or a value read from form data. -/
def decodeForm (cs : List Char) : String :=
  decode (cs.map fun c => if c == '+' then ' ' else c)

end BlockingQuery.Percent
