import BlockingQuery.Text.CharacterSet.Big5
import BlockingQuery.Text.CharacterSet.Gbk
import BlockingQuery.Text.CharacterSet.Hkscs
import BlockingQuery.Text.Lead

/-!
# Encodings of Chinese

The encodings of mainland China are GB 2312 and what extends it; HZ writes it in seven bits, between marks with
a tilde. Those of Taiwan and Hong Kong are Big5 and what extends it.
-/

namespace BlockingQuery.Text.Chinese

open CharacterSet

/-! ## GB 2312 -/

/-- GB 2312 in bytes from 0xA1 on. -/
def gb2312Lead : Unit → List UInt8 → Lead Unit :=
  leadOfPairs fun a b => points (gb2312.char? (a - 0x80) (b - 0x80))

/-- GBK, whose second bytes may be ASCII. -/
def gbkLead : Unit → List UInt8 → Lead Unit :=
  leadOfPairs fun a b => points (gbk? a b)

/-- A code of four bytes, the second and the fourth of which are digits. -/
def fourByteLead (a b c d : Nat) : Lead Unit :=
  if 0x81 ≤ a ∧ a ≤ 0xFE ∧ 0x81 ≤ c ∧ c ≤ 0xFE ∧ 0x30 ≤ d ∧ d ≤ 0x39 then
    .ofOption 4 () ((fourByte? (fourByteIndex (a - 0x81) (b - 0x30) (c - 0x81) (d - 0x30))).map
      fun p => [UInt32.ofNat p])
  else .hole 1

/-- GB 18030: codes of one, two and four bytes. -/
def gb18030Lead : Unit → List UInt8 → Lead Unit
  | _, a :: rest =>
    if a < 0x80 then .text 1 [a.toUInt32] ()
    else match rest with
      | [] => .broken 1
      | b :: rest =>
        if 0x30 ≤ b && b ≤ 0x39 then match rest with
          | c :: d :: _ => fourByteLead a.toNat b.toNat c.toNat d.toNat
          | _ => .broken (2 + rest.length)
        else .ofOption 2 () (points (gb18030? a.toNat b.toNat))
  | _, [] => .broken 0

/-- HZ, in a state that tells whether the text is in GB 2312. -/
def hzLead : Bool → List UInt8 → Lead Bool
  | chinese, 0x7E :: rest => match rest with
    | [] => .broken 1
    | b :: _ =>
      if b == 0x7E && !chinese then .text 2 [0x7E] chinese
      else if b == 0x0A && !chinese then .text 2 [] chinese
      else if b == 0x7B && !chinese then .text 2 [] true
      else if b == 0x7D && chinese then .text 2 [] false
      else .hole 1
  | chinese, a :: rest =>
    if 0x80 ≤ a then .hole 1
    else if !chinese then .text 1 [a.toUInt32] chinese
    else match rest with
      | [] => .broken 1
      | b :: _ => .ofOption 2 chinese (points (gb2312.char? a.toNat b.toNat))
  | _, [] => .broken 0

/-! ## Big5 -/

/-- The place of a second byte in a row of 157: from 0x40 to 0x7E and from 0xA1 to 0xFE. -/
def place157? (b : Nat) : Option Nat :=
  if 0x40 ≤ b ∧ b ≤ 0x7E then some (b - 0x40)
  else if 0xA1 ≤ b ∧ b ≤ 0xFE then some (b - 0x62)
  else none

/-- The character of two bytes in Big5. -/
def big5? (a b : Nat) : Option Char :=
  if a < 0xA1 then none else (place157? b).bind (big5.at? (a - 0xA1) ·)

/-- The characters that Windows has at places of Big5. -/
def windowsSigns : List ((Nat × Nat) × Char) :=
  [((0xA1, 0x45), '‧'), ((0xA1, 0x4E), '﹑'), ((0xA1, 0xC2), '¯'), ((0xA1, 0xE3), '～'), ((0xA1, 0xF2), '⊕'),
    ((0xA1, 0xF3), '⊙'), ((0xA2, 0x41), '∕'), ((0xA2, 0x42), '﹨'), ((0xA2, 0x44), '￥'), ((0xA2, 0x46), '￠'),
    ((0xA2, 0x47), '￡'), ((0xA3, 0xE1), '€')]

/-- The characters that Windows adds at the end of Big5. -/
def windowsAdded : String :=
  "碁銹裏墻恒粧嫺╔╦╗╠╬╣╚╩╝╒╤╕╞╪╡╘╧╛╓╥╖╟╫╢╙╨╜║═╭╮╰╯▓"

/-- Big5 of Windows. -/
def big5Windows? (a b : Nat) : Option Char :=
  windowsSigns.lookup (a, b) <|> big5? a b <|>
    if a = 0xF9 ∧ 0xD6 ≤ b then windowsAdded.toList[b - 0xD6]? else none

/-- The codes of Hong Kong at which two characters stand for one. -/
def hongKongPairs : List ((Nat × Nat) × CodePoints) :=
  [((0x88, 0x62), [0xCA, 0x304]), ((0x88, 0x64), [0xCA, 0x30C]), ((0x88, 0xA3), [0xEA, 0x304]),
    ((0x88, 0xA5), [0xEA, 0x30C])]

/-- The character of two bytes that Hong Kong adds. -/
def hkscs? (a b : Nat) : Option Char :=
  if a < 0x87 then none else (place157? b).bind (hkscs.at? (a - 0x87) ·)

/-- Big5 of Hong Kong, which fills the rows from 0xC6A1 to 0xC8FE anew. -/
def big5HongKong? (a b : Nat) : Option CodePoints :=
  let isNew := (a = 0xC6 ∧ 0xA1 ≤ b) ∨ a = 0xC7 ∨ a = 0xC8
  points (if isNew then hkscs? a b else big5? a b <|> hkscs? a b) <|> hongKongPairs.lookup (a, b)

/-- Big5. -/
def big5Lead : Unit → List UInt8 → Lead Unit :=
  leadOfPairs fun a b => points (big5? a b)

/-- Big5 as Windows has it. -/
def big5WindowsLead : Unit → List UInt8 → Lead Unit :=
  leadOfPairs fun a b => points (big5Windows? a b)

/-- Big5 as Hong Kong has it. -/
def big5HongKongLead : Unit → List UInt8 → Lead Unit :=
  leadOfPairs big5HongKong?

end BlockingQuery.Text.Chinese
