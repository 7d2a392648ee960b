import BlockingQuery.Text.CharacterSet.JisX0208
import BlockingQuery.Text.CharacterSet.JisX0212
import BlockingQuery.Text.CharacterSet.JisX0213
import BlockingQuery.Text.CharacterSet.Windows31J
import BlockingQuery.Text.Lead

/-!
# Encodings of Japanese

Shift JIS and EUC-JP write JIS X 0208, or JIS X 0213 in the form of 2000 or 2004, beside kana of half width.
-/

namespace BlockingQuery.Text.Japanese

open CharacterSet

/-! ## Sets -/

/-- The kana and signs of half width. -/
def kana? (b : UInt8) : Option CodePoint :=
  if 0xA1 ≤ b && b ≤ 0xDF then some (0xFEC0 + b.toUInt32) else none

/-- The Roman letters of Japan: a yen sign and an overline differ from ASCII. -/
def roman (b : UInt8) : CodePoint :=
  if b == 0x5C then 0xA5 else if b == 0x7E then 0x203E else b.toUInt32

/-- The two forms of JIS X 0213. -/
inductive Edition
  | of2000
  | of2004
  deriving DecidableEq, Repr

/-- Whether a place of the first plane was empty in a form of the set. -/
def isLate (e : Edition) (a b : Nat) : Bool :=
  e == .of2000 && jisX0213Late.contains (a, b)

/-- The characters of the first plane, which holds JIS X 0208. -/
def firstPlane? (e : Edition) (a b : Nat) : Option CodePoints :=
  if isLate e a b then none
  else points (jisX0208.char? a b <|> jisX0213First.char? a b) <|>
    (jisX0213Pairs.lookup (a, b)).map CodePoints.ofString

/-- The characters of the second plane. One ideograph has another form in 2000. -/
def secondPlane? (e : Edition) (a b : Nat) : Option Char :=
  if e = .of2000 ∧ a = 0x7D ∧ b = 0x3B then some '鬝' else jisX0213Second.char? a b

/-! ## Shift JIS -/

/-- The row and the place, counted from 0, of two bytes. -/
def shifted? (a b : Nat) : Option (Nat × Nat) :=
  let pair? := if 0x81 ≤ a ∧ a ≤ 0x9F then some (a - 0x81)
    else if 0xE0 ≤ a ∧ a ≤ 0xFC then some (a - 0xC1)
    else none
  let place? := if 0x40 ≤ b ∧ b ≤ 0x7E then some (b - 0x40)
    else if 0x80 ≤ b ∧ b ≤ 0xFC then some (b - 0x41)
    else none
  pair?.bind fun pair => place?.map fun place => (2 * pair + place / 94, place % 94)

/-- A code with some characters in one byte and others in two. -/
def shiftedLead (single? : UInt8 → Option CodePoint) (pair? : Nat → Nat → Option CodePoints) :
    Unit → List UInt8 → Lead Unit
  | _, a :: rest =>
    match single? a with
    | some c => .text 1 [c] ()
    | none =>
      if (shifted? a.toNat 0x40).isNone then .hole 1
      else match rest with
        | b :: _ => .ofOption 2 () (pair? a.toNat b.toNat)
        | [] => .broken 1
  | _, [] => .broken 0

/-- Shift JIS. -/
def shiftJisLead : Unit → List UInt8 → Lead Unit :=
  shiftedLead (fun a => if a < 0x80 then some a.toUInt32 else kana? a) fun a b =>
    (shifted? a b).bind fun (row, place) => points (jisX0208.at? row place)

/-- The characters that Windows has in one byte. -/
def windowsSingle? (a : UInt8) : Option CodePoint :=
  if a ≤ 0x80 then some a.toUInt32
  else if a == 0xA0 then some 0xF8F0
  else if 0xFD ≤ a then some (0xF8F1 + (a - 0xFD).toUInt32)
  else kana? a

/-- The row from which on Shift JIS of Windows has places for private use. -/
def privateRow : Nat := 94

/-- The character of two bytes in Shift JIS of Windows. -/
def windows? (a b : Nat) : Option CodePoints :=
  (shifted? a b).bind fun (row, place) =>
    (windowsVariants.lookup (row + 0x21, place + 0x21)).map CodePoints.ofString <|>
      points (windows31J.at? row place <|> jisX0208.at? row place) <|>
      if privateRow ≤ row ∧ row < privateRow + 20 then
        some [UInt32.ofNat (0xE000 + (row - privateRow) * 94 + place)]
      else none

/-- Shift JIS as Windows has it. -/
def windowsLead : Unit → List UInt8 → Lead Unit :=
  shiftedLead windowsSingle? windows?

/-- The row of the second plane, counted from 0, that Shift JIS has in a row beyond the first plane. -/
def secondPlaneRow (row : Nat) : Nat :=
  if row < 94 + 9 then
    match row - 94 with
    | 0 => 0
    | 1 => 7
    | 2 => 2
    | 3 => 3
    | 4 => 4
    | 5 => 11
    | 6 => 12
    | 7 => 13
    | _ => 14
  else row - 26

/-- The characters of two bytes with JIS X 0213. As the Roman letters lack it, a backslash has two bytes. -/
def shifted0213? (e : Edition) (a b : Nat) : Option CodePoints :=
  (shifted? a b).bind fun (row, place) =>
    if row = 0 ∧ place = 31 then some [0x5C]
    else if row < 94 then firstPlane? e (row + 0x21) (place + 0x21)
    else points (secondPlane? e (secondPlaneRow row + 0x21) (place + 0x21))

/-- Shift JIS with JIS X 0213. A code for a later character is a hole as a whole. -/
def shift0213Lead (e : Edition) (s : Unit) (bs : List UInt8) : Lead Unit :=
  let isLateCode := match bs with
    | a :: b :: _ => (shifted? a.toNat b.toNat).any fun (row, place) => isLate e (row + 0x21) (place + 0x21)
    | _ => false
  if isLateCode then .hole 2
  else shiftedLead (fun a => if a < 0x80 then some (roman a) else kana? a) (shifted0213? e) s bs

/-! ## EUC-JP -/

/-- EUC-JP with the characters of two and of three bytes. Kana of half width follow a byte of their own. -/
def eucLead (pair? triple? : Nat → Nat → Option CodePoints) : Unit → List UInt8 → Lead Unit
  | _, 0x8E :: rest => match rest with
    | b :: _ => .ofOption 2 () ((kana? b).map fun c => [c])
    | [] => .broken 1
  | _, 0x8F :: rest => match rest with
    | b :: c :: _ => .ofOption 3 () (triple? (b.toNat - 0x80) (c.toNat - 0x80))
    | _ => .broken (1 + rest.length)
  | s, bs => leadOfPairs (fun a b => pair? (a - 0x80) (b - 0x80)) s bs

/-- EUC-JP with JIS X 0208 and JIS X 0212. -/
def eucJpLead : Unit → List UInt8 → Lead Unit :=
  eucLead (fun a b => points (jisX0208.char? a b)) fun a b => points (jisX0212.char? a b)

/-- The first plane of JIS X 0213 in EUC-JP, which has a tilde of full width. -/
def euc0213? (e : Edition) (a b : Nat) : Option CodePoints :=
  if a = 0x22 ∧ b = 0x32 then some [0xFF5E] else firstPlane? e a b

/-- EUC-JP with JIS X 0213. A code for a later character is a hole as a whole. -/
def euc0213Lead (e : Edition) (s : Unit) (bs : List UInt8) : Lead Unit :=
  let isLateCode := match bs with
    | a :: b :: _ => isLate e (a.toNat - 0x80) (b.toNat - 0x80)
    | _ => false
  if isLateCode then .hole 2
  else eucLead (euc0213? e) (fun a b => points (secondPlane? e a b <|> jisX0212.char? a b)) s bs

end BlockingQuery.Text.Japanese
