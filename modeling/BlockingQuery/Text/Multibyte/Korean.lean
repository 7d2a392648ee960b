import BlockingQuery.Text.CharacterSet.KsX1001
import BlockingQuery.Text.Lead

/-!
# Encodings of Korean

EUC-KR writes KS X 1001, and syllables that it lacks by their letters. The unified code of Windows has codes of
two bytes for those syllables, and Johab makes each syllable out of the numbers of its letters.
-/

namespace BlockingQuery.Text.Korean

open CharacterSet

/-! ## Syllables -/

/-- The letters that may begin a syllable. -/
def initials : List Char := "ㄱㄲㄴㄷㄸㄹㅁㅂㅃㅅㅆㅇㅈㅉㅊㅋㅌㅍㅎ".toList

/-- The letters that may end a syllable. -/
def finals : List Char := "ㄱㄲㄳㄴㄵㄶㄷㄹㄺㄻㄼㄽㄾㄿㅀㅁㅂㅄㅅㅆㅇㅈㅊㅋㅌㅍㅎ".toList

/-- The first vowel. -/
def firstVowel : Nat := 0x314F

/-- How many vowels there are. -/
def vowelCount : Nat := 21

/-- The first syllable. -/
def firstSyllable : Nat := 0xAC00

/-- The syllable of a first letter, a vowel and a last letter, which may be missing and then is 0. -/
def syllable (first vowel last : Nat) : CodePoint :=
  UInt32.ofNat (firstSyllable + (first * vowelCount + vowel) * (finals.length + 1) + last)

/-! ## EUC-KR -/

/-- The second byte of a place that holds no letter. -/
def filler : UInt8 := 0xD4

/-- The letter of a second byte after 0xA4. -/
def letter (b : UInt8) : Char :=
  if 0xA1 ≤ b then Char.ofNat (0x3131 + (b.toNat - 0xA1)) else '\x00'

/-- A syllable by the second bytes of its three letters. -/
def ofLetters? (first vowel last : UInt8) : Option CodePoints := do
  let i ← initials.idxOf? (letter first)
  let v := (letter vowel).toNat
  if v < firstVowel ∨ firstVowel + vowelCount ≤ v then none
  let f ← if last = filler then some 0 else (finals.idxOf? (letter last)).map (· + 1)
  return [syllable i (v - firstVowel) f]

/-- The character of two bytes from 0xA1 on. -/
def euc? (a b : Nat) : Option CodePoints :=
  points (ksX1001.char? (a - 0x80) (b - 0x80))

/-- EUC-KR. A code for no letter opens a syllable in four codes. -/
def eucLead : Unit → List UInt8 → Lead Unit
  | _, 0xA4 :: 0xD4 :: rest => match rest with
    | x :: first :: y :: vowel :: z :: last :: _ =>
      if x == 0xA4 && y == 0xA4 && z == 0xA4 then .ofOption 8 () (ofLetters? first vowel last) else .hole 1
    | _ => .broken (2 + rest.length)
  | s, bs => leadOfPairs euc? s bs

/-! ## The unified code of Windows -/

/-- The syllables of KS X 1001. -/
def setSyllables : List Nat :=
  ksX1001.points 15 25

/-- How many syllables KS X 1001 lacks. -/
def addedSyllables : Nat := 8822

/-- The place of a second byte in a row of 178. -/
def place178? (b : Nat) : Option Nat :=
  if 0x41 ≤ b ∧ b ≤ 0x5A then some (b - 0x41)
  else if 0x61 ≤ b ∧ b ≤ 0x7A then some (b - 0x47)
  else if 0x81 ≤ b ∧ b ≤ 0xFE then some (b - 0x4D)
  else none

/-- The number of a syllable among those that KS X 1001 lacks: the rows before its own and the places beside
them are filled in order. -/
def addedSyllable? (a b : Nat) : Option Nat :=
  (place178? b).bind fun place =>
    if 0x81 ≤ a ∧ a ≤ 0xA0 then some ((a - 0x81) * 178 + place)
    else if 0xA1 ≤ a ∧ a ≤ 0xC6 ∧ place < 84 then some (32 * 178 + (a - 0xA1) * 84 + place)
    else none

/-- The character of two bytes in the unified code. -/
def unified? (a b : Nat) : Option CodePoints :=
  euc? a b <|> ((addedSyllable? a b).filter (· < addedSyllables)).map fun n =>
    [UInt32.ofNat (lacking setSyllables firstSyllable n)]

/-- The unified code. -/
def unifiedLead : Unit → List UInt8 → Lead Unit :=
  leadOfPairs unified?

/-! ## Johab -/

/-- A letter in five bits: a number, or none. -/
inductive Part
  | none
  | letter (n : Nat)

/-- The first letter of a syllable. -/
def firstPart? (n : Nat) : Option Part :=
  if n = 1 then some .none
  else if 2 ≤ n ∧ n ≤ 20 then some (.letter (n - 2))
  else Option.none

/-- The vowel of a syllable. The numbers stand in groups of six. -/
def vowelPart? (n : Nat) : Option Part :=
  if n = 2 then some .none
  else if 3 ≤ n ∧ n ≤ 7 then some (.letter (n - 3))
  else if 10 ≤ n ∧ n ≤ 15 then some (.letter (n - 5))
  else if 18 ≤ n ∧ n ≤ 23 then some (.letter (n - 7))
  else if 26 ≤ n ∧ n ≤ 29 then some (.letter (n - 9))
  else Option.none

/-- The last letter of a syllable, with a gap in the middle of the numbers. -/
def lastPart? (n : Nat) : Option Part :=
  if n = 1 then some .none
  else if 2 ≤ n ∧ n ≤ 17 then some (.letter (n - 2))
  else if 19 ≤ n ∧ n ≤ 29 then some (.letter (n - 3))
  else Option.none

/-- The character of a syllable's parts. A letter alone stands for itself. -/
def ofParts? : Part → Part → Part → Option CodePoint
  | .letter i, .letter v, .letter f => some (syllable i v (f + 1))
  | .letter i, .letter v, .none => some (syllable i v 0)
  | .letter i, .none, .none => initials[i]?.map Char.val
  | .none, .letter v, .none => some (UInt32.ofNat (firstVowel + v))
  | .none, .none, .letter f => finals[f]?.map Char.val
  | .none, .none, .none => some 0x3000
  | _, _, _ => Option.none

/-- The place of a second byte in a pair of rows of 94. -/
def place188? (b : Nat) : Option Nat :=
  if 0x31 ≤ b ∧ b ≤ 0x7E then some (b - 0x31)
  else if 0x91 ≤ b ∧ b ≤ 0xFE then some (b - 0x43)
  else Option.none

/-- The signs and ideographs of KS X 1001 in Johab. Its letters have no codes there. -/
def johabSign? (a b : Nat) : Option Char :=
  if a < 0xD9 ∨ a = 0xDF ∨ 0xF9 < a ∨ (a = 0xDA ∧ 0xA1 ≤ b ∧ b ≤ 0xD3) then Option.none
  else (place188? b).bind fun place =>
    let row := if a < 0xE0 then 2 * (a - 0xD9) else 2 * a - 0x197
    ksX1001.at? (row + place / 94) (place % 94)

/-- The character of two bytes in Johab: below 0xD8 a syllable in three times five bits. -/
def johab? (a b : Nat) : Option CodePoints :=
  if a < 0xD8 then do
    let first ← firstPart? (a / 4 % 32)
    let vowel ← vowelPart? (a % 4 * 8 + b / 32)
    let last ← lastPart? (b % 32)
    return [← ofParts? first vowel last]
  else points (johabSign? a b)

/-- Johab. -/
def johabLead : Unit → List UInt8 → Lead Unit :=
  leadOfPairs johab?

end BlockingQuery.Text.Korean
