import BlockingQuery.Text.CharacterSet.Gb2312
import BlockingQuery.Text.CharacterSet.KsX1001
import BlockingQuery.Text.CodePage.Iso8859
import BlockingQuery.Text.Multibyte.Japanese

/-!
# ISO 2022

Encodings in seven bits that designate character sets with escape sequences. A set is designated as one of
three: the first is read as long as nothing else is said, the second between shifts, and a character of the
third follows an escape of its own. A `Repertoire` is what an encoding of this kind may designate.
-/

namespace BlockingQuery.Text

/-- A set that can be designated. -/
inductive DesignatedSet
  | ascii
  | roman
  | kana
  | latin1
  | greek
  | jisX0208
  | jisX0208Of1978
  | jisX0212
  | jisX0213First (e : Japanese.Edition)
  | jisX0213Second
  | gb2312
  | ksX1001
  deriving DecidableEq, Repr

/-- What an encoding designates beside ASCII. -/
structure Repertoire where
  sets : List DesignatedSet
  /-- Whether shifts lead to the second set and back. -/
  hasShifts : Bool := false
  /-- Whether there is a third set. -/
  hasThird : Bool := false
  /-- Whether the escape sequence of JIS X 0208 may have another one before it. -/
  hasAnnounced : Bool := true
  deriving DecidableEq, Repr

namespace Repertoire

/-! ## Sets -/

/-- The last byte of the escape sequence of a set, and whether its characters have two bytes. -/
def mark : DesignatedSet → UInt8 × Bool
  | .ascii => (0x42, false)
  | .roman => (0x4A, false)
  | .kana => (0x49, false)
  | .latin1 => (0x41, false)
  | .greek => (0x46, false)
  | .jisX0208 => (0x42, true)
  | .jisX0208Of1978 => (0x40, true)
  | .jisX0212 => (0x44, true)
  | .jisX0213First .of2000 => (0x4F, true)
  | .jisX0213First .of2004 => (0x51, true)
  | .jisX0213Second => (0x50, true)
  | .gb2312 => (0x41, true)
  | .ksX1001 => (0x43, true)

/-- The characters that two bytes stand for in a set. -/
def pair? (s : DesignatedSet) (a b : Nat) : Option CodePoints :=
  match s with
  | .jisX0208 | .jisX0208Of1978 => points (CharacterSet.jisX0208.char? a b)
  | .jisX0212 => points (CharacterSet.jisX0212.char? a b)
  | .jisX0213First e => Japanese.firstPlane? e a b
  | .jisX0213Second => points (Japanese.secondPlane? .of2004 a b)
  | .gb2312 => points (CharacterSet.gb2312.char? a b)
  | .ksX1001 => points (CharacterSet.ksX1001.char? a b)
  | _ => none

/-- The character that a byte stands for in a set. The sets of the third kind have none here. -/
def single? (s : DesignatedSet) (b : UInt8) : Option CodePoint :=
  match s with
  | .ascii => some b.toUInt32
  | .roman => some (Japanese.roman b)
  | .kana => Japanese.kana? (b + 0x80)
  | _ => none

/-- The bytes of the Greek page that stood for nothing at first. -/
def lateGreek : List UInt8 := [0xA4, 0xA5, 0xAA]

/-- What a byte writes after the escape to the third set. -/
def third (s : DesignatedSet) (b : UInt8) : Option (Option CodePoint) :=
  match s with
  | .ascii => some (if b < 0x80 then some b.toUInt32 else none)
  | .latin1 => some (if b < 0x80 then some (b.toUInt32 + 0x80) else none)
  | .greek =>
    let high := b ^^^ 0x80
    some (if lateGreek.contains high then none else (CodePage.iso7.char? high).map Char.val)
  | _ => none

/-! ## States -/

/-- The sets that are designated, and which one is read. -/
structure State where
  first : DesignatedSet := .ascii
  second : DesignatedSet := .ascii
  third : DesignatedSet := .ascii
  isShifted : Bool := false
  /-- Whether an escape sequence is passed on as it stands. -/
  isEscaped : Bool := false

/-- The place of a set that is designated. -/
inductive Role
  | first
  | second
  | third

/-- The state with a set in a place. -/
def State.designate (s : State) (r : Role) (d : DesignatedSet) : State :=
  match r with
  | .first => { s with first := d }
  | .second => { s with second := d }
  | .third => { s with third := d }

/-! ## Escape sequences -/

/-- Whether a byte ends an escape sequence. -/
def isFinal (b : UInt8) : Bool :=
  0x40 ≤ b && b ≤ 0x5A

/-- The most bytes of an escape sequence. -/
def longestEscape : Nat := 16

/-- How many bytes an escape sequence has, from the place where its end is looked for; 0 if it does not end in
time, none if the text breaks off. An announcement of what follows does not end it. -/
def escapeLength (announced : Bool) : (fuel place : Nat) → List UInt8 → Option Nat
  | 0, _, _ => some 0
  | n + 1, place, bs =>
    if longestEscape ≤ place then some 0
    else match bs with
      | [] => none
      | b :: rest =>
        if isFinal b then some (place + 1)
        else if announced && b == 0x26 && rest.head? == some 0x40 then
          escapeLength announced n (place + 3) (rest.drop 2)
        else escapeLength announced n (place + 1) rest

/-- The place, the last byte and the width that an escape sequence designates. -/
def designation? (r : Repertoire) : List UInt8 → Option (Role × UInt8 × Bool)
  | [_, 0x24, c] => some (.first, c, true)
  | [_, 0x28, c] => some (.first, c, false)
  | [_, 0x29, c] => some (.second, c, false)
  | [_, 0x2E, c] => if r.hasThird then some (.third, c, false) else none
  | [_, 0x24, 0x28, c] => some (.first, c, true)
  | [_, 0x24, 0x29, c] => some (.second, c, true)
  | [_, _, _, 0x1B, 0x24, 0x42] => if r.hasAnnounced then some (.first, 0x42, true) else none
  | _ => none

/-- The set with a mark, if the encoding has it. ASCII is there in all. -/
def set? (r : Repertoire) (m : UInt8 × Bool) : Option DesignatedSet :=
  (.ascii :: r.sets).find? fun d => mark d == m

/-- What an escape sequence does. The bytes begin with the escape. -/
def escapeLead (r : Repertoire) (s : State) (bs : List UInt8) : Lead State :=
  match escapeLength r.hasAnnounced longestEscape 1 (bs.drop 1) with
  | none => .broken bs.length
  | some 0 => .hole 1
  | some n =>
    match (r.designation? (bs.take n)).bind fun (role, m) => (r.set? m).map fun d => (role, d) with
    | some (role, d) => .text n [] (s.designate role d)
    | none => .hole n

/-- The second bytes of the escape sequences that designate sets, or announce what follows. -/
def introducers : List UInt8 := [0x28, 0x29, 0x24, 0x2E, 0x26]

/-- What stands after an escape. -/
def afterEscape (r : Repertoire) (s : State) (bs : List UInt8) : Lead State :=
  match bs with
  | _ :: b :: rest =>
    if introducers.contains b then r.escapeLead s bs
    else if r.hasThird && b == 0x4E then match rest with
      | [] => .broken 2
      | c :: _ =>
        match third s.third c with
        | none => .stuck
        | some none => .hole 3
        | some (some p) => .text 3 [p] s
    else .text 1 [0x1B] { s with isEscaped := true }
  | _ => .broken bs.length

/-! ## Characters -/

/-- A character of the set that is read. -/
def characterLead (s : State) (b : UInt8) (rest : List UInt8) : Lead State :=
  let set := if s.isShifted then s.second else s.first
  if (mark set).2 then match rest with
    | [] => .broken 1
    | c :: _ =>
      match pair? set b.toNat c.toNat with
      | some cs => .text 2 cs s
      | none => .hole 2
  else .ofOption 1 s ((single? set b).map fun c => [c])

/-- What a text begins with. -/
def lead (r : Repertoire) (s : State) : List UInt8 → Lead State
  | [] => .broken 0
  | b :: rest =>
    if s.isEscaped then .text 1 [b.toUInt32] { s with isEscaped := !isFinal b }
    else if b == 0x1B then r.afterEscape s (b :: rest)
    else if b == 0x0A then .text 1 [0x0A] { s with isShifted := false }
    else if r.hasShifts && b == 0x0E then .text 1 [] { s with isShifted := true }
    else if r.hasShifts && b == 0x0F then .text 1 [] { s with isShifted := false }
    else if b < 0x20 then .text 1 [b.toUInt32] s
    else if 0x80 ≤ b then .hole 1
    else characterLead s b rest

/-! ## Encodings -/

/-- Korean, with shifts to KS X 1001. -/
def korean : Repertoire where
  sets := [.ksX1001]
  hasShifts := true
  hasAnnounced := false

/-- The sets of the first Japanese encoding. -/
def japaneseSets : List DesignatedSet := [.jisX0208, .jisX0208Of1978, .roman]

/-- Japanese. -/
def japanese : Repertoire where
  sets := japaneseSets

/-- Japanese with JIS X 0212. -/
def japanese1 : Repertoire where
  sets := .jisX0212 :: japaneseSets

/-- Japanese with sets of its neighbours and of Europe. -/
def japanese2 : Repertoire where
  sets := [.jisX0212, .ksX1001, .gb2312, .latin1, .greek] ++ japaneseSets
  hasThird := true

/-- Japanese with JIS X 0213 in the form of 2000. -/
def japanese3 : Repertoire where
  sets := [.jisX0208, .jisX0213First .of2000, .jisX0213Second]

/-- Japanese with JIS X 0213 in the form of 2004. -/
def japanese2004 : Repertoire where
  sets := [.jisX0208, .jisX0213First .of2004, .jisX0213Second]

/-- Japanese with JIS X 0212 and kana of half width. -/
def japaneseExtended : Repertoire where
  sets := [.jisX0212, .kana] ++ japaneseSets

end Repertoire

end BlockingQuery.Text
