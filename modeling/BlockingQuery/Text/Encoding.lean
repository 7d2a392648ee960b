import BlockingQuery.Text.CharacterName
import BlockingQuery.Text.CodePage.Basic
import BlockingQuery.Text.CodePoint
import BlockingQuery.Text.Escape
import BlockingQuery.Text.Multibyte
import BlockingQuery.Text.Utf7

/-!
# Text from bytes

`Encoding.scan` reads bytes as code points and leaves a hole (`none`) for each longest run of bytes that
could begin a character and does not make one. `decode?` refuses texts with a hole and keeps lone
surrogates; `decodeStrict?` refuses those as well; `fill` puts U+FFFD into the holes, one of which is a lone
surrogate where an encoding knows pairs.
-/

namespace BlockingQuery.Text

/-- How bytes stand for code points. The flags of the wide encodings tell whether the most significant
byte comes first. -/
inductive Encoding
  | utf8
  | utf16 (big : Bool)
  | utf32 (big : Bool)
  | utf7
  | latin1
  | ascii
  | page (p : CodePage)
  | multibyte (m : Multibyte)
  /-- Latin-1 with escapes of numbers. -/
  | numberEscapes
  /-- Latin-1 with the escapes of string literals. -/
  | literalEscapes
  deriving DecidableEq, Repr

namespace Encoding

/-- A UTF-8 sequence that still lacks `left` bytes: the bits read so far, and the least and the greatest
byte that may come next. -/
structure Pending where
  left : Nat
  bits : UInt32
  least : UInt8
  greatest : UInt8

/-- What the first byte of a UTF-8 sequence of two or more bytes asks for. -/
def leading? (surrogates : Bool) (b : UInt8) : Option Pending :=
  if 0xC2 ≤ b && b ≤ 0xDF then some ⟨1, (b &&& 0x1F).toUInt32, 0x80, 0xBF⟩
  else if b == 0xE0 then some ⟨2, 0, 0xA0, 0xBF⟩
  else if b == 0xED then some ⟨2, 0x0D, 0x80, if surrogates then 0xBF else 0x9F⟩
  else if 0xE1 ≤ b && b ≤ 0xEF then some ⟨2, (b &&& 0x0F).toUInt32, 0x80, 0xBF⟩
  else if b == 0xF0 then some ⟨3, 0, 0x90, 0xBF⟩
  else if 0xF1 ≤ b && b ≤ 0xF3 then some ⟨3, (b &&& 0x07).toUInt32, 0x80, 0xBF⟩
  else if b == 0xF4 then some ⟨3, 4, 0x80, 0x8F⟩
  else none

/-- A byte between sequences: what it yields, and the sequence that it opens. -/
def first (surrogates : Bool) (b : UInt8) : List (Option CodePoint) × Option Pending :=
  if b < 0x80 then ([some b.toUInt32], none)
  else match leading? surrogates b with
    | some p => ([], some p)
    | none => ([none], none)

/-- One byte: what it yields, and the sequence that is open after it. A byte that cannot go on with the
open sequence leaves a hole for that sequence and then stands at a beginning. -/
def accept (surrogates : Bool) (b : UInt8) : Option Pending → List (Option CodePoint) × Option Pending
  | none => first surrogates b
  | some p =>
    if p.least ≤ b && b ≤ p.greatest then
      let bits := p.bits * 64 + (b &&& 0x3F).toUInt32
      if p.left ≤ 1 then ([some bits], none) else ([], some ⟨p.left - 1, bits, 0x80, 0xBF⟩)
    else
      let (found, next) := first surrogates b
      (none :: found, next)

/-- UTF-8 from the middle of a text: `pending` is the sequence that is not complete yet. -/
def scanUtf8 (surrogates : Bool) : (pending : Option Pending) → List UInt8 → List (Option CodePoint)
  | none, [] => []
  | some _, [] => [none]
  | pending, b :: bs =>
    let (found, next) := accept surrogates b pending
    found ++ scanUtf8 surrogates next bs

/-- The 16-bit units of a text, with a hole for a byte left over. -/
def units16 (big : Bool) : List UInt8 → List (Option UInt32)
  | a :: b :: bs =>
    some (if big then a.toUInt32 * 256 + b.toUInt32 else b.toUInt32 * 256 + a.toUInt32) :: units16 big bs
  | [] => []
  | [_] => [none]

/-- A 16-bit unit that is no part of a pair. -/
def loneUnit (surrogates : Bool) (u : UInt32) : Option CodePoint :=
  if isSurrogate u && !surrogates then none else some u

/-- Pairs of surrogates joined. Where the text breaks off in the middle of a pair there is one hole, also
if half a unit is left over. -/
def scanUnits16 (surrogates : Bool) : List (Option UInt32) → List (Option CodePoint)
  | [] => []
  | some u :: some v :: us =>
    if isHighSurrogate u && isLowSurrogate v then some (joinSurrogates u v) :: scanUnits16 surrogates us
    else loneUnit surrogates u :: scanUnits16 surrogates (some v :: us)
  | some u :: us =>
    if isHighSurrogate u && us == [none] then [none] else loneUnit surrogates u :: scanUnits16 surrogates us
  | none :: us => none :: scanUnits16 surrogates us

/-- UTF-32, with a hole for what is no code point and for bytes left over. -/
def scanUtf32 (surrogates big : Bool) : List UInt8 → List (Option CodePoint)
  | a :: b :: c :: d :: bs =>
    let word (w x y z : UInt8) : UInt32 :=
      ((w.toUInt32 * 256 + x.toUInt32) * 256 + y.toUInt32) * 256 + z.toUInt32
    let u := if big then word a b c d else word d c b a
    (if u < 0x110000 && (surrogates || !isSurrogate u) then some u else none) :: scanUtf32 surrogates big bs
  | [] => []
  | _ => [none]

/-- The character of a name in ASCII. -/
def named? (name : List UInt8) : Option CodePoint :=
  CharacterName.find? (name.map fun b => Char.ofNat b.toNat)

/-- The code points of a byte text, and the holes in it. -/
def scan (surrogates : Bool) : Encoding → List UInt8 → List (Option CodePoint)
  | .utf8, bs => scanUtf8 surrogates none bs
  | .utf16 big, bs => scanUnits16 surrogates (units16 big bs)
  | .utf32 big, bs => scanUtf32 surrogates big bs
  | .utf7, bs => Utf7.scan .plain bs
  | .latin1, bs => bs.map fun b => some b.toUInt32
  | .ascii, bs => bs.map fun b => if b < 0x80 then some b.toUInt32 else none
  | .page p, bs => bs.map fun b => (p.char? b).map Char.val
  | .multibyte m, bs => m.scan bs
  | .numberEscapes, bs => (leads Escape.numberLead () 0 bs).flatMap Lead.read
  | .literalEscapes, bs => (leads (Escape.lead named?) () 0 bs).flatMap Lead.read

/-- The text that the bytes write, if they write one; lone surrogates are kept. -/
def decode? (e : Encoding) (bs : List UInt8) : Option CodePoints :=
  (e.scan true bs).mapM id

/-- The text that the bytes write, if they write one without lone surrogates. -/
def decodeStrict? (e : Encoding) (bs : List UInt8) : Option String :=
  ((e.scan false bs).mapM id).map CodePoints.toString

/-- The text that the bytes write, with U+FFFD for what writes no character. -/
def fill (e : Encoding) (bs : List UInt8) : CodePoints :=
  (e.scan false bs).map fun c => c.getD 0xFFFD

/-- The text that the bytes write, with U+FFFD for what writes no character and for lone surrogates. -/
def decodeLossy (e : Encoding) (bs : List UInt8) : String :=
  (e.fill bs).toString

end Encoding

/-- The UTF-8 bytes of a string. -/
def utf8 (s : String) : List UInt8 :=
  s.toList.flatMap String.utf8EncodeChar

end BlockingQuery.Text
