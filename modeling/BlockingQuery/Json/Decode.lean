import BlockingQuery.Json.Value
import BlockingQuery.Number.Numeral
import BlockingQuery.Text.Encoding

/-!
# Decoding JSON

`Json.ofCodePoints` reads a text, `Json.ofBytes` the bytes of one in UTF-8, UTF-16 or UTF-32, told apart
by a byte order mark or by where the first bytes are zero. Beyond the grammar of JSON the numbers `NaN`,
`Infinity` and `-Infinity` are read. The last value of a repeated name counts. Arrays and objects may stand in
one another up to a depth.

The reader takes fuel, one unit for each value, item and member; `ofCodePoints` gives it more than a text
of that length can use.
-/

namespace BlockingQuery.Json

open Text

/-- Why bytes decode to no value. -/
inductive Fault
  /-- The bytes are no text. -/
  | undecodable
  /-- The text is no JSON. -/
  | malformed
  /-- An integer has too many digits. -/
  | tooLong (digits : Nat)
  /-- A container stands in too many others. -/
  | tooDeep (c : Container)
  deriving DecidableEq, Repr

/-- What was read, and the rest of the text. -/
abbrev Reading (α : Type) := Except Fault (α × CodePoints)

/-- The text from the first code point on that is no space of JSON. -/
def skipSpace (cs : CodePoints) : CodePoints :=
  cs.dropWhile fun c => c == 0x20 || c == 0x09 || c == 0x0A || c == 0x0D

/-- The value of a hexadecimal digit in either case. -/
def hexDigit? (c : CodePoint) : Option UInt32 :=
  if 0x30 ≤ c && c ≤ 0x39 then some (c - 0x30)
  else if 0x41 ≤ c && c ≤ 0x46 then some (c - 0x37)
  else if 0x61 ≤ c && c ≤ 0x66 then some (c - 0x57)
  else none

/-- The number of four hexadecimal digits. -/
def hex4? (a b c d : CodePoint) : Option UInt32 := do
  return (((← hexDigit? a) * 16 + (← hexDigit? b)) * 16 + (← hexDigit? c)) * 16 + (← hexDigit? d)

/-- The code point that a letter after a backslash stands for. -/
def escaped? (c : CodePoint) : Option CodePoint :=
  [(0x22, 0x22), (0x5C, 0x5C), (0x2F, 0x2F), (0x62, 0x08), (0x66, 0x0C), (0x6E, 0x0A), (0x72, 0x0D),
    (0x74, 0x09)].lookup c

/-- Puts a unit in front of what was read of a string. -/
def readUnit (c : CodePoint) (numbered : Bool) :
    Option (List (CodePoint × Bool) × CodePoints) → Option (List (CodePoint × Bool) × CodePoints)
  | some (us, rest) => some ((c, numbered) :: us, rest)
  | none => none

/-- A string after its opening mark, up to and without the closing one: its code points, each with the
note whether it was written by its number. -/
def readUnits : CodePoints → Option (List (CodePoint × Bool) × CodePoints)
  | [] => none
  | 0x22 :: cs => some ([], cs)
  | 0x5C :: 0x75 :: a :: b :: c :: d :: cs =>
    match hex4? a b c d with
    | none => none
    | some u => readUnit u true (readUnits cs)
  | 0x5C :: c :: cs =>
    match escaped? c with
    | none => none
    | some c => readUnit c false (readUnits cs)
  | c :: cs => if c < 0x20 then none else readUnit c false (readUnits cs)

/-- The code points of a string, a pair of surrogates written by their numbers joined. -/
def joinNumbered : List (CodePoint × Bool) → CodePoints
  | [] => []
  | (u, true) :: (v, true) :: us =>
    if isHighSurrogate u && isLowSurrogate v then joinSurrogates u v :: joinNumbered us
    else u :: joinNumbered ((v, true) :: us)
  | (u, _) :: us => u :: joinNumbered us

/-- A string after its opening mark, and the rest after the closing one. -/
def readString (cs : CodePoints) : Option (CodePoints × CodePoints) :=
  (readUnits cs).map fun (us, rest) => (joinNumbered us, rest)

/-- A digit of a JSON number. -/
def isDigit (c : CodePoint) : Bool :=
  0x30 ≤ c && c ≤ 0x39

/-- The digits that a text begins with, and the rest. -/
def readDigits (cs : CodePoints) : List Nat × CodePoints :=
  ((cs.takeWhile isDigit).map fun c => c.toNat - 0x30, cs.dropWhile isDigit)

/-- The digits of a fraction, none if no fraction stands here, and the rest. -/
def readFraction : CodePoints → List Nat × CodePoints
  | 0x2E :: cs =>
    match readDigits cs with
    | ([], _) => ([], 0x2E :: cs)
    | found => found
  | cs => ([], cs)

/-- An exponent, if one stands here, and the rest. -/
def readExponent : CodePoints → Option Int × CodePoints
  | e :: cs =>
    if e == 0x65 || e == 0x45 then
      let (negative, body) : Bool × CodePoints := match cs with
        | 0x2D :: body => (true, body)
        | 0x2B :: body => (false, body)
        | body => (false, body)
      match readDigits body with
      | ([], _) => (none, e :: cs)
      | (ds, rest) => (some (Exact.signed negative (ofDigits ds)), rest)
    else (none, e :: cs)
  | [] => (none, [])

/-- A number, after its sign: an integer unless a fraction or an exponent follows. -/
def readNumber (negative : Bool) (cs : CodePoints) : Reading Json :=
  let (whole, rest) := match cs with
    | 0x30 :: rest => ([0], rest)
    | cs => readDigits cs
  if whole.isEmpty then .error .malformed
  else
    let (part, rest) := readFraction rest
    let (power, rest) := readExponent rest
    if part.isEmpty && power.isNone then
      match Numeral.natural whole with
      | .ok n => .ok (.int (Exact.signed negative n), rest)
      | .error e => .error (.tooLong e.digits)
    else
      let x := Binary64.ofDecimal negative (ofDigits (whole ++ part)) (power.getD 0 - (part.length : Int))
      .ok (.float x, rest)

/-- The words that are values. -/
def words : List (CodePoints × Json) :=
  [("null", .null), ("true", .bool true), ("false", .bool false), ("NaN", .float Binary64.nan),
    ("Infinity", .float (Binary64.infinity false)), ("-Infinity", .float (Binary64.infinity true))].map
    fun (w, v) => (CodePoints.ofString w, v)

/-- A word or a number. -/
def readPlain (cs : CodePoints) : Reading Json :=
  match words.find? fun (w, _) => w.isPrefixOf cs with
  | some (w, v) => .ok (v, cs.drop w.length)
  | none =>
    match cs with
    | 0x2D :: body => readNumber true body
    | body => readNumber false body

mutual

/-- A value. So many containers may open within one another, itself included. -/
def readValue : (fuel room : Nat) → CodePoints → Reading Json
  | 0, _, _ => .error .malformed
  | n + 1, room, cs =>
    match cs with
    | 0x22 :: rest =>
      match readString rest with
      | some (t, rest) => .ok (.str t, rest)
      | none => .error .malformed
    | 0x5B :: rest =>
      match room, skipSpace rest with
      | 0, _ => .error (.tooDeep .array)
      | _ + 1, 0x5D :: rest => .ok (.arr [], rest)
      | room + 1, rest => readItems n room [] rest
    | 0x7B :: rest =>
      match room, skipSpace rest with
      | 0, _ => .error (.tooDeep .object)
      | _ + 1, 0x7D :: rest => .ok (.obj [], rest)
      | room + 1, rest => readMembers n room [] rest
    | cs => readPlain cs

/-- The rest of an array, whose earlier items are given last first. -/
def readItems : (fuel room : Nat) → List Json → CodePoints → Reading Json
  | 0, _, _, _ => .error .malformed
  | n + 1, room, before, cs =>
    match readValue n room cs with
    | .error e => .error e
    | .ok (v, rest) =>
      match skipSpace rest with
      | 0x2C :: rest => readItems n room (v :: before) (skipSpace rest)
      | 0x5D :: rest => .ok (.arr (v :: before).reverse, rest)
      | _ => .error .malformed

/-- The rest of an object, with its earlier members. -/
def readMembers : (fuel room : Nat) → List (CodePoints × Json) → CodePoints → Reading Json
  | 0, _, _, _ => .error .malformed
  | n + 1, room, before, cs =>
    match cs with
    | 0x22 :: rest =>
      match readString rest with
      | none => .error .malformed
      | some (name, rest) =>
        match skipSpace rest with
        | 0x3A :: rest =>
          match readValue n room (skipSpace rest) with
          | .error e => .error e
          | .ok (v, rest) =>
            match skipSpace rest with
            | 0x2C :: rest => readMembers n room (putMember name v before) (skipSpace rest)
            | 0x7D :: rest => .ok (.obj (putMember name v before), rest)
            | _ => .error .malformed
        | _ => .error .malformed
    | _ => .error .malformed

end

/-- How many containers may stand in one another. -/
def maxDepth : Nat := 985

/-- The value that a text writes. -/
def ofCodePoints (cs : CodePoints) : Except Fault Json :=
  match readValue (2 * cs.length + 2) maxDepth (skipSpace cs) with
  | .error e => .error e
  | .ok (v, rest) => if (skipSpace rest).isEmpty then .ok v else .error .malformed

/-- The encoding of the bytes of a JSON text, and the bytes without a byte order mark. -/
def detect (bs : List UInt8) : Encoding × List UInt8 :=
  match bs with
  | 0x00 :: 0x00 :: 0xFE :: 0xFF :: rest => (.utf32 true, rest)
  | 0xFF :: 0xFE :: 0x00 :: 0x00 :: rest => (.utf32 false, rest)
  | 0xFE :: 0xFF :: rest => (.utf16 true, rest)
  | 0xFF :: 0xFE :: rest => (.utf16 false, rest)
  | 0xEF :: 0xBB :: 0xBF :: rest => (.utf8, rest)
  | a :: b :: c :: d :: _ =>
    if a == 0 then (if b == 0 then .utf32 true else .utf16 true, bs)
    else if b == 0 then (if c == 0 && d == 0 then .utf32 false else .utf16 false, bs)
    else (.utf8, bs)
  | [a, b] => (if a == 0 then .utf16 true else if b == 0 then .utf16 false else .utf8, bs)
  | _ => (.utf8, bs)

/-- The value that the bytes write. -/
def ofBytes (bs : List UInt8) : Except Fault Json :=
  let (encoding, body) := detect bs
  match encoding.decode? body with
  | none => .error .undecodable
  | some cs => ofCodePoints cs

end BlockingQuery.Json
