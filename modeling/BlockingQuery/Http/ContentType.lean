import BlockingQuery.Http.Parameter
import BlockingQuery.Text.Charset
import BlockingQuery.Text.Quoted

/-!
# Content types

`ContentType.charset?` is the charset that a `Content-Type` field names, and `ContentType.text` reads a body
in it. A body without a known charset is UTF-8.
-/

namespace BlockingQuery.ContentType

open Text

/-- Why the text of a body is not known. -/
inductive Fault
  | parameter (fault : Parameter.Fault)
  | charset (fault : Charset.Fault)
  deriving DecidableEq, Repr

/-- The text of a fault. -/
def Fault.message : Fault → String
  | .parameter (.tooLong e) => e.message
  | .parameter .partlyNumbered => ""
  | .charset fault => fault.message

/-- The bytes that the characters of an extended value are. What is no byte stands there as an escape. -/
def bytes (cs : List Char) : List UInt8 :=
  cs.flatMap fun c =>
    let n := c.toNat
    if n < 0x100 then [UInt8.ofNat n]
    else if n < 0x10000 then utf8 (String.ofList ('\\' :: 'u' :: hexDigits 4 n))
    else utf8 (String.ofList ('\\' :: 'U' :: hexDigits 8 n))

/-- The text of a value. An extended one is read in its charset, which is ASCII if it names none; what
cannot be read in it stands for itself. -/
def valueText : Parameter.Value → Except Charset.Fault (List Char)
  | .plain text => .ok text
  | .extended charset text => do
    match ← Charset.ofName? (if charset.isEmpty then "us-ascii".toList else charset) with
    | some c => return ((← c.read? (bytes text)).map String.toList).getD text
    | none => return text

/-- The charset that a field names, if it names one that is known. -/
def charset? (field : String) : Except Fault (Option Charset) := do
  match ← (Parameter.value? "charset".toList (Parameter.ofField field)).mapError .parameter with
  | none => return none
  | some value =>
    let name ← (valueText value).mapError .charset
    if name.all fun c => c.toNat < 0x80 then (Charset.ofName? name).mapError .charset else return none

/-- The text of a body, given the `Content-Type` field that came with it. -/
def text (field : Option String) (body : List UInt8) : Except Fault CodePoints := do
  if body.isEmpty then return []
  let charset ← match field with
    | some field => charset? field
    | none => pure none
  ((charset.getD (.plain .utf8)).readLossy body).mapError .charset

end BlockingQuery.ContentType
