import BlockingQuery.Http.Percent
import BlockingQuery.Number.Numeral

/-!
# Parameters of header fields

What follows the first semicolon of a field like `Content-Type` are parameters, `name=value`.
`Parameter.ofField` cuts a field into them. The value of one name may be spread over several sections,
`name*0`, `name*1`, and a section whose name ends in an asterisk is percent-encoded; the value then begins
with a charset and a language. `Parameter.value?` puts the value of a name together.
-/

namespace BlockingQuery

open Text

/-- A parameter as it stands in a field. -/
structure Parameter where
  name : List Char
  text : List Char
  deriving DecidableEq, Repr

namespace Parameter

/-- Why the values of parameters cannot be put together. -/
inductive Fault
  /-- Of the sections of a name some are numbered and some are not. -/
  | partlyNumbered
  /-- The number of a section has too many digits. -/
  | tooLong (e : Numeral.TooLong)
  deriving DecidableEq, Repr

/-! ## Cutting a field -/

/-- The pieces of a field: it is cut at the semicolons outside quotation marks. A mark after a backslash
opens and closes nothing. -/
def pieces (quoted : Bool) (found : List Char) : List Char → List (List Char)
  | [] => [found.reverse]
  | '\\' :: '\x22' :: cs => pieces quoted ('\x22' :: '\\' :: found) cs
  | '\x22' :: cs => pieces (!quoted) ('\x22' :: found) cs
  | ';' :: cs =>
    if quoted then pieces quoted (';' :: found) cs
    else found.reverse :: pieces false [] cs
  | c :: cs => pieces quoted (c :: found) cs

/-- The text that escapes with backslashes stand for. -/
def unescape : List Char → List Char
  | '\\' :: '\\' :: cs => '\\' :: unescape cs
  | '\\' :: '\x22' :: cs => '\x22' :: unescape cs
  | c :: cs => c :: unescape cs
  | [] => []

/-- A value without the quotation marks or the angle brackets around it. -/
def unquote (cs : List Char) : List Char :=
  let inner := (cs.drop 1).dropLast
  if cs.length ≤ 1 then cs
  else if cs.head? == some '\x22' && cs.getLast? == some '\x22' then unescape inner
  else if cs.head? == some '<' && cs.getLast? == some '>' then inner
  else cs

/-- The parameter of a piece. Its name is brought into small letters if a value follows. -/
def ofPiece (cs : List Char) : Parameter where
  name := (trim (cs.takeWhile (· != '='))).map fun c => if cs.contains '=' then c.toLower else c
  text := unquote (trim ((cs.dropWhile (· != '=')).drop 1))

/-- What stands before the first semicolon of a field, and the parameters. -/
def ofField (field : String) : List Parameter :=
  (pieces false [] field.toList).map ofPiece

/-! ## Sections -/

/-- A section of a value. -/
structure Section where
  /-- The name that the value belongs to. -/
  owner : List Char
  number : Option Nat
  text : List Char
  /-- Whether the section is percent-encoded. -/
  encoded : Bool
  deriving DecidableEq, Repr

/-- The number in a section's name. -/
def sectionNumber (digits : List Char) : Except Fault Nat :=
  (Numeral.natural (digits.filterMap asciiDigit?)).mapError .tooLong

/-- The section that a parameter is, if its name is that of one. -/
def section? (p : Parameter) : Except Fault (Option Section) :=
  let owner := p.name.takeWhile (· != '*')
  let digits := (p.name.drop (owner.length + 1)).takeWhile Char.isDigit
  let rest := p.name.drop (owner.length + 1 + digits.length)
  let isWord := !owner.isEmpty && owner.all fun c => c.isAlphanum || c == '_'
  if !isWord || p.name.length == owner.length then .ok none
  else if digits.isEmpty then
    .ok (if rest.isEmpty then some { owner, number := none, text := p.text, encoded := true } else none)
  else if rest == [] || rest == ['*'] then do
    return some { owner, number := some (← sectionNumber digits), text := p.text, encoded := rest == ['*'] }
  else .ok none

/-- The order of the sections of a value. -/
def Section.le (a b : Section) : Bool :=
  let m := a.number.getD 0
  let n := b.number.getD 0
  m < n || (m == n && (decide (a.text < b.text) || (a.text == b.text && (!a.encoded || b.encoded))))

/-- Whether all sections of each name are numbered, or none is. -/
def isConsistent (sections : List Section) : Bool :=
  sections.all fun a => sections.all fun b => a.owner != b.owner || a.number.isSome == b.number.isSome

/-- The text of a section, each escape standing for one character. -/
def Section.plainText (s : Section) : List Char :=
  if s.encoded then Percent.decodeBytewise s.text else s.text

/-! ## Values -/

/-- The value of a parameter. -/
inductive Value
  /-- A text. -/
  | plain (text : List Char)
  /-- A text whose characters are bytes in a charset, unless they are ASCII. -/
  | extended (charset text : List Char)
  deriving DecidableEq, Repr

/-- The value of an extended text: charset, language and value stand between ticks. Without two ticks all
is value. -/
def Value.ofExtended (cs : List Char) : Value :=
  let charset := cs.takeWhile (· != '\x27')
  let rest := (cs.drop (charset.length + 1))
  match rest.dropWhile (· != '\x27') with
  | [] => .extended [] cs
  | _ :: text => .extended charset text

/-- Whether a name is the one in small letters. -/
def isNamed (name given : List Char) : Bool :=
  given.map Char.toLower == name

/-- The value that the sections of a name make together, if there are any: those that are written like the
first one. -/
def joined? (name : List Char) (sections : List Section) : Option Value :=
  (sections.find? fun s => isNamed name s.owner).map fun first =>
    let own := (sections.filter fun s => s.owner == first.owner).mergeSort Section.le
    let text := own.flatMap Section.plainText
    if own.any (·.encoded) then .ofExtended text else .plain text

/-- The value of a name, given in small letters. A value in one piece counts before one in sections, and
what stands first in the field is no section. -/
def value? (name : List Char) (ps : List Parameter) : Except Fault (Option Value) := do
  let sections := (← (ps.drop 1).mapM section?).filterMap id
  if !isConsistent sections then throw .partlyNumbered
  match ps.find? fun p => isNamed name p.name with
  | some p => return some (.plain p.text)
  | none => return joined? name sections

end Parameter

end BlockingQuery
