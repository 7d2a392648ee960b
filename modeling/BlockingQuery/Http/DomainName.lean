import BlockingQuery.Http.DomainName.Classes
import BlockingQuery.Text.Direction
import BlockingQuery.Text.Joining
import BlockingQuery.Text.Normalization
import BlockingQuery.Text.Punycode
import BlockingQuery.Text.Quoted

/-!
# Domain names

A domain name is labels with dots between them. A label outside ASCII is sent in punycode after `xn--`:
`DomainName.encode` writes a name in that way and `DomainName.decode` reads one. Both refuse labels that are not
fit for a name (`checkLabel`): they are in normal form, hyphens and marks stand only where they may, every
character is one that may stand in its place, and letters written in different directions do not mix.
-/

namespace BlockingQuery.DomainName

open Text

/-- Why a label mixes directions in a way that it may not. -/
inductive DirectionFault
  | unknown (label : CodePoints) (position : Nat)
  | first (label : CodePoints)
  | inRightToLeft (position : Nat)
  | inLeftToRight (position : Nat)
  | mixedNumerals
  | ending
  deriving DecidableEq, Repr

/-- Why a text is no domain name. Positions count from one. -/
inductive Fault
  | emptyDomain
  | emptyLabel
  | domainTooLong
  | labelTooLong
  | notNormal
  | hyphenPair
  | hyphenAtEnd
  | markAtBeginning
  | nothingEncoded
  | hyphenAtEncodedEnd
  | malformed
  | character (c : CodePoint) (position : Nat) (label : CodePoints)
  | context (c : CodePoint) (position : Nat) (label : CodePoints)
  | besideJoiner (c : CodePoint) (position : Nat) (label : CodePoints)
  | direction (f : DirectionFault)
  deriving DecidableEq, Repr

/-- A label in quotation marks. -/
def shown (label : CodePoints) : String :=
  label.quoted.toString

/-- The number of a character. -/
def numbered (c : CodePoint) : String :=
  let width := if c < 0x10000 then 4 else if c < 0x100000 then 5 else 6
  String.ofList ('U' :: '+' :: (hexDigits width c.toNat).map Char.toUpper)

def DirectionFault.message : DirectionFault → String
  | .unknown label i => s!"Unknown directionality in label {shown label} at position {i}"
  | .first label => s!"First codepoint in label {shown label} must be directionality L, R or AL"
  | .inRightToLeft i => s!"Invalid direction for codepoint at position {i} in a right-to-left label"
  | .inLeftToRight i => s!"Invalid direction for codepoint at position {i} in a left-to-right label"
  | .mixedNumerals => "Can not mix numeral types in a right-to-left label"
  | .ending => "Label ends with illegal codepoint directionality"

def Fault.message : Fault → String
  | .emptyDomain => "Empty domain"
  | .emptyLabel => "Empty Label"
  | .domainTooLong => "Domain too long"
  | .labelTooLong => "Label too long"
  | .notNormal => "Label must be in Normalization Form C"
  | .hyphenPair => "Label has disallowed hyphens in 3rd and 4th position"
  | .hyphenAtEnd => "Label must not start or end with a hyphen"
  | .markAtBeginning => "Label begins with an illegal combining character"
  | .nothingEncoded => "Malformed A-label, no Punycode eligible content found"
  | .hyphenAtEncodedEnd => "A-label must not end with a hyphen"
  | .malformed => "Invalid A-label"
  | .character c i label => s!"Codepoint {numbered c} at position {i} of {shown label} not allowed"
  | .context c i label => s!"Codepoint {numbered c} not allowed at position {i} in {shown label}"
  | .besideJoiner c i label =>
    s!"Unknown codepoint adjacent to joiner {numbered c} at position {i} in {shown label}"
  | .direction f => f.message

/-! ## Places of characters -/

/-- The first character that letters do not join across joins them in one of the given ways. -/
def joinsAcross (ways : List Joining) (cs : CodePoints) : Bool :=
  match (cs.dropWhile fun c => joining? c.toNat == some .transparent).head? with
  | some c => (joining? c.toNat).any ways.contains
  | none => false

/-- Whether a joiner may stand between what is before it, given last first, and what is after it. None may
follow a character of which nothing is known. -/
def mayJoin (c : CodePoint) (before after : CodePoints) : Bool :=
  match before.head? with
  | none => false
  | some b =>
    let cls := combiningClass b.toNat
    cls == virama || ((cls != 0 || Direction.ofChar b.toNat != .unknown) && c == 0x200C &&
      joinsAcross [.after, .both] before && joinsAcross [.before, .both] after)

/-- Whether a character that depends on its neighbours may stand in a place of a label. -/
def mayStand (c : CodePoint) (before after label : CodePoints) : Bool :=
  let has (first last : CodePoint) := label.any fun d => first ≤ d && d ≤ last
  if c == 0xB7 then before.head? == some 0x6C && after.head? == some 0x6C
  else if c == 0x375 then after.head?.any fun d => isGreek d.toNat
  else if c == 0x5F3 || c == 0x5F4 then before.head?.any fun d => isHebrew d.toNat
  else if c == 0x30FB then label.any fun d => d != 0x30FB && isJapanese d.toNat
  else if 0x660 ≤ c && c ≤ 0x669 then !has 0x6F0 0x6F9
  else if 0x6F0 ≤ c && c ≤ 0x6F9 then !has 0x660 0x669
  else false

/-- Checks the characters of a label, of which those in `before` are checked already. -/
def checkCharacters (label : CodePoints) : (before : CodePoints) → CodePoints → Except Fault Unit
  | _, [] => .ok ()
  | before, c :: after =>
    let position := before.length + 1
    if isValid c.toNat then checkCharacters label (c :: before) after
    else if needsJoining c.toNat then
      if mayJoin c before after then checkCharacters label (c :: before) after
      else .error (.besideJoiner c position label)
    else if needsContext c.toNat then
      if mayStand c before after label then checkCharacters label (c :: before) after
      else .error (.context c position label)
    else .error (.character c position label)

/-! ## Directions -/

/-- Whether a direction is from right to left. -/
def isRightToLeft (d : Direction) : Bool :=
  d = .right || d = .arabic || d = .arabicNumber

/-- Whether a direction is that of a digit. -/
def isNumber (d : Direction) : Bool :=
  d = .arabicNumber || d = .europeanNumber

/-- Checks the directions of a label from right to left, from a position on. `numbers` is the direction of the
digits so far, and `closed` tells whether the label may end here. -/
def checkRightToLeft : (position : Nat) → (numbers : Option Direction) → (closed : Bool) →
    List Direction → Except DirectionFault Unit
  | _, _, closed, [] => if closed then .ok () else .error .ending
  | i, numbers, closed, d :: ds =>
    if d = .left then .error (.inRightToLeft i)
    else
      let ends := d = .right || d = .arabic || isNumber d
      let closed := if ends then true else if d = .mark then closed else false
      match numbers with
      | some n =>
        if isNumber d && n != d then .error .mixedNumerals
        else checkRightToLeft (i + 1) numbers closed ds
      | none => checkRightToLeft (i + 1) (if isNumber d then some d else none) closed ds

/-- Checks the directions of a label from left to right, from a position on. `closed` tells whether the label
may end here. -/
def checkLeftToRight : (position : Nat) → (closed : Bool) → List Direction → Except DirectionFault Unit
  | _, closed, [] => if closed then .ok () else .error .ending
  | i, closed, d :: ds =>
    if isRightToLeft d then .error (.inLeftToRight i)
    else
      let ends := d = .left || d = .europeanNumber
      checkLeftToRight (i + 1) (if ends then true else if d = .mark then closed else false) ds

/-- Checks the directions of a label. One without a character from right to left has nothing to check. -/
def checkDirections (label : CodePoints) : Except DirectionFault Unit :=
  let ds := label.map fun c => Direction.ofChar c.toNat
  let known := (ds.takeWhile (· != .unknown)).length
  if known < ds.length then .error (.unknown label (known + 1))
  else if !ds.any isRightToLeft then .ok ()
  else match ds.head? with
    | some .right | some .arabic => checkRightToLeft 1 none false ds
    | some .left => checkLeftToRight 1 false ds
    | _ => .error (.first label)

/-! ## Labels -/

/-- The most characters that a name has. -/
def maxLength : Nat := 254

/-- The most characters that a label has as it is sent. -/
def maxLabelLength : Nat := 63

/-- Checks that a label is fit for a name. -/
def checkLabel (label : CodePoints) : Except Fault Unit := do
  if label.isEmpty then throw .emptyLabel
  if maxLength < label.length then throw .labelTooLong
  if !Normalization.isNormal label then throw .notNormal
  if (label.drop 2).take 2 == [0x2D, 0x2D] then throw .hyphenPair
  if label.head? == some 0x2D || label.getLast? == some 0x2D then throw .hyphenAtEnd
  if label.head?.any fun c => isMark c.toNat then throw .markAtBeginning
  checkCharacters label [] label
  (checkDirections label).mapError .direction

/-- What a label in punycode begins with. -/
def mark : List Char := ['x', 'n', '-', '-']

/-- Reads a label of ASCII characters. -/
def decodeLabel (label : List Char) : Except Fault CodePoints := do
  let small := label.map Char.toLower
  if mark.isPrefixOf small then
    let encoded := small.drop mark.length
    if encoded.isEmpty then throw .nothingEncoded
    if encoded.getLast? == some '-' then throw .hyphenAtEncodedEnd
    let decoded ← (Punycode.decode true (encoded.map fun c => UInt8.ofNat c.toNat)).mapError fun _ => .malformed
    checkLabel decoded
    return decoded
  else
    let points := small.map Char.val
    checkLabel points
    return points

/-- Writes a label. One of ASCII characters stays, but has to be fit for a name. -/
def encodeLabel (label : List Char) : Except Fault (List Char) := do
  let encoded ← if label.all fun c => c.toNat < 0x80 then do
      let _ ← decodeLabel label
      pure label
    else do
      checkLabel (label.map Char.val)
      pure (mark ++ Punycode.encode (label.map Char.val))
  if maxLabelLength < encoded.length then throw .labelTooLong
  return encoded

/-! ## Names -/

/-- The dots that may stand between labels. -/
def isDot (c : Char) : Bool :=
  c == '.' || c == '\u3002' || c == '\uff0e' || c == '\uff61'

/-- The labels of a name, and whether a dot stands at its end. -/
def labels (name : List Char) : Except Fault (List (List Char) × Bool) :=
  if maxLength < name.length then .error .domainTooLong
  else
    let found := name.splitOnP isDot
    if found == [[]] then .error .emptyDomain
    else if found.getLast? == some [] then .ok (found.dropLast, true)
    else .ok (found, false)

/-- Labels with dots between them, and perhaps one at the end. -/
def join (labels : List CodePoints) (dotted : Bool) : CodePoints :=
  [0x2E].intercalate (if dotted then labels ++ [[]] else labels)

/-- Reads a name of ASCII characters. -/
def decode (name : List Char) : Except Fault CodePoints := do
  let (found, dotted) ← labels name
  return join (← found.mapM decodeLabel) dotted

/-- Writes a name. -/
def encode (name : List Char) : Except Fault (List Char) := do
  let (found, dotted) ← labels name
  let encoded ← found.mapM encodeLabel
  let written := ['.'].intercalate (if dotted then encoded ++ [[]] else encoded)
  if (if dotted then maxLength else maxLength - 1) < written.length then throw .domainTooLong
  return written

end BlockingQuery.DomainName
