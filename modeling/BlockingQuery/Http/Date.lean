import BlockingQuery.Text.Digit

/-!
# Dates

Dates in header fields. `Date.seconds` reads one as the seconds since the beginning of 1970. The usual form is
`Sun, 06 Nov 1994 08:49:37 GMT`; other forms leave out the day of the week or the time, join the parts with
hyphens, have years of two digits, or name another time zone by its distance.
-/

namespace BlockingQuery.Date

open Text

/-- Why a date cannot be read at all. -/
inductive Fault
  /-- A date in the usual form names a month that there is not. -/
  | noMonth
  deriving DecidableEq, Repr

/-- The names of the months. -/
def months : List String :=
  ["jan", "feb", "mar", "apr", "may", "jun", "jul", "aug", "sep", "oct", "nov", "dec"]

/-- The number of the month of a name. -/
def month? (name : List Char) : Option Nat :=
  (months.findIdx? (· == String.ofList (name.map Char.toLower))).map (· + 1)

/-! ## Counting -/

/-- The days from the beginning of 1970 to that of a month. Years are counted from March, so that a leap day is
the last day of its year. -/
def daysBefore (year month : Nat) : Int :=
  let y : Int := if month ≤ 2 then (year : Int) - 1 else year
  let m : Int := ((month : Int) + 9) % 12
  365 * y + y / 4 - y / 100 + y / 400 + (153 * m + 2) / 5 - 719468

/-- A day and a time of day. -/
structure Moment where
  year : Nat
  month : Nat
  day : Nat
  hour : Nat := 0
  minute : Nat := 0
  second : Nat := 0

/-- The seconds since the beginning of 1970, if there is such a moment after it. -/
def Moment.seconds? (m : Moment) : Option Int :=
  if 1970 ≤ m.year ∧ 1 ≤ m.month ∧ m.month ≤ 12 ∧ 1 ≤ m.day ∧ m.day ≤ 31 ∧ m.hour ≤ 24 ∧ m.minute ≤ 59 ∧
      m.second ≤ 61 then
    some ((((daysBefore m.year m.month + m.day - 1) * 24 + m.hour) * 60 + m.minute) * 60 + m.second)
  else none

/-! ## The usual form -/

/-- Whether a character is of the class that a sign of a pattern stands for: `0` for a digit, `a` for a small
letter, `D` and `M` for what the days and the months begin with, any other sign for itself. -/
def fits (sign c : Char) : Bool :=
  match sign with
  | '0' => c.isDigit
  | 'a' => 'a' ≤ c && c ≤ 'z'
  | 'D' => ['S', 'M', 'T', 'W', 'F'].contains c
  | 'M' => ['J', 'F', 'M', 'A', 'S', 'O', 'N', 'D'].contains c
  | sign => sign == c

/-- The usual form. The letters of the time zone stand for themselves. -/
def pattern : List Char :=
  "Daa, 00 Maa 0000 00:00:00 ".toList

/-- Whether a text is in the usual form. -/
def isUsual (cs : List Char) : Bool :=
  cs.length == pattern.length + 3 && cs.drop pattern.length == ['G', 'M', 'T'] &&
    (pattern.zip cs).all fun (sign, c) => fits sign c

/-- The number in a part of a text. -/
def numberAt (start length : Nat) (cs : List Char) : Nat :=
  ofDigits (((cs.drop start).take length).filterMap asciiDigit?)

/-- The seconds of a date in the usual form. -/
def usual (cs : List Char) : Except Fault (Option Int) :=
  match month? ((cs.drop 8).take 3) with
  | none => .error .noMonth
  | some month =>
    .ok (Moment.seconds? {
      year := numberAt 12 4 cs, month, day := numberAt 5 2 cs, hour := numberAt 17 2 cs,
      minute := numberAt 20 2 cs, second := numberAt 23 2 cs })

/-! ## Other forms -/

/-- An ASCII space. -/
def isSpace (c : Char) : Bool :=
  c == ' ' || (0x09 ≤ c.toNat && c.toNat ≤ 0x0D)

/-- A character of a word. -/
def isWord (c : Char) : Bool :=
  c.isAlphanum || c == '_'

/-- The text after spaces. -/
def skip (cs : List Char) : List Char :=
  cs.dropWhile isSpace

/-- The text without the name of a day of the week at its beginning. -/
def skipDay (cs : List Char) : List Char :=
  let name := String.ofList ((cs.take 3).map Char.toLower)
  if ["sun", "mon", "tue", "wed", "thu", "fri", "sat"].contains name then
    match (cs.drop 3).dropWhile Char.isAlpha with
    | ',' :: rest => skip rest
    | rest => skip rest
  else cs

/-- What follows a gap between the parts of a date: spaces, or one hyphen, slash or `other`. -/
def gap? (others : List Char) : List Char → Option (List Char)
  | [] => none
  | c :: cs => if isSpace c then some (skip cs) else if others.contains c then some cs else none

/-- A number of at most so many digits, and the rest. -/
def number? (least most : Nat) (cs : List Char) : Option (Nat × List Char) :=
  let ds := (cs.take most).takeWhile Char.isDigit
  if ds.length < least then none
  else some (ofDigits (ds.filterMap asciiDigit?), cs.drop ds.length)

/-- A colon and two digits. -/
def sixtieth? : List Char → Option (Nat × List Char)
  | ':' :: cs => number? 2 2 cs
  | _ => none

/-- The time of day, if one follows, and the rest. -/
def clock (cs : List Char) : (Nat × Nat × Nat) × List Char :=
  let found : Option ((Nat × Nat × Nat) × List Char) := do
    let rest ← gap? [':'] cs
    let (hour, rest) ← number? 1 2 rest
    let (minute, rest) ← sixtieth? rest
    match sixtieth? rest with
    | some (second, rest) => return ((hour, minute, second), rest)
    | none => return ((hour, minute, 0), rest)
  found.getD ((0, 0, 0), cs)

/-- Whether a text begins with a mark of the half of the day. -/
def beginsWithHalf (cs : List Char) : Bool :=
  match cs with
  | a :: m :: rest =>
    (a.toLower == 'a' || a.toLower == 'p') && m.toLower == 'm' && !rest.head?.any isWord
  | _ => false

/-- The name or the distance of a time zone, if one follows, and the rest. -/
def zone (cs : List Char) : Option (List Char) × List Char :=
  let letters := cs.takeWhile Char.isAlpha
  if !letters.isEmpty then
    if beginsWithHalf cs then (none, cs) else (some letters, skip (cs.drop letters.length))
  else
    let signed := cs.head? == some '+' || cs.head? == some '-'
    let digits := ((if signed then cs.drop 1 else cs).take 4).takeWhile Char.isDigit
    let length := digits.length + if signed then 1 else 0
    if digits.length < 2 then (none, cs) else (some (cs.take length), skip (cs.drop length))

/-- Whether nothing follows but a word in parentheses. -/
def isEnd (cs : List Char) : Bool :=
  match cs with
  | [] => true
  | '(' :: rest =>
    let word := rest.takeWhile isWord
    match rest.drop word.length with
    | ')' :: rest => !word.isEmpty && (skip rest).isEmpty
    | _ => false
  | _ => false

/-- The seconds by which a time zone is ahead. -/
def distance? (zone : List Char) : Option Int :=
  if ["GMT", "UTC", "UT", "Z"].contains (String.ofList (zone.map Char.toUpper)) then some 0
  else
    let negative := zone.head? == some '-'
    let digits := if negative || zone.head? == some '+' then zone.drop 1 else zone
    let hours := if digits.length = 3 then 1 else 2
    if digits.isEmpty || !digits.all Char.isDigit then none
    else
      let n : Int := 3600 * numberAt 0 hours digits + 60 * numberAt hours 2 digits
      some (if negative then -n else n)

/-- The year of fewer than four digits that is nearest to the year `present`. -/
def fullYear (present year : Nat) : Nat :=
  if 1000 ≤ year then year
  else
    let y := year + present - present % 100
    let ahead : Int := (present % 100 : Nat) - (year : Int)
    if 50 < ahead then y + 100 else if ahead < -50 then y - 100 else y

/-- The number of a month that is given by its name or its number. -/
def monthOf? (cs : List Char) : Option Nat :=
  match month? cs with
  | some m => some m
  | none => if !cs.isEmpty && cs.all Char.isDigit then some (ofDigits (cs.filterMap asciiDigit?)) else none

/-- The seconds of a date in another form. -/
def other (present : Nat) (cs : List Char) : Option Int := do
  let (day, rest) ← number? 1 2 (skipDay (skip cs))
  let rest ← gap? ['-', '/'] rest
  let name := rest.takeWhile isWord
  if name.isEmpty then none
  let rest ← gap? ['-', '/'] (rest.drop name.length)
  let (year, rest) ← number? 1 rest.length rest
  let ((hour, minute, second), rest) := clock rest
  let (zone, rest) := zone (skip rest)
  if !isEnd rest || 9999 < year then none
  let month ← monthOf? name
  let seconds ← Moment.seconds? { year := fullYear present year, month, day, hour, minute, second }
  return seconds - (← distance? (zone.getD ['U', 'T', 'C']))

/-- The seconds of a date, if it is one. -/
def seconds (present : Nat) (cs : List Char) : Except Fault (Option Int) :=
  if isUsual cs then usual cs else .ok (other present cs)

end BlockingQuery.Date
