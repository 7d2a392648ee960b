import BlockingQuery.Number.Binary64
import BlockingQuery.Text.Blank
import BlockingQuery.Text.Digit

/-!
# Reading numbers

`Numeral.int?` and `Numeral.float?` read a whole text as a number. Both allow blanks around the numeral, a
sign, the decimal digits of any script, and single underscores between digits. `Numeral.natural` is the
number of a list of digits, of which there may be at most `digitLimit`. `Numeral.written` is the text of an
integer, within the same limit.
-/

namespace BlockingQuery.Numeral

open Text

/-- The most digits that an integer may be written with. -/
def digitLimit : Nat := 4300

/-- An integer is written with too many digits. -/
structure TooLong where
  digits : Nat
  deriving DecidableEq, Repr

def TooLong.message (e : TooLong) : String :=
  s!"Exceeds the limit ({digitLimit} digits) for integer string conversion: value has {e.digits} digits; " ++
    "use sys.set_int_max_str_digits() to increase the limit"

/-- The number that a list of digits writes. -/
def natural (ds : List Nat) : Except TooLong Nat :=
  if digitLimit < ds.length then .error ⟨ds.length⟩ else .ok (ofDigits ds)

/-- An integer has too many digits to be written. -/
structure TooGreat where
  deriving DecidableEq, Repr

def TooGreat.message (_ : TooGreat) : String :=
  s!"Exceeds the limit ({digitLimit} digits) for integer string conversion; " ++
    "use sys.set_int_max_str_digits() to increase the limit"

/-- The decimal text of an integer, if it has no more digits than may be written. -/
def written (n : Int) : Except TooGreat (List Char) :=
  if digitLimit < (digits n.natAbs).length then .error {} else .ok (decimal n)

/-- Blanks that may stand around a numeral: all but the information separators. -/
def isSpace (c : Char) : Bool :=
  isBlank c && !(0x1C ≤ c.toNat && c.toNat ≤ 0x1F)

/-- The text without the space around it, its digits turned into ASCII ones. -/
def plain (cs : List Char) : List Char :=
  ((cs.dropWhile isSpace).reverse.dropWhile isSpace).reverse.map fun c =>
    match digit? c with
    | some d => Nat.digitChar d
    | none => c

/-- Whether the text begins with a minus sign, and what follows the sign. -/
def splitSign : List Char → Bool × List Char
  | '-' :: cs => (true, cs)
  | '+' :: cs => (false, cs)
  | cs => (false, cs)

/-- One or more digits, with single underscores between them where they please. -/
def grouped? : List Char → Option (List Nat)
  | [] => none
  | [c] => (asciiDigit? c).map ([·])
  | c :: '_' :: cs => do return (← asciiDigit? c) :: (← grouped? cs)
  | c :: cs => do return (← asciiDigit? c) :: (← grouped? cs)

/-- An integer. -/
def int? (cs : List Char) : Option Int :=
  let (negative, body) := splitSign (plain cs)
  match (grouped? body).map natural with
  | some (.ok n) => some (Exact.signed negative n)
  | _ => none

/-- The text without its underscores, if each of them stands between two digits. -/
def ungrouped? : (afterDigit : Bool) → List Char → Option (List Char)
  | _, [] => some []
  | true, '_' :: c :: cs => if c.isDigit then (ungrouped? true cs).map (c :: ·) else none
  | _, '_' :: _ => none
  | _, c :: cs => (ungrouped? c.isDigit cs).map (c :: ·)

/-- The digits that a text begins with, and the rest. -/
def digitRun (cs : List Char) : List Nat × List Char :=
  ((cs.takeWhile Char.isDigit).filterMap asciiDigit?, cs.dropWhile Char.isDigit)

/-- The exponent after the digits of a decimal numeral: nothing, or a mark and an integer. -/
def exponent? : List Char → Option Int
  | [] => some 0
  | e :: cs =>
    if e = 'e' ∨ e = 'E' then
      let (negative, body) := splitSign cs
      match digitRun body with
      | ([], _) => none
      | (ds, []) => some (Exact.signed negative (ofDigits ds))
      | (_, _ :: _) => none
    else none

/-- A decimal numeral without a sign: digits with or without a point among or beside them, and an
exponent. -/
def decimal? (negative : Bool) (cs : List Char) : Option Float :=
  let (whole, rest) := digitRun cs
  let (part, rest) := match rest with
    | '.' :: rest => digitRun rest
    | rest => ([], rest)
  if whole.isEmpty && part.isEmpty then none
  else (exponent? rest).map fun e =>
    Binary64.ofDecimal negative (ofDigits (whole ++ part)) (e - (part.length : Int))

/-- A double. Names of infinity and of what is no number may be in either case. -/
def float? (cs : List Char) : Option Float :=
  let (negative, body) := splitSign (plain cs)
  let word := String.ofList (body.map Char.toLower)
  if word = "inf" ∨ word = "infinity" then some (Binary64.infinity negative)
  else if word = "nan" then some Binary64.nan
  else (ungrouped? false body).bind (decimal? negative)

end BlockingQuery.Numeral
