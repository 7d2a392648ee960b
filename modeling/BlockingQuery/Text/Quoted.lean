import BlockingQuery.Text.CodePoint
import BlockingQuery.Text.Printable

/-!
# Quoted text

`quoted` shows a text inside quotation marks: single ones, or double ones if the text holds single and
no double quotation marks. The mark in use, the backslash and the unprintable code points are escaped.
-/

namespace BlockingQuery.Text

/-- `width` hexadecimal digits of a number, the small ones for ten and above. -/
def hexDigits (width n : Nat) : List Char :=
  (List.range width).reverse.map fun i => Nat.digitChar ((n >>> (4 * i)) % 16)

namespace CodePoints

/-- A code point as it stands between the marks `mark`. -/
def quotedPoint (mark c : CodePoint) : CodePoints :=
  let escape (letter : Char) (digits : List Char) : CodePoints := ('\\' :: letter :: digits).map Char.val
  if c == mark || c == '\\'.val then ['\\'.val, c]
  else if c == '\n'.val then escape 'n' []
  else if c == '\r'.val then escape 'r' []
  else if c == '\t'.val then escape 't' []
  else if 0x20 ≤ c && c < 0x7F then [c]
  else if isPrintable c.toNat then [c]
  else if c < 0x100 then escape 'x' (hexDigits 2 c.toNat)
  else if c < 0x10000 then escape 'u' (hexDigits 4 c.toNat)
  else escape 'U' (hexDigits 8 c.toNat)

/-- The quotation mark chosen for a text. -/
def quotationMark (t : CodePoints) : CodePoint :=
  if t.contains 0x27 && !t.contains 0x22 then 0x22 else 0x27

/-- A text inside quotation marks. -/
def quoted (t : CodePoints) : CodePoints :=
  let mark := quotationMark t
  mark :: t.flatMap (quotedPoint mark) ++ [mark]

end CodePoints

/-- A string inside quotation marks. -/
def quoted (s : String) : String :=
  (CodePoints.ofString s).quoted.toString

end BlockingQuery.Text
