/-!
# Code pages

A `CodePage` is an encoding with one byte per character. Most pages agree with ASCII below 0x80, and their
table is the text of the other half.
-/

namespace BlockingQuery.Text

/-- The characters of ASCII. -/
def ascii : String :=
  String.ofList ((List.range 0x80).map Char.ofNat)

/-- A table of 256 characters, U+FFFD where a byte stands for none. -/
structure CodePage where
  /-- The names it goes by, with underscores for hyphens and spaces. -/
  names : List String
  /-- The characters of the bytes below 0x80. -/
  lower : String := ascii
  /-- The characters of the bytes from 0x80 on. -/
  upper : String
  deriving DecidableEq, Repr

namespace CodePage

/-- The control characters from U+0080 to U+009F. -/
def controls : String :=
  String.ofList ((List.range 0x20).map fun i => Char.ofNat (0x80 + i))

/-- The character of a byte, if it stands for one. -/
def char? (p : CodePage) (b : UInt8) : Option Char :=
  let found := if b < 0x80 then p.lower.toList[b.toNat]? else p.upper.toList[b.toNat - 0x80]?
  found.filter (· != '\uFFFD')

end CodePage

end BlockingQuery.Text
