/-!
# Texts of code points

A JSON text may name half of a surrogate pair without the other half, which no `Char` is. Such texts are
lists of code points. `ofString` and `toString` pass between them and strings; only a text with a lone
surrogate changes on the way, each of them becoming U+FFFD.
-/

namespace BlockingQuery.Text

/-- A number below 0x110000 in any text that was read from bytes. -/
abbrev CodePoint := UInt32

/-- A text whose surrogates need not stand in pairs. -/
abbrev CodePoints := List CodePoint

/-- The first half of a surrogate pair. -/
def isHighSurrogate (c : CodePoint) : Bool :=
  0xD800 ≤ c && c ≤ 0xDBFF

/-- The second half of a surrogate pair. -/
def isLowSurrogate (c : CodePoint) : Bool :=
  0xDC00 ≤ c && c ≤ 0xDFFF

/-- Either half of a surrogate pair. -/
def isSurrogate (c : CodePoint) : Bool :=
  0xD800 ≤ c && c ≤ 0xDFFF

/-- The code point that two halves of a surrogate pair stand for. -/
def joinSurrogates (high low : CodePoint) : CodePoint :=
  0x10000 + (high - 0xD800) * 0x400 + (low - 0xDC00)

namespace CodePoints

/-- The code points of a string. -/
def ofString (s : String) : CodePoints :=
  s.toList.map Char.val

/-- The string of a text, a code point that is no character becoming U+FFFD. -/
def toString (t : CodePoints) : String :=
  String.ofList (t.map fun c => if c.toNat.isValidChar then Char.ofNat c.toNat else '\uFFFD')

@[simp] theorem toString_ofString (s : String) : toString (ofString s) = s := by
  have h : ∀ c : Char, (if c.val.toNat.isValidChar then Char.ofNat c.val.toNat else '\uFFFD') = c := by
    intro c
    rw [if_pos c.valid]
    exact Char.ofNat_toNat c
  simp only [toString, ofString, List.map_map, Function.comp_def, h, List.map_id', String.ofList_toList]

end CodePoints

end BlockingQuery.Text
