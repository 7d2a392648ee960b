import BlockingQuery.Text.CodePoint

/-!
# UTF-7

ASCII in which a plus sign opens a shifted part: UTF-16 units in digits of six bits, up to the first character
that is no such digit.
-/

namespace BlockingQuery.Text.Utf7

/-- Where a reader stands. -/
inductive State
  /-- Between shifted parts. -/
  | plain
  /-- After the plus sign of a shifted part. -/
  | opened
  /-- In a shifted part: the bits that make no unit yet, how many they are, and the first half of a pair. -/
  | shifted (bits : UInt32) (count : Nat) (high : Option CodePoint)

/-- The value of a digit of six bits. -/
def digit? (b : UInt8) : Option UInt32 :=
  if 0x41 ≤ b && b ≤ 0x5A then some (b - 0x41).toUInt32
  else if 0x61 ≤ b && b ≤ 0x7A then some (b - 0x47).toUInt32
  else if 0x30 ≤ b && b ≤ 0x39 then some (b + 0x04).toUInt32
  else if b == 0x2B then some 62
  else if b == 0x2F then some 63
  else none

/-- A byte between shifted parts. -/
def plain (b : UInt8) : List (Option CodePoint) × State :=
  if b == 0x2B then ([], .opened)
  else if b < 0x80 then ([some b.toUInt32], .plain)
  else ([none], .plain)

/-- A unit after the first half of a pair, if there is one: what it writes, and the half that it is. -/
def unit (high : Option CodePoint) (u : CodePoint) : List (Option CodePoint) × Option CodePoint :=
  match high with
  | some h =>
    if isLowSurrogate u then ([some (joinSurrogates h u)], none)
    else if isHighSurrogate u then ([some h], some u)
    else ([some h, some u], none)
  | none => if isHighSurrogate u then ([], some u) else ([some u], none)

/-- A digit in a shifted part. -/
def accept (bits : UInt32) (count : Nat) (high : Option CodePoint) (d : UInt32) :
    List (Option CodePoint) × State :=
  let bits := bits * 64 + d
  let count := count + 6
  if count < 16 then ([], .shifted bits count high)
  else
    let scale := UInt32.ofNat (Nat.pow 2 (count - 16))
    let (found, high) := unit high (bits / scale)
    (found, .shifted (bits % scale) (count - 16) high)

/-- Whether the bits that are left at the end of a shifted part are no padding. -/
def isPartial (bits : UInt32) (count : Nat) : Bool :=
  6 ≤ count || bits != 0

/-- The byte that ends a shifted part. A hyphen belongs to the part, and if the part is not complete, so does
any other byte. The half of a pair is kept only before what stands for itself. -/
def leave (bits : UInt32) (count : Nat) (high : Option CodePoint) (b : UInt8) :
    List (Option CodePoint) × State :=
  if isPartial bits count then ([none], .plain)
  else
    let (found, next) := if b == 0x2D then ([], .plain) else plain b
    (if b < 0x80 then high.toList.map some ++ found else found, next)

/-- One byte: what it writes, and where the reader stands after it. -/
def step (b : UInt8) : State → List (Option CodePoint) × State
  | .plain => plain b
  | .opened =>
    match digit? b with
    | some d => accept 0 0 none d
    | none => if b == 0x2D then ([some 0x2B], .plain) else ([none], .plain)
  | .shifted bits count high =>
    match digit? b with
    | some d => accept bits count high d
    | none => leave bits count high b

/-- The code points of a text, and the holes in it. A shifted part that is not complete leaves one. -/
def scan : State → List UInt8 → List (Option CodePoint)
  | .shifted bits count high, [] => if isPartial bits count || high.isSome then [none] else []
  | _, [] => []
  | s, b :: bs =>
    let (found, next) := step b s
    found ++ scan next bs

end BlockingQuery.Text.Utf7
