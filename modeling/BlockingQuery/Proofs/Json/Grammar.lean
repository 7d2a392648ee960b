import BlockingQuery.Json.Decode
import Mathlib.Data.List.Basic

/-!
# The grammar of JSON

What it is to be JSON, apart from how it is read. Each relation says that a text begins with
something, which stands for a value, and what follows it. `Json.Writes` is about a whole text, and
`Json.Encodes` about the bytes of one.

The grammar is that of JSON, and beyond it the words `NaN`, `Infinity` and `-Infinity` are values.
What an implementation may limit has no limit here: how deep containers stand in one another, and
how many digits a number has.
-/

namespace BlockingQuery.Json

open Text

namespace Grammar

/-- The spaces of JSON. -/
def isSpace (c : CodePoint) : Bool :=
  c == 0x20 || c == 0x09 || c == 0x0A || c == 0x0D

/-- Spaces, or none. -/
inductive Spaces : CodePoints → CodePoints → Prop
  | none {rest : CodePoints} : Spaces rest rest
  | more {c : CodePoint} {cs rest : CodePoints} :
    isSpace c = true → Spaces cs rest → Spaces (c :: cs) rest

/-- The code points of a string and its closing mark, each with the note whether it was written by
its number. -/
inductive Units : CodePoints → List (CodePoint × Bool) → CodePoints → Prop
  | close {rest : CodePoints} : Units (0x22 :: rest) [] rest
  | plain {c : CodePoint} {cs rest : CodePoints} {us : List (CodePoint × Bool)} :
    0x20 ≤ c → c ≠ 0x22 → c ≠ 0x5C → Units cs us rest → Units (c :: cs) ((c, false) :: us) rest
  | letter {e c : CodePoint} {cs rest : CodePoints} {us : List (CodePoint × Bool)} :
    escaped? e = some c → Units cs us rest → Units (0x5C :: e :: cs) ((c, false) :: us) rest
  | number {a b c d u : CodePoint} {cs rest : CodePoints} {us : List (CodePoint × Bool)} :
    hex4? a b c d = some u → Units cs us rest →
    Units (0x5C :: 0x75 :: a :: b :: c :: d :: cs) ((u, true) :: us) rest

/-- The value of a digit. -/
def digit (c : CodePoint) : Nat :=
  c.toNat - 0x30

/-- One digit or more. -/
inductive Digits : CodePoints → List Nat → CodePoints → Prop
  | one {c : CodePoint} {rest : CodePoints} : isDigit c = true → Digits (c :: rest) [digit c] rest
  | more {c : CodePoint} {cs rest : CodePoints} {ds : List Nat} :
    isDigit c = true → Digits cs ds rest → Digits (c :: cs) (digit c :: ds) rest

/-- A zero, or digits that do not begin with one. -/
inductive Whole : CodePoints → List Nat → CodePoints → Prop
  | zero {rest : CodePoints} : Whole (0x30 :: rest) [0] rest
  | digits {cs rest : CodePoints} {ds : List Nat} :
    cs.head? ≠ some 0x30 → Digits cs ds rest → Whole cs ds rest

/-- A fraction, or none. -/
inductive Fraction : CodePoints → List Nat → CodePoints → Prop
  | absent {rest : CodePoints} : Fraction rest [] rest
  | present {cs rest : CodePoints} {ds : List Nat} :
    Digits cs ds rest → Fraction (0x2E :: cs) ds rest

/-- A minus sign, or none. -/
inductive Minus : CodePoints → Bool → CodePoints → Prop
  | absent {rest : CodePoints} : Minus rest false rest
  | present {rest : CodePoints} : Minus (0x2D :: rest) true rest

/-- A sign in front of an exponent, or none. -/
inductive Sign : CodePoints → Bool → CodePoints → Prop
  | minus {cs rest : CodePoints} {negative : Bool} : Minus cs negative rest → Sign cs negative rest
  | plus {rest : CodePoints} : Sign (0x2B :: rest) false rest

/-- An exponent, or none. -/
inductive Exponent : CodePoints → Option Int → CodePoints → Prop
  | absent {rest : CodePoints} : Exponent rest none rest
  | present {e : CodePoint} {cs body rest : CodePoints} {negative : Bool} {ds : List Nat} :
    e = 0x65 ∨ e = 0x45 → Sign cs negative body → Digits body ds rest →
    Exponent (e :: cs) (some (Exact.signed negative (ofDigits ds))) rest

/-- The value of a number: an integer unless it has a fraction or an exponent. -/
def numberOf (negative : Bool) (whole part : List Nat) (power : Option Int) : Json :=
  if part.isEmpty && power.isNone then .int (Exact.signed negative (ofDigits whole))
  else .float (Binary64.ofDecimal negative (ofDigits (whole ++ part))
    (power.getD 0 - (part.length : Int)))

/-- A number. -/
inductive Number : CodePoints → Json → CodePoints → Prop
  | of {cs cs₁ cs₂ cs₃ rest : CodePoints} {negative : Bool} {whole part : List Nat}
    {power : Option Int} :
    Minus cs negative cs₁ → Whole cs₁ whole cs₂ → Fraction cs₂ part cs₃ →
    Exponent cs₃ power rest → Number cs (numberOf negative whole part power) rest

/-- The members of an object with these members written one after the other. -/
def membersOf (before members : List (CodePoints × Json)) : List (CodePoints × Json) :=
  members.foldl (fun ms m => putMember m.1 m.2 ms) before

mutual

/-- A value. -/
inductive Value : CodePoints → Json → CodePoints → Prop
  | word {w rest : CodePoints} {v : Json} : (w, v) ∈ words → Value (w ++ rest) v rest
  | number {cs rest : CodePoints} {v : Json} : Number cs v rest → Value cs v rest
  | string {cs rest : CodePoints} {us : List (CodePoint × Bool)} :
    Units cs us rest → Value (0x22 :: cs) (.str (joinNumbered us)) rest
  | noItems {cs rest : CodePoints} : Spaces cs (0x5D :: rest) → Value (0x5B :: cs) (.arr []) rest
  | items {cs cs₁ rest : CodePoints} {vs : List Json} :
    Spaces cs cs₁ → Items cs₁ vs rest → Value (0x5B :: cs) (.arr vs) rest
  | noMembers {cs rest : CodePoints} : Spaces cs (0x7D :: rest) → Value (0x7B :: cs) (.obj []) rest
  | members {cs cs₁ rest : CodePoints} {ms : List (CodePoints × Json)} :
    Spaces cs cs₁ → Members cs₁ ms rest → Value (0x7B :: cs) (.obj (membersOf [] ms)) rest

/-- The items of an array, and the bracket that closes it. -/
inductive Items : CodePoints → List Json → CodePoints → Prop
  | last {cs cs₁ rest : CodePoints} {v : Json} :
    Value cs v cs₁ → Spaces cs₁ (0x5D :: rest) → Items cs [v] rest
  | more {cs cs₁ cs₂ cs₃ rest : CodePoints} {v : Json} {vs : List Json} :
    Value cs v cs₁ → Spaces cs₁ (0x2C :: cs₂) → Spaces cs₂ cs₃ → Items cs₃ vs rest →
    Items cs (v :: vs) rest

/-- The members of an object, and the brace that closes it. -/
inductive Members : CodePoints → List (CodePoints × Json) → CodePoints → Prop
  | last {cs cs₁ cs₂ cs₃ cs₄ rest : CodePoints} {us : List (CodePoint × Bool)} {v : Json} :
    Units cs us cs₁ → Spaces cs₁ (0x3A :: cs₂) → Spaces cs₂ cs₃ → Value cs₃ v cs₄ →
    Spaces cs₄ (0x7D :: rest) → Members (0x22 :: cs) [(joinNumbered us, v)] rest
  | more {cs cs₁ cs₂ cs₃ cs₄ cs₅ cs₆ rest : CodePoints} {us : List (CodePoint × Bool)} {v : Json}
    {ms : List (CodePoints × Json)} :
    Units cs us cs₁ → Spaces cs₁ (0x3A :: cs₂) → Spaces cs₂ cs₃ → Value cs₃ v cs₄ →
    Spaces cs₄ (0x2C :: cs₅) → Spaces cs₅ cs₆ → Members cs₆ ms rest →
    Members (0x22 :: cs) ((joinNumbered us, v) :: ms) rest

end

end Grammar

open Grammar

/-- A text writes a value: it is the value, with spaces around it. -/
def Writes (cs : CodePoints) (v : Json) : Prop :=
  ∃ cs₁ cs₂, Spaces cs cs₁ ∧ Value cs₁ v cs₂ ∧ Spaces cs₂ []

/-- The text that bytes are in their encoding, if they are one. -/
def text? (bs : List UInt8) : Option CodePoints :=
  (detect bs).1.decode? (detect bs).2

/-- Bytes encode a value: they are a text that writes it. -/
def Encodes (bs : List UInt8) (v : Json) : Prop :=
  ∃ cs, text? bs = some cs ∧ Writes cs v

end BlockingQuery.Json
