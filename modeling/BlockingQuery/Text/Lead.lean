import BlockingQuery.Text.CodePoint

/-!
# Reading bytes from the front

An encoding whose characters take several bytes is given by a function that tells what a text begins with, a
`Lead`. `leads` applies it again and again, and `Lead.read` gives the characters and the holes.
-/

namespace BlockingQuery.Text

/-- What the bytes of a text begin with, in a state of type `σ`. -/
inductive Lead (σ : Type)
  /-- So many bytes write characters, and what follows is read in the next state. -/
  | text (length : Nat) (cs : CodePoints) (next : σ)
  /-- So many bytes write nothing. -/
  | hole (length : Nat)
  /-- The text breaks off, and so many bytes are left. -/
  | broken (left : Nat)
  /-- What stands there cannot be read at all. -/
  | stuck

namespace Lead

variable {σ : Type}

/-- So many bytes that write characters, or a hole of one byte. -/
def ofOption (length : Nat) (next : σ) : Option CodePoints → Lead σ
  | some cs => .text length cs next
  | none => .hole 1

/-- What a lead writes, with a hole for what writes no character. -/
def read : Lead σ → List (Option CodePoint)
  | .text _ cs _ => cs.map some
  | _ => [none]

end Lead

/-- All leads of a text, after `skip` bytes that belong to a lead before. -/
def leads {σ : Type} (lead : σ → List UInt8 → Lead σ) : (state : σ) → (skip : Nat) → List UInt8 → List (Lead σ)
  | _, _, [] => []
  | s, n + 1, _ :: bs => leads lead s n bs
  | s, 0, b :: bs =>
    match lead s (b :: bs) with
    | .text n cs next => .text n cs next :: leads lead next (n - 1) bs
    | .hole n => .hole n :: leads lead s (n - 1) bs
    | last => [last]

/-- The code points of one character. -/
def points (c : Option Char) : Option CodePoints :=
  c.map fun c => [c.val]

/-- A code with ASCII in one byte and all else in two. -/
def leadOfPairs (pair? : (a b : Nat) → Option CodePoints) : Unit → List UInt8 → Lead Unit
  | _, a :: rest =>
    if a < 0x80 then .text 1 [a.toUInt32] ()
    else match rest with
      | b :: _ => .ofOption 2 () (pair? a.toNat b.toNat)
      | [] => .broken 1
  | _, [] => .broken 0

end BlockingQuery.Text
