import BlockingQuery.Compression.Bits

/-!
# Prefix codes

A `PrefixCode` is given by the lengths of its code words: shorter words come first, words of one length in the
order of their symbols. `PrefixCode.ofLengths?` refuses lengths that leave no room for all words, and lengths
that leave words without a symbol; `PrefixCode.symbol?` reads a word.
-/

namespace BlockingQuery

/-- How many code words there are of the lengths one, two and so on, and their symbols in order. -/
structure PrefixCode where
  counts : List Nat
  symbols : Array Nat

namespace PrefixCode

/-- The symbols whose words have a length. -/
def symbolsOf (lengths : List Nat) (l : Nat) : List Nat :=
  lengths.zipIdx.filterMap fun (m, symbol) => if m = l then some symbol else none

/-- The words of the greatest length that no shorter word begins, if the shorter ones leave room for all. -/
def spare? : (room : Nat) → (counts : List Nat) → Option Nat
  | room, [] => some room
  | room, c :: counts => if 2 * room < c then none else spare? (2 * room - c) counts

/-- The code of the given lengths, zero for a symbol without a word. A code without words is one, and so is a
single word of one bit if the code need not be `complete`. -/
def ofLengths? (complete : Bool) (lengths : List Nat) : Option PrefixCode :=
  let longest := lengths.foldl max 0
  let words := (List.range longest).map fun i => symbolsOf lengths (i + 1)
  let code := { counts := words.map List.length, symbols := words.flatten.toArray }
  match longest, spare? 1 code.counts with
  | 0, _ => some code
  | _, none => none
  | 1, some spare => if complete && 0 < spare then none else some code
  | _, some spare => if 0 < spare then none else some code

/-- Reads a word bit by bit. Of the words as long as those read so far, `first` is the number of the first one
that no shorter word begins, and `before` counts the symbols of shorter words. -/
def read (symbols : Array Nat) : (counts : List Nat) → (word first before : Nat) → Bits →
    Option (Option Nat × Bits)
  | [], _, _, _, b => some (none, b)
  | c :: counts, word, first, before, b => do
    let (bit, b) ← b.next?
    let word := 2 * word + bit.toNat
    let first := 2 * first
    if word < first + c then return (symbols[before + (word - first)]?, b)
    read symbols counts word (first + c) (before + c) b

/-- Reads the symbol of the next word, if the bits do not break off. Words without a symbol there are only in
codes with at most one word; they take one bit. -/
def symbol? (p : PrefixCode) (b : Bits) : Option (Option Nat × Bits) :=
  read p.symbols (if p.counts.isEmpty then [0] else p.counts) 0 0 0 b

end PrefixCode

end BlockingQuery
