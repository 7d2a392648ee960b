import BlockingQuery.Text.CodePoint
import BlockingQuery.Text.Composition
import BlockingQuery.Text.Mark

/-!
# Normal form

A letter with marks can be written in several ways. `Normalization.normal` is the one way in which letters
are composed with their marks as far as there are composed characters: characters come apart, the marks on
each letter are put in order, and what can be composed is. Syllables of Hangul are composed of their letters by
a rule.
-/

namespace BlockingQuery.Text.Normalization

/-! ## Hangul -/

def firstSyllable : Nat := 0xAC00
def firstLead : Nat := 0x1100
def firstVowel : Nat := 0x1161

/-- The number before that of the first consonant that ends a syllable. -/
def noTail : Nat := 0x11A7

def leads : Nat := 19
def vowels : Nat := 21

/-- The ways in which a syllable may end, no consonant being one of them. -/
def tails : Nat := 28

/-- The letters of a syllable. -/
def letters (c : Nat) : List Nat :=
  let n := c - firstSyllable
  let tail := n % tails
  [firstLead + n / tails / vowels, firstVowel + n / tails % vowels] ++
    if tail = 0 then [] else [noTail + tail]

/-- Whether a character is a syllable of Hangul. -/
def isSyllable (c : Nat) : Bool :=
  firstSyllable ≤ c && c < firstSyllable + leads * vowels * tails

/-- The syllable that two characters make: two letters, or a syllable without an end and a letter. -/
def syllable? (a b : Nat) : Option Nat :=
  if firstLead ≤ a && a < firstLead + leads && firstVowel ≤ b && b < firstVowel + vowels then
    some (firstSyllable + ((a - firstLead) * vowels + (b - firstVowel)) * tails)
  else if isSyllable a && (a - firstSyllable) % tails == 0 && noTail < b && b < noTail + tails then
    some (a + (b - noTail))
  else none

/-! ## Coming apart -/

/-- The characters that a character comes apart into. A character comes apart at most so many times. -/
def apart : (depth : Nat) → Nat → List Nat
  | 0, c => [c]
  | n + 1, c =>
    if isSyllable c then letters c
    else match (compositions ++ splits).lookup c, renamings.lookup c with
      | some (a, b), _ => apart n a ++ apart n b
      | none, some a => apart n a
      | none, none => [c]

/-- How often a character may come apart. -/
def maxDepth : Nat := 8

/-- Puts a character behind others, which are given last first: a mark before the marks of greater classes at
the end. -/
def place (c : Nat) : List Nat → List Nat
  | [] => [c]
  | d :: before =>
    if combiningClass c ≠ 0 ∧ combiningClass c < combiningClass d then d :: place c before
    else c :: d :: before

/-- The text with all characters come apart and the marks in order. -/
def decomposed (cs : List Nat) : List Nat :=
  ((cs.flatMap (apart maxDepth)).foldl (fun before c => place c before) []).reverse

/-! ## Composing -/

/-- The character that two make. -/
def composed? (a b : Nat) : Option Nat :=
  match syllable? a b with
  | some c => some c
  | none => (compositions.find? fun (_, x, y) => x == a && y == b).map (·.1)

/-- Composes a character with those behind it. The marks in between, given last first, did not go with it; one
of them hides those of its own class. -/
def composeFrom (c : Nat) (between : List Nat) : List Nat → List Nat
  | [] => c :: between.reverse
  | d :: rest =>
    let hidden := match between with
      | [] => false
      | m :: _ => combiningClass d ≤ combiningClass m
    match if hidden then none else composed? c d with
    | some joined => composeFrom joined between rest
    | none =>
      if combiningClass d = 0 then c :: between.reverse ++ composeFrom d [] rest
      else composeFrom c (d :: between) rest

/-- The text with all composed that can be. -/
def compose : List Nat → List Nat
  | [] => []
  | c :: rest => composeFrom c [] rest

/-- The normal form of a text. -/
def normal (t : CodePoints) : CodePoints :=
  (compose (decomposed (t.map UInt32.toNat))).map UInt32.ofNat

/-- Whether a text is in normal form. -/
def isNormal (t : CodePoints) : Bool :=
  normal t == t

end BlockingQuery.Text.Normalization
