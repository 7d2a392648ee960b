import BlockingQuery.Compression.PrefixCode

/-!
# Deflated data

Deflated data are blocks of bytes, stored as they are or written in prefix codes, where a pair of a length and
a distance repeats what came before. `Inflate.blocks` reads them up to the last block, or up to where the data
break off.
-/

namespace BlockingQuery.Inflate

/-- Why data cannot be inflated. -/
inductive Fault
  | header
  | method
  | windowSize
  | headerFlags
  | headerChecksum
  /-- A dictionary is needed that is not there. -/
  | dictionary
  | blockType
  | storedLength
  | tooManySymbols
  | lengthCode
  | repetition
  | noEndOfBlock
  | literalCode
  | distanceCode
  | literal
  | distance
  | tooFarBack
  | checksum
  | size
  deriving DecidableEq, Repr

/-- The text of a fault. -/
def Fault.message : Fault → String
  | .header => "incorrect header check"
  | .method => "unknown compression method"
  | .windowSize => "invalid window size"
  | .headerFlags => "unknown header flags set"
  | .headerChecksum => "header crc mismatch"
  | .dictionary => "need dictionary"
  | .blockType => "invalid block type"
  | .storedLength => "invalid stored block lengths"
  | .tooManySymbols => "too many length or distance symbols"
  | .lengthCode => "invalid code lengths set"
  | .repetition => "invalid bit length repeat"
  | .noEndOfBlock => "invalid code -- missing end-of-block"
  | .literalCode => "invalid literal/lengths set"
  | .distanceCode => "invalid distances set"
  | .literal => "invalid literal/length code"
  | .distance => "invalid distance code"
  | .tooFarBack => "invalid distance too far back"
  | .checksum => "incorrect data check"
  | .size => "incorrect length check"

/-- Why no more is read. -/
inductive Halt
  /-- The data break off; what was inflated before. -/
  | short (found : Array UInt8)
  | faulty (f : Fault)

/-- Reads bits. -/
abbrev Reading := StateT Bits (Except Halt)

/-- Reads what the data suffice for, or else ends with what was found. -/
def orShort {α : Type} (found : Array UInt8) (read : Bits → Option (α × Bits)) : Reading α := fun b =>
  match read b with
  | some result => .ok result
  | none => .error (.short found)

/-- Ends with a fault. -/
def fail {α : Type} (f : Fault) : Reading α :=
  throw (.faulty f)

/-- The number that so many bits write. -/
def number (found : Array UInt8) (n : Nat) : Reading Nat :=
  orShort found (Bits.number? n)

/-! ## Stored blocks -/

/-- Bytes as they are. -/
def copyStored : (count : Nat) → Array UInt8 → List UInt8 → Except Halt (Array UInt8 × Bits)
  | 0, found, bytes => .ok (found, { bytes })
  | _ + 1, found, [] => .error (.short found)
  | n + 1, found, byte :: bytes => copyStored n (found.push byte) bytes

/-- A stored block: its length, the length inverted, and the bytes. -/
def stored (found : Array UInt8) : Reading (Array UInt8) := do
  modify Bits.align
  let both ← number found 32
  let length := both % 65536
  if length + both / 65536 = 65535 then fun b => copyStored length found b.bytes
  else fail .storedLength

/-! ## Blocks in prefix codes -/

/-- The least length of each symbol from 257 on, and the number of bits that are added to it. -/
def lengthTable : Array (Nat × Nat) := #[
    (3, 0), (4, 0), (5, 0), (6, 0), (7, 0), (8, 0), (9, 0), (10, 0), (11, 1), (13, 1), (15, 1), (17, 1),
    (19, 2), (23, 2), (27, 2), (31, 2), (35, 3), (43, 3), (51, 3), (59, 3), (67, 4), (83, 4), (99, 4),
    (115, 4), (131, 5), (163, 5), (195, 5), (227, 5), (258, 0)]

/-- The least distance of each symbol, and the number of bits that are added to it. -/
def distanceTable : Array (Nat × Nat) := #[
    (1, 0), (2, 0), (3, 0), (4, 0), (5, 1), (7, 1), (9, 2), (13, 2), (17, 3), (25, 3), (33, 4), (49, 4),
    (65, 5), (97, 5), (129, 6), (193, 6), (257, 7), (385, 7), (513, 8), (769, 8), (1025, 9), (1537, 9),
    (2049, 10), (3073, 10), (4097, 11), (6145, 11), (8193, 12), (12289, 12), (16385, 13), (24577, 13)]

/-- The symbol that ends a block. -/
def endOfBlock : Nat := 256

/-- Repeats what stands a distance back, a number of times. -/
def repeatBack (distance : Nat) : (count : Nat) → Array UInt8 → Array UInt8
  | 0, found => found
  | n + 1, found => repeatBack distance n (found.push (found.getD (found.size - distance) 0))

/-- A number of which a table gives the least value, and bits the rest. -/
def ranged (table : Array (Nat × Nat)) (fault : Fault) (found : Array UInt8) (symbol : Option Nat) :
    Reading Nat :=
  match symbol.bind (table[·]?) with
  | none => fail fault
  | some (least, extra) => return least + (← number found extra)

/-- The rest of a block in prefix codes. Each symbol takes a bit, which is what the fuel counts. -/
def symbols (literals distances : PrefixCode) : (fuel : Nat) → Array UInt8 → Reading (Array UInt8)
  | 0, found => throw (.short found)
  | n + 1, found => do
    match ← orShort found literals.symbol? with
    | none => fail .literal
    | some s =>
      if s < endOfBlock then symbols literals distances n (found.push (UInt8.ofNat s))
      else if s = endOfBlock then return found
      else
        let length ← ranged lengthTable .literal found (some (s - endOfBlock - 1))
        let distance ← ranged distanceTable .distance found (← orShort found distances.symbol?)
        if found.size < distance then fail .tooFarBack
        else symbols literals distances n (repeatBack distance length found)

/-- The lengths of the words for literals and lengths where a block brings no code of its own. -/
def fixedLiterals : List Nat :=
  List.replicate 144 8 ++ List.replicate 112 9 ++ List.replicate 24 7 ++ List.replicate 8 8

/-- The lengths of the words for distances where a block brings no code of its own. -/
def fixedDistances : List Nat :=
  List.replicate 32 5

/-- The order in which the lengths of the code for lengths are written. -/
def lengthOrder : List Nat :=
  [16, 17, 18, 0, 8, 7, 9, 6, 10, 5, 11, 4, 12, 3, 13, 2, 14, 1, 15]

/-- So many numbers of three bits. -/
def triples (found : Array UInt8) : (count : Nat) → Reading (List Nat)
  | 0 => return []
  | n + 1 => return (← number found 3) :: (← triples found n)

/-- The lengths of so many words, in a code of their own that may repeat the last length or zero. The lengths
read so far are given last first. Each symbol takes a bit, which is what the fuel counts. -/
def wordLengths (found : Array UInt8) (code : PrefixCode) (count : Nat) : (fuel : Nat) →
    (before : List Nat) → Reading (List Nat)
  | 0, _ => throw (.short found)
  | n + 1, before =>
    if count ≤ before.length then return before.reverse
    else do
      let s := (← orShort found code.symbol?).getD 0
      if s < 16 then wordLengths found code count n (s :: before)
      else
        let (bits, least) := if s = 16 then (2, 3) else if s = 17 then (3, 3) else (7, 11)
        let times := least + (← number found bits)
        match if s = 16 then before.head? else some 0 with
        | none => fail .repetition
        | some length =>
          if count < before.length + times then fail .repetition
          else wordLengths found code count n (List.replicate times length ++ before)

/-- A code, or a fault if the lengths make none. -/
def codeOf (complete : Bool) (fault : Fault) (lengths : List Nat) : Reading PrefixCode :=
  match PrefixCode.ofLengths? complete lengths with
  | some code => return code
  | none => fail fault

/-- A block in the given codes. -/
def coded (found : Array UInt8) (literals distances : List Nat) : Reading (Array UInt8) := do
  let literals ← codeOf false .literalCode literals
  let distances ← codeOf false .distanceCode distances
  symbols literals distances ((← get).size + 1) found

/-- A block that brings codes of its own. -/
def dynamic (found : Array UInt8) : Reading (Array UInt8) := do
  let counts ← number found 14
  let literalCount := counts % 32 + 257
  let distanceCount := counts / 32 % 32 + 1
  if 286 < literalCount || 30 < distanceCount then fail .tooManySymbols
  else
    let given ← triples found (counts / 1024 + 4)
    let lengths := (List.range 19).map fun s => ((lengthOrder.zip given).lookup s).getD 0
    let code ← codeOf true .lengthCode lengths
    let all ← wordLengths found code (literalCount + distanceCount) ((← get).size + 1) []
    if all.getD endOfBlock 0 = 0 then fail .noEndOfBlock
    else coded found (all.take literalCount) (all.drop literalCount)

/-! ## All blocks -/

/-- A block, of one of three types. -/
def block (type : Nat) (found : Array UInt8) : Reading (Array UInt8) :=
  match type with
  | 0 => stored found
  | 1 => coded found fixedLiterals fixedDistances
  | 2 => dynamic found
  | _ => fail .blockType

/-- The blocks up to the last one. Each takes a bit, which is what the fuel counts. -/
def blocksFrom : (fuel : Nat) → Array UInt8 → Reading (Array UInt8)
  | 0, found => throw (.short found)
  | n + 1, found => do
    let head ← number found 3
    let found ← block (head / 2) found
    if head % 2 = 1 then return found else blocksFrom n found

/-- The bytes of deflated data. -/
def blocks : Reading (Array UInt8) := do
  blocksFrom ((← get).size + 1) #[]

end BlockingQuery.Inflate
