import BlockingQuery.Compression.Checksum
import BlockingQuery.Compression.Inflate

/-!
# Wrappers of deflated data

Deflated data come bare, or between a header and a checksum in one of two formats. `Wrapper.unwrap` gives the
bytes of either. Data that break off give what can be read of them, and what follows the data does not count.
-/

namespace BlockingQuery

open Inflate

/-- What deflated data come in. -/
inductive Wrapper
  | bare
  /-- Two bytes before the data, and a sum of them behind. -/
  | zlib
  /-- A header with the time and perhaps a name before the data, and a checksum and the length behind. -/
  | gzip
  deriving DecidableEq, Repr

namespace Wrapper

/-- The number of so many bytes, the least significant one first. -/
def bytes (found : Array UInt8) (count : Nat) : Reading Nat :=
  number found (8 * count)

/-- A number of four bytes with their order reversed. -/
def swapped (n : Nat) : Nat :=
  n % 256 * 16777216 + n / 256 % 256 * 65536 + n / 65536 % 256 * 256 + n / 16777216

/-- Ends with a fault unless a condition holds. -/
def ensure (holds : Bool) (f : Fault) : Reading Unit :=
  if holds then return () else fail f

/-- The header of the format `zlib`. -/
def zlibHeader : Reading Unit := do
  let head ← bytes #[] 2
  ensure ((head % 256 * 256 + head / 256) % 31 == 0) .header
  ensure (head % 16 == 8) .method
  ensure (head / 16 % 16 ≤ 7) .windowSize
  if head / 256 / 32 % 2 = 1 then
    let _ ← bytes #[] 4
    fail .dictionary

/-- Skips a text that ends with a zero byte. -/
def skipText : Reading Unit := do
  match (← get).bytes.dropWhile (· != 0) with
  | [] => throw (.short #[])
  | _ :: rest => set { bytes := rest : Bits }

/-- Skips so many bytes. -/
def skipBytes (count : Nat) : Reading Unit := do
  let left := (← get).bytes
  if left.length < count then throw (.short #[]) else set { bytes := left.drop count : Bits }

/-- The header of the format `gzip`. Its flags tell which parts it has. -/
def gzipHeader : Reading Unit := do
  let whole := (← get).bytes
  ensure ((← bytes #[] 2) == 0x8B1F) .header
  let head ← bytes #[] 2
  let flags := head / 256
  ensure (head % 256 == 8) .method
  ensure (flags < 32) .headerFlags
  skipBytes 6
  if flags.testBit 2 then skipBytes (← bytes #[] 2)
  if flags.testBit 3 then skipText
  if flags.testBit 4 then skipText
  if flags.testBit 1 then
    let read := whole.take (whole.length - (← get).bytes.length)
    ensure ((← bytes #[] 2) == Checksum.crc32 read.toArray % 65536) .headerChecksum

/-- The header. -/
def header : Wrapper → Reading Unit
  | .bare => return ()
  | .zlib => zlibHeader
  | .gzip => gzipHeader

/-- Checks what follows the data. -/
def trailer (w : Wrapper) (found : Array UInt8) : Reading Unit := do
  modify Bits.align
  match w with
  | .bare => return ()
  | .zlib => ensure (swapped (← bytes found 4) == Checksum.adler32 found) .checksum
  | .gzip =>
    ensure ((← bytes found 4) == Checksum.crc32 found) .checksum
    ensure ((← bytes found 4) == found.size % 4294967296) .size

/-- The bytes that are wrapped. -/
def content (w : Wrapper) : Reading (Array UInt8) := do
  w.header
  let found ← Inflate.blocks
  w.trailer found
  return found

/-- The bytes that are wrapped, or as many of them as there are. -/
def unwrap (w : Wrapper) (bs : List UInt8) : Except Fault (List UInt8) :=
  match w.content { bytes := bs } with
  | .ok (found, _) => .ok found.toList
  | .error (.short found) => .ok found.toList
  | .error (.faulty f) => .error f

end Wrapper

end BlockingQuery
