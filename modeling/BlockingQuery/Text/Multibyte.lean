import BlockingQuery.Text.Multibyte.Chinese
import BlockingQuery.Text.Multibyte.Iso2022
import BlockingQuery.Text.Multibyte.Korean

/-!
# Encodings of East Asia

A `Multibyte` encoding has characters of one byte and of several. `Multibyte.scan` reads a text, and
`Multibyte.obstacle?` tells what keeps it from being read.
-/

namespace BlockingQuery.Text

/-- An encoding of Chinese, Japanese or Korean. -/
inductive Multibyte
  | gb2312
  | gbk
  | gb18030
  | hz
  | big5
  | big5Windows
  | big5HongKong
  | shiftJis
  | shiftJisWindows
  | shift0213 (e : Japanese.Edition)
  | eucJp
  | euc0213 (e : Japanese.Edition)
  | eucKr
  | koreanUnified
  | johab
  | iso2022 (r : Repertoire)
  deriving DecidableEq, Repr

namespace Multibyte

/-- What keeps a text from being read. -/
inductive Obstacle
  /-- Too many bytes are left of what breaks off. -/
  | unfinished
  /-- A character of a set that has none is asked for. -/
  | unreadable
  deriving DecidableEq, Repr

/-- The text of an obstacle. -/
def Obstacle.message : Obstacle → String
  | .unfinished => "pending buffer overflow"
  | .unreadable => "internal codec error"

/-- The most bytes that may be left of a character or an escape sequence. -/
def mostLeft : Nat := 8

/-- What a lead stands in the way of. A reader who has the whole text does not mind what is left of it. -/
def obstacleOf? {σ : Type} (whole : Bool) : Lead σ → Option Obstacle
  | .broken left => if !whole && mostLeft < left then some .unfinished else none
  | .stuck => some .unreadable
  | _ => none

/-- What a text writes, and what keeps it from being read. -/
def readAll {σ : Type} (lead : σ → List UInt8 → Lead σ) (start : σ) (whole : Bool) (bs : List UInt8) :
    List (Option CodePoint) × Option Obstacle :=
  let found := leads lead start 0 bs
  (found.flatMap Lead.read, found.findSome? (obstacleOf? whole))

/-- Reads a text in an encoding. -/
def read (m : Multibyte) (whole : Bool) (bs : List UInt8) : List (Option CodePoint) × Option Obstacle :=
  match m with
  | .gb2312 => readAll Chinese.gb2312Lead () whole bs
  | .gbk => readAll Chinese.gbkLead () whole bs
  | .gb18030 => readAll Chinese.gb18030Lead () whole bs
  | .hz => readAll Chinese.hzLead false whole bs
  | .big5 => readAll Chinese.big5Lead () whole bs
  | .big5Windows => readAll Chinese.big5WindowsLead () whole bs
  | .big5HongKong => readAll Chinese.big5HongKongLead () whole bs
  | .shiftJis => readAll Japanese.shiftJisLead () whole bs
  | .shiftJisWindows => readAll Japanese.windowsLead () whole bs
  | .shift0213 e => readAll (Japanese.shift0213Lead e) () whole bs
  | .eucJp => readAll Japanese.eucJpLead () whole bs
  | .euc0213 e => readAll (Japanese.euc0213Lead e) () whole bs
  | .eucKr => readAll Korean.eucLead () whole bs
  | .koreanUnified => readAll Korean.unifiedLead () whole bs
  | .johab => readAll Korean.johabLead () whole bs
  | .iso2022 r => readAll r.lead {} whole bs

/-- The code points of a text, and the holes in it. -/
def scan (m : Multibyte) (bs : List UInt8) : List (Option CodePoint) :=
  (m.read true bs).1

/-- What keeps a text from being read. -/
def obstacle? (m : Multibyte) (whole : Bool) (bs : List UInt8) : Option Obstacle :=
  (m.read whole bs).2

end Multibyte

end BlockingQuery.Text
