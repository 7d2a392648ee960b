import BlockingQuery.Text.Digit

/-!
# Internet addresses

`isIpv4` and `isIpv6` hold of the texts that write an address of the version. `looksLikeIpv4` holds of the
host names that are not taken for anything but an address of version 4: four numbers with dots between them.
-/

namespace BlockingQuery.Address

open Text

/-- Whether a host name can only be an address of version 4. -/
def looksLikeIpv4 (cs : List Char) : Bool :=
  let parts := cs.splitOn '.'
  parts.length == 4 && parts.all fun p => !p.isEmpty && p.all Char.isDigit

/-- A number below 256 without needless zeros. -/
def isOctet (cs : List Char) : Bool :=
  !cs.isEmpty && cs.all Char.isDigit && cs.length ≤ 3 && (cs == ['0'] || cs.head? != some '0') &&
    ofDigits (cs.filterMap asciiDigit?) ≤ 255

/-- Four octets with dots between them. -/
def isIpv4 (cs : List Char) : Bool :=
  let parts := cs.splitOn '.'
  parts.length == 4 && parts.all isOctet

/-- One to four hexadecimal digits. -/
def isHextet (cs : List Char) : Bool :=
  !cs.isEmpty && cs.length ≤ 4 &&
    cs.all fun c => c.isDigit || ('a' ≤ c && c ≤ 'f') || ('A' ≤ c && c ≤ 'F')

/-- The parts between colons, an address of version 4 at the end counting as two of them. -/
def hextets? (cs : List Char) : Option (List (List Char)) :=
  let parts := cs.splitOn ':'
  let last := parts.getLastD []
  if parts.length < 3 then none
  else if last.contains '.' then
    if isIpv4 last then some (parts.dropLast ++ [['0'], ['0']]) else none
  else some parts

/-- An end of an address beside the gap of zeros: hextets, or one empty part at the very end. -/
def isEnd (parts : List (List Char)) : Bool :=
  parts == [[]] || parts.all isHextet

/-- Eight hextets, or fewer with one gap in place of one or more zero hextets. -/
def isIpv6 (cs : List Char) : Bool :=
  let zone := (cs.dropWhile (· != '%')).drop 1
  let address := cs.takeWhile (· != '%')
  !cs.contains '/' && (!cs.contains '%' || (!zone.isEmpty && !zone.contains '%')) &&
    match hextets? address with
    | none => false
    | some parts =>
      let inner := (parts.drop 1).dropLast
      if inner.contains [] then
        let before := (parts.headD []) :: inner.takeWhile (· != [])
        let after := (inner.dropWhile (· != [])).drop 1 ++ [parts.getLastD []]
        let filled := (before.filter (· != [])).length + (after.filter (· != [])).length
        isEnd before && isEnd after && filled < 8 && parts.length ≤ 9
      else parts.length == 8 && parts.all isHextet

end BlockingQuery.Address
