import BlockingQuery.Text.Blank
import BlockingQuery.Text.CodePage.Dos
import BlockingQuery.Text.CodePage.Ebcdic
import BlockingQuery.Text.CodePage.Iso8859
import BlockingQuery.Text.CodePage.Macintosh
import BlockingQuery.Text.CodePage.National
import BlockingQuery.Text.CodePage.Windows
import BlockingQuery.Text.Encoding
import BlockingQuery.Text.Punycode

/-!
# Charsets

A `Charset` is what a registered name stands for: an encoding, or an encoding that a mark at the beginning of
a text decides on, or something that gives no text at all. `Charset.ofName?` looks a name up,
`Charset.readLossy` reads bytes with U+FFFD in place of what writes no character, and `Charset.read?` reads
only what is written without a fault.
-/

namespace BlockingQuery.Text

/-- What the name of a charset stands for. -/
inductive Charset
  /-- An encoding. -/
  | plain (e : Encoding)
  /-- UTF-8 in which a mark may come first. -/
  | markedUtf8
  /-- UTF-16 in the order that a mark tells. -/
  | markedUtf16
  /-- UTF-32 in the order that a mark tells. -/
  | markedUtf32
  /-- Text in ASCII letters, digits and hyphens. -/
  | punycode
  /-- Domain names. -/
  | domainNames
  /-- A way to write bytes as other bytes. -/
  | transfer
  /-- A way to write letters as other letters. -/
  | letters
  /-- The charset in which nothing can be written. -/
  | undefined
  deriving DecidableEq, Repr

namespace Charset

/-- Why bytes in a known charset cannot be read at all. -/
inductive Fault
  /-- A zero character stands in the name. -/
  | zeroInName
  /-- The mark that would tell the order of the bytes is missing from units of so many bits. -/
  | unmarked (bits : Nat)
  /-- The bytes cannot be read on from a place. -/
  | obstacle (o : Multibyte.Obstacle)
  /-- A number is not written in ASCII. -/
  | notAscii
  /-- Domain names are read without a fault or not at all. -/
  | unforgiving
  /-- The charset writes bytes, not text. -/
  | notText
  /-- The charset is for letters, not for bytes. -/
  | notBytes
  /-- Nothing can be written in the charset. -/
  | undefined
  deriving DecidableEq, Repr

/-- The text of a fault. Where it would only tell how a reader stumbled, it is empty. -/
def Fault.message : Fault → String
  | .zeroInName => "embedded null character"
  | .unmarked bits => s!"UTF-{bits} stream does not start with BOM"
  | .obstacle o => o.message
  | .notAscii => ""
  | .unforgiving => "Unsupported error handling replace"
  | .notText => ""
  | .notBytes => ""
  | .undefined => "undefined encoding"

/-! ## Names -/

/-- The registered names, with underscores for hyphens and spaces. The first name of each charset is the
one that it is called by, the others are aliases. -/
def names : List (List String × Charset) :=
  [(["utf_8", "utf8", "u8", "utf", "cp65001", "utf8_ucs2", "utf8_ucs4"], .plain .utf8),
    (["utf_8_sig"], .markedUtf8),
    (["utf_16", "utf16", "u16"], .markedUtf16),
    (["utf_16_le", "utf_16le", "unicodelittleunmarked"], .plain (.utf16 false)),
    (["utf_16_be", "utf_16be", "unicodebigunmarked"], .plain (.utf16 true)),
    (["utf_32", "utf32", "u32"], .markedUtf32),
    (["utf_32_le", "utf_32le"], .plain (.utf32 false)),
    (["utf_32_be", "utf_32be"], .plain (.utf32 true)),
    (["utf_7", "u7", "unicode_1_1_utf_7", "utf7"], .plain .utf7),
    (["latin_1", "latin1", "latin", "l1", "iso_8859_1", "iso8859_1", "iso8859", "8859", "cp819", "csisolatin1",
      "ibm819", "iso_8859_1_1987", "iso_ir_100"], .plain .latin1),
    (["charmap"], .plain .latin1),
    (["ascii", "us_ascii", "us", "646", "ansi_x3.4_1968", "ansi_x3_4_1968", "ansi_x3.4_1986", "cp367",
      "csascii", "ibm367", "iso646_us", "iso_646.irv_1991", "iso_ir_6"], .plain .ascii),
    (["raw_unicode_escape"], .plain .numberEscapes),
    (["unicode_escape"], .plain .literalEscapes),
    (["punycode"], .punycode),
    (["idna"], .domainNames),
    (["base64_codec", "base64", "base_64"], .transfer),
    (["bz2_codec", "bz2"], .transfer),
    (["hex_codec", "hex"], .transfer),
    (["quopri_codec", "quopri", "quoted_printable", "quotedprintable"], .transfer),
    (["uu_codec", "uu"], .transfer),
    (["zlib_codec", "zip", "zlib"], .transfer),
    (["rot_13", "rot13"], .letters),
    (["undefined"], .undefined)]

/-- The code pages. -/
def pages : List CodePage :=
  CodePage.iso8859Pages ++ CodePage.windowsPages ++ CodePage.dosPages ++ CodePage.macintoshPages ++
    CodePage.nationalPages ++ CodePage.ebcdicPages

/-- The encodings of East Asia. -/
def multibyteNames : List (List String × Multibyte) :=
  [(["gb2312", "chinese", "csiso58gb231280", "euc_cn", "euccn", "eucgb2312_cn", "gb2312_1980", "gb2312_80",
      "iso_ir_58", "x_mac_simp_chinese"], .gb2312),
    (["gbk", "936", "cp936", "ms936"], .gbk),
    (["gb18030", "gb18030_2000"], .gb18030),
    (["hz", "hz_gb", "hz_gb_2312", "hzgb"], .hz),
    (["big5", "big5_tw", "csbig5", "x_mac_trad_chinese"], .big5),
    (["cp950", "950", "ms950"], .big5Windows),
    (["big5hkscs", "big5_hkscs", "hkscs"], .big5HongKong),
    (["shift_jis", "csshiftjis", "s_jis", "shiftjis", "sjis", "x_mac_japanese"], .shiftJis),
    (["cp932", "932", "ms932", "ms_kanji", "mskanji"], .shiftJisWindows),
    (["shift_jisx0213", "s_jisx0213", "shiftjisx0213", "sjisx0213"], .shift0213 .of2000),
    (["shift_jis_2004", "s_jis_2004", "shiftjis2004", "sjis_2004"], .shift0213 .of2004),
    (["euc_jp", "eucjp", "u_jis", "ujis"], .eucJp),
    (["euc_jisx0213", "eucjisx0213"], .euc0213 .of2000),
    (["euc_jis_2004", "euc_jis2004", "eucjis2004", "jisx0213"], .euc0213 .of2004),
    (["euc_kr", "euckr", "korean", "ks_c_5601", "ks_c_5601_1987", "ks_x_1001", "ksc5601", "ksx1001",
      "x_mac_korean"], .eucKr),
    (["cp949", "949", "ms949", "uhc"], .koreanUnified),
    (["johab", "cp1361", "ms1361"], .johab),
    (["iso2022_kr", "csiso2022kr", "iso2022kr", "iso_2022_kr"], .iso2022 .korean),
    (["iso2022_jp", "csiso2022jp", "iso2022jp", "iso_2022_jp"], .iso2022 .japanese),
    (["iso2022_jp_1", "iso2022jp_1", "iso_2022_jp_1"], .iso2022 .japanese1),
    (["iso2022_jp_2", "iso2022jp_2", "iso_2022_jp_2"], .iso2022 .japanese2),
    (["iso2022_jp_3", "iso2022jp_3", "iso_2022_jp_3"], .iso2022 .japanese3),
    (["iso2022_jp_2004", "iso2022jp_2004", "iso_2022_jp_2004"], .iso2022 .japanese2004),
    (["iso2022_jp_ext", "iso2022jp_ext", "iso_2022_jp_ext"], .iso2022 .japaneseExtended)]

/-- All charsets with their names. -/
def registry : List (List String × Charset) :=
  names ++ pages.map (fun p => (p.names, .plain (.page p))) ++
    multibyteNames.map fun (names, m) => (names, .plain (.multibyte m))

/-- A name in small letters, with one underscore for each run of characters within it that are neither
letters nor digits nor dots. -/
def normalName (cs : List Char) : List Char :=
  let marked := cs.map fun c => if c.isAlphanum || c == '.' then c.toLower else '_'
  ['_'].intercalate ((marked.splitOn '_').filter (· != []))

/-- The charset of a name, if it is registered. In an alias a dot may stand for an underscore. -/
def lookup? (name : List Char) : Option Charset :=
  let written := String.ofList (normalName name)
  let dotless := String.ofList ((normalName name).map fun c => if c == '.' then '_' else c)
  ((registry.find? fun r => r.1.contains written) <|>
    (registry.find? fun r => r.1.tail.contains dotless)).map (·.2)

/-- The charset of a name, if it is registered; no name has a zero character in it. -/
def ofName? (name : List Char) : Except Fault (Option Charset) :=
  if name.contains '\x00' then .error .zeroInName else .ok (lookup? name)

/-! ## Marks -/

/-- The marks that may begin a text, each with the encoding of what follows. -/
def marks : Charset → List (List UInt8 × Encoding)
  | .markedUtf8 => [([0xEF, 0xBB, 0xBF], .utf8)]
  | .markedUtf16 => [([0xFF, 0xFE], .utf16 false), ([0xFE, 0xFF], .utf16 true)]
  | .markedUtf32 => [([0xFF, 0xFE, 0, 0], .utf32 false), ([0, 0, 0xFE, 0xFF], .utf32 true)]
  | _ => []

/-- The encoding that the mark at the beginning of a text announces, and the text after the mark. -/
def unmark? (c : Charset) (bs : List UInt8) : Option (Encoding × List UInt8) :=
  (c.marks.find? fun m => m.1.isPrefixOf bs).map fun m => (m.2, bs.drop m.1.length)

/-- The encoding of a text without a mark. -/
def unmarked? : Charset → Option Encoding
  | .plain e => some e
  | .markedUtf8 => some .utf8
  | .markedUtf16 => some (.utf16 false)
  | .markedUtf32 => some (.utf32 false)
  | _ => none

/-! ## Reading -/

/-- A text in units of so many bits without the mark that would tell their order. Only what is shorter than
a unit is read. -/
def readUnmarked (bits : Nat) (e : Encoding) (bs : List UInt8) : Except Fault CodePoints :=
  if bs.length < bits / 8 then .ok (e.fill bs) else .error (.unmarked bits)

/-- What keeps bytes in an encoding from being read. -/
def checkObstacle (whole : Bool) (e : Encoding) (bs : List UInt8) : Except Fault Unit :=
  match e with
  | .multibyte m => match m.obstacle? whole bs with
    | some o => .error (.obstacle o)
    | none => .ok ()
  | _ => .ok ()

/-- The text that the bytes write, with U+FFFD for what writes no character. Bytes that break off within a
mark of UTF-8 write nothing. -/
def readLossy (c : Charset) (bs : List UInt8) : Except Fault CodePoints :=
  match c.unmark? bs, c with
  | some (e, rest), _ => .ok (e.fill rest)
  | none, .plain e => (checkObstacle false e bs).map fun _ => e.fill bs
  | none, .markedUtf8 => .ok (if bs.isPrefixOf [0xEF, 0xBB] then [] else Encoding.utf8.fill bs)
  | none, .markedUtf16 => readUnmarked 16 (.utf16 false) bs
  | none, .markedUtf32 => readUnmarked 32 (.utf32 false) bs
  | none, .punycode => (Punycode.decode false bs).mapError fun _ => .notAscii
  | none, .domainNames => .error .unforgiving
  | none, .transfer => .error .notText
  | none, .letters => .error .notBytes
  | none, .undefined => .error .undefined

/-- How the labels of domain names begin that are written in Punycode. -/
def labelMark : List UInt8 := utf8 "xn--"

/-- The text of domain names: of ASCII alone, as those in Punycode are left to others. -/
def readNames? (bs : List UInt8) : Option String :=
  if (bs.splitOn 0x2E).any labelMark.isPrefixOf then none else Encoding.ascii.decodeStrict? bs

/-- The text that the bytes write, if they write one without a fault. -/
def read? (c : Charset) (bs : List UInt8) : Except Fault (Option String) :=
  match c.unmark? bs, c with
  | some (e, rest), _ => .ok (e.decodeStrict? rest)
  | none, .punycode => .ok ((Punycode.decode true bs).toOption.map CodePoints.toString)
  | none, .domainNames => .ok (readNames? bs)
  | none, _ =>
    match c.unmarked? with
    | some e => (checkObstacle true e bs).map fun _ => e.decodeStrict? bs
    | none => .ok none

end Charset

end BlockingQuery.Text
