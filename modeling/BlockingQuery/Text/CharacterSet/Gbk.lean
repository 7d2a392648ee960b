import BlockingQuery.Text.CharacterSet.Gb2312

/-!
# GBK and GB 18030

The codes of two and four bytes that extend GB 2312. A row has 190 places: from 0x40 to 0x7E and from 0x80 to
0xFE. The ideographs that GB 2312 lacks fill the places before its own and beside them in the order of their
code points, and in GB 18030 each code point has a code.
-/

namespace BlockingQuery.Text.CharacterSet

/-- The place of a second byte in a row of 190. -/
def place190? (b : Nat) : Option Nat :=
  if 0x40 ≤ b ∧ b ≤ 0x7E then some (b - 0x40)
  else if 0x80 ≤ b ∧ b ≤ 0xFE then some (b - 0x41)
  else none

/-- Characters that follow each other in a row: its first byte, the first place and the text, with a full stop
for each place without a character. -/
abbrev Stretch := Nat × Nat × String

/-- The character that a list of stretches has at a place. -/
def Stretch.find? (stretches : List Stretch) (a place : Nat) : Option Char :=
  stretches.findSome? fun (row, first, text) =>
    if row = a ∧ first ≤ place then (text.toList[place - first]?).filter (· != '.') else none

/-! ## GBK -/

/-- The ideographs of GB 2312. -/
def gb2312Ideographs : List Nat :=
  gb2312.points 15 72

/-- The first ideograph. -/
def firstIdeograph : Nat := 0x4E00

/-- How many of the first ideographs GB 2312 lacks. -/
def addedIdeographs : Nat := 14139

/-- The compatibility ideographs, which come after all others. -/
def gbkCompatibility : String :=
  "\uf92c\uf979\uf995\uf9e7\uf9f1\ufa0c\ufa0d﨎﨏﨑﨓﨔\ufa18﨟" ++
  "\ufa20﨡﨣﨤﨧﨨﨩"

/-- The number of an ideograph among those that GB 2312 lacks, by the row and the place of its code. -/
def addedIdeograph? (a place : Nat) : Option Nat :=
  if 0x81 ≤ a ∧ a ≤ 0xA0 then some ((a - 0x81) * 190 + place)
  else if 0xAA ≤ a ∧ a ≤ 0xFE ∧ place < 96 then some (32 * 190 + (a - 0xAA) * 96 + place)
  else none

/-- The signs that GB 2312 lacks. -/
def gbkSigns : List Stretch :=
  [(0xA2, 96, "ⅰⅱⅲⅳⅴⅵⅶⅷⅸⅹ"),
    (0xA6, 159, "︵︶︹︺︿﹀︽︾﹁﹂﹃﹄..︻︼︷︸︱.︳︴"),
    (0xA8, 0, "ˊˋ˙–―‥‵℅℉↖↗↘↙∕∟∣≒≦≧⊿═║╒╓╔╕╖╗╘╙╚╛╜╝╞╟╠╡╢╣╤╥╦╧╨╩╪╫╬╭╮╯╰╱╲╳▁▂▃▄▅▆▇█▉▊▋▌▍▎▏▓▔▕▼▽◢◣◤◥☉⊕〒〝" ++
      "〞"),
    (0xA8, 122, "ɑ.ńň.ɡ"),
    (0xA9, 0, "〡〢〣〤〥〦〧〨〩㊣㎎㎏㎜㎝㎞㎡㏄㏎㏑㏒㏕︰￢￤.℡㈱.‐...ー゛゜ヽヾ〆ゝゞ﹉﹊﹋﹌﹍﹎﹏﹐﹑﹒﹔﹕﹖﹗﹙﹚﹛﹜﹝﹞﹟﹠﹡﹢﹣﹤﹥﹦﹨﹩﹪﹫"),
    (0xA9, 85, "〇")]

/-- The character of a code of GBK. Two signs differ from those of GB 2312. -/
def gbk? (a b : Nat) : Option Char := do
  let place ← place190? b
  if a = 0xA1 ∧ b = 0xA4 then return '·'
  if a = 0xA1 ∧ b = 0xAA then return '—'
  gb2312.char? (a - 0x80) (b - 0x80) <|> Stretch.find? gbkSigns a place <|>
    (addedIdeograph? a place).bind fun n =>
      if n < addedIdeographs then some (Char.ofNat (lacking gb2312Ideographs firstIdeograph n))
      else gbkCompatibility.toList[n - addedIdeographs]?

/-! ## GB 18030 -/

/-- The stretches that GBK leaves empty: the first byte, the first place and the number of places. -/
def gbkGaps : List (Nat × Nat × Nat) :=
  [(0xA2, 106, 6), (0xA2, 162, 2), (0xA2, 174, 2), (0xA2, 188, 2), (0xA4, 179, 11), (0xA5, 182, 8),
    (0xA6, 120, 8), (0xA6, 152, 7), (0xA6, 171, 2), (0xA6, 178, 1), (0xA6, 181, 9), (0xA7, 129, 15),
    (0xA7, 177, 13), (0xA8, 85, 11), (0xA8, 123, 1), (0xA8, 126, 1), (0xA8, 128, 4), (0xA8, 169, 21),
    (0xA9, 24, 1), (0xA9, 27, 1), (0xA9, 29, 3), (0xA9, 72, 13), (0xA9, 86, 13), (0xA9, 175, 15),
    (0xD7, 185, 5), (0xFE, 16, 80)]

/-- The number of a place among those that GBK leaves empty. -/
def gapIndex? (a place : Nat) : List (Nat × Nat × Nat) → (before : Nat) → Option Nat
  | [], _ => none
  | (row, first, count) :: gaps, before =>
    if row = a ∧ first ≤ place ∧ place < first + count then some (before + (place - first))
    else gapIndex? a place gaps (before + count)

/-- The characters in those stretches that are not for private use. -/
def gb18030Signs : List Stretch :=
  [(0xA2, 162, "€"),
    (0xA8, 126, "ǹ"),
    (0xA9, 72, "〾⿰⿱⿲⿳⿴⿵⿶⿷⿸⿹⿺⿻"),
    (0xFE, 16, "⺁...⺄㑳㑇⺈⺋.㖞㘚㘎⺌⺗㥮㤘.㧏㧟㩳㧐..㭎㱮㳠⺧..⺪䁖䅟⺮䌷⺳⺶⺷.䎱䎬⺻䏝䓖䙡䙌.䜣䜩䝼䞍⻊䥇䥺䥽䦂䦃䦅䦆䦟䦛䦷䦶..䲣䲟䲠䲡䱷䲢䴓䴔䴕䴖䴗䴘䴙䶮")]

/-- The code point for private use of a place: three blocks for users, then the gaps of GBK. -/
def privatePoint? (a place : Nat) : Option Nat :=
  if 0xAA ≤ a ∧ a ≤ 0xAF ∧ 96 ≤ place then some (0xE000 + (a - 0xAA) * 94 + (place - 96))
  else if 0xF8 ≤ a ∧ a ≤ 0xFE ∧ 96 ≤ place then some (0xE234 + (a - 0xF8) * 94 + (place - 96))
  else if 0xA1 ≤ a ∧ a ≤ 0xA7 ∧ place < 96 then some (0xE4C6 + (a - 0xA1) * 96 + place)
  else (gapIndex? a place gbkGaps 0).map (0xE766 + ·)

/-- The character of two bytes in GB 18030. -/
def gb18030? (a b : Nat) : Option Char :=
  gbk? a b <|> (place190? b).bind fun place =>
    Stretch.find? gb18030Signs a place <|> (privatePoint? a place).map Char.ofNat

/-- The runs of code points below U+10000 with codes of four bytes: the number of the first one among all of
them, and the first one. -/
def fourByteRuns : List (Nat × Nat) :=
  [(0, 0x0080), (36, 0x00A5), (38, 0x00A9), (45, 0x00B2), (50, 0x00B8), (81, 0x00D8), (89, 0x00E2),
    (95, 0x00EB), (96, 0x00EE), (100, 0x00F4), (103, 0x00F8), (104, 0x00FB), (105, 0x00FD), (109, 0x0102),
    (126, 0x0114), (133, 0x011C), (148, 0x012C), (172, 0x0145), (175, 0x0149), (179, 0x014E), (208, 0x016C),
    (306, 0x01CF), (307, 0x01D1), (308, 0x01D3), (309, 0x01D5), (310, 0x01D7), (311, 0x01D9), (312, 0x01DB),
    (313, 0x01DD), (341, 0x01FA), (428, 0x0252), (443, 0x0262), (544, 0x02C8), (545, 0x02CC), (558, 0x02DA),
    (741, 0x03A2), (742, 0x03AA), (749, 0x03C2), (750, 0x03CA), (805, 0x0402), (819, 0x0450), (820, 0x0452),
    (7922, 0x2011), (7924, 0x2017), (7925, 0x201A), (7927, 0x201E), (7934, 0x2027), (7943, 0x2031),
    (7944, 0x2034), (7945, 0x2036), (7950, 0x203C), (8062, 0x20AD), (8148, 0x2104), (8149, 0x2106),
    (8152, 0x210A), (8164, 0x2117), (8174, 0x2122), (8236, 0x216C), (8240, 0x217A), (8262, 0x2194),
    (8264, 0x219A), (8374, 0x2209), (8380, 0x2210), (8381, 0x2212), (8384, 0x2216), (8388, 0x221B),
    (8390, 0x2221), (8392, 0x2224), (8393, 0x2226), (8394, 0x222C), (8396, 0x222F), (8401, 0x2238),
    (8406, 0x223E), (8416, 0x2249), (8419, 0x224D), (8424, 0x2253), (8437, 0x2262), (8439, 0x2268),
    (8445, 0x2270), (8482, 0x2296), (8485, 0x229A), (8496, 0x22A6), (8521, 0x22C0), (8603, 0x2313),
    (8936, 0x246A), (8946, 0x249C), (9046, 0x254C), (9050, 0x2574), (9063, 0x2590), (9066, 0x2596),
    (9076, 0x25A2), (9092, 0x25B4), (9100, 0x25BE), (9108, 0x25C8), (9111, 0x25CC), (9113, 0x25D0),
    (9131, 0x25E6), (9162, 0x2607), (9164, 0x260A), (9218, 0x2641), (9219, 0x2643), (11329, 0x2E82),
    (11331, 0x2E85), (11334, 0x2E89), (11336, 0x2E8D), (11346, 0x2E98), (11361, 0x2EA8), (11363, 0x2EAB),
    (11366, 0x2EAF), (11370, 0x2EB4), (11372, 0x2EB8), (11375, 0x2EBC), (11389, 0x2ECB), (11682, 0x2FFC),
    (11686, 0x3004), (11687, 0x3018), (11692, 0x301F), (11694, 0x302A), (11714, 0x303F), (11716, 0x3094),
    (11723, 0x309F), (11725, 0x30F7), (11730, 0x30FF), (11736, 0x312A), (11982, 0x322A), (11989, 0x3232),
    (12102, 0x32A4), (12336, 0x3390), (12348, 0x339F), (12350, 0x33A2), (12384, 0x33C5), (12393, 0x33CF),
    (12395, 0x33D3), (12397, 0x33D6), (12510, 0x3448), (12553, 0x3474), (12851, 0x359F), (12962, 0x360F),
    (12973, 0x361B), (13738, 0x3919), (13823, 0x396F), (13919, 0x39D1), (13933, 0x39E0), (14080, 0x3A74),
    (14298, 0x3B4F), (14585, 0x3C6F), (14698, 0x3CE1), (15583, 0x4057), (15847, 0x4160), (16318, 0x4338),
    (16434, 0x43AD), (16438, 0x43B2), (16481, 0x43DE), (16729, 0x44D7), (17102, 0x464D), (17122, 0x4662),
    (17315, 0x4724), (17320, 0x472A), (17402, 0x477D), (17418, 0x478E), (17859, 0x4948), (17909, 0x497B),
    (17911, 0x497E), (17915, 0x4984), (17916, 0x4987), (17936, 0x499C), (17939, 0x49A0), (17961, 0x49B8),
    (18664, 0x4C78), (18703, 0x4CA4), (18814, 0x4D1A), (18962, 0x4DAF), (19043, 0x9FA6), (33469, 0xE76C),
    (33470, 0xE7C8), (33471, 0xE7E7), (33484, 0xE815), (33485, 0xE819), (33490, 0xE81F), (33497, 0xE827),
    (33501, 0xE82D), (33505, 0xE833), (33513, 0xE83C), (33520, 0xE844), (33536, 0xE856), (33550, 0xE865),
    (37845, 0xF92D), (37921, 0xF97A), (37948, 0xF996), (38029, 0xF9E8), (38038, 0xF9F2), (38064, 0xFA10),
    (38065, 0xFA12), (38066, 0xFA15), (38069, 0xFA19), (38075, 0xFA22), (38076, 0xFA25), (38078, 0xFA2A),
    (39108, 0xFE32), (39109, 0xFE45), (39113, 0xFE53), (39114, 0xFE58), (39115, 0xFE67), (39116, 0xFE6C),
    (39265, 0xFF5F), (39394, 0xFFE6)]

/-- How many code points below U+10000 have codes of four bytes. -/
def fourByteCount : Nat := 39420

/-- The number of a code of four bytes, each of which counts from its least value. -/
def fourByteIndex (a b c d : Nat) : Nat :=
  ((a * 10 + b) * 126 + c) * 10 + d

/-- The number of the first code of four bytes for a code point from U+10000 on. -/
def firstSupplementary : Nat := 189000

/-- The code point of a code of four bytes, by the number of the code. -/
def fourByte? (n : Nat) : Option Nat :=
  if n < fourByteCount then
    (fourByteRuns.reverse.find? fun r => r.1 ≤ n).map fun (first, point) => point + (n - first)
  else if firstSupplementary ≤ n ∧ n < firstSupplementary + 0x100000 then
    some (0x10000 + (n - firstSupplementary))
  else none

end BlockingQuery.Text.CharacterSet
