import ClientScribe.Source.Charset.ByteTable.Ebcdic
import ClientScribe.Source.Charset.ByteTable.Ibm
import ClientScribe.Source.Charset.ByteTable.Iso
import ClientScribe.Source.Charset.ByteTable.Mac
import ClientScribe.Source.Charset.ByteTable.National
import ClientScribe.Source.Charset.ByteTable.Windows
import ClientScribe.Source.Charset.Chinese
import ClientScribe.Source.Charset.Designated
import ClientScribe.Source.Charset.Escaped
import ClientScribe.Source.Charset.Japanese
import ClientScribe.Source.Charset.Korean
import ClientScribe.Source.Charset.Punycode
import ClientScribe.Source.Charset.Unicode
import ClientScribe.Source.Charset.Utf7

/-!
# Decoding fetched texts

The body of a fetched document is bytes, and its content type may name how they are to be read.
Bytes that do not fit are read as the replacement character. An encoding that takes the order of the
bytes from a mark in front refuses a text without one, and some others refuse what they cannot go on
behind. Some names are known as those of transformations that give no text.

Main definitions:

* `Charset.decode?` — reads bytes in an encoding;
* `Charset.ofName?` — the encoding with a name.
-/

namespace ClientScribe.Source

/-- The encodings of fetched texts. -/
inductive Charset where
  | utf8
  /-- The same without the mark that may stand in front. -/
  | utf8Marked
  | ascii
  | latin1
  /-- Without an order, a mark in front has to tell it. -/
  | utf16 (order : Option ByteOrder)
  | utf32 (order : Option ByteOrder)
  | table (t : ByteTable)
  | japanese (e : Japanese)
  | chinese (e : Chinese)
  | korean (e : Korean)
  | designating (e : Designating)
  | utf7
  /-- Of backslashes, all escapes of string literals or only those that write numbers. -/
  | escaped (isRaw : Bool)
  | punycode
  /-- What gives no text, unless there are no bytes. -/
  | textless

/-- Reads bytes in an encoding. Fewer bytes than a mark has are a piece that does not fit. -/
def Charset.decode? (c : Charset) (bytes : List UInt8) : Option Text :=
  match c with
  | utf8 => some (.ofChars (utf8From none bytes))
  | utf8Marked =>
    match utf8From none bytes with
    | first :: rest => some (.ofChars (if first == mark then rest else first :: rest))
    | [] => some []
  | ascii => some (bytes.map fun b => .char ((asciiChar? b.toNat).getD replacement))
  | latin1 => some (bytes.map sameChar)
  | utf16 (some order) => some (.ofChars (utf16From none (units16 order bytes)))
  | utf16 none =>
    if bytes.length < 2 then some (.ofChars (utf16From none (units16 .little bytes)))
    else (marked? 2 bytes).map fun (order, rest) => .ofChars (utf16From none (units16 order rest))
  | utf32 (some order) => some (.ofChars (utf32From order bytes))
  | utf32 none =>
    if bytes.length < 4 then some (.ofChars (utf32From .little bytes))
    else (marked? 4 bytes).map fun (order, rest) => .ofChars (utf32From order rest)
  | table t => some (.ofChars (t.decode bytes))
  | japanese e => e.decode? bytes
  | chinese e => e.decode? bytes
  | korean e => e.decode? bytes
  | designating e => e.decode? bytes
  | utf7 => some (utf7From .outside bytes)
  | escaped true => readPlainFronts rawEscapedFront bytes
  | escaped false => readPlainFronts escapedFront bytes
  | punycode => punycode? bytes
  | textless => if bytes.isEmpty then some [] else none

/-- The names of an encoding, in small letters and with single underscores. In a name from the
second one on, dots may stand for underscores. -/
structure NamedCharset where
  name : String
  others : List String
  charset : Charset

/-- The encodings without a table by name. -/
def plainCharsets : List NamedCharset :=
  [⟨"utf_8", ["utf8", "u8", "utf", "cp65001", "utf8_ucs2", "utf8_ucs4"], .utf8⟩,
    ⟨"utf_8_sig", [], .utf8Marked⟩,
    ⟨"ascii", ["us_ascii", "us", "646", "cp367", "ibm367", "csascii", "iso646_us", "iso_ir_6",
      "ansi_x3.4_1968", "ansi_x3.4_1986", "ansi_x3_4_1968", "iso_646.irv_1991"], .ascii⟩,
    ⟨"latin_1", ["latin1", "latin", "l1", "iso_8859_1", "iso8859_1", "iso8859", "8859",
      "iso_8859_1_1987", "iso_ir_100", "csisolatin1", "cp819", "ibm819"], .latin1⟩,
    ⟨"charmap", [], .latin1⟩,
    ⟨"utf_16", ["utf16", "u16"], .utf16 none⟩,
    ⟨"utf_16_le", ["utf_16le", "unicodelittleunmarked"], .utf16 (some .little)⟩,
    ⟨"utf_16_be", ["utf_16be", "unicodebigunmarked"], .utf16 (some .big)⟩,
    ⟨"utf_32", ["utf32", "u32"], .utf32 none⟩,
    ⟨"utf_32_le", ["utf_32le"], .utf32 (some .little)⟩,
    ⟨"utf_32_be", ["utf_32be"], .utf32 (some .big)⟩,
    ⟨"utf_7", ["u7", "utf7", "unicode_1_1_utf_7"], .utf7⟩,
    ⟨"unicode_escape", [], .escaped false⟩,
    ⟨"raw_unicode_escape", [], .escaped true⟩,
    ⟨"punycode", [], .punycode⟩,
    ⟨"base64_codec", ["base64", "base_64"], .textless⟩,
    ⟨"bz2_codec", ["bz2"], .textless⟩,
    ⟨"hex_codec", ["hex"], .textless⟩,
    ⟨"idna", [], .textless⟩,
    ⟨"quopri_codec", ["quopri", "quoted_printable", "quotedprintable"], .textless⟩,
    ⟨"rot_13", ["rot13"], .textless⟩,
    ⟨"undefined", [], .textless⟩,
    ⟨"uu_codec", ["uu"], .textless⟩,
    ⟨"zlib_codec", ["zip", "zlib"], .textless⟩]

/-- The encodings of several bytes to a character by name. -/
def wideCharsets : List NamedCharset :=
  [⟨"euc_jp", ["eucjp", "ujis", "u_jis"], .japanese .euc⟩,
    ⟨"euc_jis_2004", ["jisx0213", "eucjis2004", "euc_jis2004"], .japanese (.eucX0213 .second)⟩,
    ⟨"euc_jisx0213", ["eucjisx0213"], .japanese (.eucX0213 .first)⟩,
    ⟨"shift_jis", ["csshiftjis", "shiftjis", "sjis", "s_jis", "x_mac_japanese"],
      .japanese .shifted⟩,
    ⟨"cp932", ["932", "ms932", "mskanji", "ms_kanji"], .japanese .shiftedWindows⟩,
    ⟨"shift_jis_2004", ["shiftjis2004", "sjis_2004", "s_jis_2004"],
      .japanese (.shiftedX0213 .second)⟩,
    ⟨"shift_jisx0213", ["shiftjisx0213", "sjisx0213", "s_jisx0213"],
      .japanese (.shiftedX0213 .first)⟩,
    ⟨"gb2312", ["chinese", "csiso58gb231280", "euc_cn", "euccn", "eucgb2312_cn", "gb2312_1980",
      "gb2312_80", "iso_ir_58", "x_mac_simp_chinese"], .chinese .gb2312⟩,
    ⟨"gbk", ["936", "cp936", "ms936"], .chinese .gbk⟩,
    ⟨"gb18030", ["gb18030_2000"], .chinese .gb18030⟩,
    ⟨"hz", ["hzgb", "hz_gb", "hz_gb_2312"], .chinese .hz⟩,
    ⟨"big5", ["big5_tw", "csbig5", "x_mac_trad_chinese"], .chinese .big5⟩,
    ⟨"cp950", ["950", "ms950"], .chinese .big5Windows⟩,
    ⟨"big5hkscs", ["big5_hkscs", "hkscs"], .chinese .big5HongKong⟩,
    ⟨"euc_kr", ["euckr", "korean", "ksc5601", "ks_c_5601", "ks_c_5601_1987", "ksx1001", "ks_x_1001",
      "x_mac_korean"], .korean .euc⟩,
    ⟨"cp949", ["949", "ms949", "uhc"], .korean .windows⟩,
    ⟨"johab", ["cp1361", "ms1361"], .korean .johab⟩,
    ⟨"iso2022_kr", ["csiso2022kr", "iso2022kr", "iso_2022_kr"], .designating .korean⟩,
    ⟨"iso2022_jp", ["csiso2022jp", "iso2022jp", "iso_2022_jp"], .designating .japanese⟩,
    ⟨"iso2022_jp_1", ["iso2022jp_1", "iso_2022_jp_1"], .designating .japanese1⟩,
    ⟨"iso2022_jp_2", ["iso2022jp_2", "iso_2022_jp_2"], .designating .japanese2⟩,
    ⟨"iso2022_jp_3", ["iso2022jp_3", "iso_2022_jp_3"], .designating .japanese3⟩,
    ⟨"iso2022_jp_2004", ["iso2022jp_2004", "iso_2022_jp_2004"], .designating .japanese2004⟩,
    ⟨"iso2022_jp_ext", ["iso2022jp_ext", "iso_2022_jp_ext"], .designating .japaneseExtended⟩]

/-- The encodings with a table by name. -/
def tableCharsets : List NamedCharset :=
  (ByteTable.isoTables ++ ByteTable.windowsTables ++ ByteTable.ibmTables ++
    ByteTable.ebcdicTables ++ ByteTable.macTables ++ ByteTable.nationalTables).map
      fun (name, others, t) => ⟨name, others, .table t⟩

/-- A name with an underscore for every run of characters that are neither letters, digits nor
points; none at its ends. -/
def plainNameFrom (gap : Bool) : Text → List Char
  | [] => []
  | .char c :: rest =>
    if c.isAlphanum || c == '.' then
      let more := c.toLower :: plainNameFrom false rest
      if gap then '_' :: more else more
    else plainNameFrom true rest
  | .half _ :: rest => plainNameFrom true rest

/-- The name of an encoding in small letters and with single underscores. -/
def plainName (name : Text) : List Char :=
  plainNameFrom false (name.dropWhile (!·.satisfies fun c => c.isAlphanum || c == '.'))

/-- The name with an underscore for every point. -/
def withoutPoints (name : List Char) : List Char :=
  name.map fun c => if c == '.' then '_' else c

/-- Whether an encoding has a name. -/
def NamedCharset.isNamed (c : NamedCharset) (name : List Char) : Bool :=
  c.name.toList == name || c.others.contains (String.ofList name) ||
    c.others.contains (String.ofList (withoutPoints name))

/-- The encoding with a name. -/
def Charset.ofName? (name : Text) : Option Charset :=
  let known := plainCharsets ++ tableCharsets ++ wideCharsets
  (known.find? (·.isNamed (plainName name))).map (·.charset)

end ClientScribe.Source
