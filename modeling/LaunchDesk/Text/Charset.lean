import LaunchDesk.Text.Blank
import LaunchDesk.Text.Charset.Big5
import LaunchDesk.Text.Charset.Gb18030
import LaunchDesk.Text.Charset.Japanese
import LaunchDesk.Text.Charset.Korean
import LaunchDesk.Text.Charset.OneByte
import LaunchDesk.Text.Charset.Utf16

/-!
# Character sets

Byte strings as text in the character set that a label names. Every byte string has a text: bytes
without meaning become replacement characters.

## Implementation notes

A byte order mark at the start knows better than any label and is no part of the text.
-/

namespace LaunchDesk.Text

/-- A character set. -/
inductive Charset where
  | utf8
  /-- Units of 16 bits, the low or the high byte first. -/
  | utf16 (lowFirst : Bool)
  /-- One byte for each character. -/
  | oneByte (set : Charset.OneByte)
  /-- Simplified Chinese. -/
  | gb18030
  /-- Traditional Chinese. -/
  | big5
  /-- Japanese with bytes of the upper half. -/
  | japaneseUpper
  /-- Japanese with shifted rows. -/
  | japaneseShifted
  /-- Japanese in seven bits. -/
  | japaneseSeven
  | korean
  /-- ASCII, and a private character for each byte of the upper half. -/
  | privateBytes
  /-- A set that is not read, because a text in it could be taken for ASCII. -/
  | unread
  deriving DecidableEq, Repr

namespace Charset

/-- The sets and the labels of each. -/
def labels : List (Charset × List String) :=
  [(.utf8, ["unicode-1-1-utf-8", "unicode11utf8", "unicode20utf8", "utf-8", "utf8",
      "x-unicode20utf8"]),
    (.oneByte .ibm866, ["866", "cp866", "csibm866", "ibm866"]),
    (.oneByte .latin2, ["csisolatin2", "iso-8859-2", "iso-ir-101", "iso8859-2", "iso88592",
      "iso_8859-2", "iso_8859-2:1987", "l2", "latin2"]),
    (.oneByte .latin3, ["csisolatin3", "iso-8859-3", "iso-ir-109", "iso8859-3", "iso88593",
      "iso_8859-3", "iso_8859-3:1988", "l3", "latin3"]),
    (.oneByte .latin4, ["csisolatin4", "iso-8859-4", "iso-ir-110", "iso8859-4", "iso88594",
      "iso_8859-4", "iso_8859-4:1988", "l4", "latin4"]),
    (.oneByte .latinCyrillic, ["csisolatincyrillic", "cyrillic", "iso-8859-5", "iso-ir-144",
      "iso8859-5", "iso88595", "iso_8859-5", "iso_8859-5:1988"]),
    (.oneByte .latinArabic, ["arabic", "asmo-708", "csiso88596e", "csiso88596i", "csisolatinarabic",
      "ecma-114", "iso-8859-6", "iso-8859-6-e", "iso-8859-6-i", "iso-ir-127", "iso8859-6",
      "iso88596", "iso_8859-6", "iso_8859-6:1987"]),
    (.oneByte .latinGreek, ["csisolatingreek", "ecma-118", "elot_928", "greek", "greek8",
      "iso-8859-7", "iso-ir-126", "iso8859-7", "iso88597", "iso_8859-7", "iso_8859-7:1987",
      "sun_eu_greek"]),
    (.oneByte .latinHebrew, ["csiso88598e", "csiso88598i", "csisolatinhebrew", "hebrew",
      "iso-8859-8", "iso-8859-8-e", "iso-8859-8-i", "iso-ir-138", "iso8859-8", "iso88598",
      "iso_8859-8", "iso_8859-8:1988", "logical", "visual"]),
    (.oneByte .latin6, ["csisolatin6", "iso-8859-10", "iso-ir-157", "iso8859-10", "iso885910", "l6",
      "latin6"]),
    (.oneByte .latin7, ["iso-8859-13", "iso8859-13", "iso885913"]),
    (.oneByte .latin8, ["iso-8859-14", "iso8859-14", "iso885914"]),
    (.oneByte .latin9, ["csisolatin9", "iso-8859-15", "iso8859-15", "iso885915", "iso_8859-15",
      "l9"]),
    (.oneByte .latin10, ["iso-8859-16"]),
    (.oneByte .koi8Russian, ["cskoi8r", "koi", "koi8", "koi8-r", "koi8_r"]),
    (.oneByte .koi8Ukrainian, ["koi8-ru", "koi8-u"]),
    (.oneByte .macintosh, ["csmacintosh", "mac", "macintosh", "x-mac-roman"]),
    (.oneByte .windowsThai, ["dos-874", "iso-8859-11", "iso8859-11", "iso885911", "tis-620",
      "windows-874"]),
    (.oneByte .windowsCentral, ["cp1250", "windows-1250", "x-cp1250"]),
    (.oneByte .windowsCyrillic, ["cp1251", "windows-1251", "x-cp1251"]),
    (.oneByte .windowsWestern, ["ansi_x3.4-1968", "ascii", "cp1252", "cp819", "csisolatin1",
      "ibm819", "iso-8859-1", "iso-ir-100", "iso8859-1", "iso88591", "iso_8859-1",
      "iso_8859-1:1987", "l1", "latin1", "us-ascii", "windows-1252", "x-cp1252"]),
    (.oneByte .windowsGreek, ["cp1253", "windows-1253", "x-cp1253"]),
    (.oneByte .windowsTurkish, ["cp1254", "csisolatin5", "iso-8859-9", "iso-ir-148", "iso8859-9",
      "iso88599", "iso_8859-9", "iso_8859-9:1989", "l5", "latin5", "windows-1254", "x-cp1254"]),
    (.oneByte .windowsHebrew, ["cp1255", "windows-1255", "x-cp1255"]),
    (.oneByte .windowsArabic, ["cp1256", "windows-1256", "x-cp1256"]),
    (.oneByte .windowsBaltic, ["cp1257", "windows-1257", "x-cp1257"]),
    (.oneByte .windowsVietnamese, ["cp1258", "windows-1258", "x-cp1258"]),
    (.oneByte .macintoshCyrillic, ["x-mac-cyrillic", "x-mac-ukrainian"]),
    (.gb18030, ["chinese", "csgb2312", "csiso58gb231280", "gb18030", "gb2312", "gb_2312",
      "gb_2312-80", "gbk", "iso-ir-58", "x-gbk"]),
    (.big5, ["big5", "big5-hkscs", "cn-big5", "csbig5", "x-x-big5"]),
    (.japaneseUpper, ["cseucpkdfmtjapanese", "euc-jp", "x-euc-jp"]),
    (.japaneseSeven, ["csiso2022jp", "iso-2022-jp"]),
    (.japaneseShifted, ["csshiftjis", "ms932", "ms_kanji", "shift-jis", "shift_jis", "sjis",
      "windows-31j", "x-sjis"]),
    (.korean, ["cseuckr", "csksc56011987", "euc-kr", "iso-ir-149", "korean", "ks_c_5601-1987",
      "ks_c_5601-1989", "ksc5601", "ksc_5601", "windows-949"]),
    (.unread, ["csiso2022kr", "hz-gb-2312", "iso-2022-cn", "iso-2022-cn-ext", "iso-2022-kr",
      "replacement"]),
    (.utf16 false, ["unicodefffe", "utf-16be"]),
    (.utf16 true, ["csunicode", "iso-10646-ucs-2", "ucs-2", "unicode", "unicodefeff", "utf-16",
      "utf-16le"]),
    (.privateBytes, ["x-user-defined"])]

/-- The character set of a label; UTF-8 if the label means nothing. -/
def ofLabel (label : String) : Charset :=
  let label := String.ofList ((trimBy Char.isWhitespace label.toList).map Char.toLower)
  match labels.find? fun (_, names) => names.contains label with
  | some (charset, _) => charset
  | none => .utf8

/-- ASCII, or a private character. -/
def privateByte (b : UInt8) : Char :=
  if isAscii b then Char.ofNat b.toNat else Char.ofNat (0xF780 + (b.toNat - 0x80))

/-- The text of a byte string without a byte order mark. -/
def decodeBare : Charset → List UInt8 → String
  | utf8, bytes => ofUtf8Lossy bytes
  | utf16 lowFirst, bytes => String.ofList (Utf16.chars lowFirst bytes)
  | oneByte set, bytes => String.ofList (bytes.map set.char)
  | gb18030, bytes => String.ofList (readSteps Gb18030.step bytes)
  | big5, bytes => String.ofList (readSteps Big5.step bytes)
  | japaneseUpper, bytes => String.ofList (readSteps Japanese.upperStep bytes)
  | japaneseShifted, bytes => String.ofList (readSteps Japanese.shiftedStep bytes)
  | japaneseSeven, bytes => String.ofList (Japanese.sevenChars .ascii false bytes)
  | korean, bytes => String.ofList (readSteps Korean.step bytes)
  | privateBytes, bytes => String.ofList (bytes.map privateByte)
  | unread, bytes => if bytes.isEmpty then "" else String.singleton replacement

/-- The text of a byte string. -/
def decode (charset : Charset) : List UInt8 → String
  | 0xEF :: 0xBB :: 0xBF :: bytes => decodeBare utf8 bytes
  | 0xFF :: 0xFE :: bytes => decodeBare (utf16 true) bytes
  | 0xFE :: 0xFF :: bytes => decodeBare (utf16 false) bytes
  | bytes => decodeBare charset bytes

end Charset

end LaunchDesk.Text
