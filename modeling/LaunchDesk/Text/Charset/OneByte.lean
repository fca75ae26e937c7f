import LaunchDesk.Text.Charset.Chart
import LaunchDesk.Text.Utf8

/-!
# Sets of one byte for each character

The sets agree on the lower half of the bytes, which is ASCII, and each has a chart of its own for
the upper half.

## Implementation notes

Where a chart leaves one of its first 32 cells free, the byte is a control character, as it is in
all sets of this kind.
-/

namespace LaunchDesk.Text.Charset

/-- A set of one byte for each character. -/
inductive OneByte where
  /-- Cyrillic, in code page 866. -/
  | ibm866
  /-- Central European, Latin-2. -/
  | latin2
  /-- South European, Latin-3. -/
  | latin3
  /-- North European, Latin-4. -/
  | latin4
  /-- Latin and Cyrillic. -/
  | latinCyrillic
  /-- Latin and Arabic. -/
  | latinArabic
  /-- Latin and Greek. -/
  | latinGreek
  /-- Latin and Hebrew. -/
  | latinHebrew
  /-- Nordic, Latin-6. -/
  | latin6
  /-- Baltic, Latin-7. -/
  | latin7
  /-- Celtic, Latin-8. -/
  | latin8
  /-- Western European with the euro sign, Latin-9. -/
  | latin9
  /-- South-Eastern European, Latin-10. -/
  | latin10
  /-- Russian, KOI8-R. -/
  | koi8Russian
  /-- Ukrainian, KOI8-U. -/
  | koi8Ukrainian
  /-- Western European, Macintosh. -/
  | macintosh
  /-- Thai, Windows code page 874. -/
  | windowsThai
  /-- Central European, Windows code page 1250. -/
  | windowsCentral
  /-- Cyrillic, Windows code page 1251. -/
  | windowsCyrillic
  /-- Western European, Windows code page 1252. -/
  | windowsWestern
  /-- Greek, Windows code page 1253. -/
  | windowsGreek
  /-- Turkish, Windows code page 1254. -/
  | windowsTurkish
  /-- Hebrew, Windows code page 1255. -/
  | windowsHebrew
  /-- Arabic, Windows code page 1256. -/
  | windowsArabic
  /-- Baltic, Windows code page 1257. -/
  | windowsBaltic
  /-- Vietnamese, Windows code page 1258. -/
  | windowsVietnamese
  /-- Cyrillic, Macintosh. -/
  | macintoshCyrillic
  deriving DecidableEq, Repr

namespace OneByte

/-- The rows of the upper half of a set. -/
def rows : OneByte → List String
  | ibm866 =>
      ["АБВГДЕЖЗИЙКЛМНОП", "РСТУФХЦЧШЩЪЫЬЭЮЯ", "абвгдежзийклмноп", "░▒▓│┤╡╢╖╕╣║╗╝╜╛┐",
       "└┴┬├─┼╞╟╚╔╩╦╠═╬╧", "╨╤╥╙╘╒╓╫╪┘┌█▄▌▐▀", "рстуфхцчшщъыьэюя", "ЁёЄєЇїЎў°∙·√№¤■\u00a0"]
  | latin2 =>
      ["", "", "\u00a0Ą˘Ł¤ĽŚ§¨ŠŞŤŹ\u00adŽŻ", "°ą˛ł´ľśˇ¸šşťź˝žż", "ŔÁÂĂÄĹĆÇČÉĘËĚÍÎĎ",
       "ĐŃŇÓÔŐÖ×ŘŮÚŰÜÝŢß", "ŕáâăäĺćçčéęëěíîď", "đńňóôőö÷řůúűüýţ˙"]
  | latin3 =>
      ["", "", "\u00a0Ħ˘£¤.Ĥ§¨İŞĞĴ\u00ad.Ż", "°ħ²³´µĥ·¸ışğĵ½.ż", "ÀÁÂ.ÄĊĈÇÈÉÊËÌÍÎÏ",
       ".ÑÒÓÔĠÖ×ĜÙÚÛÜŬŜß", "àáâ.äċĉçèéêëìíîï", ".ñòóôġö÷ĝùúûüŭŝ˙"]
  | latin4 =>
      ["", "", "\u00a0ĄĸŖ¤ĨĻ§¨ŠĒĢŦ\u00adŽ¯", "°ą˛ŗ´ĩļˇ¸šēģŧŊžŋ", "ĀÁÂÃÄÅÆĮČÉĘËĖÍÎĪ",
       "ĐŅŌĶÔÕÖ×ØŲÚÛÜŨŪß", "āáâãäåæįčéęëėíîī", "đņōķôõö÷øųúûüũū˙"]
  | latinCyrillic =>
      ["", "", "\u00a0ЁЂЃЄЅІЇЈЉЊЋЌ\u00adЎЏ", "АБВГДЕЖЗИЙКЛМНОП", "РСТУФХЦЧШЩЪЫЬЭЮЯ",
       "абвгдежзийклмноп", "рстуфхцчшщъыьэюя", "№ёђѓєѕіїјљњћќ§ўџ"]
  | latinArabic =>
      ["", "", "\u00a0...¤.......\u060c\u00ad", "...........\u061b...\u061f",
       ".\u0621\u0622\u0623\u0624\u0625\u0626\u0627\u0628\u0629\u062a\u062b\u062c\u062d\u062e\u062f",
       "\u0630\u0631\u0632\u0633\u0634\u0635\u0636\u0637\u0638\u0639\u063a",
       "\u0640\u0641\u0642\u0643\u0644\u0645\u0646\u0647\u0648\u0649\u064a\u064b\u064c\u064d\u064e\u064f",
       "\u0650\u0651\u0652"]
  | latinGreek =>
      ["", "", "\u00a0‘’£€₯¦§¨©ͺ«¬\u00ad.―", "°±²³΄΅Ά·ΈΉΊ»Ό½ΎΏ", "ΐΑΒΓΔΕΖΗΘΙΚΛΜΝΞΟ",
       "ΠΡ.ΣΤΥΦΧΨΩΪΫάέήί", "ΰαβγδεζηθικλμνξο", "πρςστυφχψωϊϋόύώ"]
  | latinHebrew =>
      ["", "", "\u00a0.¢£¤¥¦§¨©×«¬\u00ad®¯", "°±²³´µ¶·¸¹÷»¼½¾", "", "...............‗",
       "\u05d0\u05d1\u05d2\u05d3\u05d4\u05d5\u05d6\u05d7\u05d8\u05d9\u05da\u05db\u05dc\u05dd\u05de\u05df",
       "\u05e0\u05e1\u05e2\u05e3\u05e4\u05e5\u05e6\u05e7\u05e8\u05e9\u05ea..\u200e\u200f"]
  | latin6 =>
      ["", "", "\u00a0ĄĒĢĪĨĶ§ĻĐŠŦŽ\u00adŪŊ", "°ąēģīĩķ·ļđšŧž―ūŋ", "ĀÁÂÃÄÅÆĮČÉĘËĖÍÎÏ",
       "ÐŅŌÓÔÕÖŨØŲÚÛÜÝÞß", "āáâãäåæįčéęëėíîï", "ðņōóôõöũøųúûüýþĸ"]
  | latin7 =>
      ["", "", "\u00a0”¢£¤„¦§Ø©Ŗ«¬\u00ad®Æ", "°±²³“µ¶·ø¹ŗ»¼½¾æ", "ĄĮĀĆÄÅĘĒČÉŹĖĢĶĪĻ",
       "ŠŃŅÓŌÕÖ×ŲŁŚŪÜŻŽß", "ąįāćäåęēčéźėģķīļ", "šńņóōõö÷ųłśūüżž’"]
  | latin8 =>
      ["", "", "\u00a0Ḃḃ£ĊċḊ§Ẁ©ẂḋỲ\u00ad®Ÿ", "ḞḟĠġṀṁ¶ṖẁṗẃṠỳẄẅṡ", "ÀÁÂÃÄÅÆÇÈÉÊËÌÍÎÏ",
       "ŴÑÒÓÔÕÖṪØÙÚÛÜÝŶß", "àáâãäåæçèéêëìíîï", "ŵñòóôõöṫøùúûüýŷÿ"]
  | latin9 =>
      ["", "", "\u00a0¡¢£€¥Š§š©ª«¬\u00ad®¯", "°±²³Žµ¶·ž¹º»ŒœŸ¿", "ÀÁÂÃÄÅÆÇÈÉÊËÌÍÎÏ",
       "ÐÑÒÓÔÕÖ×ØÙÚÛÜÝÞß", "àáâãäåæçèéêëìíîï", "ðñòóôõö÷øùúûüýþÿ"]
  | latin10 =>
      ["", "", "\u00a0ĄąŁ€„Š§š©Ș«Ź\u00adźŻ", "°±ČłŽ”¶·žčș»ŒœŸż", "ÀÁÂĂÄĆÆÇÈÉÊËÌÍÎÏ",
       "ĐŃÒÓÔŐÖŚŰÙÚÛÜĘȚß", "àáâăäćæçèéêëìíîï", "đńòóôőöśűùúûüęțÿ"]
  | koi8Russian =>
      ["─│┌┐└┘├┤┬┴┼▀▄█▌▐", "░▒▓⌠■∙√≈≤≥\u00a0⌡°²·÷", "═║╒ё╓╔╕╖╗╘╙╚╛╜╝╞", "╟╠╡Ё╢╣╤╥╦╧╨╩╪╫╬©",
       "юабцдефгхийклмно", "пярстужвьызшэщчъ", "ЮАБЦДЕФГХИЙКЛМНО", "ПЯРСТУЖВЬЫЗШЭЩЧЪ"]
  | koi8Ukrainian =>
      ["─│┌┐└┘├┤┬┴┼▀▄█▌▐", "░▒▓⌠■∙√≈≤≥\u00a0⌡°²·÷", "═║╒ёє╔ії╗╘╙╚╛ґў╞", "╟╠╡ЁЄ╣ІЇ╦╧╨╩╪ҐЎ©",
       "юабцдефгхийклмно", "пярстужвьызшэщчъ", "ЮАБЦДЕФГХИЙКЛМНО", "ПЯРСТУЖВЬЫЗШЭЩЧЪ"]
  | macintosh =>
      ["ÄÅÇÉÑÖÜáàâäãåçéè", "êëíìîïñóòôöõúùûü", "†°¢£§•¶ß®©™´¨≠ÆØ", "∞±≤≥¥µ∂∑∏π∫ªºΩæø",
       "¿¡¬√ƒ≈∆«»…\u00a0ÀÃÕŒœ", "–—“”‘’÷◊ÿŸ⁄€‹›ﬁﬂ", "‡·‚„‰ÂÊÁËÈÍÎÏÌÓÔ", "\uf8ffÒÚÛÙıˆ˜¯˘˙˚¸˝˛ˇ"]
  | windowsThai =>
      ["€....…", ".‘’“”•–—", "\u00a0กขฃคฅฆงจฉชซฌญฎฏ", "ฐฑฒณดตถทธนบปผฝพฟ", "ภมยรฤลฦวศษสหฬอฮฯ",
       "ะ\u0e31าำ\u0e34\u0e35\u0e36\u0e37\u0e38\u0e39\u0e3a....฿",
       "เแโใไๅๆ\u0e47\u0e48\u0e49\u0e4a\u0e4b\u0e4c\u0e4d\u0e4e๏", "๐๑๒๓๔๕๖๗๘๙๚๛"]
  | windowsCentral =>
      ["€.‚.„…†‡.‰Š‹ŚŤŽŹ", ".‘’“”•–—.™š›śťžź", "\u00a0ˇ˘Ł¤Ą¦§¨©Ş«¬\u00ad®Ż", "°±˛ł´µ¶·¸ąş»Ľ˝ľż",
       "ŔÁÂĂÄĹĆÇČÉĘËĚÍÎĎ", "ĐŃŇÓÔŐÖ×ŘŮÚŰÜÝŢß", "ŕáâăäĺćçčéęëěíîď", "đńňóôőö÷řůúűüýţ˙"]
  | windowsCyrillic =>
      ["ЂЃ‚ѓ„…†‡€‰Љ‹ЊЌЋЏ", "ђ‘’“”•–—.™љ›њќћџ", "\u00a0ЎўЈ¤Ґ¦§Ё©Є«¬\u00ad®Ї", "°±Ііґµ¶·ё№є»јЅѕї",
       "АБВГДЕЖЗИЙКЛМНОП", "РСТУФХЦЧШЩЪЫЬЭЮЯ", "абвгдежзийклмноп", "рстуфхцчшщъыьэюя"]
  | windowsWestern =>
      ["€.‚ƒ„…†‡ˆ‰Š‹Œ.Ž", ".‘’“”•–—˜™š›œ.žŸ", "\u00a0¡¢£¤¥¦§¨©ª«¬\u00ad®¯", "°±²³´µ¶·¸¹º»¼½¾¿",
       "ÀÁÂÃÄÅÆÇÈÉÊËÌÍÎÏ", "ÐÑÒÓÔÕÖ×ØÙÚÛÜÝÞß", "àáâãäåæçèéêëìíîï", "ðñòóôõö÷øùúûüýþÿ"]
  | windowsGreek =>
      ["€.‚ƒ„…†‡.‰.‹", ".‘’“”•–—.™.›", "\u00a0΅Ά£¤¥¦§¨©.«¬\u00ad®―", "°±²³΄µ¶·ΈΉΊ»Ό½ΎΏ",
       "ΐΑΒΓΔΕΖΗΘΙΚΛΜΝΞΟ", "ΠΡ.ΣΤΥΦΧΨΩΪΫάέήί", "ΰαβγδεζηθικλμνξο", "πρςστυφχψωϊϋόύώ"]
  | windowsTurkish =>
      ["€.‚ƒ„…†‡ˆ‰Š‹Œ", ".‘’“”•–—˜™š›œ..Ÿ", "\u00a0¡¢£¤¥¦§¨©ª«¬\u00ad®¯", "°±²³´µ¶·¸¹º»¼½¾¿",
       "ÀÁÂÃÄÅÆÇÈÉÊËÌÍÎÏ", "ĞÑÒÓÔÕÖ×ØÙÚÛÜİŞß", "àáâãäåæçèéêëìíîï", "ğñòóôõö÷øùúûüışÿ"]
  | windowsHebrew =>
      ["€.‚ƒ„…†‡ˆ‰.‹", ".‘’“”•–—˜™.›", "\u00a0¡¢£₪¥¦§¨©×«¬\u00ad®¯", "°±²³´µ¶·¸¹÷»¼½¾¿",
       "\u05b0\u05b1\u05b2\u05b3\u05b4\u05b5\u05b6\u05b7\u05b8\u05b9\u05ba\u05bb\u05bc\u05bd\u05be\u05bf",
       "\u05c0\u05c1\u05c2\u05c3\u05f0\u05f1\u05f2\u05f3\u05f4",
       "\u05d0\u05d1\u05d2\u05d3\u05d4\u05d5\u05d6\u05d7\u05d8\u05d9\u05da\u05db\u05dc\u05dd\u05de\u05df",
       "\u05e0\u05e1\u05e2\u05e3\u05e4\u05e5\u05e6\u05e7\u05e8\u05e9\u05ea..\u200e\u200f"]
  | windowsArabic =>
      ["€\u067e‚ƒ„…†‡ˆ‰\u0679‹Œ\u0686\u0698\u0688",
       "\u06af‘’“”•–—\u06a9™\u0691›œ\u200c\u200d\u06ba", "\u00a0\u060c¢£¤¥¦§¨©\u06be«¬\u00ad®¯",
       "°±²³´µ¶·¸¹\u061b»¼½¾\u061f",
       "\u06c1\u0621\u0622\u0623\u0624\u0625\u0626\u0627\u0628\u0629\u062a\u062b\u062c\u062d\u062e\u062f",
       "\u0630\u0631\u0632\u0633\u0634\u0635\u0636×\u0637\u0638\u0639\u063a\u0640\u0641\u0642\u0643",
       "à\u0644â\u0645\u0646\u0647\u0648çèéêë\u0649\u064aîï",
       "\u064b\u064c\u064d\u064eô\u064f\u0650÷\u0651ù\u0652ûü\u200e\u200f\u06d2"]
  | windowsBaltic =>
      ["€.‚.„…†‡.‰.‹.¨ˇ¸", ".‘’“”•–—.™.›.¯˛", "\u00a0.¢£¤.¦§Ø©Ŗ«¬\u00ad®Æ", "°±²³´µ¶·ø¹ŗ»¼½¾æ",
       "ĄĮĀĆÄÅĘĒČÉŹĖĢĶĪĻ", "ŠŃŅÓŌÕÖ×ŲŁŚŪÜŻŽß", "ąįāćäåęēčéźėģķīļ", "šńņóōõö÷ųłśūüżž˙"]
  | windowsVietnamese =>
      ["€.‚ƒ„…†‡ˆ‰.‹Œ", ".‘’“”•–—˜™.›œ..Ÿ", "\u00a0¡¢£¤¥¦§¨©ª«¬\u00ad®¯", "°±²³´µ¶·¸¹º»¼½¾¿",
       "ÀÁÂĂÄÅÆÇÈÉÊË\u0300ÍÎÏ", "ĐÑ\u0309ÓÔƠÖ×ØÙÚÛÜƯ\u0303ß", "àáâăäåæçèéêë\u0301íîï",
       "đñ\u0323óôơö÷øùúûüư₫ÿ"]
  | macintoshCyrillic =>
      ["АБВГДЕЖЗИЙКЛМНОП", "РСТУФХЦЧШЩЪЫЬЭЮЯ", "†°Ґ£§•¶І®©™Ђђ≠Ѓѓ", "∞±≤≥іµґЈЄєЇїЉљЊњ",
       "јЅ¬√ƒ≈∆«»…\u00a0ЋћЌќѕ", "–—“”‘’÷„ЎўЏџ№Ёёя", "абвгдежзийклмноп", "рстуфхцчшщъыьэю€"]

/-- The character of a byte. -/
def char (set : OneByte) (b : UInt8) : Char :=
  if b < 0x80 then Char.ofNat b.toNat
  else
    match Chart.cell? ⟨16, set.rows⟩ (b.toNat - 0x80) with
    | some c => c
    | none => if b < 0xA0 then Char.ofNat b.toNat else replacement

end OneByte

end LaunchDesk.Text.Charset
