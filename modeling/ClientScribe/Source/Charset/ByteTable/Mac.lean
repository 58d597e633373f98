import ClientScribe.Source.Charset.ByteTable

/-!
# The Macintosh encodings

Every row has sixteen characters, four hexadecimal digits each; `fffd` stands for bytes without a
character.
-/

namespace ClientScribe.Source.ByteTable

/-- The Macintosh encoding Arabic. -/
def macArabic : ByteTable where
  rows := ["00c400a000c700c900d100d600dc00e100e000e200e406ba00ab00e700e900e8",
    "00ea00eb00ed202600ee00ef00f100f300bb00f400f600f700fa00f900fb00fc",
    "00200021002200230024066a0026002700280029002a002b060c002d002e002f",
    "0660066106620663066406650666066706680669003a061b003c003d003e061f",
    "274a062106220623062406250626062706280629062a062b062c062d062e062f",
    "0630063106320633063406350636063706380639063a005b005c005d005e005f",
    "0640064106420643064406450646064706480649064a064b064c064d064e064f",
    "065006510652067e0679068606d506a406af06880691007b007c007d069806d2"]

/-- The Macintosh encoding Croatian. -/
def macCroatian : ByteTable where
  rows := ["00c400c500c700c900d100d600dc00e100e000e200e400e300e500e700e900e8",
    "00ea00eb00ed00ec00ee00ef00f100f300f200f400f600f500fa00f900fb00fc",
    "202000b000a200a300a7202200b600df00ae0160212200b400a82260017d00d8",
    "221e00b122642265220600b522022211220f0161222b00aa00ba03a9017e00f8",
    "00bf00a100ac221a01922248010600ab010c202600a000c000c300d501520153",
    "01102014201c201d2018201900f725caf8ff00a9204420ac2039203a00c600bb",
    "201300b7201a201e203000c2010700c1010d00c800cd00ce00cf00cc00d300d4",
    "011100d200da00db00d9013102c602dc00af03c000cb02da00b800ca00e602c7"]

/-- The Macintosh encoding Cyrillic. -/
def macCyrillic : ByteTable where
  rows := ["0410041104120413041404150416041704180419041a041b041c041d041e041f",
    "0420042104220423042404250426042704280429042a042b042c042d042e042f",
    "202000b0049000a300a7202200b6040600ae00a9212204020452226004030453",
    "221e00b122642265045600b504910408040404540407045704090459040a045a",
    "0458040500ac221a01922248220600ab00bb202600a0040b045b040c045c0455",
    "20132014201c201d2018201900f7201e040e045e040f045f211604010451044f",
    "0430043104320433043404350436043704380439043a043b043c043d043e043f",
    "0440044104420443044404450446044704480449044a044b044c044d044e20ac"]

/-- The Macintosh encoding Farsi. -/
def macFarsi : ByteTable where
  rows := ["00c400a000c700c900d100d600dc00e100e000e200e406ba00ab00e700e900e8",
    "00ea00eb00ed202600ee00ef00f100f300bb00f400f600f700fa00f900fb00fc",
    "00200021002200230024066a0026002700280029002a002b060c002d002e002f",
    "06f006f106f206f306f406f506f606f706f806f9003a061b003c003d003e061f",
    "274a062106220623062406250626062706280629062a062b062c062d062e062f",
    "0630063106320633063406350636063706380639063a005b005c005d005e005f",
    "0640064106420643064406450646064706480649064a064b064c064d064e064f",
    "065006510652067e0679068606d506a406af06880691007b007c007d069806d2"]

/-- The Macintosh encoding Greek. -/
def macGreek : ByteTable where
  rows := ["00c400b900b200c900b300d600dc038500e000e200e4038400a800e700e900e8",
    "00ea00eb00a3212200ee00ef202200bd203000f400f600a620ac00f900fb00fc",
    "2020039303940398039b039e03a000df00ae00a903a303aa00a7226000b000b7",
    "039100b12264226500a503920395039603970399039a039c03a603ab03a803a9",
    "03ac039d00ac039f03a1224803a400ab00bb202600a003a503a7038603880153",
    "20132015201c201d2018201900f70389038a038c038e03ad03ae03af03cc038f",
    "03cd03b103b203c803b403b503c603b303b703b903be03ba03bb03bc03bd03bf",
    "03c003ce03c103c303c403b803c903c203c703c503b603ca03cb039003b000ad"]

/-- The Macintosh encoding Iceland. -/
def macIceland : ByteTable where
  rows := ["00c400c500c700c900d100d600dc00e100e000e200e400e300e500e700e900e8",
    "00ea00eb00ed00ec00ee00ef00f100f300f200f400f600f500fa00f900fb00fc",
    "00dd00b000a200a300a7202200b600df00ae00a9212200b400a8226000c600d8",
    "221e00b12264226500a500b522022211220f03c0222b00aa00ba03a900e600f8",
    "00bf00a100ac221a01922248220600ab00bb202600a000c000c300d501520153",
    "20132014201c201d2018201900f725ca00ff0178204420ac00d000f000de00fe",
    "00fd00b7201a201e203000c200ca00c100cb00c800cd00ce00cf00cc00d300d4",
    "f8ff00d200da00db00d9013102c602dc00af02d802d902da00b802dd02db02c7"]

/-- The Macintosh encoding Latin2. -/
def macLatin2 : ByteTable where
  rows := ["00c40100010100c9010400d600dc00e10105010c00e4010d0106010700e90179",
    "017a010e00ed010f01120113011600f3011700f400f600f500fa011a011b00fc",
    "202000b0011800a300a7202200b600df00ae00a92122011900a822600123012e",
    "012f012a22642265012b0136220222110142013b013c013d013e0139013a0145",
    "0146014300ac221a01440147220600ab00bb202600a00148015000d50151014c",
    "20132014201c201d2018201900f725ca014d0154015501582039203a01590156",
    "01570160201a201e0161015a015b00c10164016500cd017d017e016a00d300d4",
    "016b016e00da016f017001710172017300dd00fd0137017b0141017c012202c7"]

/-- The Macintosh encoding Roman. -/
def macRoman : ByteTable where
  rows := ["00c400c500c700c900d100d600dc00e100e000e200e400e300e500e700e900e8",
    "00ea00eb00ed00ec00ee00ef00f100f300f200f400f600f500fa00f900fb00fc",
    "202000b000a200a300a7202200b600df00ae00a9212200b400a8226000c600d8",
    "221e00b12264226500a500b522022211220f03c0222b00aa00ba03a900e600f8",
    "00bf00a100ac221a01922248220600ab00bb202600a000c000c300d501520153",
    "20132014201c201d2018201900f725ca00ff0178204420ac2039203afb01fb02",
    "202100b7201a201e203000c200ca00c100cb00c800cd00ce00cf00cc00d300d4",
    "f8ff00d200da00db00d9013102c602dc00af02d802d902da00b802dd02db02c7"]

/-- The Macintosh encoding Romanian. -/
def macRomanian : ByteTable where
  rows := ["00c400c500c700c900d100d600dc00e100e000e200e400e300e500e700e900e8",
    "00ea00eb00ed00ec00ee00ef00f100f300f200f400f600f500fa00f900fb00fc",
    "202000b000a200a300a7202200b600df00ae00a9212200b400a8226001020218",
    "221e00b12264226500a500b522022211220f03c0222b00aa00ba03a901030219",
    "00bf00a100ac221a01922248220600ab00bb202600a000c000c300d501520153",
    "20132014201c201d2018201900f725ca00ff0178204420ac2039203a021a021b",
    "202100b7201a201e203000c200ca00c100cb00c800cd00ce00cf00cc00d300d4",
    "f8ff00d200da00db00d9013102c602dc00af02d802d902da00b802dd02db02c7"]

/-- The Macintosh encoding Turkish. -/
def macTurkish : ByteTable where
  rows := ["00c400c500c700c900d100d600dc00e100e000e200e400e300e500e700e900e8",
    "00ea00eb00ed00ec00ee00ef00f100f300f200f400f600f500fa00f900fb00fc",
    "202000b000a200a300a7202200b600df00ae00a9212200b400a8226000c600d8",
    "221e00b12264226500a500b522022211220f03c0222b00aa00ba03a900e600f8",
    "00bf00a100ac221a01922248220600ab00bb202600a000c000c300d501520153",
    "20132014201c201d2018201900f725ca00ff0178011e011f01300131015e015f",
    "202100b7201a201e203000c200ca00c100cb00c800cd00ce00cf00cc00d300d4",
    "f8ff00d200da00db00d9f8a002c602dc00af02d802d902da00b802dd02db02c7"]

/-- The tables of this module with their names. -/
def macTables : List (String × List String × ByteTable) :=
  [("mac_arabic", [], macArabic), ("mac_croatian", [], macCroatian),
    ("mac_cyrillic", ["maccyrillic"], macCyrillic), ("mac_farsi", [], macFarsi),
    ("mac_greek", ["macgreek"], macGreek), ("mac_iceland", ["maciceland"], macIceland),
    ("mac_latin2", ["maccentraleurope", "mac_centeuro", "maclatin2"], macLatin2),
    ("mac_roman", ["macintosh", "macroman"], macRoman), ("mac_romanian", [], macRomanian),
    ("mac_turkish", ["macturkish"], macTurkish)]

end ClientScribe.Source.ByteTable
