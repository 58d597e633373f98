import ClientScribe.Source.Charset.ByteTable

/-!
# The ISO 8859 encodings

Every row has sixteen characters, four hexadecimal digits each; `fffd` stands for bytes without a
character.
-/

namespace ClientScribe.Source.ByteTable

/-- Part 2 of ISO 8859. -/
def iso2 : ByteTable where
  rows := ["00a0010402d8014100a4013d015a00a700a80160015e0164017900ad017d017b",
    "00b0010502db014200b4013e015b02c700b80161015f0165017a02dd017e017c",
    "015400c100c2010200c40139010600c7010c00c9011800cb011a00cd00ce010e",
    "01100143014700d300d4015000d600d70158016e00da017000dc00dd016200df",
    "015500e100e2010300e4013a010700e7010d00e9011900eb011b00ed00ee010f",
    "01110144014800f300f4015100f600f70159016f00fa017100fc00fd016302d9"]

/-- Part 3 of ISO 8859. -/
def iso3 : ByteTable where
  rows := ["00a0012602d800a300a4fffd012400a700a80130015e011e013400adfffd017b",
    "00b0012700b200b300b400b5012500b700b80131015f011f013500bdfffd017c",
    "00c000c100c2fffd00c4010a010800c700c800c900ca00cb00cc00cd00ce00cf",
    "fffd00d100d200d300d4012000d600d7011c00d900da00db00dc016c015c00df",
    "00e000e100e2fffd00e4010b010900e700e800e900ea00eb00ec00ed00ee00ef",
    "fffd00f100f200f300f4012100f600f7011d00f900fa00fb00fc016d015d02d9"]

/-- Part 4 of ISO 8859. -/
def iso4 : ByteTable where
  rows := ["00a001040138015600a40128013b00a700a8016001120122016600ad017d00af",
    "00b0010502db015700b40129013c02c700b80161011301230167014a017e014b",
    "010000c100c200c300c400c500c6012e010c00c9011800cb011600cd00ce012a",
    "01100145014c013600d400d500d600d700d8017200da00db00dc0168016a00df",
    "010100e100e200e300e400e500e6012f010d00e9011900eb011700ed00ee012b",
    "01110146014d013700f400f500f600f700f8017300fa00fb00fc0169016b02d9"]

/-- Part 5 of ISO 8859. -/
def iso5 : ByteTable where
  rows := ["00a0040104020403040404050406040704080409040a040b040c00ad040e040f",
    "0410041104120413041404150416041704180419041a041b041c041d041e041f",
    "0420042104220423042404250426042704280429042a042b042c042d042e042f",
    "0430043104320433043404350436043704380439043a043b043c043d043e043f",
    "0440044104420443044404450446044704480449044a044b044c044d044e044f",
    "2116045104520453045404550456045704580459045a045b045c00a7045e045f"]

/-- Part 6 of ISO 8859. -/
def iso6 : ByteTable where
  rows := ["00a0fffdfffdfffd00a4fffdfffdfffdfffdfffdfffdfffd060c00adfffdfffd",
    "fffdfffdfffdfffdfffdfffdfffdfffdfffdfffdfffd061bfffdfffdfffd061f",
    "fffd062106220623062406250626062706280629062a062b062c062d062e062f",
    "0630063106320633063406350636063706380639063afffdfffdfffdfffdfffd",
    "0640064106420643064406450646064706480649064a064b064c064d064e064f",
    "065006510652fffdfffdfffdfffdfffdfffdfffdfffdfffdfffdfffdfffdfffd"]

/-- Part 7 of ISO 8859. -/
def iso7 : ByteTable where
  rows := ["00a02018201900a320ac20af00a600a700a800a9037a00ab00ac00adfffd2015",
    "00b000b100b200b303840385038600b703880389038a00bb038c00bd038e038f",
    "0390039103920393039403950396039703980399039a039b039c039d039e039f",
    "03a003a1fffd03a303a403a503a603a703a803a903aa03ab03ac03ad03ae03af",
    "03b003b103b203b303b403b503b603b703b803b903ba03bb03bc03bd03be03bf",
    "03c003c103c203c303c403c503c603c703c803c903ca03cb03cc03cd03cefffd"]

/-- Part 8 of ISO 8859. -/
def iso8 : ByteTable where
  rows := ["00a0fffd00a200a300a400a500a600a700a800a900d700ab00ac00ad00ae00af",
    "00b000b100b200b300b400b500b600b700b800b900f700bb00bc00bd00befffd",
    "fffdfffdfffdfffdfffdfffdfffdfffdfffdfffdfffdfffdfffdfffdfffdfffd",
    "fffdfffdfffdfffdfffdfffdfffdfffdfffdfffdfffdfffdfffdfffdfffd2017",
    "05d005d105d205d305d405d505d605d705d805d905da05db05dc05dd05de05df",
    "05e005e105e205e305e405e505e605e705e805e905eafffdfffd200e200ffffd"]

/-- Part 9 of ISO 8859. -/
def iso9 : ByteTable where
  rows := ["00a000a100a200a300a400a500a600a700a800a900aa00ab00ac00ad00ae00af",
    "00b000b100b200b300b400b500b600b700b800b900ba00bb00bc00bd00be00bf",
    "00c000c100c200c300c400c500c600c700c800c900ca00cb00cc00cd00ce00cf",
    "011e00d100d200d300d400d500d600d700d800d900da00db00dc0130015e00df",
    "00e000e100e200e300e400e500e600e700e800e900ea00eb00ec00ed00ee00ef",
    "011f00f100f200f300f400f500f600f700f800f900fa00fb00fc0131015f00ff"]

/-- Part 10 of ISO 8859. -/
def iso10 : ByteTable where
  rows := ["00a0010401120122012a0128013600a7013b011001600166017d00ad016a014a",
    "00b0010501130123012b0129013700b7013c011101610167017e2015016b014b",
    "010000c100c200c300c400c500c6012e010c00c9011800cb011600cd00ce00cf",
    "00d00145014c00d300d400d500d6016800d8017200da00db00dc00dd00de00df",
    "010100e100e200e300e400e500e6012f010d00e9011900eb011700ed00ee00ef",
    "00f00146014d00f300f400f500f6016900f8017300fa00fb00fc00fd00fe0138"]

/-- Part 11 of ISO 8859. -/
def iso11 : ByteTable where
  rows := ["00a00e010e020e030e040e050e060e070e080e090e0a0e0b0e0c0e0d0e0e0e0f",
    "0e100e110e120e130e140e150e160e170e180e190e1a0e1b0e1c0e1d0e1e0e1f",
    "0e200e210e220e230e240e250e260e270e280e290e2a0e2b0e2c0e2d0e2e0e2f",
    "0e300e310e320e330e340e350e360e370e380e390e3afffdfffdfffdfffd0e3f",
    "0e400e410e420e430e440e450e460e470e480e490e4a0e4b0e4c0e4d0e4e0e4f",
    "0e500e510e520e530e540e550e560e570e580e590e5a0e5bfffdfffdfffdfffd"]

/-- Part 13 of ISO 8859. -/
def iso13 : ByteTable where
  rows := ["00a0201d00a200a300a4201e00a600a700d800a9015600ab00ac00ad00ae00c6",
    "00b000b100b200b3201c00b500b600b700f800b9015700bb00bc00bd00be00e6",
    "0104012e0100010600c400c501180112010c00c90179011601220136012a013b",
    "01600143014500d3014c00d500d600d701720141015a016a00dc017b017d00df",
    "0105012f0101010700e400e501190113010d00e9017a011701230137012b013c",
    "01610144014600f3014d00f500f600f701730142015b016b00fc017c017e2019"]

/-- Part 14 of ISO 8859. -/
def iso14 : ByteTable where
  rows := ["00a01e021e0300a3010a010b1e0a00a71e8000a91e821e0b1ef200ad00ae0178",
    "1e1e1e1f012001211e401e4100b61e561e811e571e831e601ef31e841e851e61",
    "00c000c100c200c300c400c500c600c700c800c900ca00cb00cc00cd00ce00cf",
    "017400d100d200d300d400d500d61e6a00d800d900da00db00dc00dd017600df",
    "00e000e100e200e300e400e500e600e700e800e900ea00eb00ec00ed00ee00ef",
    "017500f100f200f300f400f500f61e6b00f800f900fa00fb00fc00fd017700ff"]

/-- Part 15 of ISO 8859. -/
def iso15 : ByteTable where
  rows := ["00a000a100a200a320ac00a5016000a7016100a900aa00ab00ac00ad00ae00af",
    "00b000b100b200b3017d00b500b600b7017e00b900ba00bb01520153017800bf",
    "00c000c100c200c300c400c500c600c700c800c900ca00cb00cc00cd00ce00cf",
    "00d000d100d200d300d400d500d600d700d800d900da00db00dc00dd00de00df",
    "00e000e100e200e300e400e500e600e700e800e900ea00eb00ec00ed00ee00ef",
    "00f000f100f200f300f400f500f600f700f800f900fa00fb00fc00fd00fe00ff"]

/-- Part 16 of ISO 8859. -/
def iso16 : ByteTable where
  rows := ["00a001040105014120ac201e016000a7016100a9021800ab017900ad017a017b",
    "00b000b1010c0142017d201d00b600b7017e010d021900bb015201530178017c",
    "00c000c100c2010200c4010600c600c700c800c900ca00cb00cc00cd00ce00cf",
    "0110014300d200d300d4015000d6015a017000d900da00db00dc0118021a00df",
    "00e000e100e2010300e4010700e600e700e800e900ea00eb00ec00ed00ee00ef",
    "0111014400f200f300f4015100f6015b017100f900fa00fb00fc0119021b00ff"]

/-- The Thai national encoding. -/
def tis620 : ByteTable where
  rows := ["fffd0e010e020e030e040e050e060e070e080e090e0a0e0b0e0c0e0d0e0e0e0f",
    "0e100e110e120e130e140e150e160e170e180e190e1a0e1b0e1c0e1d0e1e0e1f",
    "0e200e210e220e230e240e250e260e270e280e290e2a0e2b0e2c0e2d0e2e0e2f",
    "0e300e310e320e330e340e350e360e370e380e390e3afffdfffdfffdfffd0e3f",
    "0e400e410e420e430e440e450e460e470e480e490e4a0e4b0e4c0e4d0e4e0e4f",
    "0e500e510e520e530e540e550e560e570e580e590e5a0e5bfffdfffdfffdfffd"]

/-- The tables of this module with their names. -/
def isoTables : List (String × List String × ByteTable) :=
  [("iso8859_2", ["csisolatin2", "iso_8859_2", "iso_8859_2_1987", "iso_ir_101", "l2", "latin2"],
      iso2),
    ("iso8859_3", ["csisolatin3", "iso_8859_3", "iso_8859_3_1988", "iso_ir_109", "l3", "latin3"],
      iso3),
    ("iso8859_4", ["csisolatin4", "iso_8859_4", "iso_8859_4_1988", "iso_ir_110", "l4", "latin4"],
      iso4),
    ("iso8859_5", ["csisolatincyrillic", "cyrillic", "iso_8859_5", "iso_8859_5_1988",
      "iso_ir_144"], iso5),
    ("iso8859_6", ["arabic", "asmo_708", "csisolatinarabic", "ecma_114", "iso_8859_6",
      "iso_8859_6_1987", "iso_ir_127"], iso6),
    ("iso8859_7", ["csisolatingreek", "ecma_118", "elot_928", "greek", "greek8", "iso_8859_7",
      "iso_8859_7_1987", "iso_ir_126"], iso7),
    ("iso8859_8", ["csisolatinhebrew", "hebrew", "iso_8859_8", "iso_8859_8_1988", "iso_ir_138"],
      iso8),
    ("iso8859_9", ["csisolatin5", "iso_8859_9", "iso_8859_9_1989", "iso_ir_148", "l5", "latin5"],
      iso9),
    ("iso8859_10", ["csisolatin6", "iso_8859_10", "iso_8859_10_1992", "iso_ir_157", "l6",
      "latin6"], iso10),
    ("iso8859_11", ["thai", "iso_8859_11", "iso_8859_11_2001"], iso11),
    ("iso8859_13", ["iso_8859_13", "l7", "latin7"], iso13),
    ("iso8859_14", ["iso_8859_14", "iso_8859_14_1998", "iso_celtic", "iso_ir_199", "l8",
      "latin8"], iso14),
    ("iso8859_15", ["iso_8859_15", "l9", "latin9"], iso15),
    ("iso8859_16", ["iso_8859_16", "iso_8859_16_2001", "iso_ir_226", "l10", "latin10"], iso16),
    ("tis_620", ["tis620", "tis_620_0", "tis_620_2529_0", "tis_620_2529_1", "iso_ir_166"], tis620)]

end ClientScribe.Source.ByteTable
