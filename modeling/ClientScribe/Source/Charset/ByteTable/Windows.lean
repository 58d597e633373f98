import ClientScribe.Source.Charset.ByteTable

/-!
# The Windows encodings

Every row has sixteen characters, four hexadecimal digits each; `fffd` stands for bytes without a
character.
-/

namespace ClientScribe.Source.ByteTable

/-- The Windows code page 1250. -/
def windows1250 : ByteTable where
  rows := ["20acfffd201afffd201e202620202021fffd203001602039015a0164017d0179",
    "fffd20182019201c201d202220132014fffd21220161203a015b0165017e017a",
    "00a002c702d8014100a4010400a600a700a800a9015e00ab00ac00ad00ae017b",
    "00b000b102db014200b400b500b600b700b80105015f00bb013d02dd013e017c",
    "015400c100c2010200c40139010600c7010c00c9011800cb011a00cd00ce010e",
    "01100143014700d300d4015000d600d70158016e00da017000dc00dd016200df",
    "015500e100e2010300e4013a010700e7010d00e9011900eb011b00ed00ee010f",
    "01110144014800f300f4015100f600f70159016f00fa017100fc00fd016302d9"]

/-- The Windows code page 1251. -/
def windows1251 : ByteTable where
  rows := ["04020403201a0453201e20262020202120ac203004092039040a040c040b040f",
    "045220182019201c201d202220132014fffd21220459203a045a045c045b045f",
    "00a0040e045e040800a4049000a600a7040100a9040400ab00ac00ad00ae0407",
    "00b000b104060456049100b500b600b704512116045400bb0458040504550457",
    "0410041104120413041404150416041704180419041a041b041c041d041e041f",
    "0420042104220423042404250426042704280429042a042b042c042d042e042f",
    "0430043104320433043404350436043704380439043a043b043c043d043e043f",
    "0440044104420443044404450446044704480449044a044b044c044d044e044f"]

/-- The Windows code page 1252. -/
def windows1252 : ByteTable where
  rows := ["20acfffd201a0192201e20262020202102c62030016020390152fffd017dfffd",
    "fffd20182019201c201d20222013201402dc21220161203a0153fffd017e0178",
    "00a000a100a200a300a400a500a600a700a800a900aa00ab00ac00ad00ae00af",
    "00b000b100b200b300b400b500b600b700b800b900ba00bb00bc00bd00be00bf",
    "00c000c100c200c300c400c500c600c700c800c900ca00cb00cc00cd00ce00cf",
    "00d000d100d200d300d400d500d600d700d800d900da00db00dc00dd00de00df",
    "00e000e100e200e300e400e500e600e700e800e900ea00eb00ec00ed00ee00ef",
    "00f000f100f200f300f400f500f600f700f800f900fa00fb00fc00fd00fe00ff"]

/-- The Windows code page 1253. -/
def windows1253 : ByteTable where
  rows := ["20acfffd201a0192201e202620202021fffd2030fffd2039fffdfffdfffdfffd",
    "fffd20182019201c201d202220132014fffd2122fffd203afffdfffdfffdfffd",
    "00a00385038600a300a400a500a600a700a800a9fffd00ab00ac00ad00ae2015",
    "00b000b100b200b3038400b500b600b703880389038a00bb038c00bd038e038f",
    "0390039103920393039403950396039703980399039a039b039c039d039e039f",
    "03a003a1fffd03a303a403a503a603a703a803a903aa03ab03ac03ad03ae03af",
    "03b003b103b203b303b403b503b603b703b803b903ba03bb03bc03bd03be03bf",
    "03c003c103c203c303c403c503c603c703c803c903ca03cb03cc03cd03cefffd"]

/-- The Windows code page 1254. -/
def windows1254 : ByteTable where
  rows := ["20acfffd201a0192201e20262020202102c62030016020390152fffdfffdfffd",
    "fffd20182019201c201d20222013201402dc21220161203a0153fffdfffd0178",
    "00a000a100a200a300a400a500a600a700a800a900aa00ab00ac00ad00ae00af",
    "00b000b100b200b300b400b500b600b700b800b900ba00bb00bc00bd00be00bf",
    "00c000c100c200c300c400c500c600c700c800c900ca00cb00cc00cd00ce00cf",
    "011e00d100d200d300d400d500d600d700d800d900da00db00dc0130015e00df",
    "00e000e100e200e300e400e500e600e700e800e900ea00eb00ec00ed00ee00ef",
    "011f00f100f200f300f400f500f600f700f800f900fa00fb00fc0131015f00ff"]

/-- The Windows code page 1255. -/
def windows1255 : ByteTable where
  rows := ["20acfffd201a0192201e20262020202102c62030fffd2039fffdfffdfffdfffd",
    "fffd20182019201c201d20222013201402dc2122fffd203afffdfffdfffdfffd",
    "00a000a100a200a320aa00a500a600a700a800a900d700ab00ac00ad00ae00af",
    "00b000b100b200b300b400b500b600b700b800b900f700bb00bc00bd00be00bf",
    "05b005b105b205b305b405b505b605b705b805b9fffd05bb05bc05bd05be05bf",
    "05c005c105c205c305f005f105f205f305f4fffdfffdfffdfffdfffdfffdfffd",
    "05d005d105d205d305d405d505d605d705d805d905da05db05dc05dd05de05df",
    "05e005e105e205e305e405e505e605e705e805e905eafffdfffd200e200ffffd"]

/-- The Windows code page 1256. -/
def windows1256 : ByteTable where
  rows := ["20ac067e201a0192201e20262020202102c62030067920390152068606980688",
    "06af20182019201c201d20222013201406a921220691203a0153200c200d06ba",
    "00a0060c00a200a300a400a500a600a700a800a906be00ab00ac00ad00ae00af",
    "00b000b100b200b300b400b500b600b700b800b9061b00bb00bc00bd00be061f",
    "06c1062106220623062406250626062706280629062a062b062c062d062e062f",
    "063006310632063306340635063600d7063706380639063a0640064106420643",
    "00e0064400e2064506460647064800e700e800e900ea00eb0649064a00ee00ef",
    "064b064c064d064e00f4064f065000f7065100f9065200fb00fc200e200f06d2"]

/-- The Windows code page 1257. -/
def windows1257 : ByteTable where
  rows := ["20acfffd201afffd201e202620202021fffd2030fffd2039fffd00a802c700b8",
    "fffd20182019201c201d202220132014fffd2122fffd203afffd00af02dbfffd",
    "00a0fffd00a200a300a4fffd00a600a700d800a9015600ab00ac00ad00ae00c6",
    "00b000b100b200b300b400b500b600b700f800b9015700bb00bc00bd00be00e6",
    "0104012e0100010600c400c501180112010c00c90179011601220136012a013b",
    "01600143014500d3014c00d500d600d701720141015a016a00dc017b017d00df",
    "0105012f0101010700e400e501190113010d00e9017a011701230137012b013c",
    "01610144014600f3014d00f500f600f701730142015b016b00fc017c017e02d9"]

/-- The Windows code page 1258. -/
def windows1258 : ByteTable where
  rows := ["20acfffd201a0192201e20262020202102c62030fffd20390152fffdfffdfffd",
    "fffd20182019201c201d20222013201402dc2122fffd203a0153fffdfffd0178",
    "00a000a100a200a300a400a500a600a700a800a900aa00ab00ac00ad00ae00af",
    "00b000b100b200b300b400b500b600b700b800b900ba00bb00bc00bd00be00bf",
    "00c000c100c2010200c400c500c600c700c800c900ca00cb030000cd00ce00cf",
    "011000d1030900d300d401a000d600d700d800d900da00db00dc01af030300df",
    "00e000e100e2010300e400e500e600e700e800e900ea00eb030100ed00ee00ef",
    "011100f1032300f300f401a100f600f700f800f900fa00fb00fc01b020ab00ff"]

/-- The Windows code page 874. -/
def windows874 : ByteTable where
  rows := ["20acfffdfffdfffdfffd2026fffdfffdfffdfffdfffdfffdfffdfffdfffdfffd",
    "fffd20182019201c201d202220132014fffdfffdfffdfffdfffdfffdfffdfffd",
    "00a00e010e020e030e040e050e060e070e080e090e0a0e0b0e0c0e0d0e0e0e0f",
    "0e100e110e120e130e140e150e160e170e180e190e1a0e1b0e1c0e1d0e1e0e1f",
    "0e200e210e220e230e240e250e260e270e280e290e2a0e2b0e2c0e2d0e2e0e2f",
    "0e300e310e320e330e340e350e360e370e380e390e3afffdfffdfffdfffd0e3f",
    "0e400e410e420e430e440e450e460e470e480e490e4a0e4b0e4c0e4d0e4e0e4f",
    "0e500e510e520e530e540e550e560e570e580e590e5a0e5bfffdfffdfffdfffd"]

/-- The tables of this module with their names. -/
def windowsTables : List (String × List String × ByteTable) :=
  [("cp1250", ["1250", "windows_1250"], windows1250),
    ("cp1251", ["1251", "windows_1251"], windows1251),
    ("cp1252", ["1252", "windows_1252"], windows1252),
    ("cp1253", ["1253", "windows_1253"], windows1253),
    ("cp1254", ["1254", "windows_1254"], windows1254),
    ("cp1255", ["1255", "windows_1255"], windows1255),
    ("cp1256", ["1256", "windows_1256"], windows1256),
    ("cp1257", ["1257", "windows_1257"], windows1257),
    ("cp1258", ["1258", "windows_1258"], windows1258), ("cp874", [], windows874)]

end ClientScribe.Source.ByteTable
