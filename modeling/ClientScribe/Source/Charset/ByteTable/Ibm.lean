import ClientScribe.Source.Charset.ByteTable

/-!
# The IBM encodings that extend ASCII

Every row has sixteen characters, four hexadecimal digits each; `fffd` stands for bytes without a
character.
-/

namespace ClientScribe.Source.ByteTable

/-- The IBM code page 437. -/
def ibm437 : ByteTable where
  rows := ["00c700fc00e900e200e400e000e500e700ea00eb00e800ef00ee00ec00c400c5",
    "00c900e600c600f400f600f200fb00f900ff00d600dc00a200a300a520a70192",
    "00e100ed00f300fa00f100d100aa00ba00bf231000ac00bd00bc00a100ab00bb",
    "259125922593250225242561256225562555256325512557255d255c255b2510",
    "25142534252c251c2500253c255e255f255a25542569256625602550256c2567",
    "2568256425652559255825522553256b256a2518250c25882584258c25902580",
    "03b100df039303c003a303c300b503c403a6039803a903b4221e03c603b52229",
    "226100b1226522642320232100f7224800b0221900b7221a207f00b225a000a0"]

/-- The IBM code page 720. -/
def ibm720 : ByteTable where
  rows := ["0080008100e900e2008400e0008600e700ea00eb00e800ef00ee008d008e008f",
    "00900651065200f400a4064000fb00f9062106220623062400a3062506260627",
    "06280629062a062b062c062d062e062f06300631063206330634063500ab00bb",
    "259125922593250225242561256225562555256325512557255d255c255b2510",
    "25142534252c251c2500253c255e255f255a25542569256625602550256c2567",
    "2568256425652559255825522553256b256a2518250c25882584258c25902580",
    "0636063706380639063a064100b506420643064406450646064706480649064a",
    "2261064b064c064d064e064f0650224800b0221900b7221a207f00b225a000a0"]

/-- The IBM code page 737. -/
def ibm737 : ByteTable where
  rows := ["039103920393039403950396039703980399039a039b039c039d039e039f03a0",
    "03a103a303a403a503a603a703a803a903b103b203b303b403b503b603b703b8",
    "03b903ba03bb03bc03bd03be03bf03c003c103c303c203c403c503c603c703c8",
    "259125922593250225242561256225562555256325512557255d255c255b2510",
    "25142534252c251c2500253c255e255f255a25542569256625602550256c2567",
    "2568256425652559255825522553256b256a2518250c25882584258c25902580",
    "03c903ac03ad03ae03ca03af03cc03cd03cb03ce038603880389038a038c038e",
    "038f00b12265226403aa03ab00f7224800b0221900b7221a207f00b225a000a0"]

/-- The IBM code page 775. -/
def ibm775 : ByteTable where
  rows := ["010600fc00e9010100e4012300e501070142011301560157012b017900c400c5",
    "00c900e600c6014d00f6012200a2015a015b00d600dc00f800a300d800d700a4",
    "0100012a00f3017b017c017a201d00a600a900ae00ac00bd00bc014100ab00bb",
    "259125922593250225240104010c01180116256325512557255d012e01602510",
    "25142534252c251c2500253c0172016a255a25542569256625602550256c017d",
    "0105010d01190117012f01610173016b017e2518250c25882584258c25902580",
    "00d300df014c014300f500d500b5014401360137013b013c0146011201452019",
    "00ad00b1201c00be00b600a700f7201e00b0221900b700b900b300b225a000a0"]

/-- The IBM code page 850. -/
def ibm850 : ByteTable where
  rows := ["00c700fc00e900e200e400e000e500e700ea00eb00e800ef00ee00ec00c400c5",
    "00c900e600c600f400f600f200fb00f900ff00d600dc00f800a300d800d70192",
    "00e100ed00f300fa00f100d100aa00ba00bf00ae00ac00bd00bc00a100ab00bb",
    "2591259225932502252400c100c200c000a9256325512557255d00a200a52510",
    "25142534252c251c2500253c00e300c3255a25542569256625602550256c00a4",
    "00f000d000ca00cb00c8013100cd00ce00cf2518250c2588258400a600cc2580",
    "00d300df00d400d200f500d500b500fe00de00da00db00d900fd00dd00af00b4",
    "00ad00b1201700be00b600a700f700b800b000a800b700b900b300b225a000a0"]

/-- The IBM code page 852. -/
def ibm852 : ByteTable where
  rows := ["00c700fc00e900e200e4016f010700e7014200eb0150015100ee017900c40106",
    "00c90139013a00f400f6013d013e015a015b00d600dc01640165014100d7010d",
    "00e100ed00f300fa01040105017d017e0118011900ac017a010c015f00ab00bb",
    "2591259225932502252400c100c2011a015e256325512557255d017b017c2510",
    "25142534252c251c2500253c01020103255a25542569256625602550256c00a4",
    "01110110010e00cb010f014700cd00ce011b2518250c258825840162016e2580",
    "00d300df00d401430144014801600161015400da0155017000fd00dd016300b4",
    "00ad02dd02db02c702d800a700f700b800b000a802d901710158015925a000a0"]

/-- The IBM code page 855. -/
def ibm855 : ByteTable where
  rows := ["0452040204530403045104010454040404550405045604060457040704580408",
    "04590409045a040a045b040b045c040c045e040e045f040f044e042e044a042a",
    "0430041004310411044604260434041404350415044404240433041300ab00bb",
    "259125922593250225240445042504380418256325512557255d043904192510",
    "25142534252c251c2500253c043a041a255a25542569256625602550256c00a4",
    "043b041b043c041c043d041d043e041e043f2518250c25882584041f044f2580",
    "042f044004200441042104420422044304230436041604320412044c042c2116",
    "00ad044b042b0437041704480428044d042d044904290447042700a725a000a0"]

/-- The IBM code page 856. -/
def ibm856 : ByteTable where
  rows := ["05d005d105d205d305d405d505d605d705d805d905da05db05dc05dd05de05df",
    "05e005e105e205e305e405e505e605e705e805e905eafffd00a3fffd00d7fffd",
    "fffdfffdfffdfffdfffdfffdfffdfffdfffd00ae00ac00bd00bcfffd00ab00bb",
    "25912592259325022524fffdfffdfffd00a9256325512557255d00a200a52510",
    "25142534252c251c2500253cfffdfffd255a25542569256625602550256c00a4",
    "fffdfffdfffdfffdfffdfffdfffdfffdfffd2518250c2588258400a6fffd2580",
    "fffdfffdfffdfffdfffdfffd00b5fffdfffdfffdfffdfffdfffdfffd00af00b4",
    "00ad00b1201700be00b600a700f700b800b000a800b700b900b300b225a000a0"]

/-- The IBM code page 857. -/
def ibm857 : ByteTable where
  rows := ["00c700fc00e900e200e400e000e500e700ea00eb00e800ef00ee013100c400c5",
    "00c900e600c600f400f600f200fb00f9013000d600dc00f800a300d8015e015f",
    "00e100ed00f300fa00f100d1011e011f00bf00ae00ac00bd00bc00a100ab00bb",
    "2591259225932502252400c100c200c000a9256325512557255d00a200a52510",
    "25142534252c251c2500253c00e300c3255a25542569256625602550256c00a4",
    "00ba00aa00ca00cb00c8fffd00cd00ce00cf2518250c2588258400a600cc2580",
    "00d300df00d400d200f500d500b5fffd00d700da00db00d900ec00ff00af00b4",
    "00ad00b1fffd00be00b600a700f700b800b000a800b700b900b300b225a000a0"]

/-- The IBM code page 858. -/
def ibm858 : ByteTable where
  rows := ["00c700fc00e900e200e400e000e500e700ea00eb00e800ef00ee00ec00c400c5",
    "00c900e600c600f400f600f200fb00f900ff00d600dc00f800a300d800d70192",
    "00e100ed00f300fa00f100d100aa00ba00bf00ae00ac00bd00bc00a100ab00bb",
    "2591259225932502252400c100c200c000a9256325512557255d00a200a52510",
    "25142534252c251c2500253c00e300c3255a25542569256625602550256c00a4",
    "00f000d000ca00cb00c820ac00cd00ce00cf2518250c2588258400a600cc2580",
    "00d300df00d400d200f500d500b500fe00de00da00db00d900fd00dd00af00b4",
    "00ad00b1201700be00b600a700f700b800b000a800b700b900b300b225a000a0"]

/-- The IBM code page 860. -/
def ibm860 : ByteTable where
  rows := ["00c700fc00e900e200e300e000c100e700ea00ca00e800cd00d400ec00c300c2",
    "00c900c000c800f400f500f200da00f900cc00d500dc00a200a300d920a700d3",
    "00e100ed00f300fa00f100d100aa00ba00bf00d200ac00bd00bc00a100ab00bb",
    "259125922593250225242561256225562555256325512557255d255c255b2510",
    "25142534252c251c2500253c255e255f255a25542569256625602550256c2567",
    "2568256425652559255825522553256b256a2518250c25882584258c25902580",
    "03b100df039303c003a303c300b503c403a6039803a903b4221e03c603b52229",
    "226100b1226522642320232100f7224800b0221900b7221a207f00b225a000a0"]

/-- The IBM code page 861. -/
def ibm861 : ByteTable where
  rows := ["00c700fc00e900e200e400e000e500e700ea00eb00e800d000f000de00c400c5",
    "00c900e600c600f400f600fe00fb00dd00fd00d600dc00f800a300d820a70192",
    "00e100ed00f300fa00c100cd00d300da00bf231000ac00bd00bc00a100ab00bb",
    "259125922593250225242561256225562555256325512557255d255c255b2510",
    "25142534252c251c2500253c255e255f255a25542569256625602550256c2567",
    "2568256425652559255825522553256b256a2518250c25882584258c25902580",
    "03b100df039303c003a303c300b503c403a6039803a903b4221e03c603b52229",
    "226100b1226522642320232100f7224800b0221900b7221a207f00b225a000a0"]

/-- The IBM code page 862. -/
def ibm862 : ByteTable where
  rows := ["05d005d105d205d305d405d505d605d705d805d905da05db05dc05dd05de05df",
    "05e005e105e205e305e405e505e605e705e805e905ea00a200a300a520a70192",
    "00e100ed00f300fa00f100d100aa00ba00bf231000ac00bd00bc00a100ab00bb",
    "259125922593250225242561256225562555256325512557255d255c255b2510",
    "25142534252c251c2500253c255e255f255a25542569256625602550256c2567",
    "2568256425652559255825522553256b256a2518250c25882584258c25902580",
    "03b100df039303c003a303c300b503c403a6039803a903b4221e03c603b52229",
    "226100b1226522642320232100f7224800b0221900b7221a207f00b225a000a0"]

/-- The IBM code page 863. -/
def ibm863 : ByteTable where
  rows := ["00c700fc00e900e200c200e000b600e700ea00eb00e800ef00ee201700c000a7",
    "00c900c800ca00f400cb00cf00fb00f900a400d400dc00a200a300d900db0192",
    "00a600b400f300fa00a800b800b300af00ce231000ac00bd00bc00be00ab00bb",
    "259125922593250225242561256225562555256325512557255d255c255b2510",
    "25142534252c251c2500253c255e255f255a25542569256625602550256c2567",
    "2568256425652559255825522553256b256a2518250c25882584258c25902580",
    "03b100df039303c003a303c300b503c403a6039803a903b4221e03c603b52229",
    "226100b1226522642320232100f7224800b0221900b7221a207f00b225a000a0"]

/-- The IBM code page 864. -/
def ibm864 : ByteTable where
  rows := ["0000000100020003000400050006000700080009000a000b000c000d000e000f",
    "0010001100120013001400150016001700180019001a001b001c001d001e001f",
    "00200021002200230024066a0026002700280029002a002b002c002d002e002f",
    "0030003100320033003400350036003700380039003a003b003c003d003e003f",
    "0040004100420043004400450046004700480049004a004b004c004d004e004f",
    "0050005100520053005400550056005700580059005a005b005c005d005e005f",
    "0060006100620063006400650066006700680069006a006b006c006d006e006f",
    "0070007100720073007400750076007700780079007a007b007c007d007e007f",
    "00b000b72219221a259225002502253c2524252c251c25342510250c25142518",
    "03b2221e03c600b100bd00bc224800ab00bbfef7fef8fffdfffdfefbfefcfffd",
    "00a000adfe8200a300a4fe84fffdfffdfe8efe8ffe95fe99060cfe9dfea1fea5",
    "0660066106620663066406650666066706680669fed1061bfeb1feb5feb9061f",
    "00a2fe80fe81fe83fe85fecafe8bfe8dfe91fe93fe97fe9bfe9ffea3fea7fea9",
    "feabfeadfeaffeb3feb7febbfebffec1fec5fecbfecf00a600ac00f700d7fec9",
    "0640fed3fed7fedbfedffee3fee7feebfeedfeeffef3febdfeccfecefecdfee1",
    "fe7d0651fee5fee9feecfef0fef2fed0fed5fef5fef6feddfed9fef125a0fffd"]

/-- The IBM code page 865. -/
def ibm865 : ByteTable where
  rows := ["00c700fc00e900e200e400e000e500e700ea00eb00e800ef00ee00ec00c400c5",
    "00c900e600c600f400f600f200fb00f900ff00d600dc00f800a300d820a70192",
    "00e100ed00f300fa00f100d100aa00ba00bf231000ac00bd00bc00a100ab00a4",
    "259125922593250225242561256225562555256325512557255d255c255b2510",
    "25142534252c251c2500253c255e255f255a25542569256625602550256c2567",
    "2568256425652559255825522553256b256a2518250c25882584258c25902580",
    "03b100df039303c003a303c300b503c403a6039803a903b4221e03c603b52229",
    "226100b1226522642320232100f7224800b0221900b7221a207f00b225a000a0"]

/-- The IBM code page 866. -/
def ibm866 : ByteTable where
  rows := ["0410041104120413041404150416041704180419041a041b041c041d041e041f",
    "0420042104220423042404250426042704280429042a042b042c042d042e042f",
    "0430043104320433043404350436043704380439043a043b043c043d043e043f",
    "259125922593250225242561256225562555256325512557255d255c255b2510",
    "25142534252c251c2500253c255e255f255a25542569256625602550256c2567",
    "2568256425652559255825522553256b256a2518250c25882584258c25902580",
    "0440044104420443044404450446044704480449044a044b044c044d044e044f",
    "040104510404045404070457040e045e00b0221900b7221a211600a425a000a0"]

/-- The IBM code page 869. -/
def ibm869 : ByteTable where
  rows := ["fffdfffdfffdfffdfffdfffd0386fffd00b700ac00a620182019038820150389",
    "038a03aa038cfffdfffd038e03ab00a9038f00b200b303ac00a303ad03ae03af",
    "03ca039003cc03cd039103920393039403950396039700bd0398039900ab00bb",
    "25912592259325022524039a039b039c039d256325512557255d039e039f2510",
    "25142534252c251c2500253c03a003a1255a25542569256625602550256c03a3",
    "03a403a503a603a703a803a903b103b203b32518250c2588258403b403b52580",
    "03b603b703b803b903ba03bb03bc03bd03be03bf03c003c103c303c203c40384",
    "00ad00b103c503c603c700a703c8038500b000a803c903cb03b003ce25a000a0"]

/-- The IBM code page 1006. -/
def ibm1006 : ByteTable where
  rows := ["00a006f006f106f206f306f406f506f606f706f806f9060c061b00ad061ffe81",
    "fe8dfe8efe8efe8ffe91fb56fb58fe93fe95fe97fb66fb68fe99fe9bfe9dfe9f",
    "fb7afb7cfea1fea3fea5fea7fea9fb84feabfeadfb8cfeaffb8afeb1feb3feb5",
    "feb7feb9febbfebdfebffec1fec5fec9fecafecbfeccfecdfecefecffed0fed1",
    "fed3fed5fed7fed9fedbfb92fb94feddfedffee0fee1fee3fb9efee5fee7fe85",
    "feedfba6fba8fba9fbaafe80fe89fe8afe8bfef1fef2fef3fbb0fbaefe7cfe7d"]

/-- The IBM code page 1125. -/
def ibm1125 : ByteTable where
  rows := ["0410041104120413041404150416041704180419041a041b041c041d041e041f",
    "0420042104220423042404250426042704280429042a042b042c042d042e042f",
    "0430043104320433043404350436043704380439043a043b043c043d043e043f",
    "259125922593250225242561256225562555256325512557255d255c255b2510",
    "25142534252c251c2500253c255e255f255a25542569256625602550256c2567",
    "2568256425652559255825522553256b256a2518250c25882584258c25902580",
    "0440044104420443044404450446044704480449044a044b044c044d044e044f",
    "040104510490049104040454040604560407045700b7221a211600a425a000a0"]

/-- The tables of this module with their names. -/
def ibmTables : List (String × List String × ByteTable) :=
  [("cp437", ["437", "cspc8codepage437", "ibm437"], ibm437), ("cp720", [], ibm720),
    ("cp737", [], ibm737), ("cp775", ["775", "cspc775baltic", "ibm775"], ibm775),
    ("cp850", ["850", "cspc850multilingual", "ibm850"], ibm850),
    ("cp852", ["852", "cspcp852", "ibm852"], ibm852),
    ("cp855", ["855", "csibm855", "ibm855"], ibm855), ("cp856", [], ibm856),
    ("cp857", ["857", "csibm857", "ibm857"], ibm857),
    ("cp858", ["858", "csibm858", "ibm858"], ibm858),
    ("cp860", ["860", "csibm860", "ibm860"], ibm860),
    ("cp861", ["861", "cp_is", "csibm861", "ibm861"], ibm861),
    ("cp862", ["862", "cspc862latinhebrew", "ibm862"], ibm862),
    ("cp863", ["863", "csibm863", "ibm863"], ibm863),
    ("cp864", ["864", "csibm864", "ibm864"], ibm864),
    ("cp865", ["865", "csibm865", "ibm865"], ibm865),
    ("cp866", ["866", "csibm866", "ibm866"], ibm866),
    ("cp869", ["869", "cp_gr", "csibm869", "ibm869"], ibm869), ("cp1006", [], ibm1006),
    ("cp1125", ["1125", "ibm1125", "cp866u", "ruscii"], ibm1125)]

end ClientScribe.Source.ByteTable
