import ClientScribe.Source.Charset.ByteTable

/-!
# The EBCDIC encodings

Every row has sixteen characters, four hexadecimal digits each; `fffd` stands for bytes without a
character.
-/

namespace ClientScribe.Source.ByteTable

/-- The IBM code page 037. -/
def ibm037 : ByteTable where
  rows := ["0000000100020003009c00090086007f0097008d008e000b000c000d000e000f",
    "0010001100120013009d008500080087001800190092008f001c001d001e001f",
    "00800081008200830084000a0017001b00880089008a008b008c000500060007",
    "0090009100160093009400950096000400980099009a009b00140015009e001a",
    "002000a000e200e400e000e100e300e500e700f100a2002e003c0028002b007c",
    "002600e900ea00eb00e800ed00ee00ef00ec00df00210024002a0029003b00ac",
    "002d002f00c200c400c000c100c300c500c700d100a6002c0025005f003e003f",
    "00f800c900ca00cb00c800cd00ce00cf00cc0060003a002300400027003d0022",
    "00d800610062006300640065006600670068006900ab00bb00f000fd00fe00b1",
    "00b0006a006b006c006d006e006f00700071007200aa00ba00e600b800c600a4",
    "00b5007e0073007400750076007700780079007a00a100bf00d000dd00de00ae",
    "005e00a300a500b700a900a700b600bc00bd00be005b005d00af00a800b400d7",
    "007b00410042004300440045004600470048004900ad00f400f600f200f300f5",
    "007d004a004b004c004d004e004f00500051005200b900fb00fc00f900fa00ff",
    "005c00f70053005400550056005700580059005a00b200d400d600d200d300d5",
    "003000310032003300340035003600370038003900b300db00dc00d900da009f"]

/-- The IBM code page 273. -/
def ibm273 : ByteTable where
  rows := ["0000000100020003009c00090086007f0097008d008e000b000c000d000e000f",
    "0010001100120013009d008500080087001800190092008f001c001d001e001f",
    "00800081008200830084000a0017001b00880089008a008b008c000500060007",
    "0090009100160093009400950096000400980099009a009b00140015009e001a",
    "002000a000e2007b00e000e100e300e500e700f100c4002e003c0028002b0021",
    "002600e900ea00eb00e800ed00ee00ef00ec007e00dc0024002a0029003b005e",
    "002d002f00c2005b00c000c100c300c500c700d100f6002c0025005f003e003f",
    "00f800c900ca00cb00c800cd00ce00cf00cc0060003a002300a70027003d0022",
    "00d800610062006300640065006600670068006900ab00bb00f000fd00fe00b1",
    "00b0006a006b006c006d006e006f00700071007200aa00ba00e600b800c600a4",
    "00b500df0073007400750076007700780079007a00a100bf00d000dd00de00ae",
    "00a200a300a500b700a9004000b600bc00bd00be00ac007c203e00a800b400d7",
    "00e400410042004300440045004600470048004900ad00f400a600f200f300f5",
    "00fc004a004b004c004d004e004f00500051005200b900fb007d00f900fa00ff",
    "00d600f70053005400550056005700580059005a00b200d4005c00d200d300d5",
    "003000310032003300340035003600370038003900b300db005d00d900da009f"]

/-- The IBM code page 424. -/
def ibm424 : ByteTable where
  rows := ["0000000100020003009c00090086007f0097008d008e000b000c000d000e000f",
    "0010001100120013009d008500080087001800190092008f001c001d001e001f",
    "00800081008200830084000a0017001b00880089008a008b008c000500060007",
    "0090009100160093009400950096000400980099009a009b00140015009e001a",
    "002005d005d105d205d305d405d505d605d705d800a2002e003c0028002b007c",
    "002605d905da05db05dc05dd05de05df05e005e100210024002a0029003b00ac",
    "002d002f05e205e305e405e505e605e705e805e900a6002c0025005f003e003f",
    "fffd05eafffdfffd00a0fffdfffdfffd20170060003a002300400027003d0022",
    "fffd00610062006300640065006600670068006900ab00bbfffdfffdfffd00b1",
    "00b0006a006b006c006d006e006f007000710072fffdfffdfffd00b8fffd00a4",
    "00b5007e0073007400750076007700780079007afffdfffdfffdfffdfffd00ae",
    "005e00a300a500b700a900a700b600bc00bd00be005b005d00af00a800b400d7",
    "007b00410042004300440045004600470048004900adfffdfffdfffdfffdfffd",
    "007d004a004b004c004d004e004f00500051005200b9fffdfffdfffdfffdfffd",
    "005c00f70053005400550056005700580059005a00b2fffdfffdfffdfffdfffd",
    "003000310032003300340035003600370038003900b3fffdfffdfffdfffd009f"]

/-- The IBM code page 500. -/
def ibm500 : ByteTable where
  rows := ["0000000100020003009c00090086007f0097008d008e000b000c000d000e000f",
    "0010001100120013009d008500080087001800190092008f001c001d001e001f",
    "00800081008200830084000a0017001b00880089008a008b008c000500060007",
    "0090009100160093009400950096000400980099009a009b00140015009e001a",
    "002000a000e200e400e000e100e300e500e700f1005b002e003c0028002b0021",
    "002600e900ea00eb00e800ed00ee00ef00ec00df005d0024002a0029003b005e",
    "002d002f00c200c400c000c100c300c500c700d100a6002c0025005f003e003f",
    "00f800c900ca00cb00c800cd00ce00cf00cc0060003a002300400027003d0022",
    "00d800610062006300640065006600670068006900ab00bb00f000fd00fe00b1",
    "00b0006a006b006c006d006e006f00700071007200aa00ba00e600b800c600a4",
    "00b5007e0073007400750076007700780079007a00a100bf00d000dd00de00ae",
    "00a200a300a500b700a900a700b600bc00bd00be00ac007c00af00a800b400d7",
    "007b00410042004300440045004600470048004900ad00f400f600f200f300f5",
    "007d004a004b004c004d004e004f00500051005200b900fb00fc00f900fa00ff",
    "005c00f70053005400550056005700580059005a00b200d400d600d200d300d5",
    "003000310032003300340035003600370038003900b300db00dc00d900da009f"]

/-- The IBM code page 875. -/
def ibm875 : ByteTable where
  rows := ["0000000100020003009c00090086007f0097008d008e000b000c000d000e000f",
    "0010001100120013009d008500080087001800190092008f001c001d001e001f",
    "00800081008200830084000a0017001b00880089008a008b008c000500060007",
    "0090009100160093009400950096000400980099009a009b00140015009e001a",
    "0020039103920393039403950396039703980399005b002e003c0028002b0021",
    "0026039a039b039c039d039e039f03a003a103a3005d0024002a0029003b005e",
    "002d002f03a403a503a603a703a803a903aa03ab007c002c0025005f003e003f",
    "00a803860388038900a0038a038c038e038f0060003a002300400027003d0022",
    "038500610062006300640065006600670068006903b103b203b303b403b503b6",
    "00b0006a006b006c006d006e006f00700071007203b703b803b903ba03bb03bc",
    "00b4007e0073007400750076007700780079007a03bd03be03bf03c003c103c3",
    "00a303ac03ad03ae03ca03af03cc03cd03cb03ce03c203c403c503c603c703c8",
    "007b00410042004300440045004600470048004900ad03c9039003b020182015",
    "007d004a004b004c004d004e004f00500051005200b100bd001a0387201900a6",
    "005c001a0053005400550056005700580059005a00b200a7001a001a00ab00ac",
    "003000310032003300340035003600370038003900b300a9001a001a00bb009f"]

/-- The IBM code page 1026. -/
def ibm1026 : ByteTable where
  rows := ["0000000100020003009c00090086007f0097008d008e000b000c000d000e000f",
    "0010001100120013009d008500080087001800190092008f001c001d001e001f",
    "00800081008200830084000a0017001b00880089008a008b008c000500060007",
    "0090009100160093009400950096000400980099009a009b00140015009e001a",
    "002000a000e200e400e000e100e300e5007b00f100c7002e003c0028002b0021",
    "002600e900ea00eb00e800ed00ee00ef00ec00df011e0130002a0029003b005e",
    "002d002f00c200c400c000c100c300c5005b00d1015f002c0025005f003e003f",
    "00f800c900ca00cb00c800cd00ce00cf00cc0131003a00d6015e0027003d00dc",
    "00d800610062006300640065006600670068006900ab00bb007d006000a600b1",
    "00b0006a006b006c006d006e006f00700071007200aa00ba00e600b800c600a4",
    "00b500f60073007400750076007700780079007a00a100bf005d0024004000ae",
    "00a200a300a500b700a900a700b600bc00bd00be00ac007c00af00a800b400d7",
    "00e700410042004300440045004600470048004900ad00f4007e00f200f300f5",
    "011f004a004b004c004d004e004f00500051005200b900fb005c00f900fa00ff",
    "00fc00f70053005400550056005700580059005a00b200d4002300d200d300d5",
    "003000310032003300340035003600370038003900b300db002200d900da009f"]

/-- The IBM code page 1140. -/
def ibm1140 : ByteTable where
  rows := ["0000000100020003009c00090086007f0097008d008e000b000c000d000e000f",
    "0010001100120013009d008500080087001800190092008f001c001d001e001f",
    "00800081008200830084000a0017001b00880089008a008b008c000500060007",
    "0090009100160093009400950096000400980099009a009b00140015009e001a",
    "002000a000e200e400e000e100e300e500e700f100a2002e003c0028002b007c",
    "002600e900ea00eb00e800ed00ee00ef00ec00df00210024002a0029003b00ac",
    "002d002f00c200c400c000c100c300c500c700d100a6002c0025005f003e003f",
    "00f800c900ca00cb00c800cd00ce00cf00cc0060003a002300400027003d0022",
    "00d800610062006300640065006600670068006900ab00bb00f000fd00fe00b1",
    "00b0006a006b006c006d006e006f00700071007200aa00ba00e600b800c620ac",
    "00b5007e0073007400750076007700780079007a00a100bf00d000dd00de00ae",
    "005e00a300a500b700a900a700b600bc00bd00be005b005d00af00a800b400d7",
    "007b00410042004300440045004600470048004900ad00f400f600f200f300f5",
    "007d004a004b004c004d004e004f00500051005200b900fb00fc00f900fa00ff",
    "005c00f70053005400550056005700580059005a00b200d400d600d200d300d5",
    "003000310032003300340035003600370038003900b300db00dc00d900da009f"]

/-- The tables of this module with their names. -/
def ebcdicTables : List (String × List String × ByteTable) :=
  [("cp037", ["037", "csibm037", "ebcdic_cp_ca", "ebcdic_cp_nl", "ebcdic_cp_us", "ebcdic_cp_wt",
      "ibm037", "ibm039"], ibm037),
    ("cp273", ["273", "ibm273", "csibm273"], ibm273),
    ("cp424", ["424", "csibm424", "ebcdic_cp_he", "ibm424"], ibm424),
    ("cp500", ["500", "csibm500", "ebcdic_cp_be", "ebcdic_cp_ch", "ibm500"], ibm500),
    ("cp875", [], ibm875), ("cp1026", ["1026", "csibm1026", "ibm1026"], ibm1026),
    ("cp1140", ["1140", "ibm1140"], ibm1140)]

end ClientScribe.Source.ByteTable
