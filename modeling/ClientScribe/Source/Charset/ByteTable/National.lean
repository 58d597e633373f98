import ClientScribe.Source.Charset.ByteTable

/-!
# Encodings of single languages and devices

Every row has sixteen characters, four hexadecimal digits each; `fffd` stands for bytes without a
character.
-/

namespace ClientScribe.Source.ByteTable

/-- The encoding KOI8-R. -/
def koi8R : ByteTable where
  rows := ["25002502250c251025142518251c2524252c2534253c258025842588258c2590",
    "259125922593232025a02219221a22482264226500a0232100b000b200b700f7",
    "25502551255204512553255425552556255725582559255a255b255c255d255e",
    "255f25602561040125622563256425652566256725682569256a256b256c00a9",
    "044e0430043104460434043504440433044504380439043a043b043c043d043e",
    "043f044f044004410442044304360432044c044b04370448044d04490447044a",
    "042e0410041104260414041504240413042504180419041a041b041c041d041e",
    "041f042f042004210422042304160412042c042b04170428042d04290427042a"]

/-- The encoding KOI8-T. -/
def koi8T : ByteTable where
  rows := ["049b0493201a0492201e202620202021fffd203004b3203904b204b704b6fffd",
    "049a20182019201c201d202220132014fffd2122fffd203afffdfffdfffdfffd",
    "fffd04ef04ee045100a404e300a600a7fffdfffdfffd00ab00ac00ad00aefffd",
    "00b000b100b20401fffd04e200b600b7fffd2116fffd00bbfffdfffdfffd00a9",
    "044e0430043104460434043504440433044504380439043a043b043c043d043e",
    "043f044f044004410442044304360432044c044b04370448044d04490447044a",
    "042e0410041104260414041504240413042504180419041a041b041c041d041e",
    "041f042f042004210422042304160412042c042b04170428042d04290427042a"]

/-- The encoding KOI8-U. -/
def koi8U : ByteTable where
  rows := ["25002502250c251025142518251c2524252c2534253c258025842588258c2590",
    "259125922593232025a02219221a22482264226500a0232100b000b200b700f7",
    "25502551255204510454255404560457255725582559255a255b0491255d255e",
    "255f25602561040104042563040604072566256725682569256a0490256c00a9",
    "044e0430043104460434043504440433044504380439043a043b043c043d043e",
    "043f044f044004410442044304360432044c044b04370448044d04490447044a",
    "042e0410041104260414041504240413042504180419041a041b041c041d041e",
    "041f042f042004210422042304160412042c042b04170428042d04290427042a"]

/-- The Kazakh encoding KZ-1048. -/
def kz1048 : ByteTable where
  rows := ["04020403201a0453201e20262020202120ac203004092039040a049a04ba040f",
    "045220182019201c201d202220132014fffd21220459203a045a049b04bb045f",
    "00a004b004b104d800a404e800a600a7040100a9049200ab00ac00ad00ae04ae",
    "00b000b10406045604e900b500b600b704512116049300bb04d904a204a304af",
    "0410041104120413041404150416041704180419041a041b041c041d041e041f",
    "0420042104220423042404250426042704280429042a042b042c042d042e042f",
    "0430043104320433043404350436043704380439043a043b043c043d043e043f",
    "0440044104420443044404450446044704480449044a044b044c044d044e044f"]

/-- The Asian Cyrillic encoding. -/
def pt154 : ByteTable where
  rows := ["0496049204ee0493201e202604b604ae04b204af04a004e204a2049a04ba04b8",
    "049720182019201c201d20222013201404b304b704a104e304a3049b04bb04b9",
    "00a0040e045e040804e8049804b000a7040100a904d800ab00ac04ef00ae049c",
    "00b004b104060456049904e900b600b70451211604d900bb045804aa04ab049d",
    "0410041104120413041404150416041704180419041a041b041c041d041e041f",
    "0420042104220423042404250426042704280429042a042b042c042d042e042f",
    "0430043104320433043404350436043704380439043a043b043c043d043e043f",
    "0440044104420443044404450446044704480449044a044b044c044d044e044f"]

/-- The encoding of Hewlett-Packard terminals. -/
def roman8 : ByteTable where
  rows := ["00a000c000c200c800ca00cb00ce00cf00b402cb02c600a802dc00d900db20a4",
    "00af00dd00fd00b000c700e700d100f100a100bf00a400a300a500a7019200a2",
    "00e200ea00f400fb00e100e900f300fa00e000e800f200f900e400eb00f600fc",
    "00c500ee00d800c600e500ed00f800e600c400ec00d600dc00c900ef00df00d4",
    "00c100c300e300d000f000cd00cc00d300d200d500f50160016100da017800ff",
    "00de00fe00b700b500b600be201400bc00bd00aa00ba00ab25a000bb00b1fffd"]

/-- The encoding of Palm devices. -/
def palmos : ByteTable where
  rows := ["20ac0081201a0192201e20262020202102c62030016020390152266626632665",
    "266020182019201c201d20222013201402dc21220161009b0153009d009e0178",
    "00a000a100a200a300a400a500a600a700a800a900aa00ab00ac00ad00ae00af",
    "00b000b100b200b300b400b500b600b700b800b900ba00bb00bc00bd00be00bf",
    "00c000c100c200c300c400c500c600c700c800c900ca00cb00cc00cd00ce00cf",
    "00d000d100d200d300d400d500d600d700d800d900da00db00dc00dd00de00df",
    "00e000e100e200e300e400e500e600e700e800e900ea00eb00ec00ed00ee00ef",
    "00f000f100f200f300f400f500f600f700f800f900fa00fb00fc00fd00fe00ff"]

/-- The tables of this module with their names. -/
def nationalTables : List (String × List String × ByteTable) :=
  [("koi8_r", ["cskoi8r"], koi8R), ("koi8_t", [], koi8T), ("koi8_u", [], koi8U),
    ("kz1048", ["kz_1048", "rk1048", "strk1048_2002"], kz1048),
    ("ptcp154", ["csptcp154", "pt154", "cp154", "cyrillic_asian"], pt154),
    ("hp_roman8", ["roman8", "r8", "cp1051", "ibm1051"], roman8), ("palmos", [], palmos)]

end ClientScribe.Source.ByteTable
