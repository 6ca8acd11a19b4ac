import CorpusSearch.Unicode.Category

/-!
Yes-or-no properties of code points. Each is stored as the general categories it takes whole, the ranges it
has besides them and the ranges of those categories that it leaves out.
-/

set_option autoImplicit false

namespace CorpusSearch.Unicode.Table

/-- A property as a correction of a union of general categories; rows are packed as for categories, tag zero. -/
structure Spread where
  names : List String
  categories : List Category
  added : List Nat
  removed : List Nat

def asciiHexDigit : Spread where
  names := ["ahex", "asciihexdigit"]
  categories := []
  added := [
    0x00003000003900_00004100004600_00006100006600]
  removed := []

def alphabetic : Spread where
  names := ["alpha", "alphabetic"]
  categories := [.upper, .lower, .title, .modifierLetter, .otherLetter, .nonspacingMark, .spacingMark,
    .letterNumber]
  added := [
    0x0024b60024e900_01f13001f14900_01f15001f16900_01f17001f18900]
  removed := [
    0x00030000034400_00034600036200_00048300048700_0005910005af00_00065800065800_0006df0006e000,
    0x0006ea0006ec00_00074000074a00_0007eb0007f300_0007fd0007fd00_00081800081900_00082d00082d00,
    0x00085900085b00_00089800089f00_0008ca0008d300_0008e00008e100_0008ea0008ef00_00093c00093c00,
    0x00094d00094d00_00095100095400_0009bc0009bc00_0009cd0009cd00_0009fe0009fe00_000a3c000a3c00,
    0x000a4d000a4d00_000abc000abc00_000acd000acd00_000afd000aff00_000b3c000b3c00_000b4d000b4d00,
    0x000b55000b5500_000bcd000bcd00_000c3c000c3c00_000c4d000c4d00_000cbc000cbc00_000ccd000ccd00,
    0x000d3b000d3c00_000d4d000d4d00_000dca000dca00_000e47000e4c00_000e4e000e4e00_000eba000eba00,
    0x000ec8000ecc00_000ece000ece00_000f18000f1900_000f35000f3500_000f37000f3700_000f39000f3900,
    0x000f3e000f3f00_000f84000f8400_000f86000f8700_000fc6000fc600_00103700103700_00103900103a00,
    0x00135d00135f00_00171400171500_00173400173400_0017b40017b500_0017c90017d300_0017dd0017dd00,
    0x00180b00180d00_00180f00180f00_00193900193b00_001a60001a6000_001a75001a7c00_001a7f001a7f00,
    0x001ab0001abd00_001ac1001acb00_001b34001b3400_001b44001b4400_001b6b001b7300_001baa001bab00,
    0x001be6001be600_001bf2001bf300_001c37001c3700_001cd0001cd200_001cd4001ce800_001ced001ced00,
    0x001cf4001cf400_001cf7001cf900_001dc0001dd200_001df5001dff00_0020d00020dc00_0020e10020e100,
    0x0020e50020f000_002cef002cf100_002d7f002d7f00_00302a00302f00_00309900309a00_00a66f00a66f00,
    0x00a67c00a67d00_00a6f000a6f100_00a80600a80600_00a82c00a82c00_00a8c400a8c400_00a8e000a8f100,
    0x00a92b00a92d00_00a95300a95300_00a9b300a9b300_00a9c000a9c000_00aabf00aabf00_00aac100aac100,
    0x00aaf600aaf600_00abec00abed00_00fe0000fe0f00_00fe2000fe2f00_0101fd0101fd00_0102e00102e000,
    0x010a38010a3a00_010a3f010a3f00_010ae5010ae600_010d6a010d6d00_010efd010eff00_010f46010f5000,
    0x010f82010f8500_01104601104600_01107001107000_01107f01107f00_0110b90110ba00_01113301113400,
    0x01117301117300_0111c00111c000_0111c90111cc00_01123501123600_0112e90112ea00_01133b01133c00,
    0x01134d01134d00_01136601136c00_01137001137400_0113ce0113d000_0113d20113d200_0113e10113e200,
    0x01144201144200_01144601144600_01145e01145e00_0114c20114c300_0115bf0115c000_01163f01163f00,
    0x0116b60116b700_01172b01172b00_01183901183a00_01193d01193e00_01194301194300_0119e00119e000,
    0x011a33011a3400_011a47011a4700_011a98011a9900_011c3f011c3f00_011d42011d4200_011d44011d4500,
    0x011d97011d9700_011f41011f4200_011f5a011f5a00_01344001344000_01344701345500_01612f01612f00,
    0x016af0016af400_016b30016b3600_016fe4016fe400_01bc9d01bc9d00_01cf0001cf2d00_01cf3001cf4600,
    0x01d16501d16900_01d16d01d17200_01d17b01d18200_01d18501d18b00_01d1aa01d1ad00_01d24201d24400,
    0x01da0001da3600_01da3b01da6c00_01da7501da7500_01da8401da8400_01da9b01da9f00_01daa101daaf00,
    0x01e13001e13600_01e2ae01e2ae00_01e2ec01e2ef00_01e4ec01e4ef00_01e5ee01e5ef00_01e8d001e8d600,
    0x01e94401e94600_01e94801e94a00_0e01000e01ef00]

def bidiControl : Spread where
  names := ["bidic", "bidicontrol"]
  categories := []
  added := [
    0x00061c00061c00_00200e00200f00_00202a00202e00_00206600206900]
  removed := []

def bidiMirrored : Spread where
  names := ["bidim", "bidimirrored"]
  categories := [.openPunctuation, .closePunctuation, .initialPunctuation, .finalPunctuation]
  added := [
    0x00003c00003c00_00003e00003e00_00214000214000_00220100220400_00220800220d00_00221100221100,
    0x00221500221600_00221a00221d00_00221f00222200_00222400222400_00222600222600_00222b00223300,
    0x00223900223900_00223b00224c00_00225200225500_00225f00226000_00226200226200_00226400226b00,
    0x00226d00228c00_00228f00229200_00229800229800_0022a20022a300_0022a60022b800_0022be0022bf00,
    0x0022c90022cd00_0022d00022d100_0022d60022ed00_0022f00022ff00_00232000232100_0027c00027c000,
    0x0027c30027c400_0027c80027c900_0027cb0027cd00_0027d30027d600_0027dc0027de00_0027e20027e500,
    0x00299b0029a000_0029a20029af00_0029b80029b800_0029c00029c500_0029c90029c900_0029ce0029d200,
    0x0029d40029d500_0029dc0029dc00_0029e10029e100_0029e30029e500_0029e80029e900_0029f40029f900,
    0x002a0a002a1c00_002a1e002a2100_002a24002a2400_002a26002a2600_002a29002a2900_002a2b002a2e00,
    0x002a34002a3500_002a3c002a3e00_002a57002a5800_002a64002a6500_002a6a002a6d00_002a6f002a7000,
    0x002a73002a7400_002a79002aa300_002aa6002aad00_002aaf002ad600_002adc002adc00_002ade002ade00,
    0x002ae2002ae600_002aec002aee00_002af3002af300_002af7002afb00_002afd002afd00_002bfe002bfe00,
    0x00fe6400fe6500_00ff1c00ff1c00_00ff1e00ff1e00_01d6db01d6db00_01d71501d71500_01d74f01d74f00,
    0x01d78901d78900_01d7c301d7c300]
  removed := [
    0x00201800201f00_002e42002e4200_00301d00301f00_00fd3e00fd3f00_00fe1700fe1800_00fe3500fe4400,
    0x00fe4700fe4800]

def caseIgnorable : Spread where
  names := ["ci", "caseignorable"]
  categories := [.modifierLetter, .nonspacingMark, .enclosingMark, .modifierSymbol, .format]
  added := [
    0x00002700002700_00002e00002e00_00003a00003a00_0000b70000b700_00038700038700_00055f00055f00,
    0x0005f40005f400_00201800201900_00202400202400_00202700202700_00fe1300fe1300_00fe5200fe5200,
    0x00fe5500fe5500_00ff0700ff0700_00ff0e00ff0e00_00ff1a00ff1a00]
  removed := []

def cased : Spread where
  names := ["cased"]
  categories := [.upper, .lower, .title]
  added := [
    0x0000aa0000aa00_0000ba0000ba00_0002b00002b800_0002c00002c100_0002e00002e400_00034500034500,
    0x00037a00037a00_0010fc0010fc00_001d2c001d6a00_001d78001d7800_001d9b001dbf00_00207100207100,
    0x00207f00207f00_00209000209c00_00216000217f00_0024b60024e900_002c7c002c7d00_00a69c00a69d00,
    0x00a77000a77000_00a7f200a7f400_00a7f800a7f900_00ab5c00ab5f00_00ab6900ab6900_01078001078000,
    0x01078301078500_0107870107b000_0107b20107ba00_01e03001e06d00_01f13001f14900_01f15001f16900,
    0x01f17001f18900]
  removed := []

def changesWhenCasefolded : Spread where
  names := ["cwcf", "changeswhencasefolded"]
  categories := [.upper, .title]
  added := [
    0x0000b50000b500_0000df0000df00_00014900014900_00017f00017f00_00034500034500_0003c20003c200,
    0x0003d00003d100_0003d50003d600_0003f00003f100_0003f50003f500_00058700058700_0013f80013fd00,
    0x001c80001c8800_001e9a001e9b00_001f80001f8700_001f90001f9700_001fa0001fa700_001fb2001fb400,
    0x001fb7001fb700_001fc2001fc400_001fc7001fc700_001ff2001ff400_001ff7001ff700_00216000216f00,
    0x0024b60024cf00_00ab7000abbf00_00fb0000fb0600_00fb1300fb1700]
  removed := [
    0x0003d20003d400_0013a00013f500_00210200210200_00210700210700_00210b00210d00_00211000211200,
    0x00211500211500_00211900211d00_00212400212400_00212800212800_00212c00212d00_00213000213100,
    0x00213300213300_00213e00213f00_00214500214500_01d40001d41900_01d43401d44d00_01d46801d48100,
    0x01d49c01d49c00_01d49e01d49f00_01d4a201d4a200_01d4a501d4a600_01d4a901d4ac00_01d4ae01d4b500,
    0x01d4d001d4e900_01d50401d50500_01d50701d50a00_01d50d01d51400_01d51601d51c00_01d53801d53900,
    0x01d53b01d53e00_01d54001d54400_01d54601d54600_01d54a01d55000_01d56c01d58500_01d5a001d5b900,
    0x01d5d401d5ed00_01d60801d62100_01d63c01d65500_01d67001d68900_01d6a801d6c000_01d6e201d6fa00,
    0x01d71c01d73400_01d75601d76e00_01d79001d7a800_01d7ca01d7ca00]

def changesWhenCasemapped : Spread where
  names := ["cwcm", "changeswhencasemapped"]
  categories := [.upper, .lower, .title]
  added := [
    0x00034500034500_00216000217f00_0024b60024e900]
  removed := [
    0x00013800013800_00018d00018d00_0001aa0001ab00_0001ba0001ba00_0001be0001be00_00022100022100,
    0x00023400023900_00025500025500_00025800025800_00025a00025a00_00025d00025f00_00026200026200,
    0x00026700026700_00026d00026e00_00027000027000_00027300027400_00027600027c00_00027e00027f00,
    0x00028100028100_00028400028600_00028d00029100_00029300029300_00029500029c00_00029f0002af00,
    0x0003d20003d400_0003fc0003fc00_00056000056000_00058800058800_001d00001d2b00_001d6b001d7700,
    0x001d7a001d7c00_001d7e001d8d00_001d8f001d9a00_001e9c001e9d00_001e9f001e9f00_00210200210200,
    0x00210700210700_00210a00211300_00211500211500_00211900211d00_00212400212400_00212800212800,
    0x00212c00212d00_00212f00213100_00213300213400_00213900213900_00213c00213f00_00214500214900,
    0x002c71002c7100_002c74002c7400_002c77002c7b00_002ce4002ce400_00a73000a73100_00a77100a77800,
    0x00a78e00a78e00_00a79500a79500_00a7af00a7af00_00a7d300a7d300_00a7d500a7d500_00a7fa00a7fa00,
    0x00ab3000ab5200_00ab5400ab5a00_00ab6000ab6800_01d40001d45400_01d45601d49c00_01d49e01d49f00,
    0x01d4a201d4a200_01d4a501d4a600_01d4a901d4ac00_01d4ae01d4b900_01d4bb01d4bb00_01d4bd01d4c300,
    0x01d4c501d50500_01d50701d50a00_01d50d01d51400_01d51601d51c00_01d51e01d53900_01d53b01d53e00,
    0x01d54001d54400_01d54601d54600_01d54a01d55000_01d55201d6a500_01d6a801d6c000_01d6c201d6da00,
    0x01d6dc01d6fa00_01d6fc01d71400_01d71601d73400_01d73601d74e00_01d75001d76e00_01d77001d78800,
    0x01d78a01d7a800_01d7aa01d7c200_01d7c401d7cb00_01df0001df0900_01df0b01df1e00_01df2501df2a00]

def changesWhenLowercased : Spread where
  names := ["cwl", "changeswhenlowercased"]
  categories := [.upper, .title]
  added := [
    0x00216000216f00_0024b60024cf00]
  removed := [
    0x0003d20003d400_00210200210200_00210700210700_00210b00210d00_00211000211200_00211500211500,
    0x00211900211d00_00212400212400_00212800212800_00212c00212d00_00213000213100_00213300213300,
    0x00213e00213f00_00214500214500_01d40001d41900_01d43401d44d00_01d46801d48100_01d49c01d49c00,
    0x01d49e01d49f00_01d4a201d4a200_01d4a501d4a600_01d4a901d4ac00_01d4ae01d4b500_01d4d001d4e900,
    0x01d50401d50500_01d50701d50a00_01d50d01d51400_01d51601d51c00_01d53801d53900_01d53b01d53e00,
    0x01d54001d54400_01d54601d54600_01d54a01d55000_01d56c01d58500_01d5a001d5b900_01d5d401d5ed00,
    0x01d60801d62100_01d63c01d65500_01d67001d68900_01d6a801d6c000_01d6e201d6fa00_01d71c01d73400,
    0x01d75601d76e00_01d79001d7a800_01d7ca01d7ca00]

def changesWhenTitlecased : Spread where
  names := ["cwt", "changeswhentitlecased"]
  categories := [.lower]
  added := [
    0x0001c40001c400_0001c70001c700_0001ca0001ca00_0001f10001f100_00034500034500_00217000217f00,
    0x0024d00024e900]
  removed := [
    0x00013800013800_00018d00018d00_0001aa0001ab00_0001ba0001ba00_0001be0001be00_00022100022100,
    0x00023400023900_00025500025500_00025800025800_00025a00025a00_00025d00025f00_00026200026200,
    0x00026700026700_00026d00026e00_00027000027000_00027300027400_00027600027c00_00027e00027f00,
    0x00028100028100_00028400028600_00028d00029100_00029300029300_00029500029c00_00029f0002af00,
    0x0003fc0003fc00_00056000056000_00058800058800_0010d00010fa00_0010fd0010ff00_001d00001d2b00,
    0x001d6b001d7700_001d7a001d7c00_001d7e001d8d00_001d8f001d9a00_001e9c001e9d00_001e9f001e9f00,
    0x00210a00210a00_00210e00210f00_00211300211300_00212f00212f00_00213400213400_00213900213900,
    0x00213c00213d00_00214600214900_002c71002c7100_002c74002c7400_002c77002c7b00_002ce4002ce400,
    0x00a73000a73100_00a77100a77800_00a78e00a78e00_00a79500a79500_00a7af00a7af00_00a7d300a7d300,
    0x00a7d500a7d500_00a7fa00a7fa00_00ab3000ab5200_00ab5400ab5a00_00ab6000ab6800_01d41a01d43300,
    0x01d44e01d45400_01d45601d46700_01d48201d49b00_01d4b601d4b900_01d4bb01d4bb00_01d4bd01d4c300,
    0x01d4c501d4cf00_01d4ea01d50300_01d51e01d53700_01d55201d56b00_01d58601d59f00_01d5ba01d5d300,
    0x01d5ee01d60700_01d62201d63b00_01d65601d66f00_01d68a01d6a500_01d6c201d6da00_01d6dc01d6e100,
    0x01d6fc01d71400_01d71601d71b00_01d73601d74e00_01d75001d75500_01d77001d78800_01d78a01d78f00,
    0x01d7aa01d7c200_01d7c401d7c900_01d7cb01d7cb00_01df0001df0900_01df0b01df1e00_01df2501df2a00]

def changesWhenUppercased : Spread where
  names := ["cwu", "changeswhenuppercased"]
  categories := [.lower, .title]
  added := [
    0x00034500034500_00217000217f00_0024d00024e900]
  removed := [
    0x00013800013800_00018d00018d00_0001aa0001ab00_0001ba0001ba00_0001be0001be00_00022100022100,
    0x00023400023900_00025500025500_00025800025800_00025a00025a00_00025d00025f00_00026200026200,
    0x00026700026700_00026d00026e00_00027000027000_00027300027400_00027600027c00_00027e00027f00,
    0x00028100028100_00028400028600_00028d00029100_00029300029300_00029500029c00_00029f0002af00,
    0x0003fc0003fc00_00056000056000_00058800058800_001d00001d2b00_001d6b001d7700_001d7a001d7c00,
    0x001d7e001d8d00_001d8f001d9a00_001e9c001e9d00_001e9f001e9f00_00210a00210a00_00210e00210f00,
    0x00211300211300_00212f00212f00_00213400213400_00213900213900_00213c00213d00_00214600214900,
    0x002c71002c7100_002c74002c7400_002c77002c7b00_002ce4002ce400_00a73000a73100_00a77100a77800,
    0x00a78e00a78e00_00a79500a79500_00a7af00a7af00_00a7d300a7d300_00a7d500a7d500_00a7fa00a7fa00,
    0x00ab3000ab5200_00ab5400ab5a00_00ab6000ab6800_01d41a01d43300_01d44e01d45400_01d45601d46700,
    0x01d48201d49b00_01d4b601d4b900_01d4bb01d4bb00_01d4bd01d4c300_01d4c501d4cf00_01d4ea01d50300,
    0x01d51e01d53700_01d55201d56b00_01d58601d59f00_01d5ba01d5d300_01d5ee01d60700_01d62201d63b00,
    0x01d65601d66f00_01d68a01d6a500_01d6c201d6da00_01d6dc01d6e100_01d6fc01d71400_01d71601d71b00,
    0x01d73601d74e00_01d75001d75500_01d77001d78800_01d78a01d78f00_01d7aa01d7c200_01d7c401d7c900,
    0x01d7cb01d7cb00_01df0001df0900_01df0b01df1e00_01df2501df2a00]

def dash : Spread where
  names := ["dash"]
  categories := [.dashPunctuation]
  added := [
    0x00205300205300_00207b00207b00_00208b00208b00_00221200221200]
  removed := []

def defaultIgnorableCodePoint : Spread where
  names := ["di", "defaultignorablecodepoint"]
  categories := [.format]
  added := [
    0x00034f00034f00_00115f00116000_0017b40017b500_00180b00180d00_00180f00180f00_00206500206500,
    0x00316400316400_00fe0000fe0f00_00ffa000ffa000_00fff000fff800_0e00000e000000_0e00020e001f00,
    0x0e00800e0fff00]
  removed := [
    0x00060000060500_0006dd0006dd00_00070f00070f00_00089000089100_0008e20008e200_00fff900fffb00,
    0x0110bd0110bd00_0110cd0110cd00_01343001343f00]

def discouraged : Spread where
  names := ["dep", "deprecated"]
  categories := []
  added := [
    0x00014900014900_00067300067300_000f77000f7700_000f79000f7900_0017a30017a400_00206a00206f00,
    0x00232900232a00_0e00010e000100]
  removed := []

def diacritic : Spread where
  names := ["dia", "diacritic"]
  categories := [.modifierSymbol]
  added := [
    0x0000b70000b700_0002b00002c100_0002c60002d100_0002e00002e400_0002ec0002ec00_0002ee0002ee00,
    0x00030000034e00_00035000035700_00035d00036200_00037400037400_00037a00037a00_00048300048700,
    0x00055900055900_0005910005a100_0005a30005bd00_0005bf0005bf00_0005c10005c200_0005c40005c400,
    0x00064b00065200_00065700065800_0006df0006e000_0006e50006e600_0006ea0006ec00_00073000074a00,
    0x0007a60007b000_0007eb0007f500_00081800081900_00089800089f00_0008c90008d200_0008e30008fe00,
    0x00093c00093c00_00094d00094d00_00095100095400_00097100097100_0009bc0009bc00_0009cd0009cd00,
    0x000a3c000a3c00_000a4d000a4d00_000abc000abc00_000acd000acd00_000afd000aff00_000b3c000b3c00,
    0x000b4d000b4d00_000b55000b5500_000bcd000bcd00_000c3c000c3c00_000c4d000c4d00_000cbc000cbc00,
    0x000ccd000ccd00_000d3b000d3c00_000d4d000d4d00_000dca000dca00_000e3a000e3a00_000e47000e4c00,
    0x000e4e000e4e00_000eba000eba00_000ec8000ecc00_000f18000f1900_000f35000f3500_000f37000f3700,
    0x000f39000f3900_000f3e000f3f00_000f82000f8400_000f86000f8700_000fc6000fc600_00103700103700,
    0x00103900103a00_00106300106400_00106900106d00_00108700108d00_00108f00108f00_00109a00109b00,
    0x00135d00135f00_00171400171500_00173400173400_0017c90017d300_0017dd0017dd00_00193900193b00,
    0x001a60001a6000_001a75001a7c00_001a7f001a7f00_001ab0001abe00_001ac1001acb00_001b34001b3400,
    0x001b44001b4400_001b6b001b7300_001baa001bab00_001be6001be600_001bf2001bf300_001c36001c3700,
    0x001c78001c7d00_001cd0001ce800_001ced001ced00_001cf4001cf400_001cf7001cf900_001d2c001d6a00,
    0x001dc4001dcf00_001df5001dff00_002cef002cf100_002e2f002e2f00_00302a00302f00_00309900309a00,
    0x0030fc0030fc00_00a66f00a66f00_00a67c00a67d00_00a67f00a67f00_00a69c00a69d00_00a6f000a6f100,
    0x00a71700a71f00_00a78800a78800_00a7f800a7f900_00a80600a80600_00a82c00a82c00_00a8c400a8c400,
    0x00a8e000a8f100_00a92b00a92e00_00a95300a95300_00a9b300a9b300_00a9c000a9c000_00a9e500a9e500,
    0x00aa7b00aa7d00_00aabf00aac200_00aaf600aaf600_00ab5c00ab5f00_00ab6900ab6900_00abec00abed00,
    0x00fb1e00fb1e00_00fe2000fe2f00_00ff7000ff7000_00ff9e00ff9f00_0102e00102e000_01078001078500,
    0x0107870107b000_0107b20107ba00_010a38010a3a00_010a3f010a3f00_010ae5010ae600_010d22010d2700,
    0x010d4e010d4e00_010d69010d6d00_010efd010eff00_010f46010f5000_010f82010f8500_01104601104600,
    0x01107001107000_0110b90110ba00_01113301113400_01117301117300_0111c00111c000_0111ca0111cc00,
    0x01123501123600_0112e90112ea00_01133b01133c00_01134d01134d00_01136601136c00_01137001137400,
    0x0113ce0113d000_0113d20113d300_0113e10113e200_01144201144200_01144601144600_0114c20114c300,
    0x0115bf0115c000_01163f01163f00_0116b60116b700_01172b01172b00_01183901183a00_01193d01193e00,
    0x01194301194300_0119e00119e000_011a34011a3400_011a47011a4700_011a99011a9900_011c3f011c3f00,
    0x011d42011d4200_011d44011d4500_011d97011d9700_011f41011f4200_011f5a011f5a00_01344701345500,
    0x01612f01612f00_016af0016af400_016b30016b3600_016d6b016d6c00_016f8f016f9f00_016ff0016ff100,
    0x01aff001aff300_01aff501affb00_01affd01affe00_01cf0001cf2d00_01cf3001cf4600_01d16701d16900,
    0x01d16d01d17200_01d17b01d18200_01d18501d18b00_01d1aa01d1ad00_01e03001e06d00_01e13001e13600,
    0x01e2ae01e2ae00_01e2ec01e2ef00_01e5ee01e5ef00_01e8d001e8d600_01e94401e94600_01e94801e94a00]
  removed := [
    0x00088800088800_00fbb200fbc200_01f3fb01f3ff00]

def emoji : Spread where
  names := ["emoji"]
  categories := []
  added := [
    0x00002300002300_00002a00002a00_00003000003900_0000a90000a900_0000ae0000ae00_00203c00203c00,
    0x00204900204900_00212200212200_00213900213900_00219400219900_0021a90021aa00_00231a00231b00,
    0x00232800232800_0023cf0023cf00_0023e90023f300_0023f80023fa00_0024c20024c200_0025aa0025ab00,
    0x0025b60025b600_0025c00025c000_0025fb0025fe00_00260000260400_00260e00260e00_00261100261100,
    0x00261400261500_00261800261800_00261d00261d00_00262000262000_00262200262300_00262600262600,
    0x00262a00262a00_00262e00262f00_00263800263a00_00264000264000_00264200264200_00264800265300,
    0x00265f00266000_00266300266300_00266500266600_00266800266800_00267b00267b00_00267e00267f00,
    0x00269200269700_00269900269900_00269b00269c00_0026a00026a100_0026a70026a700_0026aa0026ab00,
    0x0026b00026b100_0026bd0026be00_0026c40026c500_0026c80026c800_0026ce0026cf00_0026d10026d100,
    0x0026d30026d400_0026e90026ea00_0026f00026f500_0026f70026fa00_0026fd0026fd00_00270200270200,
    0x00270500270500_00270800270d00_00270f00270f00_00271200271200_00271400271400_00271600271600,
    0x00271d00271d00_00272100272100_00272800272800_00273300273400_00274400274400_00274700274700,
    0x00274c00274c00_00274e00274e00_00275300275500_00275700275700_00276300276400_00279500279700,
    0x0027a10027a100_0027b00027b000_0027bf0027bf00_00293400293500_002b05002b0700_002b1b002b1c00,
    0x002b50002b5000_002b55002b5500_00303000303000_00303d00303d00_00329700329700_00329900329900,
    0x01f00401f00400_01f0cf01f0cf00_01f17001f17100_01f17e01f17f00_01f18e01f18e00_01f19101f19a00,
    0x01f1e601f1ff00_01f20101f20200_01f21a01f21a00_01f22f01f22f00_01f23201f23a00_01f25001f25100,
    0x01f30001f32100_01f32401f39300_01f39601f39700_01f39901f39b00_01f39e01f3f000_01f3f301f3f500,
    0x01f3f701f4fd00_01f4ff01f53d00_01f54901f54e00_01f55001f56700_01f56f01f57000_01f57301f57a00,
    0x01f58701f58700_01f58a01f58d00_01f59001f59000_01f59501f59600_01f5a401f5a500_01f5a801f5a800,
    0x01f5b101f5b200_01f5bc01f5bc00_01f5c201f5c400_01f5d101f5d300_01f5dc01f5de00_01f5e101f5e100,
    0x01f5e301f5e300_01f5e801f5e800_01f5ef01f5ef00_01f5f301f5f300_01f5fa01f64f00_01f68001f6c500,
    0x01f6cb01f6d200_01f6d501f6d700_01f6dc01f6e500_01f6e901f6e900_01f6eb01f6ec00_01f6f001f6f000,
    0x01f6f301f6fc00_01f7e001f7eb00_01f7f001f7f000_01f90c01f93a00_01f93c01f94500_01f94701f9ff00,
    0x01fa7001fa7c00_01fa8001fa8900_01fa8f01fac600_01face01fadc00_01fadf01fae900_01faf001faf800]
  removed := []

def emojiComponent : Spread where
  names := ["ecomp", "emojicomponent"]
  categories := []
  added := [
    0x00002300002300_00002a00002a00_00003000003900_00200d00200d00_0020e30020e300_00fe0f00fe0f00,
    0x01f1e601f1ff00_01f3fb01f3ff00_01f9b001f9b300_0e00200e007f00]
  removed := []

def emojiModifier : Spread where
  names := ["emod", "emojimodifier"]
  categories := []
  added := [
    0x01f3fb01f3ff00]
  removed := []

def emojiModifierBase : Spread where
  names := ["ebase", "emojimodifierbase"]
  categories := []
  added := [
    0x00261d00261d00_0026f90026f900_00270a00270d00_01f38501f38500_01f3c201f3c400_01f3c701f3c700,
    0x01f3ca01f3cc00_01f44201f44300_01f44601f45000_01f46601f47800_01f47c01f47c00_01f48101f48300,
    0x01f48501f48700_01f48f01f48f00_01f49101f49100_01f4aa01f4aa00_01f57401f57500_01f57a01f57a00,
    0x01f59001f59000_01f59501f59600_01f64501f64700_01f64b01f64f00_01f6a301f6a300_01f6b401f6b600,
    0x01f6c001f6c000_01f6cc01f6cc00_01f90c01f90c00_01f90f01f90f00_01f91801f91f00_01f92601f92600,
    0x01f93001f93900_01f93c01f93e00_01f97701f97700_01f9b501f9b600_01f9b801f9b900_01f9bb01f9bb00,
    0x01f9cd01f9cf00_01f9d101f9dd00_01fac301fac500_01faf001faf800]
  removed := []

def emojiPresentation : Spread where
  names := ["epres", "emojipresentation"]
  categories := []
  added := [
    0x00231a00231b00_0023e90023ec00_0023f00023f000_0023f30023f300_0025fd0025fe00_00261400261500,
    0x00264800265300_00267f00267f00_00269300269300_0026a10026a100_0026aa0026ab00_0026bd0026be00,
    0x0026c40026c500_0026ce0026ce00_0026d40026d400_0026ea0026ea00_0026f20026f300_0026f50026f500,
    0x0026fa0026fa00_0026fd0026fd00_00270500270500_00270a00270b00_00272800272800_00274c00274c00,
    0x00274e00274e00_00275300275500_00275700275700_00279500279700_0027b00027b000_0027bf0027bf00,
    0x002b1b002b1c00_002b50002b5000_002b55002b5500_01f00401f00400_01f0cf01f0cf00_01f18e01f18e00,
    0x01f19101f19a00_01f1e601f1ff00_01f20101f20100_01f21a01f21a00_01f22f01f22f00_01f23201f23600,
    0x01f23801f23a00_01f25001f25100_01f30001f32000_01f32d01f33500_01f33701f37c00_01f37e01f39300,
    0x01f3a001f3ca00_01f3cf01f3d300_01f3e001f3f000_01f3f401f3f400_01f3f801f43e00_01f44001f44000,
    0x01f44201f4fc00_01f4ff01f53d00_01f54b01f54e00_01f55001f56700_01f57a01f57a00_01f59501f59600,
    0x01f5a401f5a400_01f5fb01f64f00_01f68001f6c500_01f6cc01f6cc00_01f6d001f6d200_01f6d501f6d700,
    0x01f6dc01f6df00_01f6eb01f6ec00_01f6f401f6fc00_01f7e001f7eb00_01f7f001f7f000_01f90c01f93a00,
    0x01f93c01f94500_01f94701f9ff00_01fa7001fa7c00_01fa8001fa8900_01fa8f01fac600_01face01fadc00,
    0x01fadf01fae900_01faf001faf800]
  removed := []

def extendedPictographic : Spread where
  names := ["extpict", "extendedpictographic"]
  categories := []
  added := [
    0x0000a90000a900_0000ae0000ae00_00203c00203c00_00204900204900_00212200212200_00213900213900,
    0x00219400219900_0021a90021aa00_00231a00231b00_00232800232800_00238800238800_0023cf0023cf00,
    0x0023e90023f300_0023f80023fa00_0024c20024c200_0025aa0025ab00_0025b60025b600_0025c00025c000,
    0x0025fb0025fe00_00260000260500_00260700261200_00261400268500_00269000270500_00270800271200,
    0x00271400271400_00271600271600_00271d00271d00_00272100272100_00272800272800_00273300273400,
    0x00274400274400_00274700274700_00274c00274c00_00274e00274e00_00275300275500_00275700275700,
    0x00276300276700_00279500279700_0027a10027a100_0027b00027b000_0027bf0027bf00_00293400293500,
    0x002b05002b0700_002b1b002b1c00_002b50002b5000_002b55002b5500_00303000303000_00303d00303d00,
    0x00329700329700_00329900329900_01f00001f0ff00_01f10d01f10f00_01f12f01f12f00_01f16c01f17100,
    0x01f17e01f17f00_01f18e01f18e00_01f19101f19a00_01f1ad01f1e500_01f20101f20f00_01f21a01f21a00,
    0x01f22f01f22f00_01f23201f23a00_01f23c01f23f00_01f24901f3fa00_01f40001f53d00_01f54601f64f00,
    0x01f68001f6ff00_01f77401f77f00_01f7d501f7ff00_01f80c01f80f00_01f84801f84f00_01f85a01f85f00,
    0x01f88801f88f00_01f8ae01f8ff00_01f90c01f93a00_01f93c01f94500_01f94701faff00_01fc0001fffd00]
  removed := []

def extender : Spread where
  names := ["ext", "extender"]
  categories := []
  added := [
    0x0000b70000b700_0002d00002d100_00064000064000_0007fa0007fa00_000a71000a7100_000afb000afb00,
    0x000b55000b5500_000e46000e4600_000ec6000ec600_00180a00180a00_00184300184300_001aa7001aa700,
    0x001c36001c3600_001c7b001c7b00_00300500300500_00303100303500_00309d00309e00_0030fc0030fe00,
    0x00a01500a01500_00a60c00a60c00_00a9cf00a9cf00_00a9e600a9e600_00aa7000aa7000_00aadd00aadd00,
    0x00aaf300aaf400_00ff7000ff7000_01078101078200_010d4e010d4e00_010d6a010d6a00_010d6f010d6f00,
    0x01123701123700_01135d01135d00_0113d20113d300_0115c60115c800_011a98011a9800_016b42016b4300,
    0x016fe0016fe100_016fe3016fe300_01e13c01e13d00_01e5ef01e5ef00_01e94401e94600]
  removed := []

def graphemeBase : Spread where
  names := ["grbase", "graphemebase"]
  categories := [.upper, .lower, .title, .modifierLetter, .otherLetter, .spacingMark, .decimalNumber,
    .letterNumber, .otherNumber, .connectorPunctuation, .dashPunctuation, .openPunctuation,
    .closePunctuation, .initialPunctuation, .finalPunctuation, .otherPunctuation,
    .mathSymbol, .currencySymbol, .modifierSymbol, .otherSymbol, .spaceSeparator]
  added := []
  removed := [
    0x0009be0009be00_0009d70009d700_000b3e000b3e00_000b57000b5700_000bbe000bbe00_000bd7000bd700,
    0x000cc0000cc000_000cc2000cc200_000cc7000cc800_000cca000ccb00_000cd5000cd600_000d3e000d3e00,
    0x000d57000d5700_000dcf000dcf00_000ddf000ddf00_00171500171500_00173400173400_001b35001b3500,
    0x001b3b001b3b00_001b3d001b3d00_001b43001b4400_001baa001baa00_001bf2001bf300_00302e00302f00,
    0x00a95300a95300_00a9c000a9c000_00ff9e00ff9f00_0111c00111c000_01123501123500_01133e01133e00,
    0x01134d01134d00_01135701135700_0113b80113b800_0113c20113c200_0113c50113c500_0113c70113c900,
    0x0113cf0113cf00_0114b00114b000_0114bd0114bd00_0115af0115af00_0116b60116b600_01193001193000,
    0x01193d01193d00_011f41011f4100_016ff0016ff100_01d16501d16600_01d16d01d17200]

def graphemeExtend : Spread where
  names := ["grext", "graphemeextend"]
  categories := [.nonspacingMark, .enclosingMark]
  added := [
    0x0009be0009be00_0009d70009d700_000b3e000b3e00_000b57000b5700_000bbe000bbe00_000bd7000bd700,
    0x000cc0000cc000_000cc2000cc200_000cc7000cc800_000cca000ccb00_000cd5000cd600_000d3e000d3e00,
    0x000d57000d5700_000dcf000dcf00_000ddf000ddf00_00171500171500_00173400173400_001b35001b3500,
    0x001b3b001b3b00_001b3d001b3d00_001b43001b4400_001baa001baa00_001bf2001bf300_00200c00200c00,
    0x00302e00302f00_00a95300a95300_00a9c000a9c000_00ff9e00ff9f00_0111c00111c000_01123501123500,
    0x01133e01133e00_01134d01134d00_01135701135700_0113b80113b800_0113c20113c200_0113c50113c500,
    0x0113c70113c900_0113cf0113cf00_0114b00114b000_0114bd0114bd00_0115af0115af00_0116b60116b600,
    0x01193001193000_01193d01193d00_011f41011f4100_016ff0016ff100_01d16501d16600_01d16d01d17200,
    0x0e00200e007f00]
  removed := []

def graphemeLink : Spread where
  names := ["grlink", "graphemelink"]
  categories := []
  added := [
    0x00094d00094d00_0009cd0009cd00_000a4d000a4d00_000acd000acd00_000b4d000b4d00_000bcd000bcd00,
    0x000c4d000c4d00_000ccd000ccd00_000d3b000d3c00_000d4d000d4d00_000dca000dca00_000e3a000e3a00,
    0x000eba000eba00_000f84000f8400_00103900103a00_00171400171500_00173400173400_0017d20017d200,
    0x001a60001a6000_001b44001b4400_001baa001bab00_001bf2001bf300_002d7f002d7f00_00a80600a80600,
    0x00a82c00a82c00_00a8c400a8c400_00a95300a95300_00a9c000a9c000_00aaf600aaf600_00abed00abed00,
    0x010a3f010a3f00_01104601104600_01107001107000_01107f01107f00_0110b90110b900_01113301113400,
    0x0111c00111c000_01123501123500_0112ea0112ea00_01134d01134d00_0113ce0113d000_01144201144200,
    0x0114c20114c200_0115bf0115bf00_01163f01163f00_0116b60116b600_01172b01172b00_01183901183900,
    0x01193d01193e00_0119e00119e000_011a34011a3400_011a47011a4700_011a99011a9900_011c3f011c3f00,
    0x011d44011d4500_011d97011d9700_011f41011f4200_01612f01612f00]
  removed := []

def hexDigit : Spread where
  names := ["hex", "hexdigit"]
  categories := []
  added := [
    0x00003000003900_00004100004600_00006100006600_00ff1000ff1900_00ff2100ff2600_00ff4100ff4600]
  removed := []

def hyphen : Spread where
  names := ["hyphen"]
  categories := []
  added := [
    0x00002d00002d00_0000ad0000ad00_00058a00058a00_00180600180600_00201000201100_002e17002e1700,
    0x0030fb0030fb00_00fe6300fe6300_00ff0d00ff0d00_00ff6500ff6500]
  removed := []

def idsBinaryOperator : Spread where
  names := ["idsb", "idsbinaryoperator"]
  categories := []
  added := [
    0x002ff0002ff100_002ff4002ffd00_0031ef0031ef00]
  removed := []

def idsTrinaryOperator : Spread where
  names := ["idst", "idstrinaryoperator"]
  categories := []
  added := [
    0x002ff2002ff300]
  removed := []

def idsUnaryOperator : Spread where
  names := ["idsu", "idsunaryoperator"]
  categories := []
  added := [
    0x002ffe002fff00]
  removed := []

def idCompatMathContinue : Spread where
  names := ["idcompatmathcontinue"]
  categories := []
  added := [
    0x0000b20000b300_0000b90000b900_00207000207000_00207400207e00_00208000208e00_00220200220200,
    0x00220700220700_00221e00221e00_01d6c101d6c100_01d6db01d6db00_01d6fb01d6fb00_01d71501d71500,
    0x01d73501d73500_01d74f01d74f00_01d76f01d76f00_01d78901d78900_01d7a901d7a900_01d7c301d7c300]
  removed := []

def idCompatMathStart : Spread where
  names := ["idcompatmathstart"]
  categories := []
  added := [
    0x00220200220200_00220700220700_00221e00221e00_01d6c101d6c100_01d6db01d6db00_01d6fb01d6fb00,
    0x01d71501d71500_01d73501d73500_01d74f01d74f00_01d76f01d76f00_01d78901d78900_01d7a901d7a900,
    0x01d7c301d7c300]
  removed := []

def idContinue : Spread where
  names := ["idc", "idcontinue"]
  categories := [.upper, .lower, .title, .modifierLetter, .otherLetter, .nonspacingMark, .spacingMark,
    .decimalNumber, .letterNumber, .connectorPunctuation]
  added := [
    0x0000b70000b700_00038700038700_00136900137100_0019da0019da00_00200c00200d00_00211800211800,
    0x00212e00212e00_00309b00309c00_0030fb0030fb00_00ff6500ff6500]
  removed := [
    0x002e2f002e2f00]

def idStart : Spread where
  names := ["ids", "idstart"]
  categories := [.upper, .lower, .title, .modifierLetter, .otherLetter, .letterNumber]
  added := [
    0x00188500188600_00211800211800_00212e00212e00_00309b00309c00]
  removed := [
    0x002e2f002e2f00]

def ideographic : Spread where
  names := ["ideo", "ideographic"]
  categories := []
  added := [
    0x00300600300700_00302100302900_00303800303a00_003400004dbf00_004e00009fff00_00f90000fa6d00,
    0x00fa7000fad900_016fe4016fe400_0170000187f700_018800018cd500_018cff018d0800_01b17001b2fb00,
    0x02000002a6df00_02a70002b73900_02b74002b81d00_02b82002cea100_02ceb002ebe000_02ebf002ee5d00,
    0x02f80002fa1d00_03000003134a00_0313500323af00]
  removed := []

def joinControl : Spread where
  names := ["joinc", "joincontrol"]
  categories := []
  added := [
    0x00200c00200d00]
  removed := []

def logicalOrderException : Spread where
  names := ["loe", "logicalorderexception"]
  categories := []
  added := [
    0x000e40000e4400_000ec0000ec400_0019b50019b700_0019ba0019ba00_00aab500aab600_00aab900aab900,
    0x00aabb00aabc00]
  removed := []

def lowercase : Spread where
  names := ["lower", "lowercase"]
  categories := [.lower]
  added := [
    0x0000aa0000aa00_0000ba0000ba00_0002b00002b800_0002c00002c100_0002e00002e400_00034500034500,
    0x00037a00037a00_0010fc0010fc00_001d2c001d6a00_001d78001d7800_001d9b001dbf00_00207100207100,
    0x00207f00207f00_00209000209c00_00217000217f00_0024d00024e900_002c7c002c7d00_00a69c00a69d00,
    0x00a77000a77000_00a7f200a7f400_00a7f800a7f900_00ab5c00ab5f00_00ab6900ab6900_01078001078000,
    0x01078301078500_0107870107b000_0107b20107ba00_01e03001e06d00]
  removed := []

def math : Spread where
  names := ["math"]
  categories := [.mathSymbol]
  added := [
    0x00005e00005e00_0003d00003d200_0003d50003d500_0003f00003f100_0003f40003f500_00201600201600,
    0x00203200203400_00204000204000_00206100206400_00207d00207e00_00208d00208e00_0020d00020dc00,
    0x0020e10020e100_0020e50020e600_0020eb0020ef00_00210200210200_00210700210700_00210a00211300,
    0x00211500211500_00211900211d00_00212400212400_00212800212900_00212c00212d00_00212f00213100,
    0x00213300213800_00213c00213f00_00214500214900_00219500219900_00219c00219f00_0021a10021a200,
    0x0021a40021a500_0021a70021a700_0021a90021ad00_0021b00021b100_0021b60021b700_0021bc0021cd00,
    0x0021d00021d100_0021d30021d300_0021d50021db00_0021dd0021dd00_0021e40021e500_00230800230b00,
    0x0023b40023b500_0023b70023b700_0023d00023d000_0023e20023e200_0025a00025a100_0025ae0025b600,
    0x0025bc0025c000_0025c60025c700_0025ca0025cb00_0025cf0025d300_0025e20025e200_0025e40025e400,
    0x0025e70025ec00_00260500260600_00264000264000_00264200264200_00266000266300_00266d00266e00,
    0x0027c50027c600_0027e60027ef00_00298300299800_0029d80029db00_0029fc0029fd00_00fe6100fe6100,
    0x00fe6300fe6300_00fe6800fe6800_00ff3c00ff3c00_00ff3e00ff3e00_01d40001d45400_01d45601d49c00,
    0x01d49e01d49f00_01d4a201d4a200_01d4a501d4a600_01d4a901d4ac00_01d4ae01d4b900_01d4bb01d4bb00,
    0x01d4bd01d4c300_01d4c501d50500_01d50701d50a00_01d50d01d51400_01d51601d51c00_01d51e01d53900,
    0x01d53b01d53e00_01d54001d54400_01d54601d54600_01d54a01d55000_01d55201d6a500_01d6a801d6c000,
    0x01d6c201d6da00_01d6dc01d6fa00_01d6fc01d71400_01d71601d73400_01d73601d74e00_01d75001d76e00,
    0x01d77001d78800_01d78a01d7a800_01d7aa01d7c200_01d7c401d7cb00_01d7ce01d7ff00_01ee0001ee0300,
    0x01ee0501ee1f00_01ee2101ee2200_01ee2401ee2400_01ee2701ee2700_01ee2901ee3200_01ee3401ee3700,
    0x01ee3901ee3900_01ee3b01ee3b00_01ee4201ee4200_01ee4701ee4700_01ee4901ee4900_01ee4b01ee4b00,
    0x01ee4d01ee4f00_01ee5101ee5200_01ee5401ee5400_01ee5701ee5700_01ee5901ee5900_01ee5b01ee5b00,
    0x01ee5d01ee5d00_01ee5f01ee5f00_01ee6101ee6200_01ee6401ee6400_01ee6701ee6a00_01ee6c01ee7200,
    0x01ee7401ee7700_01ee7901ee7c00_01ee7e01ee7e00_01ee8001ee8900_01ee8b01ee9b00_01eea101eea300,
    0x01eea501eea900_01eeab01eebb00]
  removed := []

def modifierCombiningMark : Spread where
  names := ["mcm", "modifiercombiningmark"]
  categories := []
  added := [
    0x00065400065500_00065800065800_0006dc0006dc00_0006e30006e300_0006e70006e800_0008ca0008cb00,
    0x0008cd0008cf00_0008d30008d300_0008f30008f300]
  removed := []

def noncharacterCodePoint : Spread where
  names := ["nchar", "noncharactercodepoint"]
  categories := []
  added := [
    0x00fdd000fdef00_00fffe00ffff00_01fffe01ffff00_02fffe02ffff00_03fffe03ffff00_04fffe04ffff00,
    0x05fffe05ffff00_06fffe06ffff00_07fffe07ffff00_08fffe08ffff00_09fffe09ffff00_0afffe0affff00,
    0x0bfffe0bffff00_0cfffe0cffff00_0dfffe0dffff00_0efffe0effff00_0ffffe0fffff00_10fffe10ffff00]
  removed := []

def otherAlphabetic : Spread where
  names := ["oalpha", "otheralphabetic"]
  categories := [.nonspacingMark, .spacingMark]
  added := [
    0x0024b60024e900_01f13001f14900_01f15001f16900_01f17001f18900]
  removed := [
    0x00030000034400_00034600036200_00048300048700_0005910005af00_00065800065800_0006df0006e000,
    0x0006ea0006ec00_00074000074a00_0007eb0007f300_0007fd0007fd00_00081800081900_00082d00082d00,
    0x00085900085b00_00089800089f00_0008ca0008d300_0008e00008e100_0008ea0008ef00_00093c00093c00,
    0x00094d00094d00_00095100095400_0009bc0009bc00_0009cd0009cd00_0009fe0009fe00_000a3c000a3c00,
    0x000a4d000a4d00_000abc000abc00_000acd000acd00_000afd000aff00_000b3c000b3c00_000b4d000b4d00,
    0x000b55000b5500_000bcd000bcd00_000c3c000c3c00_000c4d000c4d00_000cbc000cbc00_000ccd000ccd00,
    0x000d3b000d3c00_000d4d000d4d00_000dca000dca00_000e47000e4c00_000e4e000e4e00_000eba000eba00,
    0x000ec8000ecc00_000ece000ece00_000f18000f1900_000f35000f3500_000f37000f3700_000f39000f3900,
    0x000f3e000f3f00_000f84000f8400_000f86000f8700_000fc6000fc600_00103700103700_00103900103a00,
    0x00135d00135f00_00171400171500_00173400173400_0017b40017b500_0017c90017d300_0017dd0017dd00,
    0x00180b00180d00_00180f00180f00_00193900193b00_001a60001a6000_001a75001a7c00_001a7f001a7f00,
    0x001ab0001abd00_001ac1001acb00_001b34001b3400_001b44001b4400_001b6b001b7300_001baa001bab00,
    0x001be6001be600_001bf2001bf300_001c37001c3700_001cd0001cd200_001cd4001ce800_001ced001ced00,
    0x001cf4001cf400_001cf7001cf900_001dc0001dd200_001df5001dff00_0020d00020dc00_0020e10020e100,
    0x0020e50020f000_002cef002cf100_002d7f002d7f00_00302a00302f00_00309900309a00_00a66f00a66f00,
    0x00a67c00a67d00_00a6f000a6f100_00a80600a80600_00a82c00a82c00_00a8c400a8c400_00a8e000a8f100,
    0x00a92b00a92d00_00a95300a95300_00a9b300a9b300_00a9c000a9c000_00aabf00aabf00_00aac100aac100,
    0x00aaf600aaf600_00abec00abed00_00fe0000fe0f00_00fe2000fe2f00_0101fd0101fd00_0102e00102e000,
    0x010a38010a3a00_010a3f010a3f00_010ae5010ae600_010d6a010d6d00_010efd010eff00_010f46010f5000,
    0x010f82010f8500_01104601104600_01107001107000_01107f01107f00_0110b90110ba00_01113301113400,
    0x01117301117300_0111c00111c000_0111c90111cc00_01123501123600_0112e90112ea00_01133b01133c00,
    0x01134d01134d00_01136601136c00_01137001137400_0113ce0113d000_0113d20113d200_0113e10113e200,
    0x01144201144200_01144601144600_01145e01145e00_0114c20114c300_0115bf0115c000_01163f01163f00,
    0x0116b60116b700_01172b01172b00_01183901183a00_01193d01193e00_01194301194300_0119e00119e000,
    0x011a33011a3400_011a47011a4700_011a98011a9900_011c3f011c3f00_011d42011d4200_011d44011d4500,
    0x011d97011d9700_011f41011f4200_011f5a011f5a00_01344001344000_01344701345500_01612f01612f00,
    0x016af0016af400_016b30016b3600_016fe4016fe400_01bc9d01bc9d00_01cf0001cf2d00_01cf3001cf4600,
    0x01d16501d16900_01d16d01d17200_01d17b01d18200_01d18501d18b00_01d1aa01d1ad00_01d24201d24400,
    0x01da0001da3600_01da3b01da6c00_01da7501da7500_01da8401da8400_01da9b01da9f00_01daa101daaf00,
    0x01e13001e13600_01e2ae01e2ae00_01e2ec01e2ef00_01e4ec01e4ef00_01e5ee01e5ef00_01e8d001e8d600,
    0x01e94401e94600_01e94801e94a00_0e01000e01ef00]

def otherDefaultIgnorableCodePoint : Spread where
  names := ["odi", "otherdefaultignorablecodepoint"]
  categories := []
  added := [
    0x00034f00034f00_00115f00116000_0017b40017b500_00206500206500_00316400316400_00ffa000ffa000,
    0x00fff000fff800_0e00000e000000_0e00020e001f00_0e00800e00ff00_0e01f00e0fff00]
  removed := []

def otherGraphemeExtend : Spread where
  names := ["ogrext", "othergraphemeextend"]
  categories := []
  added := [
    0x0009be0009be00_0009d70009d700_000b3e000b3e00_000b57000b5700_000bbe000bbe00_000bd7000bd700,
    0x000cc0000cc000_000cc2000cc200_000cc7000cc800_000cca000ccb00_000cd5000cd600_000d3e000d3e00,
    0x000d57000d5700_000dcf000dcf00_000ddf000ddf00_00171500171500_00173400173400_001b35001b3500,
    0x001b3b001b3b00_001b3d001b3d00_001b43001b4400_001baa001baa00_001bf2001bf300_00200c00200c00,
    0x00302e00302f00_00a95300a95300_00a9c000a9c000_00ff9e00ff9f00_0111c00111c000_01123501123500,
    0x01133e01133e00_01134d01134d00_01135701135700_0113b80113b800_0113c20113c200_0113c50113c500,
    0x0113c70113c900_0113cf0113cf00_0114b00114b000_0114bd0114bd00_0115af0115af00_0116b60116b600,
    0x01193001193000_01193d01193d00_011f41011f4100_016ff0016ff100_01d16501d16600_01d16d01d17200,
    0x0e00200e007f00]
  removed := []

def otherIdContinue : Spread where
  names := ["oidc", "otheridcontinue"]
  categories := []
  added := [
    0x0000b70000b700_00038700038700_00136900137100_0019da0019da00_00200c00200d00_0030fb0030fb00,
    0x00ff6500ff6500]
  removed := []

def otherIdStart : Spread where
  names := ["oids", "otheridstart"]
  categories := []
  added := [
    0x00188500188600_00211800211800_00212e00212e00_00309b00309c00]
  removed := []

def otherLowercase : Spread where
  names := ["olower", "otherlowercase"]
  categories := []
  added := [
    0x0000aa0000aa00_0000ba0000ba00_0002b00002b800_0002c00002c100_0002e00002e400_00034500034500,
    0x00037a00037a00_0010fc0010fc00_001d2c001d6a00_001d78001d7800_001d9b001dbf00_00207100207100,
    0x00207f00207f00_00209000209c00_00217000217f00_0024d00024e900_002c7c002c7d00_00a69c00a69d00,
    0x00a77000a77000_00a7f200a7f400_00a7f800a7f900_00ab5c00ab5f00_00ab6900ab6900_01078001078000,
    0x01078301078500_0107870107b000_0107b20107ba00_01e03001e06d00]
  removed := []

def otherMath : Spread where
  names := ["omath", "othermath"]
  categories := []
  added := [
    0x00005e00005e00_0003d00003d200_0003d50003d500_0003f00003f100_0003f40003f500_00201600201600,
    0x00203200203400_00204000204000_00206100206400_00207d00207e00_00208d00208e00_0020d00020dc00,
    0x0020e10020e100_0020e50020e600_0020eb0020ef00_00210200210200_00210700210700_00210a00211300,
    0x00211500211500_00211900211d00_00212400212400_00212800212900_00212c00212d00_00212f00213100,
    0x00213300213800_00213c00213f00_00214500214900_00219500219900_00219c00219f00_0021a10021a200,
    0x0021a40021a500_0021a70021a700_0021a90021ad00_0021b00021b100_0021b60021b700_0021bc0021cd00,
    0x0021d00021d100_0021d30021d300_0021d50021db00_0021dd0021dd00_0021e40021e500_00230800230b00,
    0x0023b40023b500_0023b70023b700_0023d00023d000_0023e20023e200_0025a00025a100_0025ae0025b600,
    0x0025bc0025c000_0025c60025c700_0025ca0025cb00_0025cf0025d300_0025e20025e200_0025e40025e400,
    0x0025e70025ec00_00260500260600_00264000264000_00264200264200_00266000266300_00266d00266e00,
    0x0027c50027c600_0027e60027ef00_00298300299800_0029d80029db00_0029fc0029fd00_00fe6100fe6100,
    0x00fe6300fe6300_00fe6800fe6800_00ff3c00ff3c00_00ff3e00ff3e00_01d40001d45400_01d45601d49c00,
    0x01d49e01d49f00_01d4a201d4a200_01d4a501d4a600_01d4a901d4ac00_01d4ae01d4b900_01d4bb01d4bb00,
    0x01d4bd01d4c300_01d4c501d50500_01d50701d50a00_01d50d01d51400_01d51601d51c00_01d51e01d53900,
    0x01d53b01d53e00_01d54001d54400_01d54601d54600_01d54a01d55000_01d55201d6a500_01d6a801d6c000,
    0x01d6c201d6da00_01d6dc01d6fa00_01d6fc01d71400_01d71601d73400_01d73601d74e00_01d75001d76e00,
    0x01d77001d78800_01d78a01d7a800_01d7aa01d7c200_01d7c401d7cb00_01d7ce01d7ff00_01ee0001ee0300,
    0x01ee0501ee1f00_01ee2101ee2200_01ee2401ee2400_01ee2701ee2700_01ee2901ee3200_01ee3401ee3700,
    0x01ee3901ee3900_01ee3b01ee3b00_01ee4201ee4200_01ee4701ee4700_01ee4901ee4900_01ee4b01ee4b00,
    0x01ee4d01ee4f00_01ee5101ee5200_01ee5401ee5400_01ee5701ee5700_01ee5901ee5900_01ee5b01ee5b00,
    0x01ee5d01ee5d00_01ee5f01ee5f00_01ee6101ee6200_01ee6401ee6400_01ee6701ee6a00_01ee6c01ee7200,
    0x01ee7401ee7700_01ee7901ee7c00_01ee7e01ee7e00_01ee8001ee8900_01ee8b01ee9b00_01eea101eea300,
    0x01eea501eea900_01eeab01eebb00]
  removed := []

def otherUppercase : Spread where
  names := ["oupper", "otheruppercase"]
  categories := []
  added := [
    0x00216000216f00_0024b60024cf00_01f13001f14900_01f15001f16900_01f17001f18900]
  removed := []

def patternSyntax : Spread where
  names := ["patsyn", "patternsyntax"]
  categories := [.openPunctuation, .closePunctuation, .initialPunctuation, .finalPunctuation,
    .mathSymbol]
  added := [
    0x00002100002700_00002a00002a00_00002c00002f00_00003a00003b00_00003f00004000_00005c00005c00,
    0x00005e00005e00_00006000006000_0000a10000a700_0000a90000a900_0000ae0000ae00_0000b00000b000,
    0x0000b60000b600_0000bf0000bf00_00201000201700_00202000202700_00203000203800_00203b00203e00,
    0x00204100204300_00204700205100_00205300205300_00205500205e00_00219500219900_00219c00219f00,
    0x0021a10021a200_0021a40021a500_0021a70021ad00_0021af0021cd00_0021d00021d100_0021d30021d300,
    0x0021d50021f300_00230000230700_00230c00231f00_00232200232800_00232b00237b00_00237d00239a00,
    0x0023b40023db00_0023e200245f00_0025000025b600_0025b80025c000_0025c20025f700_00260000266e00,
    0x00267000276700_0027940027bf00_0028000028ff00_002b00002b2f00_002b45002b4600_002b4d002bff00,
    0x002e00002e0100_002e06002e0800_002e0b002e0b00_002e0e002e1b00_002e1e002e1f00_002e2a002e4100,
    0x002e43002e5400_002e5d002e7f00_00300100300300_00301200301300_00301c00301c00_00302000302000,
    0x00303000303000_00fe4500fe4600]
  removed := [
    0x0003f60003f600_00060600060800_000f3a000f3d00_00169b00169c00_00207a00207e00_00208a00208e00,
    0x00211800211800_00214000214400_00214b00214b00_00fb2900fb2900_00fe1700fe1800_00fe3500fe4400,
    0x00fe4700fe4800_00fe5900fe5e00_00fe6200fe6200_00fe6400fe6600_00ff0800ff0900_00ff0b00ff0b00,
    0x00ff1c00ff1e00_00ff3b00ff3b00_00ff3d00ff3d00_00ff5b00ff6000_00ff6200ff6300_00ffe200ffe200,
    0x00ffe900ffec00_010d8e010d8f00_01d6c101d6c100_01d6db01d6db00_01d6fb01d6fb00_01d71501d71500,
    0x01d73501d73500_01d74f01d74f00_01d76f01d76f00_01d78901d78900_01d7a901d7a900_01d7c301d7c300,
    0x01eef001eef100]

def patternWhiteSpace : Spread where
  names := ["patws", "patternwhitespace"]
  categories := [.lineSeparator, .paragraphSeparator]
  added := [
    0x00000900000d00_00002000002000_00008500008500_00200e00200f00]
  removed := []

def prependedConcatenationMark : Spread where
  names := ["pcm", "prependedconcatenationmark"]
  categories := []
  added := [
    0x00060000060500_0006dd0006dd00_00070f00070f00_00089000089100_0008e20008e200_0110bd0110bd00,
    0x0110cd0110cd00]
  removed := []

def quotationMark : Spread where
  names := ["qmark", "quotationmark"]
  categories := []
  added := [
    0x00002200002200_00002700002700_0000ab0000ab00_0000bb0000bb00_00201800201f00_00203900203a00,
    0x002e42002e4200_00300c00300f00_00301d00301f00_00fe4100fe4400_00ff0200ff0200_00ff0700ff0700,
    0x00ff6200ff6300]
  removed := []

def radical : Spread where
  names := ["radical"]
  categories := []
  added := [
    0x002e80002e9900_002e9b002ef300_002f00002fd500]
  removed := []

def regionalIndicator : Spread where
  names := ["ri", "regionalindicator"]
  categories := []
  added := [
    0x01f1e601f1ff00]
  removed := []

def sentenceTerminal : Spread where
  names := ["sterm", "sentenceterminal"]
  categories := []
  added := [
    0x00002100002100_00002e00002e00_00003f00003f00_00058900058900_00061d00061f00_0006d40006d400,
    0x00070000070200_0007f90007f900_00083700083700_00083900083900_00083d00083e00_00096400096500,
    0x00104a00104b00_00136200136200_00136700136800_00166e00166e00_00173500173600_0017d40017d500,
    0x00180300180300_00180900180900_00194400194500_001aa8001aab00_001b4e001b4f00_001b5a001b5b00,
    0x001b5e001b5f00_001b7d001b7f00_001c3b001c3c00_001c7e001c7f00_00202400202400_00203c00203d00,
    0x00204700204900_002cf9002cfb00_002e2e002e2e00_002e3c002e3c00_002e53002e5400_00300200300200,
    0x00a4ff00a4ff00_00a60e00a60f00_00a6f300a6f300_00a6f700a6f700_00a87600a87700_00a8ce00a8cf00,
    0x00a92f00a92f00_00a9c800a9c900_00aa5d00aa5f00_00aaf000aaf100_00abeb00abeb00_00fe1200fe1200,
    0x00fe1500fe1600_00fe5200fe5200_00fe5600fe5700_00ff0100ff0100_00ff0e00ff0e00_00ff1f00ff1f00,
    0x00ff6100ff6100_010a56010a5700_010f55010f5900_010f86010f8900_01104701104800_0110be0110c100,
    0x01114101114300_0111c50111c600_0111cd0111cd00_0111de0111df00_01123801123900_01123b01123c00,
    0x0112a90112a900_0113d40113d500_01144b01144c00_0115c20115c300_0115c90115d700_01164101164200,
    0x01173c01173e00_01194401194400_01194601194600_011a42011a4300_011a9b011a9c00_011c41011c4200,
    0x011ef7011ef800_011f43011f4400_016a6e016a6f00_016af5016af500_016b37016b3800_016b44016b4400,
    0x016d6e016d6f00_016e98016e9800_01bc9f01bc9f00_01da8801da8800]
  removed := []

def softDotted : Spread where
  names := ["sd", "softdotted"]
  categories := []
  added := [
    0x00006900006a00_00012f00012f00_00024900024900_00026800026800_00029d00029d00_0002b20002b200,
    0x0003f30003f300_00045600045600_00045800045800_001d62001d6200_001d96001d9600_001da4001da400,
    0x001da8001da800_001e2d001e2d00_001ecb001ecb00_00207100207100_00214800214900_002c7c002c7c00,
    0x01d42201d42300_01d45601d45700_01d48a01d48b00_01d4be01d4bf00_01d4f201d4f300_01d52601d52700,
    0x01d55a01d55b00_01d58e01d58f00_01d5c201d5c300_01d5f601d5f700_01d62a01d62b00_01d65e01d65f00,
    0x01d69201d69300_01df1a01df1a00_01e04c01e04d00_01e06801e06800]
  removed := []

def terminalPunctuation : Spread where
  names := ["term", "terminalpunctuation"]
  categories := []
  added := [
    0x00002100002100_00002c00002c00_00002e00002e00_00003a00003b00_00003f00003f00_00037e00037e00,
    0x00038700038700_00058900058900_0005c30005c300_00060c00060c00_00061b00061b00_00061d00061f00,
    0x0006d40006d400_00070000070a00_00070c00070c00_0007f80007f900_00083000083500_00083700083e00,
    0x00085e00085e00_00096400096500_000e5a000e5b00_000f08000f0800_000f0d000f1200_00104a00104b00,
    0x00136100136800_00166e00166e00_0016eb0016ed00_00173500173600_0017d40017d600_0017da0017da00,
    0x00180200180500_00180800180900_00194400194500_001aa8001aab00_001b4e001b4f00_001b5a001b5b00,
    0x001b5d001b5f00_001b7d001b7f00_001c3b001c3f00_001c7e001c7f00_00202400202400_00203c00203d00,
    0x00204700204900_002cf9002cfb00_002e2e002e2e00_002e3c002e3c00_002e41002e4100_002e4c002e4c00,
    0x002e4e002e4f00_002e53002e5400_00300100300200_00a4fe00a4ff00_00a60d00a60f00_00a6f300a6f700,
    0x00a87600a87700_00a8ce00a8cf00_00a92f00a92f00_00a9c700a9c900_00aa5d00aa5f00_00aadf00aadf00,
    0x00aaf000aaf100_00abeb00abeb00_00fe1200fe1200_00fe1500fe1600_00fe5000fe5200_00fe5400fe5700,
    0x00ff0100ff0100_00ff0c00ff0c00_00ff0e00ff0e00_00ff1a00ff1b00_00ff1f00ff1f00_00ff6100ff6100,
    0x00ff6400ff6400_01039f01039f00_0103d00103d000_01085701085700_01091f01091f00_010a56010a5700,
    0x010af0010af500_010b3a010b3f00_010b99010b9c00_010f55010f5900_010f86010f8900_01104701104d00,
    0x0110be0110c100_01114101114300_0111c50111c600_0111cd0111cd00_0111de0111df00_01123801123c00,
    0x0112a90112a900_0113d40113d500_01144b01144d00_01145a01145b00_0115c20115c500_0115c90115d700,
    0x01164101164200_01173c01173e00_01194401194400_01194601194600_011a42011a4300_011a9b011a9c00,
    0x011aa1011aa200_011c41011c4300_011c71011c7100_011ef7011ef800_011f43011f4400_01247001247400,
    0x016a6e016a6f00_016af5016af500_016b37016b3900_016b44016b4400_016d6e016d6f00_016e97016e9800,
    0x01bc9f01bc9f00_01da8701da8a00]
  removed := []

def unifiedIdeograph : Spread where
  names := ["uideo", "unifiedideograph"]
  categories := []
  added := [
    0x003400004dbf00_004e00009fff00_00fa0e00fa0f00_00fa1100fa1100_00fa1300fa1400_00fa1f00fa1f00,
    0x00fa2100fa2100_00fa2300fa2400_00fa2700fa2900_02000002a6df00_02a70002b73900_02b74002b81d00,
    0x02b82002cea100_02ceb002ebe000_02ebf002ee5d00_03000003134a00_0313500323af00]
  removed := []

def uppercase : Spread where
  names := ["upper", "uppercase"]
  categories := [.upper]
  added := [
    0x00216000216f00_0024b60024cf00_01f13001f14900_01f15001f16900_01f17001f18900]
  removed := []

def variationSelector : Spread where
  names := ["vs", "variationselector"]
  categories := []
  added := [
    0x00180b00180d00_00180f00180f00_00fe0000fe0f00_0e01000e01ef00]
  removed := []

def whiteSpace : Spread where
  names := ["space", "wspace", "whitespace"]
  categories := [.spaceSeparator, .lineSeparator, .paragraphSeparator]
  added := [
    0x00000900000d00_00008500008500]
  removed := []

def xidContinue : Spread where
  names := ["xidc", "xidcontinue"]
  categories := [.upper, .lower, .title, .modifierLetter, .otherLetter, .nonspacingMark, .spacingMark,
    .decimalNumber, .letterNumber, .connectorPunctuation]
  added := [
    0x0000b70000b700_00038700038700_00136900137100_0019da0019da00_00200c00200d00_00211800211800,
    0x00212e00212e00_0030fb0030fb00_00ff6500ff6500]
  removed := [
    0x00037a00037a00_002e2f002e2f00_00fc5e00fc6300_00fdfa00fdfb00_00fe7000fe7000_00fe7200fe7200,
    0x00fe7400fe7400_00fe7600fe7600_00fe7800fe7800_00fe7a00fe7a00_00fe7c00fe7c00_00fe7e00fe7e00]

def xidStart : Spread where
  names := ["xids", "xidstart"]
  categories := [.upper, .lower, .title, .modifierLetter, .otherLetter, .letterNumber]
  added := [
    0x00188500188600_00211800211800_00212e00212e00]
  removed := [
    0x00037a00037a00_000e33000e3300_000eb3000eb300_002e2f002e2f00_00fc5e00fc6300_00fdfa00fdfb00,
    0x00fe7000fe7000_00fe7200fe7200_00fe7400fe7400_00fe7600fe7600_00fe7800fe7800_00fe7a00fe7a00,
    0x00fe7c00fe7c00_00fe7e00fe7e00_00ff9e00ff9f00]

def properties : List Spread := [
  asciiHexDigit, alphabetic, bidiControl, bidiMirrored, caseIgnorable, cased,
  changesWhenCasefolded, changesWhenCasemapped, changesWhenLowercased, changesWhenTitlecased,
  changesWhenUppercased, dash, defaultIgnorableCodePoint, discouraged, diacritic, emoji,
  emojiComponent, emojiModifier, emojiModifierBase, emojiPresentation, extendedPictographic,
  extender, graphemeBase, graphemeExtend, graphemeLink, hexDigit, hyphen, idsBinaryOperator,
  idsTrinaryOperator, idsUnaryOperator, idCompatMathContinue, idCompatMathStart, idContinue,
  idStart, ideographic, joinControl, logicalOrderException, lowercase, math, modifierCombiningMark,
  noncharacterCodePoint, otherAlphabetic, otherDefaultIgnorableCodePoint, otherGraphemeExtend,
  otherIdContinue, otherIdStart, otherLowercase, otherMath, otherUppercase, patternSyntax,
  patternWhiteSpace, prependedConcatenationMark, quotationMark, radical, regionalIndicator,
  sentenceTerminal, softDotted, terminalPunctuation, unifiedIdeograph, uppercase,
  variationSelector, whiteSpace, xidContinue, xidStart]

end CorpusSearch.Unicode.Table
