/-!
Names of the scripts, and the scripts and script extensions of code points.
-/

set_option autoImplicit false

namespace CorpusSearch.Unicode.Table

/-- The names of each script in lower case without separators, all names of one script in one list. -/
def scriptNames : List (List String) := [
  ["adlm", "adlam"],
  ["ahom"],
  ["hluw", "anatolianhieroglyphs"],
  ["arab", "arabic"],
  ["armn", "armenian"],
  ["avst", "avestan"],
  ["bali", "balinese"],
  ["bamu", "bamum"],
  ["bass", "bassavah"],
  ["batk", "batak"],
  ["beng", "bengali"],
  ["bhks", "bhaiksuki"],
  ["bopo", "bopomofo"],
  ["brah", "brahmi"],
  ["brai", "braille"],
  ["bugi", "buginese"],
  ["buhd", "buhid"],
  ["cans", "canadianaboriginal"],
  ["cari", "carian"],
  ["aghb", "caucasianalbanian"],
  ["cakm", "chakma"],
  ["cham"],
  ["cher", "cherokee"],
  ["chrs", "chorasmian"],
  ["zyyy", "common"],
  ["copt", "qaac", "coptic"],
  ["xsux", "cuneiform"],
  ["cprt", "cypriot"],
  ["cpmn", "cyprominoan"],
  ["cyrl", "cyrillic"],
  ["dsrt", "deseret"],
  ["deva", "devanagari"],
  ["diak", "divesakuru"],
  ["dogr", "dogra"],
  ["dupl", "duployan"],
  ["egyp", "egyptianhieroglyphs"],
  ["elba", "elbasan"],
  ["elym", "elymaic"],
  ["ethi", "ethiopic"],
  ["gara", "garay"],
  ["geor", "georgian"],
  ["glag", "glagolitic"],
  ["goth", "gothic"],
  ["gran", "grantha"],
  ["grek", "greek"],
  ["gujr", "gujarati"],
  ["gong", "gunjalagondi"],
  ["guru", "gurmukhi"],
  ["gukh", "gurungkhema"],
  ["hani", "han"],
  ["hang", "hangul"],
  ["rohg", "hanifirohingya"],
  ["hano", "hanunoo"],
  ["hatr", "hatran"],
  ["hebr", "hebrew"],
  ["hira", "hiragana"],
  ["armi", "imperialaramaic"],
  ["qaai", "zinh", "inherited"],
  ["phli", "inscriptionalpahlavi"],
  ["prti", "inscriptionalparthian"],
  ["java", "javanese"],
  ["kthi", "kaithi"],
  ["knda", "kannada"],
  ["kana", "katakana"],
  ["kawi"],
  ["kali", "kayahli"],
  ["khar", "kharoshthi"],
  ["kits", "khitansmallscript"],
  ["khmr", "khmer"],
  ["khoj", "khojki"],
  ["sind", "khudawadi"],
  ["krai", "kiratrai"],
  ["laoo", "lao"],
  ["latn", "latin"],
  ["lepc", "lepcha"],
  ["limb", "limbu"],
  ["lina", "lineara"],
  ["linb", "linearb"],
  ["lisu"],
  ["lyci", "lycian"],
  ["lydi", "lydian"],
  ["mahj", "mahajani"],
  ["maka", "makasar"],
  ["mlym", "malayalam"],
  ["mand", "mandaic"],
  ["mani", "manichaean"],
  ["marc", "marchen"],
  ["gonm", "masaramgondi"],
  ["medf", "medefaidrin"],
  ["mtei", "meeteimayek"],
  ["mend", "mendekikakui"],
  ["merc", "meroiticcursive"],
  ["mero", "meroitichieroglyphs"],
  ["plrd", "miao"],
  ["modi"],
  ["mong", "mongolian"],
  ["mroo", "mro"],
  ["mult", "multani"],
  ["mymr", "myanmar"],
  ["nbat", "nabataean"],
  ["nagm", "nagmundari"],
  ["nand", "nandinagari"],
  ["talu", "newtailue"],
  ["newa"],
  ["nkoo", "nko"],
  ["nshu", "nushu"],
  ["hmnp", "nyiakengpuachuehmong"],
  ["ogam", "ogham"],
  ["olck", "olchiki"],
  ["onao", "olonal"],
  ["hung", "oldhungarian"],
  ["ital", "olditalic"],
  ["narb", "oldnortharabian"],
  ["perm", "oldpermic"],
  ["xpeo", "oldpersian"],
  ["sogo", "oldsogdian"],
  ["sarb", "oldsoutharabian"],
  ["orkh", "oldturkic"],
  ["ougr", "olduyghur"],
  ["orya", "oriya"],
  ["osge", "osage"],
  ["osma", "osmanya"],
  ["hmng", "pahawhhmong"],
  ["palm", "palmyrene"],
  ["pauc", "paucinhau"],
  ["phag", "phagspa"],
  ["phnx", "phoenician"],
  ["phlp", "psalterpahlavi"],
  ["rjng", "rejang"],
  ["runr", "runic"],
  ["samr", "samaritan"],
  ["saur", "saurashtra"],
  ["shrd", "sharada"],
  ["shaw", "shavian"],
  ["sidd", "siddham"],
  ["sgnw", "signwriting"],
  ["sinh", "sinhala"],
  ["sogd", "sogdian"],
  ["sora", "sorasompeng"],
  ["soyo", "soyombo"],
  ["sund", "sundanese"],
  ["sunu", "sunuwar"],
  ["sylo", "sylotinagri"],
  ["syrc", "syriac"],
  ["tglg", "tagalog"],
  ["tagb", "tagbanwa"],
  ["tale", "taile"],
  ["lana", "taitham"],
  ["tavt", "taiviet"],
  ["takr", "takri"],
  ["taml", "tamil"],
  ["tnsa", "tangsa"],
  ["tang", "tangut"],
  ["telu", "telugu"],
  ["thaa", "thaana"],
  ["thai"],
  ["tibt", "tibetan"],
  ["tfng", "tifinagh"],
  ["tirh", "tirhuta"],
  ["todr", "todhri"],
  ["toto"],
  ["tutg", "tulutigalari"],
  ["ugar", "ugaritic"],
  ["vaii", "vai"],
  ["vith", "vithkuqi"],
  ["wcho", "wancho"],
  ["wara", "warangciti"],
  ["yezi", "yezidi"],
  ["yiii", "yi"],
  ["zanb", "zanabazarsquare"]]

/--
Scripts. A record is fourteen hexadecimal digits: first code point (6), last code point (6), position of the
script in the list of names (2).
-/
def script : List Nat := [
  0x00000000004018_00004100005a49_00005b00006018_00006100007a49_00007b0000a918_0000aa0000aa49,
  0x0000ab0000b918_0000ba0000ba49_0000bb0000bf18_0000c00000d649_0000d70000d718_0000d80000f649,
  0x0000f70000f718_0000f80002b849_0002b90002df18_0002e00002e449_0002e50002e918_0002ea0002eb0c,
  0x0002ec0002ff18_00030000036f39_0003700003732c_00037400037418_0003750003772c_00037a00037d2c,
  0x00037e00037e18_00037f00037f2c_0003840003842c_00038500038518_0003860003862c_00038700038718,
  0x00038800038a2c_00038c00038c2c_00038e0003a12c_0003a30003e12c_0003e20003ef19_0003f00003ff2c,
  0x0004000004841d_00048500048639_00048700052f1d_00053100055604_00055900058a04_00058d00058f04,
  0x0005910005c736_0005d00005ea36_0005ef0005f436_00060000060403_00060500060518_00060600060b03,
  0x00060c00060c18_00060d00061a03_00061b00061b18_00061c00061e03_00061f00061f18_00062000063f03,
  0x00064000064018_00064100064a03_00064b00065539_00065600066f03_00067000067039_0006710006dc03,
  0x0006dd0006dd18_0006de0006ff03_00070000070d8f_00070f00074a8f_00074d00074f8f_00075000077f03,
  0x0007800007b19a_0007c00007fa68_0007fd0007ff68_00080000082d82_00083000083e82_00084000085b54,
  0x00085e00085e54_00086000086a8f_00087000088e03_00089000089103_0008970008e103_0008e20008e218,
  0x0008e30008ff03_0009000009501f_00095100095439_0009550009631f_00096400096518_00096600097f1f,
  0x0009800009830a_00098500098c0a_00098f0009900a_0009930009a80a_0009aa0009b00a_0009b20009b20a,
  0x0009b60009b90a_0009bc0009c40a_0009c70009c80a_0009cb0009ce0a_0009d70009d70a_0009dc0009dd0a,
  0x0009df0009e30a_0009e60009fe0a_000a01000a032f_000a05000a0a2f_000a0f000a102f_000a13000a282f,
  0x000a2a000a302f_000a32000a332f_000a35000a362f_000a38000a392f_000a3c000a3c2f_000a3e000a422f,
  0x000a47000a482f_000a4b000a4d2f_000a51000a512f_000a59000a5c2f_000a5e000a5e2f_000a66000a762f,
  0x000a81000a832d_000a85000a8d2d_000a8f000a912d_000a93000aa82d_000aaa000ab02d_000ab2000ab32d,
  0x000ab5000ab92d_000abc000ac52d_000ac7000ac92d_000acb000acd2d_000ad0000ad02d_000ae0000ae32d,
  0x000ae6000af12d_000af9000aff2d_000b01000b0377_000b05000b0c77_000b0f000b1077_000b13000b2877,
  0x000b2a000b3077_000b32000b3377_000b35000b3977_000b3c000b4477_000b47000b4877_000b4b000b4d77,
  0x000b55000b5777_000b5c000b5d77_000b5f000b6377_000b66000b7777_000b82000b8396_000b85000b8a96,
  0x000b8e000b9096_000b92000b9596_000b99000b9a96_000b9c000b9c96_000b9e000b9f96_000ba3000ba496,
  0x000ba8000baa96_000bae000bb996_000bbe000bc296_000bc6000bc896_000bca000bcd96_000bd0000bd096,
  0x000bd7000bd796_000be6000bfa96_000c00000c0c99_000c0e000c1099_000c12000c2899_000c2a000c3999,
  0x000c3c000c4499_000c46000c4899_000c4a000c4d99_000c55000c5699_000c58000c5a99_000c5d000c5d99,
  0x000c60000c6399_000c66000c6f99_000c77000c7f99_000c80000c8c3e_000c8e000c903e_000c92000ca83e,
  0x000caa000cb33e_000cb5000cb93e_000cbc000cc43e_000cc6000cc83e_000cca000ccd3e_000cd5000cd63e,
  0x000cdd000cde3e_000ce0000ce33e_000ce6000cef3e_000cf1000cf33e_000d00000d0c53_000d0e000d1053,
  0x000d12000d4453_000d46000d4853_000d4a000d4f53_000d54000d6353_000d66000d7f53_000d81000d8388,
  0x000d85000d9688_000d9a000db188_000db3000dbb88_000dbd000dbd88_000dc0000dc688_000dca000dca88,
  0x000dcf000dd488_000dd6000dd688_000dd8000ddf88_000de6000def88_000df2000df488_000e01000e3a9b,
  0x000e3f000e3f18_000e40000e5b9b_000e81000e8248_000e84000e8448_000e86000e8a48_000e8c000ea348,
  0x000ea5000ea548_000ea7000ebd48_000ec0000ec448_000ec6000ec648_000ec8000ece48_000ed0000ed948,
  0x000edc000edf48_000f00000f479c_000f49000f6c9c_000f71000f979c_000f99000fbc9c_000fbe000fcc9c,
  0x000fce000fd49c_000fd5000fd818_000fd9000fda9c_00100000109f62_0010a00010c528_0010c70010c728,
  0x0010cd0010cd28_0010d00010fa28_0010fb0010fb18_0010fc0010ff28_0011000011ff32_00120000124826,
  0x00124a00124d26_00125000125626_00125800125826_00125a00125d26_00126000128826_00128a00128d26,
  0x0012900012b026_0012b20012b526_0012b80012be26_0012c00012c026_0012c20012c526_0012c80012d626,
  0x0012d800131026_00131200131526_00131800135a26_00135d00137c26_00138000139926_0013a00013f516,
  0x0013f80013fd16_00140000167f11_00168000169c6b_0016a00016ea81_0016eb0016ed18_0016ee0016f881,
  0x00170000171590_00171f00171f90_00172000173434_00173500173618_00174000175310_00176000176c91,
  0x00176e00177091_00177200177391_0017800017dd44_0017e00017e944_0017f00017f944_0018000018015f,
  0x00180200180318_0018040018045f_00180500180518_0018060018195f_0018200018785f_0018800018aa5f,
  0x0018b00018f511_00190000191e4b_00192000192b4b_00193000193b4b_0019400019404b_00194400194f4b,
  0x00195000196d92_00197000197492_0019800019ab66_0019b00019c966_0019d00019da66_0019de0019df66,
  0x0019e00019ff44_001a00001a1b0f_001a1e001a1f0f_001a20001a5e93_001a60001a7c93_001a7f001a8993,
  0x001a90001a9993_001aa0001aad93_001ab0001ace39_001b00001b4c06_001b4e001b7f06_001b80001bbf8c,
  0x001bc0001bf309_001bfc001bff09_001c00001c374a_001c3b001c494a_001c4d001c4f4a_001c50001c7f6c,
  0x001c80001c8a1d_001c90001cba28_001cbd001cbf28_001cc0001cc78c_001cd0001cd239_001cd3001cd318,
  0x001cd4001ce039_001ce1001ce118_001ce2001ce839_001ce9001cec18_001ced001ced39_001cee001cf318,
  0x001cf4001cf439_001cf5001cf718_001cf8001cf939_001cfa001cfa18_001d00001d2549_001d26001d2a2c,
  0x001d2b001d2b1d_001d2c001d5c49_001d5d001d612c_001d62001d6549_001d66001d6a2c_001d6b001d7749,
  0x001d78001d781d_001d79001dbe49_001dbf001dbf2c_001dc0001dff39_001e00001eff49_001f00001f152c,
  0x001f18001f1d2c_001f20001f452c_001f48001f4d2c_001f50001f572c_001f59001f592c_001f5b001f5b2c,
  0x001f5d001f5d2c_001f5f001f7d2c_001f80001fb42c_001fb6001fc42c_001fc6001fd32c_001fd6001fdb2c,
  0x001fdd001fef2c_001ff2001ff42c_001ff6001ffe2c_00200000200b18_00200c00200d39_00200e00206418,
  0x00206600207018_00207100207149_00207400207e18_00207f00207f49_00208000208e18_00209000209c49,
  0x0020a00020c018_0020d00020f039_00210000212518_0021260021262c_00212700212918_00212a00212b49,
  0x00212c00213118_00213200213249_00213300214d18_00214e00214e49_00214f00215f18_00216000218849,
  0x00218900218b18_00219000242918_00244000244a18_0024600027ff18_0028000028ff0e_002900002b7318,
  0x002b76002b9518_002b97002bff18_002c00002c5f29_002c60002c7f49_002c80002cf319_002cf9002cff19,
  0x002d00002d2528_002d27002d2728_002d2d002d2d28_002d30002d679d_002d6f002d709d_002d7f002d7f9d,
  0x002d80002d9626_002da0002da626_002da8002dae26_002db0002db626_002db8002dbe26_002dc0002dc626,
  0x002dc8002dce26_002dd0002dd626_002dd8002dde26_002de0002dff1d_002e00002e5d18_002e80002e9931,
  0x002e9b002ef331_002f00002fd531_002ff000300418_00300500300531_00300600300618_00300700300731,
  0x00300800302018_00302100302931_00302a00302d39_00302e00302f32_00303000303718_00303800303b31,
  0x00303c00303f18_00304100309637_00309900309a39_00309b00309c18_00309d00309f37_0030a00030a018,
  0x0030a10030fa3f_0030fb0030fc18_0030fd0030ff3f_00310500312f0c_00313100318e32_00319000319f18,
  0x0031a00031bf0c_0031c00031e518_0031ef0031ef18_0031f00031ff3f_00320000321e32_00322000325f18,
  0x00326000327e32_00327f0032cf18_0032d00032fe3f_0032ff0032ff18_0033000033573f_0033580033ff18,
  0x003400004dbf31_004dc0004dff18_004e00009fff31_00a00000a48ca8_00a49000a4c6a8_00a4d000a4ff4e,
  0x00a50000a62ba3_00a64000a69f1d_00a6a000a6f707_00a70000a72118_00a72200a78749_00a78800a78a18,
  0x00a78b00a7cd49_00a7d000a7d149_00a7d300a7d349_00a7d500a7dc49_00a7f200a7ff49_00a80000a82c8e,
  0x00a83000a83918_00a84000a8777d_00a88000a8c583_00a8ce00a8d983_00a8e000a8ff1f_00a90000a92d41,
  0x00a92e00a92e18_00a92f00a92f41_00a93000a95380_00a95f00a95f80_00a96000a97c32_00a98000a9cd3c,
  0x00a9cf00a9cf18_00a9d000a9d93c_00a9de00a9df3c_00a9e000a9fe62_00aa0000aa3615_00aa4000aa4d15,
  0x00aa5000aa5915_00aa5c00aa5f15_00aa6000aa7f62_00aa8000aac294_00aadb00aadf94_00aae000aaf659,
  0x00ab0100ab0626_00ab0900ab0e26_00ab1100ab1626_00ab2000ab2626_00ab2800ab2e26_00ab3000ab5a49,
  0x00ab5b00ab5b18_00ab5c00ab6449_00ab6500ab652c_00ab6600ab6949_00ab6a00ab6b18_00ab7000abbf16,
  0x00abc000abed59_00abf000abf959_00ac0000d7a332_00d7b000d7c632_00d7cb00d7fb32_00f90000fa6d31,
  0x00fa7000fad931_00fb0000fb0649_00fb1300fb1704_00fb1d00fb3636_00fb3800fb3c36_00fb3e00fb3e36,
  0x00fb4000fb4136_00fb4300fb4436_00fb4600fb4f36_00fb5000fbc203_00fbd300fd3d03_00fd3e00fd3f18,
  0x00fd4000fd8f03_00fd9200fdc703_00fdcf00fdcf03_00fdf000fdff03_00fe0000fe0f39_00fe1000fe1918,
  0x00fe2000fe2d39_00fe2e00fe2f1d_00fe3000fe5218_00fe5400fe6618_00fe6800fe6b18_00fe7000fe7403,
  0x00fe7600fefc03_00feff00feff18_00ff0100ff2018_00ff2100ff3a49_00ff3b00ff4018_00ff4100ff5a49,
  0x00ff5b00ff6518_00ff6600ff6f3f_00ff7000ff7018_00ff7100ff9d3f_00ff9e00ff9f18_00ffa000ffbe32,
  0x00ffc200ffc732_00ffca00ffcf32_00ffd200ffd732_00ffda00ffdc32_00ffe000ffe618_00ffe800ffee18,
  0x00fff900fffd18_01000001000b4d_01000d0100264d_01002801003a4d_01003c01003d4d_01003f01004d4d,
  0x01005001005d4d_0100800100fa4d_01010001010218_01010701013318_01013701013f18_01014001018e2c,
  0x01019001019c18_0101a00101a02c_0101d00101fc18_0101fd0101fd39_01028001029c4f_0102a00102d012,
  0x0102e00102e039_0102e10102fb18_0103000103236f_01032d01032f6f_01033001034a2a_01035001037a71,
  0x01038001039da2_01039f01039fa2_0103a00103c372_0103c80103d572_01040001044f1e_01045001047f85,
  0x01048001049d79_0104a00104a979_0104b00104d378_0104d80104fb78_01050001052724_01053001056313,
  0x01056f01056f13_01057001057aa4_01057c01058aa4_01058c010592a4_010594010595a4_0105970105a1a4,
  0x0105a30105b1a4_0105b30105b9a4_0105bb0105bca4_0105c00105f39f_0106000107364c_0107400107554c,
  0x0107600107674c_01078001078549_0107870107b049_0107b20107ba49_0108000108051b_0108080108081b,
  0x01080a0108351b_0108370108381b_01083c01083c1b_01083f01083f1b_01084001085538_01085701085f38,
  0x01086001087f7b_01088001089e63_0108a70108af63_0108e00108f235_0108f40108f535_0108fb0108ff35,
  0x01090001091b7e_01091f01091f7e_01092001093950_01093f01093f50_01098001099f5c_0109a00109b75b,
  0x0109bc0109cf5b_0109d20109ff5b_010a00010a0342_010a05010a0642_010a0c010a1342_010a15010a1742,
  0x010a19010a3542_010a38010a3a42_010a3f010a4842_010a50010a5842_010a60010a7f74_010a80010a9f70,
  0x010ac0010ae655_010aeb010af655_010b00010b3505_010b39010b3f05_010b40010b553b_010b58010b5f3b,
  0x010b60010b723a_010b78010b7f3a_010b80010b917f_010b99010b9c7f_010ba9010baf7f_010c00010c4875,
  0x010c80010cb26e_010cc0010cf26e_010cfa010cff6e_010d00010d2733_010d30010d3933_010d40010d6527,
  0x010d69010d8527_010d8e010d8f27_010e60010e7e03_010e80010ea9a7_010eab010eada7_010eb0010eb1a7,
  0x010ec2010ec403_010efc010eff03_010f00010f2773_010f30010f5989_010f70010f8976_010fb0010fcb17,
  0x010fe0010ff625_01100001104d0d_0110520110750d_01107f01107f0d_0110800110c23d_0110cd0110cd3d,
  0x0110d00110e88a_0110f00110f98a_01110001113414_01113601114714_01115001117651_0111800111df84,
  0x0111e10111f488_01120001121145_01121301124145_01128001128661_01128801128861_01128a01128d61,
  0x01128f01129d61_01129f0112a961_0112b00112ea46_0112f00112f946_0113000113032b_01130501130c2b,
  0x01130f0113102b_0113130113282b_01132a0113302b_0113320113332b_0113350113392b_01133b01133b39,
  0x01133c0113442b_0113470113482b_01134b01134d2b_0113500113502b_0113570113572b_01135d0113632b,
  0x01136601136c2b_0113700113742b_011380011389a1_01138b01138ba1_01138e01138ea1_0113900113b5a1,
  0x0113b70113c0a1_0113c20113c2a1_0113c50113c5a1_0113c70113caa1_0113cc0113d5a1_0113d70113d8a1,
  0x0113e10113e2a1_01140001145b67_01145d01146167_0114800114c79e_0114d00114d99e_0115800115b586,
  0x0115b80115dd86_0116000116445e_0116500116595e_01166001166c5f_0116800116b995_0116c00116c995,
  0x0116d00116e362_01170001171a01_01171d01172b01_01173001174601_01180001183b21_0118a00118f2a6,
  0x0118ff0118ffa6_01190001190620_01190901190920_01190c01191320_01191501191620_01191801193520,
  0x01193701193820_01193b01194620_01195001195920_0119a00119a765_0119aa0119d765_0119da0119e465,
  0x011a00011a47a9_011a50011aa28b_011ab0011abf11_011ac0011af87c_011b00011b091f_011bc0011be18d,
  0x011bf0011bf98d_011c00011c080b_011c0a011c360b_011c38011c450b_011c50011c6c0b_011c70011c8f56,
  0x011c92011ca756_011ca9011cb656_011d00011d0657_011d08011d0957_011d0b011d3657_011d3a011d3a57,
  0x011d3c011d3d57_011d3f011d4757_011d50011d5957_011d60011d652e_011d67011d682e_011d6a011d8e2e,
  0x011d90011d912e_011d93011d982e_011da0011da92e_011ee0011ef852_011f00011f1040_011f12011f3a40,
  0x011f3e011f5a40_011fb0011fb04e_011fc0011ff196_011fff011fff96_0120000123991a_01240001246e1a,
  0x0124700124741a_0124800125431a_012f90012ff21c_01300001345523_0134600143fa23_01440001464602,
  0x01610001613930_016800016a3807_016a40016a5e60_016a60016a6960_016a6e016a6f60_016a70016abe97,
  0x016ac0016ac997_016ad0016aed08_016af0016af508_016b00016b457a_016b50016b597a_016b5b016b617a,
  0x016b63016b777a_016b7d016b8f7a_016d40016d7947_016e40016e9a58_016f00016f4a5d_016f4f016f875d,
  0x016f8f016f9f5d_016fe0016fe098_016fe1016fe169_016fe2016fe331_016fe4016fe443_016ff0016ff131,
  0x0170000187f798_018800018aff98_018b00018cd543_018cff018cff43_018d00018d0898_01aff001aff33f,
  0x01aff501affb3f_01affd01affe3f_01b00001b0003f_01b00101b11f37_01b12001b1223f_01b13201b13237,
  0x01b15001b15237_01b15501b1553f_01b16401b1673f_01b17001b2fb69_01bc0001bc6a22_01bc7001bc7c22,
  0x01bc8001bc8822_01bc9001bc9922_01bc9c01bc9f22_01bca001bca318_01cc0001ccf918_01cd0001ceb318,
  0x01cf0001cf2d39_01cf3001cf4639_01cf5001cfc318_01d00001d0f518_01d10001d12618_01d12901d16618,
  0x01d16701d16939_01d16a01d17a18_01d17b01d18239_01d18301d18418_01d18501d18b39_01d18c01d1a918,
  0x01d1aa01d1ad39_01d1ae01d1ea18_01d20001d2452c_01d2c001d2d318_01d2e001d2f318_01d30001d35618,
  0x01d36001d37818_01d40001d45418_01d45601d49c18_01d49e01d49f18_01d4a201d4a218_01d4a501d4a618,
  0x01d4a901d4ac18_01d4ae01d4b918_01d4bb01d4bb18_01d4bd01d4c318_01d4c501d50518_01d50701d50a18,
  0x01d50d01d51418_01d51601d51c18_01d51e01d53918_01d53b01d53e18_01d54001d54418_01d54601d54618,
  0x01d54a01d55018_01d55201d6a518_01d6a801d7cb18_01d7ce01d7ff18_01d80001da8b87_01da9b01da9f87,
  0x01daa101daaf87_01df0001df1e49_01df2501df2a49_01e00001e00629_01e00801e01829_01e01b01e02129,
  0x01e02301e02429_01e02601e02a29_01e03001e06d1d_01e08f01e08f1d_01e10001e12c6a_01e13001e13d6a,
  0x01e14001e1496a_01e14e01e14f6a_01e29001e2aea0_01e2c001e2f9a5_01e2ff01e2ffa5_01e4d001e4f964,
  0x01e5d001e5fa6d_01e5ff01e5ff6d_01e7e001e7e626_01e7e801e7eb26_01e7ed01e7ee26_01e7f001e7fe26,
  0x01e80001e8c45a_01e8c701e8d65a_01e90001e94b00_01e95001e95900_01e95e01e95f00_01ec7101ecb418,
  0x01ed0101ed3d18_01ee0001ee0303_01ee0501ee1f03_01ee2101ee2203_01ee2401ee2403_01ee2701ee2703,
  0x01ee2901ee3203_01ee3401ee3703_01ee3901ee3903_01ee3b01ee3b03_01ee4201ee4203_01ee4701ee4703,
  0x01ee4901ee4903_01ee4b01ee4b03_01ee4d01ee4f03_01ee5101ee5203_01ee5401ee5403_01ee5701ee5703,
  0x01ee5901ee5903_01ee5b01ee5b03_01ee5d01ee5d03_01ee5f01ee5f03_01ee6101ee6203_01ee6401ee6403,
  0x01ee6701ee6a03_01ee6c01ee7203_01ee7401ee7703_01ee7901ee7c03_01ee7e01ee7e03_01ee8001ee8903,
  0x01ee8b01ee9b03_01eea101eea303_01eea501eea903_01eeab01eebb03_01eef001eef103_01f00001f02b18,
  0x01f03001f09318_01f0a001f0ae18_01f0b101f0bf18_01f0c101f0cf18_01f0d101f0f518_01f10001f1ad18,
  0x01f1e601f1ff18_01f20001f20037_01f20101f20218_01f21001f23b18_01f24001f24818_01f25001f25118,
  0x01f26001f26518_01f30001f6d718_01f6dc01f6ec18_01f6f001f6fc18_01f70001f77618_01f77b01f7d918,
  0x01f7e001f7eb18_01f7f001f7f018_01f80001f80b18_01f81001f84718_01f85001f85918_01f86001f88718,
  0x01f89001f8ad18_01f8b001f8bb18_01f8c001f8c118_01f90001fa5318_01fa6001fa6d18_01fa7001fa7c18,
  0x01fa8001fa8918_01fa8f01fac618_01face01fadc18_01fadf01fae918_01faf001faf818_01fb0001fb9218,
  0x01fb9401fbf918_02000002a6df31_02a70002b73931_02b74002b81d31_02b82002cea131_02ceb002ebe031,
  0x02ebf002ee5d31_02f80002fa1d31_03000003134a31_0313500323af31_0e00010e000118_0e00200e007f18,
  0x0e01000e01ef39]

/--
Script extensions, for the code points whose extensions are not just their script; a code point has one
record for each of its extensions.
-/
def scriptExtension : List Nat := [
  0x0000b70000b705_0000b70000b712_0000b70000b719_0000b70000b722_0000b70000b724_0000b70000b728,
  0x0000b70000b729_0000b70000b72a_0000b70000b72c_0000b70000b72e_0000b70000b731_0000b70000b749,
  0x0000b70000b750_0000b70000b751_0000b70000b771_0000b70000b785_0002bc0002bc0a_0002bc0002bc1d,
  0x0002bc0002bc1f_0002bc0002bc49_0002bc0002bc4e_0002bc0002bc9b_0002bc0002bca0_0002c70002c70c,
  0x0002c70002c749_0002c90002cb0c_0002c90002cb49_0002cd0002cd49_0002cd0002cd4e_0002d70002d749,
  0x0002d70002d79b_0002d90002d90c_0002d90002d949_00030000030016_00030000030019_0003000003001d,
  0x0003000003002c_00030000030049_00030000030071_0003000003008d_00030000030092_00030100030116,
  0x0003010003011d_0003010003012c_00030100030149_00030100030178_0003010003018d_00030100030192,
  0x0003010003019f_00030200030216_0003020003021d_00030200030249_0003020003029d_00030300030329,
  0x00030300030349_0003030003038d_0003030003038f_0003030003039b_00030400030413_00030400030416,
  0x00030400030419_0003040003041d_0003040003042a_0003040003042c_00030400030449_00030400030478,
  0x0003040003048f_0003040003049d_0003040003049f_00030500030519_00030500030524_00030500030529,
  0x0003050003052a_0003050003053f_00030500030549_0003060003061d_0003060003062c_00030600030649,
  0x00030600030671_00030700030719_00030700030722_00030700030736_00030700030749_00030700030771,
  0x0003070003078f_00030700030792_0003070003079d_0003070003079f_00030800030804_0003080003081d,
  0x00030800030822_0003080003082a_0003080003082c_00030800030836_00030800030849_00030800030871,
  0x0003080003088f_00030800030892_00030900030949_0003090003099d_00030a00030a22_00030a00030a49,
  0x00030a00030a8f_00030b00030b16_00030b00030b1d_00030b00030b49_00030b00030b78_00030c00030c16,
  0x00030c00030c49_00030c00030c92_00030d00030d49_00030d00030d8d_00030e00030e26_00030e00030e49,
  0x00031000031049_0003100003108d_0003110003111d_00031100031149_0003110003119f_0003130003132c,
  0x00031300031349_00031300031371_0003130003139f_00032000032049_0003200003208f_00032300032316,
  0x00032300032322_0003230003233f_00032300032349_0003230003238f_00032400032416_00032400032422,
  0x00032400032449_0003240003248f_00032500032549_0003250003258f_00032d00032d49_00032d00032d8d,
  0x00032d00032d8f_00032e00032e49_00032e00032e8f_00033000033016_00033000033049_0003300003308f,
  0x00033100033113_00033100033116_0003310003312a_00033100033149_0003310003318d_0003310003319b,
  0x0003420003422c_0003450003452c_00035800035849_00035800035878_00035e00035e13_00035e00035e49,
  0x00035e00035e9f_00036300036f49_00037400037519_0003740003752c_0004830004831d_00048300048371,
  0x0004840004841d_00048400048429_0004850004861d_00048500048649_0004870004871d_00048700048729,
  0x00058900058904_00058900058928_00058900058929_00060c00060c03_00060c00060c27_00060c00060c33,
  0x00060c00060c68_00060c00060c8f_00060c00060c9a_00060c00060ca7_00061b00061b03_00061b00061b27,
  0x00061b00061b33_00061b00061b68_00061b00061b8f_00061b00061b9a_00061b00061ba7_00061c00061c03,
  0x00061c00061c8f_00061c00061c9a_00061f00061f00_00061f00061f03_00061f00061f27_00061f00061f33,
  0x00061f00061f68_00061f00061f8f_00061f00061f9a_00061f00061fa7_00064000064000_00064000064003,
  0x00064000064033_00064000064054_00064000064055_00064000064076_0006400006407f_00064000064089,
  0x0006400006408f_00064b00065503_00064b0006558f_00066000066903_0006600006699a_000660000669a7,
  0x00067000067003_0006700006708f_0006d40006d403_0006d40006d433_0009510009510a_0009510009511f,
  0x0009510009512b_0009510009512d_0009510009512f_0009510009513e_00095100095149_00095100095153,
  0x00095100095177_00095100095184_00095100095196_00095100095199_0009510009519e_0009520009520a,
  0x0009520009521f_0009520009522b_0009520009522d_0009520009522f_0009520009523e_00095200095249,
  0x00095200095253_00095200095277_00095200095296_00095200095299_0009520009529e_0009640009640a,
  0x0009640009641f_00096400096421_0009640009642b_0009640009642d_0009640009642e_0009640009642f,
  0x0009640009643e_00096400096446_00096400096451_00096400096453_00096400096457_00096400096465,
  0x0009640009646d_00096400096477_00096400096488_0009640009648e_00096400096495_00096400096496,
  0x00096400096499_0009640009649e_0009650009650a_0009650009651f_00096500096521_0009650009652b,
  0x0009650009652d_0009650009652e_0009650009652f_00096500096530_0009650009653e_00096500096546,
  0x0009650009654b_00096500096551_00096500096553_00096500096557_00096500096565_0009650009656d,
  0x00096500096577_00096500096588_0009650009658e_00096500096595_00096500096596_00096500096599,
  0x0009650009659e_00096600096f1f_00096600096f21_00096600096f3d_00096600096f51_0009e60009ef0a,
  0x0009e60009ef14_0009e60009ef8e_000a66000a6f2f_000a66000a6f61_000ae6000aef2d_000ae6000aef45,
  0x000be6000bf32b_000be6000bf396_000ce6000cef3e_000ce6000cef65_000ce6000cefa1_00104000104914,
  0x00104000104962_00104000104992_0010fb0010fb28_0010fb0010fb29_0010fb0010fb49_0016eb0016ed81,
  0x00173500173610_00173500173634_00173500173690_00173500173691_0018020018035f_0018020018037d,
  0x0018050018055f_0018050018057d_001cd0001cd00a_001cd0001cd01f_001cd0001cd02b_001cd0001cd03e,
  0x001cd1001cd11f_001cd2001cd20a_001cd2001cd21f_001cd2001cd22b_001cd2001cd23e_001cd3001cd31f,
  0x001cd3001cd32b_001cd3001cd33e_001cd4001cd41f_001cd5001cd60a_001cd5001cd61f_001cd7001cd71f,
  0x001cd7001cd784_001cd8001cd80a_001cd8001cd81f_001cd9001cd91f_001cd9001cd984_001cda001cda1f,
  0x001cda001cda3e_001cda001cda53_001cda001cda77_001cda001cda96_001cda001cda99_001cdb001cdb1f,
  0x001cdc001cdd1f_001cdc001cdd84_001cde001cdf1f_001ce0001ce01f_001ce0001ce084_001ce1001ce10a,
  0x001ce1001ce11f_001ce2001ce81f_001ce9001ce91f_001ce9001ce965_001cea001cea0a_001cea001cea1f,
  0x001ceb001cec1f_001ced001ced0a_001ced001ced1f_001cee001cf11f_001cf2001cf20a_001cf2001cf21f,
  0x001cf2001cf22b_001cf2001cf23e_001cf2001cf253_001cf2001cf265_001cf2001cf277_001cf2001cf288,
  0x001cf2001cf299_001cf2001cf29e_001cf2001cf2a1_001cf3001cf31f_001cf3001cf32b_001cf4001cf41f,
  0x001cf4001cf42b_001cf4001cf43e_001cf4001cf4a1_001cf5001cf60a_001cf5001cf61f_001cf7001cf70a,
  0x001cf8001cf91f_001cf8001cf92b_001cfa001cfa65_001dc0001dc12c_001df8001df81d_001df8001df849,
  0x001df8001df88f_001dfa001dfa8f_00202f00202f49_00202f00202f5f_00202f00202f7d_00204f00204f00,
  0x00204f00204f03_00205a00205a12_00205a00205a28_00205a00205a29_00205a00205a4f_00205a00205a6e,
  0x00205a00205a75_00205d00205d12_00205d00205d2c_00205d00205d5c_00205d00205d6e_0020f00020f01f,
  0x0020f00020f02b_0020f00020f049_002e17002e1719_002e17002e1749_002e30002e3005_002e30002e3075,
  0x002e31002e3105_002e31002e3112_002e31002e3128_002e31002e313d_002e31002e3150_002e31002e316e,
  0x002e31002e3182_002e3c002e3c22_002e41002e4100_002e41002e4103_002e41002e416e_002e43002e431d,
  0x002e43002e4329_002ff0002fff31_002ff0002fff98_0030010030010c_00300100300131_00300100300132,
  0x00300100300137_0030010030013f_0030010030015f_003001003001a8_0030020030020c_00300200300231,
  0x00300200300232_00300200300237_0030020030023f_0030020030025f_0030020030027d_003002003002a8,
  0x0030030030030c_00300300300331_00300300300332_00300300300337_0030030030033f_00300600300631,
  0x0030080030090c_00300800300931_00300800300932_00300800300937_0030080030093f_0030080030095f,
  0x0030080030099c_003008003009a8_00300a00300b0c_00300a00300b31_00300a00300b32_00300a00300b37,
  0x00300a00300b3f_00300a00300b4e_00300a00300b5f_00300a00300b9c_00300a00300ba8_00300c0030110c,
  0x00300c00301131_00300c00301132_00300c00301137_00300c0030113f_00300c003011a8_0030130030130c,
  0x00301300301331_00301300301332_00301300301337_0030130030133f_00301400301b0c_00301400301b31,
  0x00301400301b32_00301400301b37_00301400301b3f_00301400301ba8_00301c00301f0c_00301c00301f31,
  0x00301c00301f32_00301c00301f37_00301c00301f3f_00302a00302d0c_00302a00302d31_0030300030300c,
  0x00303000303031_00303000303032_00303000303037_0030300030303f_00303100303537_0030310030353f,
  0x0030370030370c_00303700303731_00303700303732_00303700303737_0030370030373f_00303c00303d31,
  0x00303c00303d37_00303c00303d3f_00303e00303f31_00309900309c37_00309900309c3f_0030a00030a037,
  0x0030a00030a03f_0030fb0030fb0c_0030fb0030fb31_0030fb0030fb32_0030fb0030fb37_0030fb0030fb3f,
  0x0030fb0030fba8_0030fc0030fc37_0030fc0030fc3f_00319000319f31_0031c00031e531_0031ef0031ef31,
  0x0031ef0031ef98_00322000324731_0032800032b031_0032c00032cb31_0032ff0032ff31_00335800337031,
  0x00337b00337f31_0033e00033fe31_00a66f00a66f1d_00a66f00a66f29_00a70000a70731_00a70000a70749,
  0x00a83000a8321f_00a83000a83221_00a83000a8322d_00a83000a8322f_00a83000a8323d_00a83000a8323e,
  0x00a83000a83245_00a83000a83246_00a83000a83251_00a83000a83253_00a83000a8325e_00a83000a83265,
  0x00a83000a83284_00a83000a83295_00a83000a8329e_00a83000a832a1_00a83300a8351f_00a83300a83521,
  0x00a83300a8352d_00a83300a8352f_00a83300a8353d_00a83300a8353e_00a83300a83545_00a83300a83546,
  0x00a83300a83551_00a83300a8355e_00a83300a83565_00a83300a83584_00a83300a83595_00a83300a8359e,
  0x00a83300a835a1_00a83600a8371f_00a83600a83721_00a83600a8372d_00a83600a8372f_00a83600a8373d,
  0x00a83600a83745_00a83600a83746_00a83600a83751_00a83600a8375e_00a83600a83795_00a83600a8379e,
  0x00a83800a8381f_00a83800a83821_00a83800a8382d_00a83800a8382f_00a83800a8383d_00a83800a83845,
  0x00a83800a83846_00a83800a83851_00a83800a8385e_00a83800a83884_00a83800a83895_00a83800a8389e,
  0x00a83900a8391f_00a83900a83921_00a83900a8392d_00a83900a8392f_00a83900a8393d_00a83900a83945,
  0x00a83900a83946_00a83900a83951_00a83900a8395e_00a83900a83995_00a83900a8399e_00a8f100a8f10a,
  0x00a8f100a8f11f_00a8f100a8f1a1_00a8f300a8f31f_00a8f300a8f396_00a92e00a92e41_00a92e00a92e49,
  0x00a92e00a92e62_00a9cf00a9cf0f_00a9cf00a9cf3c_00fd3e00fd3f03_00fd3e00fd3f68_00fdf200fdf203,
  0x00fdf200fdf29a_00fdfd00fdfd03_00fdfd00fdfd9a_00fe4500fe460c_00fe4500fe4631_00fe4500fe4632,
  0x00fe4500fe4637_00fe4500fe463f_00ff6100ff650c_00ff6100ff6531_00ff6100ff6532_00ff6100ff6537,
  0x00ff6100ff653f_00ff6100ff65a8_00ff7000ff7037_00ff7000ff703f_00ff9e00ff9f37_00ff9e00ff9f3f,
  0x0101000101011b_0101000101011c_0101000101014d_0101020101021b_0101020101024d_0101070101331b,
  0x0101070101334c_0101070101334d_01013701013f1b_01013701013f4d_0102e00102fb03_0102e00102fb19,
  0x010af2010af255_010af2010af276_0113010113012b_01130101130196_0113030113032b_01130301130396,
  0x01133b01133c2b_01133b01133c96_011fd0011fd12b_011fd0011fd196_011fd3011fd32b_011fd3011fd396,
  0x01bca001bca322_01d36001d37131_01f25001f25131]

end CorpusSearch.Unicode.Table
