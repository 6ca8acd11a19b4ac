/-!
The versions in which code points were assigned.
-/

set_option autoImplicit false

namespace CorpusSearch.Unicode.Table

/-- The names of the versions of the standard, from the oldest to the newest. -/
def ageNames : List (List String) := [
  ["1.1", "v11"],
  ["2.0", "v20"],
  ["2.1", "v21"],
  ["3.0", "v30"],
  ["3.1", "v31"],
  ["3.2", "v32"],
  ["4.0", "v40"],
  ["4.1", "v41"],
  ["5.0", "v50"],
  ["5.1", "v51"],
  ["5.2", "v52"],
  ["6.0", "v60"],
  ["6.1", "v61"],
  ["6.2", "v62"],
  ["6.3", "v63"],
  ["7.0", "v70"],
  ["8.0", "v80"],
  ["9.0", "v90"],
  ["10.0", "v100"],
  ["11.0", "v110"],
  ["12.0", "v120"],
  ["12.1", "v121"],
  ["13.0", "v130"],
  ["14.0", "v140"],
  ["15.0", "v150"],
  ["15.1", "v151"],
  ["16.0", "v160"]]

/--
The version in which a code point was assigned. A record is fourteen hexadecimal digits:
first code point (6), last code point (6), position of the value in the list of names (2).
-/
def age : List Nat := [
  0x0000000001f500_0001f60001f903_0001fa00021700_00021800021f03_00022000022005_00022100022106,
  0x00022200023303_00023400023606_00023700024107_00024200024f08_0002500002a800_0002a90002ad03,
  0x0002ae0002af06_0002b00002de00_0002df0002df03_0002e00002e900_0002ea0002ee03_0002ef0002ff06,
  0x00030000034500_00034600034e03_00034f00034f05_00035000035706_00035800035c07_00035d00035f06,
  0x00036000036100_00036200036203_00036300036f05_00037000037309_00037400037500_00037600037709,
  0x00037a00037a00_00037b00037d08_00037e00037e00_00037f00037f0f_00038400038a00_00038c00038c00,
  0x00038e0003a100_0003a30003ce00_0003cf0003cf09_0003d00003d600_0003d70003d703_0003d80003d905,
  0x0003da0003da00_0003db0003db03_0003dc0003dc00_0003dd0003dd03_0003de0003de00_0003df0003df03,
  0x0003e00003e000_0003e10003e103_0003e20003f300_0003f40003f504_0003f60003f605_0003f70003fb06,
  0x0003fc0003ff07_00040000040003_00040100040c00_00040d00040d03_00040e00044f00_00045000045003,
  0x00045100045c00_00045d00045d03_00045e00048600_00048700048709_00048800048903_00048a00048b05,
  0x00048c00048f03_0004900004c400_0004c50004c605_0004c70004c800_0004c90004ca05_0004cb0004cc00,
  0x0004cd0004ce05_0004cf0004cf08_0004d00004eb00_0004ec0004ed03_0004ee0004f500_0004f60004f707,
  0x0004f80004f900_0004fa0004ff08_00050000050f05_00051000051308_00051400052309_0005240005250a,
  0x0005260005270b_00052800052f0f_00053100055600_00055900055f00_00056000056013_00056100058700,
  0x00058800058813_00058900058900_00058a00058a03_00058d00058e0f_00058f00058f0c_0005910005a101,
  0x0005a20005a207_0005a30005af01_0005b00005b900_0005ba0005ba08_0005bb0005c300_0005c40005c401,
  0x0005c50005c707_0005d00005ea00_0005ef0005ef13_0005f00005f400_00060000060306_0006040006040c,
  0x0006050006050f_00060600060a09_00060b00060b07_00060c00060c00_00060d00061506_00061600061a09,
  0x00061b00061b00_00061c00061c0e_00061d00061d17_00061e00061e07_00061f00061f00_0006200006200b,
  0x00062100063a00_00063b00063f09_00064000065200_00065300065503_00065600065806_00065900065e07,
  0x00065f00065f0b_00066000066d00_00066e00066f05_0006700006b700_0006b80006b903_0006ba0006be00,
  0x0006bf0006bf03_0006c00006ce00_0006cf0006cf03_0006d00006ed00_0006ee0006ef06_0006f00006f900,
  0x0006fa0006fe03_0006ff0006ff06_00070000070d03_00070f00072c03_00072d00072f06_00073000074a03,
  0x00074d00074f06_00075000076d07_00076e00077f09_0007800007b003_0007b10007b105_0007c00007fa08,
  0x0007fd0007ff13_00080000082d0a_00083000083e0a_00084000085b0b_00085e00085e0b_00086000086a12,
  0x00087000088e17_00089000089117_0008970008971a_00089800089f17_0008a00008a00c_0008a10008a10f,
  0x0008a20008ac0c_0008ad0008b20f_0008b30008b410_0008b50008b517_0008b60008bd11_0008be0008c716,
  0x0008c80008d217_0008d30008d313_0008d40008e211_0008e30008e310_0008e40008fe0c_0008ff0008ff0f,
  0x0009000009000a_00090100090300_00090400090406_00090500093900_00093a00093b0b_00093c00094d00,
  0x00094e00094e0a_00094f00094f0b_00095000095400_0009550009550a_0009560009570b_00095800097000,
  0x00097100097209_0009730009770b_0009780009780f_00097900097a0a_00097b00097c08_00097d00097d07,
  0x00097e00097f08_0009800009800f_00098100098300_00098500098c00_00098f00099000_0009930009a800,
  0x0009aa0009b000_0009b20009b200_0009b60009b900_0009bc0009bc00_0009bd0009bd06_0009be0009c400,
  0x0009c70009c800_0009cb0009cd00_0009ce0009ce07_0009d70009d700_0009dc0009dd00_0009df0009e300,
  0x0009e60009fa00_0009fb0009fb0a_0009fc0009fd12_0009fe0009fe13_000a01000a0106_000a02000a0200,
  0x000a03000a0306_000a05000a0a00_000a0f000a1000_000a13000a2800_000a2a000a3000_000a32000a3300,
  0x000a35000a3600_000a38000a3900_000a3c000a3c00_000a3e000a4200_000a47000a4800_000a4b000a4d00,
  0x000a51000a5109_000a59000a5c00_000a5e000a5e00_000a66000a7400_000a75000a7509_000a76000a7613,
  0x000a81000a8300_000a85000a8b00_000a8c000a8c06_000a8d000a8d00_000a8f000a9100_000a93000aa800,
  0x000aaa000ab000_000ab2000ab300_000ab5000ab900_000abc000ac500_000ac7000ac900_000acb000acd00,
  0x000ad0000ad000_000ae0000ae000_000ae1000ae306_000ae6000aef00_000af0000af00c_000af1000af106,
  0x000af9000af910_000afa000aff12_000b01000b0300_000b05000b0c00_000b0f000b1000_000b13000b2800,
  0x000b2a000b3000_000b32000b3300_000b35000b3506_000b36000b3900_000b3c000b4300_000b44000b4409,
  0x000b47000b4800_000b4b000b4d00_000b55000b5516_000b56000b5700_000b5c000b5d00_000b5f000b6100,
  0x000b62000b6309_000b66000b7000_000b71000b7106_000b72000b770b_000b82000b8300_000b85000b8a00,
  0x000b8e000b9000_000b92000b9500_000b99000b9a00_000b9c000b9c00_000b9e000b9f00_000ba3000ba400,
  0x000ba8000baa00_000bae000bb500_000bb6000bb607_000bb7000bb900_000bbe000bc200_000bc6000bc800,
  0x000bca000bcd00_000bd0000bd009_000bd7000bd700_000be6000be607_000be7000bf200_000bf3000bfa06,
  0x000c00000c000f_000c01000c0300_000c04000c0413_000c05000c0c00_000c0e000c1000_000c12000c2800,
  0x000c2a000c3300_000c34000c340f_000c35000c3900_000c3c000c3c17_000c3d000c3d09_000c3e000c4400,
  0x000c46000c4800_000c4a000c4d00_000c55000c5600_000c58000c5909_000c5a000c5a10_000c5d000c5d17,
  0x000c60000c6100_000c62000c6309_000c66000c6f00_000c77000c7714_000c78000c7f09_000c80000c8011,
  0x000c81000c810f_000c82000c8300_000c84000c8413_000c85000c8c00_000c8e000c9000_000c92000ca800,
  0x000caa000cb300_000cb5000cb900_000cbc000cbd06_000cbe000cc400_000cc6000cc800_000cca000ccd00,
  0x000cd5000cd600_000cdd000cdd17_000cde000cde00_000ce0000ce100_000ce2000ce308_000ce6000cef00,
  0x000cf1000cf208_000cf3000cf318_000d00000d0012_000d01000d010f_000d02000d0300_000d04000d0416,
  0x000d05000d0c00_000d0e000d1000_000d12000d2800_000d29000d290b_000d2a000d3900_000d3a000d3a0b,
  0x000d3b000d3c12_000d3d000d3d09_000d3e000d4300_000d44000d4409_000d46000d4800_000d4a000d4d00,
  0x000d4e000d4e0b_000d4f000d4f11_000d54000d5611_000d57000d5700_000d58000d5e11_000d5f000d5f10,
  0x000d60000d6100_000d62000d6309_000d66000d6f00_000d70000d7509_000d76000d7811_000d79000d7f09,
  0x000d81000d8116_000d82000d8303_000d85000d9603_000d9a000db103_000db3000dbb03_000dbd000dbd03,
  0x000dc0000dc603_000dca000dca03_000dcf000dd403_000dd6000dd603_000dd8000ddf03_000de6000def0f,
  0x000df2000df403_000e01000e3a00_000e3f000e5b00_000e81000e8200_000e84000e8400_000e86000e8614,
  0x000e87000e8800_000e89000e8914_000e8a000e8a00_000e8c000e8c14_000e8d000e8d00_000e8e000e9314,
  0x000e94000e9700_000e98000e9814_000e99000e9f00_000ea0000ea014_000ea1000ea300_000ea5000ea500,
  0x000ea7000ea700_000ea8000ea914_000eaa000eab00_000eac000eac14_000ead000eb900_000eba000eba14,
  0x000ebb000ebd00_000ec0000ec400_000ec6000ec600_000ec8000ecd00_000ece000ece18_000ed0000ed900,
  0x000edc000edd00_000ede000edf0c_000f00000f4701_000f49000f6901_000f6a000f6a03_000f6b000f6c09,
  0x000f71000f8b01_000f8c000f8f0b_000f90000f9501_000f96000f9603_000f97000f9701_000f99000fad01,
  0x000fae000fb003_000fb1000fb701_000fb8000fb803_000fb9000fb901_000fba000fbc03_000fbe000fcc03,
  0x000fce000fce09_000fcf000fcf03_000fd0000fd107_000fd2000fd409_000fd5000fd80a_000fd9000fda0b,
  0x00100000102103_00102200102209_00102300102703_00102800102809_00102900102a03_00102b00102b09,
  0x00102c00103203_00103300103509_00103600103903_00103a00103f09_00104000105903_00105a00109909,
  0x00109a00109d0a_00109e00109f09_0010a00010c500_0010c70010c70c_0010cd0010cd0c_0010d00010f600,
  0x0010f70010f805_0010f90010fa07_0010fb0010fb00_0010fc0010fc07_0010fd0010ff0c_00110000115900,
  0x00115a00115e0a_00115f0011a200_0011a30011a70a_0011a80011f900_0011fa0011ff0a_00120000120603,
  0x00120700120707_00120800124603_00124700124707_00124800124803_00124a00124d03_00125000125603,
  0x00125800125803_00125a00125d03_00126000128603_00128700128707_00128800128803_00128a00128d03,
  0x0012900012ae03_0012af0012af07_0012b00012b003_0012b20012b503_0012b80012be03_0012c00012c003,
  0x0012c20012c503_0012c80012ce03_0012cf0012cf07_0012d00012d603_0012d80012ee03_0012ef0012ef07,
  0x0012f000130e03_00130f00130f07_00131000131003_00131200131503_00131800131e03_00131f00131f07,
  0x00132000134603_00134700134707_00134800135a03_00135d00135e0b_00135f00136007_00136100137c03,
  0x00138000139907_0013a00013f403_0013f50013f510_0013f80013fd10_0014000014000a_00140100167603,
  0x00167700167f0a_00168000169c03_0016a00016f003_0016f10016f80f_00170000170c05_00170d00170d17,
  0x00170e00171405_00171500171517_00171f00171f17_00172000173605_00174000175305_00176000176c05,
  0x00176e00177005_00177200177305_0017800017dc03_0017dd0017dd06_0017e00017e903_0017f00017f906,
  0x00180000180e03_00180f00180f17_00181000181903_00182000187703_00187800187813_0018800018a903,
  0x0018aa0018aa09_0018b00018f50a_00190000191c06_00191d00191e0f_00192000192b06_00193000193b06,
  0x00194000194006_00194400196d06_00197000197406_0019800019a907_0019aa0019ab0a_0019b00019c907,
  0x0019d00019d907_0019da0019da0a_0019de0019df07_0019e00019ff06_001a00001a1b07_001a1e001a1f07,
  0x001a20001a5e0a_001a60001a7c0a_001a7f001a890a_001a90001a990a_001aa0001aad0a_001ab0001abe0f,
  0x001abf001ac016_001ac1001ace17_001b00001b4b08_001b4c001b4c17_001b4e001b4f1a_001b50001b7c08,
  0x001b7d001b7e17_001b7f001b7f1a_001b80001baa09_001bab001bad0c_001bae001bb909_001bba001bbf0c,
  0x001bc0001bf30b_001bfc001bff0b_001c00001c3709_001c3b001c4909_001c4d001c7f09_001c80001c8811,
  0x001c89001c8a1a_001c90001cba13_001cbd001cbf13_001cc0001cc70c_001cd0001cf20a_001cf3001cf60c,
  0x001cf7001cf712_001cf8001cf90f_001cfa001cfa14_001d00001d6b06_001d6c001dc307_001dc4001dca08,
  0x001dcb001de609_001de7001df50f_001df6001df912_001dfa001dfa17_001dfb001dfb11_001dfc001dfc0b,
  0x001dfd001dfd0a_001dfe001dff08_001e00001e9a00_001e9b001e9b01_001e9c001e9f09_001ea0001ef900,
  0x001efa001eff09_001f00001f1500_001f18001f1d00_001f20001f4500_001f48001f4d00_001f50001f5700,
  0x001f59001f5900_001f5b001f5b00_001f5d001f5d00_001f5f001f7d00_001f80001fb400_001fb6001fc400,
  0x001fc6001fd300_001fd6001fdb00_001fdd001fef00_001ff2001ff400_001ff6001ffe00_00200000202e00,
  0x00202f00202f03_00203000204600_00204700204705_00204800204d03_00204e00205205_00205300205406,
  0x00205500205607_00205700205705_00205800205e07_00205f00206305_00206400206409_0020660020690e,
  0x00206a00207000_00207100207105_00207400208e00_00209000209407_00209500209c0b_0020a00020aa00,
  0x0020ab0020ab01_0020ac0020ac02_0020ad0020af03_0020b00020b105_0020b20020b507_0020b60020b80a,
  0x0020b90020b90b_0020ba0020ba0d_0020bb0020bd0f_0020be0020be10_0020bf0020bf12_0020c00020c017,
  0x0020d00020e100_0020e20020e303_0020e40020ea05_0020eb0020eb07_0020ec0020ef08_0020f00020f009,
  0x00210000213800_00213900213a03_00213b00213b06_00213c00213c07_00213d00214b05_00214c00214c07,
  0x00214d00214e08_00214f00214f09_0021500021520a_00215300218200_00218300218303_00218400218408,
  0x00218500218809_0021890021890a_00218a00218b10_0021900021ea00_0021eb0021f303_0021f40021ff05,
  0x0022000022f100_0022f20022ff05_00230000230000_00230100230103_00230200237a00_00237b00237b03,
  0x00237c00237c05_00237d00239a03_00239b0023ce05_0023cf0023d006_0023d10023db07_0023dc0023e708,
  0x0023e80023e80a_0023e90023f30b_0023f40023fa0f_0023fb0023fe11_0023ff0023ff12_00240000242400,
  0x00242500242603_0024270024291a_00244000244a00_0024600024ea00_0024eb0024fe05_0024ff0024ff06,
  0x00250000259500_00259600259f05_0025a00025ef00_0025f00025f703_0025f80025ff05_00260000261300,
  0x00261400261506_00261600261705_00261800261807_00261900261903_00261a00266f00_00267000267103,
  0x00267200267d05_00267e00267f07_00268000268905_00268a00269106_00269200269c07_00269d00269d09,
  0x00269e00269f0a_0026a00026a106_0026a20026b107_0026b20026b208_0026b30026bc09_0026bd0026bf0a,
  0x0026c00026c309_0026c40026cd0a_0026ce0026ce0b_0026cf0026e10a_0026e20026e20b_0026e30026e30a,
  0x0026e40026e70b_0026e80026ff0a_0027000027000f_00270100270400_0027050027050b_00270600270900,
  0x00270a00270b0b_00270c00272700_0027280027280b_00272900274b00_00274c00274c0b_00274d00274d00,
  0x00274e00274e0b_00274f00275200_0027530027550b_00275600275600_0027570027570a_00275800275e00,
  0x00275f0027600b_00276100276700_00276800277505_00277600279400_0027950027970b_0027980027af00,
  0x0027b00027b00b_0027b10027be00_0027bf0027bf0b_0027c00027c607_0027c70027ca08_0027cb0027cb0c,
  0x0027cc0027cc09_0027cd0027cd0c_0027ce0027cf0b_0027d00027eb05_0027ec0027ef09_0027f00027ff05,
  0x0028000028ff03_002900002aff05_002b00002b0d06_002b0e002b1307_002b14002b1a08_002b1b002b1f09,
  0x002b20002b2308_002b24002b4c09_002b4d002b4f0f_002b50002b5409_002b55002b590a_002b5a002b730f,
  0x002b76002b950f_002b97002b9716_002b98002bb90f_002bba002bbc13_002bbd002bc80f_002bc9002bc914,
  0x002bca002bd10f_002bd2002bd212_002bd3002beb13_002bec002bef10_002bf0002bfe13_002bff002bff14,
  0x002c00002c2e07_002c2f002c2f17_002c30002c5e07_002c5f002c5f17_002c60002c6c08_002c6d002c6f09,
  0x002c70002c700a_002c71002c7309_002c74002c7708_002c78002c7d09_002c7e002c7f0a_002c80002cea07,
  0x002ceb002cf10a_002cf2002cf30c_002cf9002d2507_002d27002d270c_002d2d002d2d0c_002d30002d6507,
  0x002d66002d670c_002d6f002d6f07_002d70002d700b_002d7f002d7f0b_002d80002d9607_002da0002da607,
  0x002da8002dae07_002db0002db607_002db8002dbe07_002dc0002dc607_002dc8002dce07_002dd0002dd607,
  0x002dd8002dde07_002de0002dff09_002e00002e1707_002e18002e1b09_002e1c002e1d07_002e1e002e3009,
  0x002e31002e310a_002e32002e3b0c_002e3c002e420f_002e43002e4411_002e45002e4912_002e4a002e4e13,
  0x002e4f002e4f14_002e50002e5216_002e53002e5d17_002e80002e9903_002e9b002ef303_002f00002fd503,
  0x002ff0002ffb03_002ffc002fff19_00300000303700_00303800303a03_00303b00303d05_00303e00303e03,
  0x00303f00303f00_00304100309400_00309500309605_00309900309e00_00309f0030a005_0030a10030fe00,
  0x0030ff0030ff05_00310500312c00_00312d00312d09_00312e00312e12_00312f00312f13_00313100318e00,
  0x00319000319f00_0031a00031b703_0031b80031ba0b_0031bb0031bf16_0031c00031cf07_0031d00031e309,
  0x0031e40031e51a_0031ef0031ef19_0031f00031ff05_00320000321c00_00321d00321e06_00322000324300,
  0x00324400324f0a_00325000325006_00325100325f05_00326000327b00_00327c00327d06_00327e00327e07,
  0x00327f0032b000_0032b10032bf05_0032c00032cb00_0032cc0032cf06_0032d00032fe00_0032ff0032ff15,
  0x00330000337600_00337700337a06_00337b0033dd00_0033de0033df06_0033e00033fe00_0033ff0033ff06,
  0x003400004db503_004db6004dbf16_004dc0004dff06_004e00009fa500_009fa6009fbb07_009fbc009fc309,
  0x009fc4009fcb0a_009fcc009fcc0c_009fcd009fd510_009fd6009fea12_009feb009fef13_009ff0009ffc16,
  0x009ffd009fff17_00a00000a48c03_00a49000a4a103_00a4a200a4a305_00a4a400a4b303_00a4b400a4b405,
  0x00a4b500a4c003_00a4c100a4c105_00a4c200a4c403_00a4c500a4c505_00a4c600a4c603_00a4d000a4ff0a,
  0x00a50000a62b09_00a64000a65f09_00a66000a6610b_00a66200a67309_00a67400a67b0c_00a67c00a69709,
  0x00a69800a69d0f_00a69e00a69e10_00a69f00a69f0c_00a6a000a6f70a_00a70000a71607_00a71700a71a08,
  0x00a71b00a71f09_00a72000a72108_00a72200a78c09_00a78d00a78e0b_00a78f00a78f10_00a79000a7910b,
  0x00a79200a7930c_00a79400a79f0f_00a7a000a7a90b_00a7aa00a7aa0c_00a7ab00a7ad0f_00a7ae00a7ae11,
  0x00a7af00a7af13_00a7b000a7b10f_00a7b200a7b710_00a7b800a7b913_00a7ba00a7bf14_00a7c000a7c117,
  0x00a7c200a7c614_00a7c700a7ca16_00a7cb00a7cd1a_00a7d000a7d117_00a7d300a7d317_00a7d500a7d917,
  0x00a7da00a7dc1a_00a7f200a7f417_00a7f500a7f616_00a7f700a7f70f_00a7f800a7f90c_00a7fa00a7fa0b,
  0x00a7fb00a7ff09_00a80000a82b07_00a82c00a82c16_00a83000a8390a_00a84000a87708_00a88000a8c409,
  0x00a8c500a8c511_00a8ce00a8d909_00a8e000a8fb0a_00a8fc00a8fd10_00a8fe00a8ff13_00a90000a95309,
  0x00a95f00a95f09_00a96000a97c0a_00a98000a9cd0a_00a9cf00a9d90a_00a9de00a9df0a_00a9e000a9fe0f,
  0x00aa0000aa3609_00aa4000aa4d09_00aa5000aa5909_00aa5c00aa5f09_00aa6000aa7b0a_00aa7c00aa7f0f,
  0x00aa8000aac20a_00aadb00aadf0a_00aae000aaf60c_00ab0100ab060b_00ab0900ab0e0b_00ab1100ab160b,
  0x00ab2000ab260b_00ab2800ab2e0b_00ab3000ab5f0f_00ab6000ab6310_00ab6400ab650f_00ab6600ab6714,
  0x00ab6800ab6b16_00ab7000abbf10_00abc000abed0a_00abf000abf90a_00ac0000d7a301_00d7b000d7c60a,
  0x00d7cb00d7fb0a_00e00000fa2d00_00fa2e00fa2f0c_00fa3000fa6a05_00fa6b00fa6d0a_00fa7000fad907,
  0x00fb0000fb0600_00fb1300fb1700_00fb1d00fb1d03_00fb1e00fb3600_00fb3800fb3c00_00fb3e00fb3e00,
  0x00fb4000fb4100_00fb4300fb4400_00fb4600fbb100_00fbb200fbc10b_00fbc200fbc217_00fbd300fd3f00,
  0x00fd4000fd4f17_00fd5000fd8f00_00fd9200fdc700_00fdcf00fdcf17_00fdd000fdef04_00fdf000fdfb00,
  0x00fdfc00fdfc05_00fdfd00fdfd06_00fdfe00fdff17_00fe0000fe0f05_00fe1000fe1907_00fe2000fe2300,
  0x00fe2400fe2609_00fe2700fe2d0f_00fe2e00fe2f10_00fe3000fe4400_00fe4500fe4605_00fe4700fe4806,
  0x00fe4900fe5200_00fe5400fe6600_00fe6800fe6b00_00fe7000fe7200_00fe7300fe7305_00fe7400fe7400,
  0x00fe7600fefc00_00feff00feff00_00ff0100ff5e00_00ff5f00ff6005_00ff6100ffbe00_00ffc200ffc700,
  0x00ffca00ffcf00_00ffd200ffd700_00ffda00ffdc00_00ffe000ffe600_00ffe800ffee00_00fff900fffb03,
  0x00fffc00fffc02_00fffd00ffff00_01000001000b06_01000d01002606_01002801003a06_01003c01003d06,
  0x01003f01004d06_01005001005d06_0100800100fa06_01010001010206_01010701013306_01013701013f06,
  0x01014001018a07_01018b01018c0f_01018d01018e11_01019001019b09_01019c01019c16_0101a00101a00f,
  0x0101d00101fd09_01028001029c09_0102a00102d009_0102e00102fb0f_01030001031e04_01031f01031f0f,
  0x01032001032304_01032d01032f12_01033001034a04_01035001037a0f_01038001039d06_01039f01039f06,
  0x0103a00103c307_0103c80103d507_01040001042504_01042601042706_01042801044d04_01044e01049d06,
  0x0104a00104a906_0104b00104d311_0104d80104fb11_0105000105270f_0105300105630f_01056f01056f0f,
  0x01057001057a17_01057c01058a17_01058c01059217_01059401059517_0105970105a117_0105a30105b117,
  0x0105b30105b917_0105bb0105bc17_0105c00105f31a_0106000107360f_0107400107550f_0107600107670f,
  0x01078001078517_0107870107b017_0107b20107ba17_01080001080506_01080801080806_01080a01083506,
  0x01083701083806_01083c01083c06_01083f01083f06_0108400108550a_01085701085f0a_01086001089e0f,
  0x0108a70108af0f_0108e00108f210_0108f40108f510_0108fb0108ff10_01090001091908_01091a01091b0a,
  0x01091f01091f08_01092001093909_01093f01093f09_0109800109b70c_0109bc0109bd10_0109be0109bf0c,
  0x0109c00109cf10_0109d20109ff10_010a00010a0307_010a05010a0607_010a0c010a1307_010a15010a1707,
  0x010a19010a3307_010a34010a3513_010a38010a3a07_010a3f010a4707_010a48010a4813_010a50010a5807,
  0x010a60010a7f0a_010a80010a9f0f_010ac0010ae60f_010aeb010af60f_010b00010b350a_010b39010b550a,
  0x010b58010b720a_010b78010b7f0a_010b80010b910f_010b99010b9c0f_010ba9010baf0f_010c00010c480a,
  0x010c80010cb210_010cc0010cf210_010cfa010cff10_010d00010d2713_010d30010d3913_010d40010d651a,
  0x010d69010d851a_010d8e010d8f1a_010e60010e7e0a_010e80010ea916_010eab010ead16_010eb0010eb116,
  0x010ec2010ec41a_010efc010efc1a_010efd010eff18_010f00010f2713_010f30010f5913_010f70010f8917,
  0x010fb0010fcb16_010fe0010ff614_01100001104d0b_01105201106f0b_01107001107517_01107f01107f0f,
  0x0110800110c10a_0110c20110c217_0110cd0110cd13_0110d00110e80c_0110f00110f90c_0111000111340c,
  0x0111360111430c_01114401114613_01114701114716_0111500111760f_0111800111c80c_0111c90111cc10,
  0x0111cd0111cd0f_0111ce0111cf16_0111d00111d90c_0111da0111da0f_0111db0111df10_0111e10111f40f,
  0x0112000112110f_01121301123d0f_01123e01123e11_01123f01124118_01128001128610_01128801128810,
  0x01128a01128d10_01128f01129d10_01129f0112a910_0112b00112ea0f_0112f00112f90f_01130001130010,
  0x0113010113030f_01130501130c0f_01130f0113100f_0113130113280f_01132a0113300f_0113320113330f,
  0x0113350113390f_01133b01133b13_01133c0113440f_0113470113480f_01134b01134d0f_01135001135010,
  0x0113570113570f_01135d0113630f_01136601136c0f_0113700113740f_0113800113891a_01138b01138b1a,
  0x01138e01138e1a_0113900113b51a_0113b70113c01a_0113c20113c21a_0113c50113c51a_0113c70113ca1a,
  0x0113cc0113d51a_0113d70113d81a_0113e10113e21a_01140001145911_01145a01145a16_01145b01145b11,
  0x01145d01145d11_01145e01145e13_01145f01145f14_01146001146116_0114800114c70f_0114d00114d90f,
  0x0115800115b50f_0115b80115c90f_0115ca0115dd10_0116000116440f_0116500116590f_01166001166c11,
  0x0116800116b70c_0116b80116b814_0116b90116b917_0116c00116c90c_0116d00116e31a_01170001171910,
  0x01171a01171a13_01171d01172b10_01173001173f10_01174001174617_01180001183b13_0118a00118f20f,
  0x0118ff0118ff0f_01190001190616_01190901190916_01190c01191316_01191501191616_01191801193516,
  0x01193701193816_01193b01194616_01195001195916_0119a00119a714_0119aa0119d714_0119da0119e414,
  0x011a00011a4712_011a50011a8312_011a84011a8514_011a86011a9c12_011a9d011a9d13_011a9e011aa212,
  0x011ab0011abf17_011ac0011af80f_011b00011b0918_011bc0011be11a_011bf0011bf91a_011c00011c0811,
  0x011c0a011c3611_011c38011c4511_011c50011c6c11_011c70011c8f11_011c92011ca711_011ca9011cb611,
  0x011d00011d0612_011d08011d0912_011d0b011d3612_011d3a011d3a12_011d3c011d3d12_011d3f011d4712,
  0x011d50011d5912_011d60011d6513_011d67011d6813_011d6a011d8e13_011d90011d9113_011d93011d9813,
  0x011da0011da913_011ee0011ef813_011f00011f1018_011f12011f3a18_011f3e011f5918_011f5a011f5a1a,
  0x011fb0011fb016_011fc0011ff114_011fff011fff14_01200001236e08_01236f0123980f_01239901239910,
  0x01240001246208_01246301246e0f_01247001247308_0124740124740f_01248001254310_012f90012ff217,
  0x01300001342e0a_01342f01342f18_01343001343814_01343901345518_0134600143fa1a_01440001464610,
  0x0161000161391a_016800016a380b_016a40016a5e0f_016a60016a690f_016a6e016a6f0f_016a70016abe17,
  0x016ac0016ac917_016ad0016aed0f_016af0016af50f_016b00016b450f_016b50016b590f_016b5b016b610f,
  0x016b63016b770f_016b7d016b8f0f_016d40016d791a_016e40016e9a13_016f00016f440c_016f45016f4a14,
  0x016f4f016f4f14_016f50016f7e0c_016f7f016f8714_016f8f016f9f0c_016fe0016fe011_016fe1016fe112,
  0x016fe2016fe314_016fe4016fe416_016ff0016ff116_0170000187ec11_0187ed0187f113_0187f20187f714,
  0x018800018af211_018af3018cd516_018cff018cff1a_018d00018d0816_01aff001aff317_01aff501affb17,
  0x01affd01affe17_01b00001b0010b_01b00201b11e12_01b11f01b12217_01b13201b13218_01b15001b15214,
  0x01b15501b15518_01b16401b16714_01b17001b2fb12_01bc0001bc6a0f_01bc7001bc7c0f_01bc8001bc880f,
  0x01bc9001bc990f_01bc9c01bca30f_01cc0001ccf91a_01cd0001ceb31a_01cf0001cf2d17_01cf3001cf4617,
  0x01cf5001cfc317_01d00001d0f504_01d10001d12604_01d12901d12909_01d12a01d1dd04_01d1de01d1e810,
  0x01d1e901d1ea17_01d20001d24507_01d2c001d2d318_01d2e001d2f313_01d30001d35606_01d36001d37108,
  0x01d37201d37813_01d40001d45404_01d45601d49c04_01d49e01d49f04_01d4a201d4a204_01d4a501d4a604,
  0x01d4a901d4ac04_01d4ae01d4b904_01d4bb01d4bb04_01d4bd01d4c004_01d4c101d4c106_01d4c201d4c304,
  0x01d4c501d50504_01d50701d50a04_01d50d01d51404_01d51601d51c04_01d51e01d53904_01d53b01d53e04,
  0x01d54001d54404_01d54601d54604_01d54a01d55004_01d55201d6a304_01d6a401d6a507_01d6a801d7c904,
  0x01d7ca01d7cb08_01d7ce01d7ff04_01d80001da8b10_01da9b01da9f10_01daa101daaf10_01df0001df1e17,
  0x01df2501df2a18_01e00001e00611_01e00801e01811_01e01b01e02111_01e02301e02411_01e02601e02a11,
  0x01e03001e06d18_01e08f01e08f18_01e10001e12c14_01e13001e13d14_01e14001e14914_01e14e01e14f14,
  0x01e29001e2ae17_01e2c001e2f914_01e2ff01e2ff14_01e4d001e4f918_01e5d001e5fa1a_01e5ff01e5ff1a,
  0x01e7e001e7e617_01e7e801e7eb17_01e7ed01e7ee17_01e7f001e7fe17_01e80001e8c40f_01e8c701e8d60f,
  0x01e90001e94a11_01e94b01e94b14_01e95001e95911_01e95e01e95f11_01ec7101ecb413_01ed0101ed3d14,
  0x01ee0001ee030c_01ee0501ee1f0c_01ee2101ee220c_01ee2401ee240c_01ee2701ee270c_01ee2901ee320c,
  0x01ee3401ee370c_01ee3901ee390c_01ee3b01ee3b0c_01ee4201ee420c_01ee4701ee470c_01ee4901ee490c,
  0x01ee4b01ee4b0c_01ee4d01ee4f0c_01ee5101ee520c_01ee5401ee540c_01ee5701ee570c_01ee5901ee590c,
  0x01ee5b01ee5b0c_01ee5d01ee5d0c_01ee5f01ee5f0c_01ee6101ee620c_01ee6401ee640c_01ee6701ee6a0c,
  0x01ee6c01ee720c_01ee7401ee770c_01ee7901ee7c0c_01ee7e01ee7e0c_01ee8001ee890c_01ee8b01ee9b0c,
  0x01eea101eea30c_01eea501eea90c_01eeab01eebb0c_01eef001eef10c_01f00001f02b09_01f03001f09309,
  0x01f0a001f0ae0b_01f0b101f0be0b_01f0bf01f0bf0f_01f0c101f0cf0b_01f0d101f0df0b_01f0e001f0f50f,
  0x01f10001f10a0a_01f10b01f10c0f_01f10d01f10f16_01f11001f12e0a_01f12f01f12f13_01f13001f1300b,
  0x01f13101f1310a_01f13201f13c0b_01f13d01f13d0a_01f13e01f13e0b_01f13f01f13f0a_01f14001f1410b,
  0x01f14201f1420a_01f14301f1450b_01f14601f1460a_01f14701f1490b_01f14a01f14e0a_01f14f01f1560b,
  0x01f15701f1570a_01f15801f15e0b_01f15f01f15f0a_01f16001f1690b_01f16a01f16b0c_01f16c01f16c14,
  0x01f16d01f16f16_01f17001f1780b_01f17901f1790a_01f17a01f17a0b_01f17b01f17c0a_01f17d01f17e0b,
  0x01f17f01f17f0a_01f18001f1890b_01f18a01f18d0a_01f18e01f18f0b_01f19001f1900a_01f19101f19a0b,
  0x01f19b01f1ac11_01f1ad01f1ad16_01f1e601f1ff0b_01f20001f2000a_01f20101f2020b_01f21001f2310a,
  0x01f23201f23a0b_01f23b01f23b11_01f24001f2480a_01f25001f2510b_01f26001f26512_01f30001f3200b,
  0x01f32101f32c0f_01f32d01f32f10_01f33001f3350b_01f33601f3360f_01f33701f37c0b_01f37d01f37d0f,
  0x01f37e01f37f10_01f38001f3930b_01f39401f39f0f_01f3a001f3c40b_01f3c501f3c50f_01f3c601f3ca0b,
  0x01f3cb01f3ce0f_01f3cf01f3d310_01f3d401f3df0f_01f3e001f3f00b_01f3f101f3f70f_01f3f801f3ff10,
  0x01f40001f43e0b_01f43f01f43f0f_01f44001f4400b_01f44101f4410f_01f44201f4f70b_01f4f801f4f80f,
  0x01f4f901f4fc0b_01f4fd01f4fe0f_01f4ff01f4ff10_01f50001f53d0b_01f53e01f53f0f_01f54001f5430c,
  0x01f54401f54a0f_01f54b01f54f10_01f55001f5670b_01f56801f5790f_01f57a01f57a11_01f57b01f5a30f,
  0x01f5a401f5a411_01f5a501f5fa0f_01f5fb01f5ff0b_01f60001f6000c_01f60101f6100b_01f61101f6110c,
  0x01f61201f6140b_01f61501f6150c_01f61601f6160b_01f61701f6170c_01f61801f6180b_01f61901f6190c,
  0x01f61a01f61a0b_01f61b01f61b0c_01f61c01f61e0b_01f61f01f61f0c_01f62001f6250b_01f62601f6270c,
  0x01f62801f62b0b_01f62c01f62c0c_01f62d01f62d0b_01f62e01f62f0c_01f63001f6330b_01f63401f6340c,
  0x01f63501f6400b_01f64101f6420f_01f64301f64410_01f64501f64f0b_01f65001f67f0f_01f68001f6c50b,
  0x01f6c601f6cf0f_01f6d001f6d010_01f6d101f6d211_01f6d301f6d412_01f6d501f6d514_01f6d601f6d716,
  0x01f6dc01f6dc18_01f6dd01f6df17_01f6e001f6ec0f_01f6f001f6f30f_01f6f401f6f611_01f6f701f6f812,
  0x01f6f901f6f913_01f6fa01f6fa14_01f6fb01f6fc16_01f70001f7730b_01f77401f77618_01f77b01f77f18,
  0x01f78001f7d40f_01f7d501f7d813_01f7d901f7d918_01f7e001f7eb14_01f7f001f7f017_01f80001f80b0f,
  0x01f81001f8470f_01f85001f8590f_01f86001f8870f_01f89001f8ad0f_01f8b001f8b116_01f8b201f8bb1a,
  0x01f8c001f8c11a_01f90001f90b12_01f90c01f90c16_01f90d01f90f14_01f91001f91810_01f91901f91e11,
  0x01f91f01f91f12_01f92001f92711_01f92801f92f12_01f93001f93011_01f93101f93212_01f93301f93e11,
  0x01f93f01f93f14_01f94001f94b11_01f94c01f94c12_01f94d01f94f13_01f95001f95e11_01f95f01f96b12,
  0x01f96c01f97013_01f97101f97114_01f97201f97216_01f97301f97613_01f97701f97816_01f97901f97917,
  0x01f97a01f97a13_01f97b01f97b14_01f97c01f97f13_01f98001f98410_01f98501f99111_01f99201f99712,
  0x01f99801f9a213_01f9a301f9a416_01f9a501f9aa14_01f9ab01f9ad16_01f9ae01f9af14_01f9b001f9b913,
  0x01f9ba01f9bf14_01f9c001f9c010_01f9c101f9c213_01f9c301f9ca14_01f9cb01f9cb16_01f9cc01f9cc17,
  0x01f9cd01f9cf14_01f9d001f9e612_01f9e701f9ff13_01fa0001fa5314_01fa6001fa6d13_01fa7001fa7314,
  0x01fa7401fa7416_01fa7501fa7718_01fa7801fa7a14_01fa7b01fa7c17_01fa8001fa8214_01fa8301fa8616,
  0x01fa8701fa8818_01fa8901fa891a_01fa8f01fa8f1a_01fa9001fa9514_01fa9601faa816_01faa901faac17,
  0x01faad01faaf18_01fab001fab616_01fab701faba17_01fabb01fabd18_01fabe01fabe1a_01fabf01fabf18,
  0x01fac001fac216_01fac301fac517_01fac601fac61a_01face01facf18_01fad001fad616_01fad701fad917,
  0x01fada01fadb18_01fadc01fadc1a_01fadf01fadf1a_01fae001fae717_01fae801fae818_01fae901fae91a,
  0x01faf001faf617_01faf701faf818_01fb0001fb9216_01fb9401fbca16_01fbcb01fbef1a_01fbf001fbf916,
  0x01fffe01ffff01_02000002a6d604_02a6d702a6dd16_02a6de02a6df17_02a70002b7340a_02b73502b73817,
  0x02b73902b73918_02b74002b81d0b_02b82002cea110_02ceb002ebe012_02ebf002ee5d19_02f80002fa1d04,
  0x02fffe02ffff01_03000003134a16_0313500323af18_03fffe03ffff01_04fffe04ffff01_05fffe05ffff01,
  0x06fffe06ffff01_07fffe07ffff01_08fffe08ffff01_09fffe09ffff01_0afffe0affff01_0bfffe0bffff01,
  0x0cfffe0cffff01_0dfffe0dffff01_0e00010e000104_0e00200e007f04_0e01000e01ef06_0efffe10ffff01]

end CorpusSearch.Unicode.Table
