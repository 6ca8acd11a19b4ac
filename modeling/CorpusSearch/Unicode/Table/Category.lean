/-!
The general category of every assigned code point, packed six records a row.
-/

set_option autoImplicit false

namespace CorpusSearch.Unicode.Table

/--
General categories. A record is fourteen hexadecimal digits: first code point (6), last code point (6),
position of the category in the list of categories (2). Code points in no record are unassigned.
-/
def category : List Nat := [
  0x00000000001f19_00002000002016_00002100002311_00002400002413_00002500002711_0000280000280d,
  0x0000290000290e_00002a00002a11_00002b00002b12_00002c00002c11_00002d00002d0c_00002e00002f11,
  0x00003000003908_00003a00003b11_00003c00003e12_00003f00004011_00004100005a00_00005b00005b0d,
  0x00005c00005c11_00005d00005d0e_00005e00005e14_00005f00005f0b_00006000006014_00006100007a01,
  0x00007b00007b0d_00007c00007c12_00007d00007d0e_00007e00007e12_00007f00009f19_0000a00000a016,
  0x0000a10000a111_0000a20000a513_0000a60000a615_0000a70000a711_0000a80000a814_0000a90000a915,
  0x0000aa0000aa04_0000ab0000ab0f_0000ac0000ac12_0000ad0000ad1a_0000ae0000ae15_0000af0000af14,
  0x0000b00000b015_0000b10000b112_0000b20000b30a_0000b40000b414_0000b50000b501_0000b60000b711,
  0x0000b80000b814_0000b90000b90a_0000ba0000ba04_0000bb0000bb10_0000bc0000be0a_0000bf0000bf11,
  0x0000c00000d600_0000d70000d712_0000d80000de00_0000df0000f601_0000f70000f712_0000f80000ff01,
  0x00010000010000_00010100010101_00010200010200_00010300010301_00010400010400_00010500010501,
  0x00010600010600_00010700010701_00010800010800_00010900010901_00010a00010a00_00010b00010b01,
  0x00010c00010c00_00010d00010d01_00010e00010e00_00010f00010f01_00011000011000_00011100011101,
  0x00011200011200_00011300011301_00011400011400_00011500011501_00011600011600_00011700011701,
  0x00011800011800_00011900011901_00011a00011a00_00011b00011b01_00011c00011c00_00011d00011d01,
  0x00011e00011e00_00011f00011f01_00012000012000_00012100012101_00012200012200_00012300012301,
  0x00012400012400_00012500012501_00012600012600_00012700012701_00012800012800_00012900012901,
  0x00012a00012a00_00012b00012b01_00012c00012c00_00012d00012d01_00012e00012e00_00012f00012f01,
  0x00013000013000_00013100013101_00013200013200_00013300013301_00013400013400_00013500013501,
  0x00013600013600_00013700013801_00013900013900_00013a00013a01_00013b00013b00_00013c00013c01,
  0x00013d00013d00_00013e00013e01_00013f00013f00_00014000014001_00014100014100_00014200014201,
  0x00014300014300_00014400014401_00014500014500_00014600014601_00014700014700_00014800014901,
  0x00014a00014a00_00014b00014b01_00014c00014c00_00014d00014d01_00014e00014e00_00014f00014f01,
  0x00015000015000_00015100015101_00015200015200_00015300015301_00015400015400_00015500015501,
  0x00015600015600_00015700015701_00015800015800_00015900015901_00015a00015a00_00015b00015b01,
  0x00015c00015c00_00015d00015d01_00015e00015e00_00015f00015f01_00016000016000_00016100016101,
  0x00016200016200_00016300016301_00016400016400_00016500016501_00016600016600_00016700016701,
  0x00016800016800_00016900016901_00016a00016a00_00016b00016b01_00016c00016c00_00016d00016d01,
  0x00016e00016e00_00016f00016f01_00017000017000_00017100017101_00017200017200_00017300017301,
  0x00017400017400_00017500017501_00017600017600_00017700017701_00017800017900_00017a00017a01,
  0x00017b00017b00_00017c00017c01_00017d00017d00_00017e00018001_00018100018200_00018300018301,
  0x00018400018400_00018500018501_00018600018700_00018800018801_00018900018b00_00018c00018d01,
  0x00018e00019100_00019200019201_00019300019400_00019500019501_00019600019800_00019900019b01,
  0x00019c00019d00_00019e00019e01_00019f0001a000_0001a10001a101_0001a20001a200_0001a30001a301,
  0x0001a40001a400_0001a50001a501_0001a60001a700_0001a80001a801_0001a90001a900_0001aa0001ab01,
  0x0001ac0001ac00_0001ad0001ad01_0001ae0001af00_0001b00001b001_0001b10001b300_0001b40001b401,
  0x0001b50001b500_0001b60001b601_0001b70001b800_0001b90001ba01_0001bb0001bb04_0001bc0001bc00,
  0x0001bd0001bf01_0001c00001c304_0001c40001c400_0001c50001c502_0001c60001c601_0001c70001c700,
  0x0001c80001c802_0001c90001c901_0001ca0001ca00_0001cb0001cb02_0001cc0001cc01_0001cd0001cd00,
  0x0001ce0001ce01_0001cf0001cf00_0001d00001d001_0001d10001d100_0001d20001d201_0001d30001d300,
  0x0001d40001d401_0001d50001d500_0001d60001d601_0001d70001d700_0001d80001d801_0001d90001d900,
  0x0001da0001da01_0001db0001db00_0001dc0001dd01_0001de0001de00_0001df0001df01_0001e00001e000,
  0x0001e10001e101_0001e20001e200_0001e30001e301_0001e40001e400_0001e50001e501_0001e60001e600,
  0x0001e70001e701_0001e80001e800_0001e90001e901_0001ea0001ea00_0001eb0001eb01_0001ec0001ec00,
  0x0001ed0001ed01_0001ee0001ee00_0001ef0001f001_0001f10001f100_0001f20001f202_0001f30001f301,
  0x0001f40001f400_0001f50001f501_0001f60001f800_0001f90001f901_0001fa0001fa00_0001fb0001fb01,
  0x0001fc0001fc00_0001fd0001fd01_0001fe0001fe00_0001ff0001ff01_00020000020000_00020100020101,
  0x00020200020200_00020300020301_00020400020400_00020500020501_00020600020600_00020700020701,
  0x00020800020800_00020900020901_00020a00020a00_00020b00020b01_00020c00020c00_00020d00020d01,
  0x00020e00020e00_00020f00020f01_00021000021000_00021100021101_00021200021200_00021300021301,
  0x00021400021400_00021500021501_00021600021600_00021700021701_00021800021800_00021900021901,
  0x00021a00021a00_00021b00021b01_00021c00021c00_00021d00021d01_00021e00021e00_00021f00021f01,
  0x00022000022000_00022100022101_00022200022200_00022300022301_00022400022400_00022500022501,
  0x00022600022600_00022700022701_00022800022800_00022900022901_00022a00022a00_00022b00022b01,
  0x00022c00022c00_00022d00022d01_00022e00022e00_00022f00022f01_00023000023000_00023100023101,
  0x00023200023200_00023300023901_00023a00023b00_00023c00023c01_00023d00023e00_00023f00024001,
  0x00024100024100_00024200024201_00024300024600_00024700024701_00024800024800_00024900024901,
  0x00024a00024a00_00024b00024b01_00024c00024c00_00024d00024d01_00024e00024e00_00024f00029301,
  0x00029400029404_0002950002af01_0002b00002c103_0002c20002c514_0002c60002d103_0002d20002df14,
  0x0002e00002e403_0002e50002eb14_0002ec0002ec03_0002ed0002ed14_0002ee0002ee03_0002ef0002ff14,
  0x00030000036f05_00037000037000_00037100037101_00037200037200_00037300037301_00037400037403,
  0x00037500037514_00037600037600_00037700037701_00037a00037a03_00037b00037d01_00037e00037e11,
  0x00037f00037f00_00038400038514_00038600038600_00038700038711_00038800038a00_00038c00038c00,
  0x00038e00038f00_00039000039001_0003910003a100_0003a30003ab00_0003ac0003ce01_0003cf0003cf00,
  0x0003d00003d101_0003d20003d400_0003d50003d701_0003d80003d800_0003d90003d901_0003da0003da00,
  0x0003db0003db01_0003dc0003dc00_0003dd0003dd01_0003de0003de00_0003df0003df01_0003e00003e000,
  0x0003e10003e101_0003e20003e200_0003e30003e301_0003e40003e400_0003e50003e501_0003e60003e600,
  0x0003e70003e701_0003e80003e800_0003e90003e901_0003ea0003ea00_0003eb0003eb01_0003ec0003ec00,
  0x0003ed0003ed01_0003ee0003ee00_0003ef0003f301_0003f40003f400_0003f50003f501_0003f60003f612,
  0x0003f70003f700_0003f80003f801_0003f90003fa00_0003fb0003fc01_0003fd00042f00_00043000045f01,
  0x00046000046000_00046100046101_00046200046200_00046300046301_00046400046400_00046500046501,
  0x00046600046600_00046700046701_00046800046800_00046900046901_00046a00046a00_00046b00046b01,
  0x00046c00046c00_00046d00046d01_00046e00046e00_00046f00046f01_00047000047000_00047100047101,
  0x00047200047200_00047300047301_00047400047400_00047500047501_00047600047600_00047700047701,
  0x00047800047800_00047900047901_00047a00047a00_00047b00047b01_00047c00047c00_00047d00047d01,
  0x00047e00047e00_00047f00047f01_00048000048000_00048100048101_00048200048215_00048300048705,
  0x00048800048907_00048a00048a00_00048b00048b01_00048c00048c00_00048d00048d01_00048e00048e00,
  0x00048f00048f01_00049000049000_00049100049101_00049200049200_00049300049301_00049400049400,
  0x00049500049501_00049600049600_00049700049701_00049800049800_00049900049901_00049a00049a00,
  0x00049b00049b01_00049c00049c00_00049d00049d01_00049e00049e00_00049f00049f01_0004a00004a000,
  0x0004a10004a101_0004a20004a200_0004a30004a301_0004a40004a400_0004a50004a501_0004a60004a600,
  0x0004a70004a701_0004a80004a800_0004a90004a901_0004aa0004aa00_0004ab0004ab01_0004ac0004ac00,
  0x0004ad0004ad01_0004ae0004ae00_0004af0004af01_0004b00004b000_0004b10004b101_0004b20004b200,
  0x0004b30004b301_0004b40004b400_0004b50004b501_0004b60004b600_0004b70004b701_0004b80004b800,
  0x0004b90004b901_0004ba0004ba00_0004bb0004bb01_0004bc0004bc00_0004bd0004bd01_0004be0004be00,
  0x0004bf0004bf01_0004c00004c100_0004c20004c201_0004c30004c300_0004c40004c401_0004c50004c500,
  0x0004c60004c601_0004c70004c700_0004c80004c801_0004c90004c900_0004ca0004ca01_0004cb0004cb00,
  0x0004cc0004cc01_0004cd0004cd00_0004ce0004cf01_0004d00004d000_0004d10004d101_0004d20004d200,
  0x0004d30004d301_0004d40004d400_0004d50004d501_0004d60004d600_0004d70004d701_0004d80004d800,
  0x0004d90004d901_0004da0004da00_0004db0004db01_0004dc0004dc00_0004dd0004dd01_0004de0004de00,
  0x0004df0004df01_0004e00004e000_0004e10004e101_0004e20004e200_0004e30004e301_0004e40004e400,
  0x0004e50004e501_0004e60004e600_0004e70004e701_0004e80004e800_0004e90004e901_0004ea0004ea00,
  0x0004eb0004eb01_0004ec0004ec00_0004ed0004ed01_0004ee0004ee00_0004ef0004ef01_0004f00004f000,
  0x0004f10004f101_0004f20004f200_0004f30004f301_0004f40004f400_0004f50004f501_0004f60004f600,
  0x0004f70004f701_0004f80004f800_0004f90004f901_0004fa0004fa00_0004fb0004fb01_0004fc0004fc00,
  0x0004fd0004fd01_0004fe0004fe00_0004ff0004ff01_00050000050000_00050100050101_00050200050200,
  0x00050300050301_00050400050400_00050500050501_00050600050600_00050700050701_00050800050800,
  0x00050900050901_00050a00050a00_00050b00050b01_00050c00050c00_00050d00050d01_00050e00050e00,
  0x00050f00050f01_00051000051000_00051100051101_00051200051200_00051300051301_00051400051400,
  0x00051500051501_00051600051600_00051700051701_00051800051800_00051900051901_00051a00051a00,
  0x00051b00051b01_00051c00051c00_00051d00051d01_00051e00051e00_00051f00051f01_00052000052000,
  0x00052100052101_00052200052200_00052300052301_00052400052400_00052500052501_00052600052600,
  0x00052700052701_00052800052800_00052900052901_00052a00052a00_00052b00052b01_00052c00052c00,
  0x00052d00052d01_00052e00052e00_00052f00052f01_00053100055600_00055900055903_00055a00055f11,
  0x00056000058801_00058900058911_00058a00058a0c_00058d00058e15_00058f00058f13_0005910005bd05,
  0x0005be0005be0c_0005bf0005bf05_0005c00005c011_0005c10005c205_0005c30005c311_0005c40005c505,
  0x0005c60005c611_0005c70005c705_0005d00005ea04_0005ef0005f204_0005f30005f411_0006000006051a,
  0x00060600060812_00060900060a11_00060b00060b13_00060c00060d11_00060e00060f15_00061000061a05,
  0x00061b00061b11_00061c00061c1a_00061d00061f11_00062000063f04_00064000064003_00064100064a04,
  0x00064b00065f05_00066000066908_00066a00066d11_00066e00066f04_00067000067005_0006710006d304,
  0x0006d40006d411_0006d50006d504_0006d60006dc05_0006dd0006dd1a_0006de0006de15_0006df0006e405,
  0x0006e50006e603_0006e70006e805_0006e90006e915_0006ea0006ed05_0006ee0006ef04_0006f00006f908,
  0x0006fa0006fc04_0006fd0006fe15_0006ff0006ff04_00070000070d11_00070f00070f1a_00071000071004,
  0x00071100071105_00071200072f04_00073000074a05_00074d0007a504_0007a60007b005_0007b10007b104,
  0x0007c00007c908_0007ca0007ea04_0007eb0007f305_0007f40007f503_0007f60007f615_0007f70007f911,
  0x0007fa0007fa03_0007fd0007fd05_0007fe0007ff13_00080000081504_00081600081905_00081a00081a03,
  0x00081b00082305_00082400082403_00082500082705_00082800082803_00082900082d05_00083000083e11,
  0x00084000085804_00085900085b05_00085e00085e11_00086000086a04_00087000088704_00088800088814,
  0x00088900088e04_0008900008911a_00089700089f05_0008a00008c804_0008c90008c903_0008ca0008e105,
  0x0008e20008e21a_0008e300090205_00090300090306_00090400093904_00093a00093a05_00093b00093b06,
  0x00093c00093c05_00093d00093d04_00093e00094006_00094100094805_00094900094c06_00094d00094d05,
  0x00094e00094f06_00095000095004_00095100095705_00095800096104_00096200096305_00096400096511,
  0x00096600096f08_00097000097011_00097100097103_00097200098004_00098100098105_00098200098306,
  0x00098500098c04_00098f00099004_0009930009a804_0009aa0009b004_0009b20009b204_0009b60009b904,
  0x0009bc0009bc05_0009bd0009bd04_0009be0009c006_0009c10009c405_0009c70009c806_0009cb0009cc06,
  0x0009cd0009cd05_0009ce0009ce04_0009d70009d706_0009dc0009dd04_0009df0009e104_0009e20009e305,
  0x0009e60009ef08_0009f00009f104_0009f20009f313_0009f40009f90a_0009fa0009fa15_0009fb0009fb13,
  0x0009fc0009fc04_0009fd0009fd11_0009fe0009fe05_000a01000a0205_000a03000a0306_000a05000a0a04,
  0x000a0f000a1004_000a13000a2804_000a2a000a3004_000a32000a3304_000a35000a3604_000a38000a3904,
  0x000a3c000a3c05_000a3e000a4006_000a41000a4205_000a47000a4805_000a4b000a4d05_000a51000a5105,
  0x000a59000a5c04_000a5e000a5e04_000a66000a6f08_000a70000a7105_000a72000a7404_000a75000a7505,
  0x000a76000a7611_000a81000a8205_000a83000a8306_000a85000a8d04_000a8f000a9104_000a93000aa804,
  0x000aaa000ab004_000ab2000ab304_000ab5000ab904_000abc000abc05_000abd000abd04_000abe000ac006,
  0x000ac1000ac505_000ac7000ac805_000ac9000ac906_000acb000acc06_000acd000acd05_000ad0000ad004,
  0x000ae0000ae104_000ae2000ae305_000ae6000aef08_000af0000af011_000af1000af113_000af9000af904,
  0x000afa000aff05_000b01000b0105_000b02000b0306_000b05000b0c04_000b0f000b1004_000b13000b2804,
  0x000b2a000b3004_000b32000b3304_000b35000b3904_000b3c000b3c05_000b3d000b3d04_000b3e000b3e06,
  0x000b3f000b3f05_000b40000b4006_000b41000b4405_000b47000b4806_000b4b000b4c06_000b4d000b4d05,
  0x000b55000b5605_000b57000b5706_000b5c000b5d04_000b5f000b6104_000b62000b6305_000b66000b6f08,
  0x000b70000b7015_000b71000b7104_000b72000b770a_000b82000b8205_000b83000b8304_000b85000b8a04,
  0x000b8e000b9004_000b92000b9504_000b99000b9a04_000b9c000b9c04_000b9e000b9f04_000ba3000ba404,
  0x000ba8000baa04_000bae000bb904_000bbe000bbf06_000bc0000bc005_000bc1000bc206_000bc6000bc806,
  0x000bca000bcc06_000bcd000bcd05_000bd0000bd004_000bd7000bd706_000be6000bef08_000bf0000bf20a,
  0x000bf3000bf815_000bf9000bf913_000bfa000bfa15_000c00000c0005_000c01000c0306_000c04000c0405,
  0x000c05000c0c04_000c0e000c1004_000c12000c2804_000c2a000c3904_000c3c000c3c05_000c3d000c3d04,
  0x000c3e000c4005_000c41000c4406_000c46000c4805_000c4a000c4d05_000c55000c5605_000c58000c5a04,
  0x000c5d000c5d04_000c60000c6104_000c62000c6305_000c66000c6f08_000c77000c7711_000c78000c7e0a,
  0x000c7f000c7f15_000c80000c8004_000c81000c8105_000c82000c8306_000c84000c8411_000c85000c8c04,
  0x000c8e000c9004_000c92000ca804_000caa000cb304_000cb5000cb904_000cbc000cbc05_000cbd000cbd04,
  0x000cbe000cbe06_000cbf000cbf05_000cc0000cc406_000cc6000cc605_000cc7000cc806_000cca000ccb06,
  0x000ccc000ccd05_000cd5000cd606_000cdd000cde04_000ce0000ce104_000ce2000ce305_000ce6000cef08,
  0x000cf1000cf204_000cf3000cf306_000d00000d0105_000d02000d0306_000d04000d0c04_000d0e000d1004,
  0x000d12000d3a04_000d3b000d3c05_000d3d000d3d04_000d3e000d4006_000d41000d4405_000d46000d4806,
  0x000d4a000d4c06_000d4d000d4d05_000d4e000d4e04_000d4f000d4f15_000d54000d5604_000d57000d5706,
  0x000d58000d5e0a_000d5f000d6104_000d62000d6305_000d66000d6f08_000d70000d780a_000d79000d7915,
  0x000d7a000d7f04_000d81000d8105_000d82000d8306_000d85000d9604_000d9a000db104_000db3000dbb04,
  0x000dbd000dbd04_000dc0000dc604_000dca000dca05_000dcf000dd106_000dd2000dd405_000dd6000dd605,
  0x000dd8000ddf06_000de6000def08_000df2000df306_000df4000df411_000e01000e3004_000e31000e3105,
  0x000e32000e3304_000e34000e3a05_000e3f000e3f13_000e40000e4504_000e46000e4603_000e47000e4e05,
  0x000e4f000e4f11_000e50000e5908_000e5a000e5b11_000e81000e8204_000e84000e8404_000e86000e8a04,
  0x000e8c000ea304_000ea5000ea504_000ea7000eb004_000eb1000eb105_000eb2000eb304_000eb4000ebc05,
  0x000ebd000ebd04_000ec0000ec404_000ec6000ec603_000ec8000ece05_000ed0000ed908_000edc000edf04,
  0x000f00000f0004_000f01000f0315_000f04000f1211_000f13000f1315_000f14000f1411_000f15000f1715,
  0x000f18000f1905_000f1a000f1f15_000f20000f2908_000f2a000f330a_000f34000f3415_000f35000f3505,
  0x000f36000f3615_000f37000f3705_000f38000f3815_000f39000f3905_000f3a000f3a0d_000f3b000f3b0e,
  0x000f3c000f3c0d_000f3d000f3d0e_000f3e000f3f06_000f40000f4704_000f49000f6c04_000f71000f7e05,
  0x000f7f000f7f06_000f80000f8405_000f85000f8511_000f86000f8705_000f88000f8c04_000f8d000f9705,
  0x000f99000fbc05_000fbe000fc515_000fc6000fc605_000fc7000fcc15_000fce000fcf15_000fd0000fd411,
  0x000fd5000fd815_000fd9000fda11_00100000102a04_00102b00102c06_00102d00103005_00103100103106,
  0x00103200103705_00103800103806_00103900103a05_00103b00103c06_00103d00103e05_00103f00103f04,
  0x00104000104908_00104a00104f11_00105000105504_00105600105706_00105800105905_00105a00105d04,
  0x00105e00106005_00106100106104_00106200106406_00106500106604_00106700106d06_00106e00107004,
  0x00107100107405_00107500108104_00108200108205_00108300108406_00108500108605_00108700108c06,
  0x00108d00108d05_00108e00108e04_00108f00108f06_00109000109908_00109a00109c06_00109d00109d05,
  0x00109e00109f15_0010a00010c500_0010c70010c700_0010cd0010cd00_0010d00010fa01_0010fb0010fb11,
  0x0010fc0010fc03_0010fd0010ff01_00110000124804_00124a00124d04_00125000125604_00125800125804,
  0x00125a00125d04_00126000128804_00128a00128d04_0012900012b004_0012b20012b504_0012b80012be04,
  0x0012c00012c004_0012c20012c504_0012c80012d604_0012d800131004_00131200131504_00131800135a04,
  0x00135d00135f05_00136000136811_00136900137c0a_00138000138f04_00139000139915_0013a00013f500,
  0x0013f80013fd01_0014000014000c_00140100166c04_00166d00166d15_00166e00166e11_00166f00167f04,
  0x00168000168016_00168100169a04_00169b00169b0d_00169c00169c0e_0016a00016ea04_0016eb0016ed11,
  0x0016ee0016f009_0016f10016f804_00170000171104_00171200171405_00171500171506_00171f00173104,
  0x00173200173305_00173400173406_00173500173611_00174000175104_00175200175305_00176000176c04,
  0x00176e00177004_00177200177305_0017800017b304_0017b40017b505_0017b60017b606_0017b70017bd05,
  0x0017be0017c506_0017c60017c605_0017c70017c806_0017c90017d305_0017d40017d611_0017d70017d703,
  0x0017d80017da11_0017db0017db13_0017dc0017dc04_0017dd0017dd05_0017e00017e908_0017f00017f90a,
  0x00180000180511_0018060018060c_00180700180a11_00180b00180d05_00180e00180e1a_00180f00180f05,
  0x00181000181908_00182000184204_00184300184303_00184400187804_00188000188404_00188500188605,
  0x0018870018a804_0018a90018a905_0018aa0018aa04_0018b00018f504_00190000191e04_00192000192205,
  0x00192300192606_00192700192805_00192900192b06_00193000193106_00193200193205_00193300193806,
  0x00193900193b05_00194000194015_00194400194511_00194600194f08_00195000196d04_00197000197404,
  0x0019800019ab04_0019b00019c904_0019d00019d908_0019da0019da0a_0019de0019ff15_001a00001a1604,
  0x001a17001a1805_001a19001a1a06_001a1b001a1b05_001a1e001a1f11_001a20001a5404_001a55001a5506,
  0x001a56001a5605_001a57001a5706_001a58001a5e05_001a60001a6005_001a61001a6106_001a62001a6205,
  0x001a63001a6406_001a65001a6c05_001a6d001a7206_001a73001a7c05_001a7f001a7f05_001a80001a8908,
  0x001a90001a9908_001aa0001aa611_001aa7001aa703_001aa8001aad11_001ab0001abd05_001abe001abe07,
  0x001abf001ace05_001b00001b0305_001b04001b0406_001b05001b3304_001b34001b3405_001b35001b3506,
  0x001b36001b3a05_001b3b001b3b06_001b3c001b3c05_001b3d001b4106_001b42001b4205_001b43001b4406,
  0x001b45001b4c04_001b4e001b4f11_001b50001b5908_001b5a001b6011_001b61001b6a15_001b6b001b7305,
  0x001b74001b7c15_001b7d001b7f11_001b80001b8105_001b82001b8206_001b83001ba004_001ba1001ba106,
  0x001ba2001ba505_001ba6001ba706_001ba8001ba905_001baa001baa06_001bab001bad05_001bae001baf04,
  0x001bb0001bb908_001bba001be504_001be6001be605_001be7001be706_001be8001be905_001bea001bec06,
  0x001bed001bed05_001bee001bee06_001bef001bf105_001bf2001bf306_001bfc001bff11_001c00001c2304,
  0x001c24001c2b06_001c2c001c3305_001c34001c3506_001c36001c3705_001c3b001c3f11_001c40001c4908,
  0x001c4d001c4f04_001c50001c5908_001c5a001c7704_001c78001c7d03_001c7e001c7f11_001c80001c8801,
  0x001c89001c8900_001c8a001c8a01_001c90001cba00_001cbd001cbf00_001cc0001cc711_001cd0001cd205,
  0x001cd3001cd311_001cd4001ce005_001ce1001ce106_001ce2001ce805_001ce9001cec04_001ced001ced05,
  0x001cee001cf304_001cf4001cf405_001cf5001cf604_001cf7001cf706_001cf8001cf905_001cfa001cfa04,
  0x001d00001d2b01_001d2c001d6a03_001d6b001d7701_001d78001d7803_001d79001d9a01_001d9b001dbf03,
  0x001dc0001dff05_001e00001e0000_001e01001e0101_001e02001e0200_001e03001e0301_001e04001e0400,
  0x001e05001e0501_001e06001e0600_001e07001e0701_001e08001e0800_001e09001e0901_001e0a001e0a00,
  0x001e0b001e0b01_001e0c001e0c00_001e0d001e0d01_001e0e001e0e00_001e0f001e0f01_001e10001e1000,
  0x001e11001e1101_001e12001e1200_001e13001e1301_001e14001e1400_001e15001e1501_001e16001e1600,
  0x001e17001e1701_001e18001e1800_001e19001e1901_001e1a001e1a00_001e1b001e1b01_001e1c001e1c00,
  0x001e1d001e1d01_001e1e001e1e00_001e1f001e1f01_001e20001e2000_001e21001e2101_001e22001e2200,
  0x001e23001e2301_001e24001e2400_001e25001e2501_001e26001e2600_001e27001e2701_001e28001e2800,
  0x001e29001e2901_001e2a001e2a00_001e2b001e2b01_001e2c001e2c00_001e2d001e2d01_001e2e001e2e00,
  0x001e2f001e2f01_001e30001e3000_001e31001e3101_001e32001e3200_001e33001e3301_001e34001e3400,
  0x001e35001e3501_001e36001e3600_001e37001e3701_001e38001e3800_001e39001e3901_001e3a001e3a00,
  0x001e3b001e3b01_001e3c001e3c00_001e3d001e3d01_001e3e001e3e00_001e3f001e3f01_001e40001e4000,
  0x001e41001e4101_001e42001e4200_001e43001e4301_001e44001e4400_001e45001e4501_001e46001e4600,
  0x001e47001e4701_001e48001e4800_001e49001e4901_001e4a001e4a00_001e4b001e4b01_001e4c001e4c00,
  0x001e4d001e4d01_001e4e001e4e00_001e4f001e4f01_001e50001e5000_001e51001e5101_001e52001e5200,
  0x001e53001e5301_001e54001e5400_001e55001e5501_001e56001e5600_001e57001e5701_001e58001e5800,
  0x001e59001e5901_001e5a001e5a00_001e5b001e5b01_001e5c001e5c00_001e5d001e5d01_001e5e001e5e00,
  0x001e5f001e5f01_001e60001e6000_001e61001e6101_001e62001e6200_001e63001e6301_001e64001e6400,
  0x001e65001e6501_001e66001e6600_001e67001e6701_001e68001e6800_001e69001e6901_001e6a001e6a00,
  0x001e6b001e6b01_001e6c001e6c00_001e6d001e6d01_001e6e001e6e00_001e6f001e6f01_001e70001e7000,
  0x001e71001e7101_001e72001e7200_001e73001e7301_001e74001e7400_001e75001e7501_001e76001e7600,
  0x001e77001e7701_001e78001e7800_001e79001e7901_001e7a001e7a00_001e7b001e7b01_001e7c001e7c00,
  0x001e7d001e7d01_001e7e001e7e00_001e7f001e7f01_001e80001e8000_001e81001e8101_001e82001e8200,
  0x001e83001e8301_001e84001e8400_001e85001e8501_001e86001e8600_001e87001e8701_001e88001e8800,
  0x001e89001e8901_001e8a001e8a00_001e8b001e8b01_001e8c001e8c00_001e8d001e8d01_001e8e001e8e00,
  0x001e8f001e8f01_001e90001e9000_001e91001e9101_001e92001e9200_001e93001e9301_001e94001e9400,
  0x001e95001e9d01_001e9e001e9e00_001e9f001e9f01_001ea0001ea000_001ea1001ea101_001ea2001ea200,
  0x001ea3001ea301_001ea4001ea400_001ea5001ea501_001ea6001ea600_001ea7001ea701_001ea8001ea800,
  0x001ea9001ea901_001eaa001eaa00_001eab001eab01_001eac001eac00_001ead001ead01_001eae001eae00,
  0x001eaf001eaf01_001eb0001eb000_001eb1001eb101_001eb2001eb200_001eb3001eb301_001eb4001eb400,
  0x001eb5001eb501_001eb6001eb600_001eb7001eb701_001eb8001eb800_001eb9001eb901_001eba001eba00,
  0x001ebb001ebb01_001ebc001ebc00_001ebd001ebd01_001ebe001ebe00_001ebf001ebf01_001ec0001ec000,
  0x001ec1001ec101_001ec2001ec200_001ec3001ec301_001ec4001ec400_001ec5001ec501_001ec6001ec600,
  0x001ec7001ec701_001ec8001ec800_001ec9001ec901_001eca001eca00_001ecb001ecb01_001ecc001ecc00,
  0x001ecd001ecd01_001ece001ece00_001ecf001ecf01_001ed0001ed000_001ed1001ed101_001ed2001ed200,
  0x001ed3001ed301_001ed4001ed400_001ed5001ed501_001ed6001ed600_001ed7001ed701_001ed8001ed800,
  0x001ed9001ed901_001eda001eda00_001edb001edb01_001edc001edc00_001edd001edd01_001ede001ede00,
  0x001edf001edf01_001ee0001ee000_001ee1001ee101_001ee2001ee200_001ee3001ee301_001ee4001ee400,
  0x001ee5001ee501_001ee6001ee600_001ee7001ee701_001ee8001ee800_001ee9001ee901_001eea001eea00,
  0x001eeb001eeb01_001eec001eec00_001eed001eed01_001eee001eee00_001eef001eef01_001ef0001ef000,
  0x001ef1001ef101_001ef2001ef200_001ef3001ef301_001ef4001ef400_001ef5001ef501_001ef6001ef600,
  0x001ef7001ef701_001ef8001ef800_001ef9001ef901_001efa001efa00_001efb001efb01_001efc001efc00,
  0x001efd001efd01_001efe001efe00_001eff001f0701_001f08001f0f00_001f10001f1501_001f18001f1d00,
  0x001f20001f2701_001f28001f2f00_001f30001f3701_001f38001f3f00_001f40001f4501_001f48001f4d00,
  0x001f50001f5701_001f59001f5900_001f5b001f5b00_001f5d001f5d00_001f5f001f5f00_001f60001f6701,
  0x001f68001f6f00_001f70001f7d01_001f80001f8701_001f88001f8f02_001f90001f9701_001f98001f9f02,
  0x001fa0001fa701_001fa8001faf02_001fb0001fb401_001fb6001fb701_001fb8001fbb00_001fbc001fbc02,
  0x001fbd001fbd14_001fbe001fbe01_001fbf001fc114_001fc2001fc401_001fc6001fc701_001fc8001fcb00,
  0x001fcc001fcc02_001fcd001fcf14_001fd0001fd301_001fd6001fd701_001fd8001fdb00_001fdd001fdf14,
  0x001fe0001fe701_001fe8001fec00_001fed001fef14_001ff2001ff401_001ff6001ff701_001ff8001ffb00,
  0x001ffc001ffc02_001ffd001ffe14_00200000200a16_00200b00200f1a_0020100020150c_00201600201711,
  0x0020180020180f_00201900201910_00201a00201a0d_00201b00201c0f_00201d00201d10_00201e00201e0d,
  0x00201f00201f0f_00202000202711_00202800202817_00202900202918_00202a00202e1a_00202f00202f16,
  0x00203000203811_0020390020390f_00203a00203a10_00203b00203e11_00203f0020400b_00204100204311,
  0x00204400204412_0020450020450d_0020460020460e_00204700205111_00205200205212_00205300205311,
  0x0020540020540b_00205500205e11_00205f00205f16_0020600020641a_00206600206f1a_0020700020700a,
  0x00207100207103_0020740020790a_00207a00207c12_00207d00207d0d_00207e00207e0e_00207f00207f03,
  0x0020800020890a_00208a00208c12_00208d00208d0d_00208e00208e0e_00209000209c03_0020a00020c013,
  0x0020d00020dc05_0020dd0020e007_0020e10020e105_0020e20020e407_0020e50020f005_00210000210115,
  0x00210200210200_00210300210615_00210700210700_00210800210915_00210a00210a01_00210b00210d00,
  0x00210e00210f01_00211000211200_00211300211301_00211400211415_00211500211500_00211600211715,
  0x00211800211812_00211900211d00_00211e00212315_00212400212400_00212500212515_00212600212600,
  0x00212700212715_00212800212800_00212900212915_00212a00212d00_00212e00212e15_00212f00212f01,
  0x00213000213300_00213400213401_00213500213804_00213900213901_00213a00213b15_00213c00213d01,
  0x00213e00213f00_00214000214412_00214500214500_00214600214901_00214a00214a15_00214b00214b12,
  0x00214c00214d15_00214e00214e01_00214f00214f15_00215000215f0a_00216000218209_00218300218300,
  0x00218400218401_00218500218809_0021890021890a_00218a00218b15_00219000219412_00219500219915,
  0x00219a00219b12_00219c00219f15_0021a00021a012_0021a10021a215_0021a30021a312_0021a40021a515,
  0x0021a60021a612_0021a70021ad15_0021ae0021ae12_0021af0021cd15_0021ce0021cf12_0021d00021d115,
  0x0021d20021d212_0021d30021d315_0021d40021d412_0021d50021f315_0021f40022ff12_00230000230715,
  0x0023080023080d_0023090023090e_00230a00230a0d_00230b00230b0e_00230c00231f15_00232000232112,
  0x00232200232815_0023290023290d_00232a00232a0e_00232b00237b15_00237c00237c12_00237d00239a15,
  0x00239b0023b312_0023b40023db15_0023dc0023e112_0023e200242915_00244000244a15_00246000249b0a,
  0x00249c0024e915_0024ea0024ff0a_0025000025b615_0025b70025b712_0025b80025c015_0025c10025c112,
  0x0025c20025f715_0025f80025ff12_00260000266e15_00266f00266f12_00267000276715_0027680027680d,
  0x0027690027690e_00276a00276a0d_00276b00276b0e_00276c00276c0d_00276d00276d0e_00276e00276e0d,
  0x00276f00276f0e_0027700027700d_0027710027710e_0027720027720d_0027730027730e_0027740027740d,
  0x0027750027750e_0027760027930a_0027940027bf15_0027c00027c412_0027c50027c50d_0027c60027c60e,
  0x0027c70027e512_0027e60027e60d_0027e70027e70e_0027e80027e80d_0027e90027e90e_0027ea0027ea0d,
  0x0027eb0027eb0e_0027ec0027ec0d_0027ed0027ed0e_0027ee0027ee0d_0027ef0027ef0e_0027f00027ff12,
  0x0028000028ff15_00290000298212_0029830029830d_0029840029840e_0029850029850d_0029860029860e,
  0x0029870029870d_0029880029880e_0029890029890d_00298a00298a0e_00298b00298b0d_00298c00298c0e,
  0x00298d00298d0d_00298e00298e0e_00298f00298f0d_0029900029900e_0029910029910d_0029920029920e,
  0x0029930029930d_0029940029940e_0029950029950d_0029960029960e_0029970029970d_0029980029980e,
  0x0029990029d712_0029d80029d80d_0029d90029d90e_0029da0029da0d_0029db0029db0e_0029dc0029fb12,
  0x0029fc0029fc0d_0029fd0029fd0e_0029fe002aff12_002b00002b2f15_002b30002b4412_002b45002b4615,
  0x002b47002b4c12_002b4d002b7315_002b76002b9515_002b97002bff15_002c00002c2f00_002c30002c5f01,
  0x002c60002c6000_002c61002c6101_002c62002c6400_002c65002c6601_002c67002c6700_002c68002c6801,
  0x002c69002c6900_002c6a002c6a01_002c6b002c6b00_002c6c002c6c01_002c6d002c7000_002c71002c7101,
  0x002c72002c7200_002c73002c7401_002c75002c7500_002c76002c7b01_002c7c002c7d03_002c7e002c8000,
  0x002c81002c8101_002c82002c8200_002c83002c8301_002c84002c8400_002c85002c8501_002c86002c8600,
  0x002c87002c8701_002c88002c8800_002c89002c8901_002c8a002c8a00_002c8b002c8b01_002c8c002c8c00,
  0x002c8d002c8d01_002c8e002c8e00_002c8f002c8f01_002c90002c9000_002c91002c9101_002c92002c9200,
  0x002c93002c9301_002c94002c9400_002c95002c9501_002c96002c9600_002c97002c9701_002c98002c9800,
  0x002c99002c9901_002c9a002c9a00_002c9b002c9b01_002c9c002c9c00_002c9d002c9d01_002c9e002c9e00,
  0x002c9f002c9f01_002ca0002ca000_002ca1002ca101_002ca2002ca200_002ca3002ca301_002ca4002ca400,
  0x002ca5002ca501_002ca6002ca600_002ca7002ca701_002ca8002ca800_002ca9002ca901_002caa002caa00,
  0x002cab002cab01_002cac002cac00_002cad002cad01_002cae002cae00_002caf002caf01_002cb0002cb000,
  0x002cb1002cb101_002cb2002cb200_002cb3002cb301_002cb4002cb400_002cb5002cb501_002cb6002cb600,
  0x002cb7002cb701_002cb8002cb800_002cb9002cb901_002cba002cba00_002cbb002cbb01_002cbc002cbc00,
  0x002cbd002cbd01_002cbe002cbe00_002cbf002cbf01_002cc0002cc000_002cc1002cc101_002cc2002cc200,
  0x002cc3002cc301_002cc4002cc400_002cc5002cc501_002cc6002cc600_002cc7002cc701_002cc8002cc800,
  0x002cc9002cc901_002cca002cca00_002ccb002ccb01_002ccc002ccc00_002ccd002ccd01_002cce002cce00,
  0x002ccf002ccf01_002cd0002cd000_002cd1002cd101_002cd2002cd200_002cd3002cd301_002cd4002cd400,
  0x002cd5002cd501_002cd6002cd600_002cd7002cd701_002cd8002cd800_002cd9002cd901_002cda002cda00,
  0x002cdb002cdb01_002cdc002cdc00_002cdd002cdd01_002cde002cde00_002cdf002cdf01_002ce0002ce000,
  0x002ce1002ce101_002ce2002ce200_002ce3002ce401_002ce5002cea15_002ceb002ceb00_002cec002cec01,
  0x002ced002ced00_002cee002cee01_002cef002cf105_002cf2002cf200_002cf3002cf301_002cf9002cfc11,
  0x002cfd002cfd0a_002cfe002cff11_002d00002d2501_002d27002d2701_002d2d002d2d01_002d30002d6704,
  0x002d6f002d6f03_002d70002d7011_002d7f002d7f05_002d80002d9604_002da0002da604_002da8002dae04,
  0x002db0002db604_002db8002dbe04_002dc0002dc604_002dc8002dce04_002dd0002dd604_002dd8002dde04,
  0x002de0002dff05_002e00002e0111_002e02002e020f_002e03002e0310_002e04002e040f_002e05002e0510,
  0x002e06002e0811_002e09002e090f_002e0a002e0a10_002e0b002e0b11_002e0c002e0c0f_002e0d002e0d10,
  0x002e0e002e1611_002e17002e170c_002e18002e1911_002e1a002e1a0c_002e1b002e1b11_002e1c002e1c0f,
  0x002e1d002e1d10_002e1e002e1f11_002e20002e200f_002e21002e2110_002e22002e220d_002e23002e230e,
  0x002e24002e240d_002e25002e250e_002e26002e260d_002e27002e270e_002e28002e280d_002e29002e290e,
  0x002e2a002e2e11_002e2f002e2f03_002e30002e3911_002e3a002e3b0c_002e3c002e3f11_002e40002e400c,
  0x002e41002e4111_002e42002e420d_002e43002e4f11_002e50002e5115_002e52002e5411_002e55002e550d,
  0x002e56002e560e_002e57002e570d_002e58002e580e_002e59002e590d_002e5a002e5a0e_002e5b002e5b0d,
  0x002e5c002e5c0e_002e5d002e5d0c_002e80002e9915_002e9b002ef315_002f00002fd515_002ff0002fff15,
  0x00300000300016_00300100300311_00300400300415_00300500300503_00300600300604_00300700300709,
  0x0030080030080d_0030090030090e_00300a00300a0d_00300b00300b0e_00300c00300c0d_00300d00300d0e,
  0x00300e00300e0d_00300f00300f0e_0030100030100d_0030110030110e_00301200301315_0030140030140d,
  0x0030150030150e_0030160030160d_0030170030170e_0030180030180d_0030190030190e_00301a00301a0d,
  0x00301b00301b0e_00301c00301c0c_00301d00301d0d_00301e00301f0e_00302000302015_00302100302909,
  0x00302a00302d05_00302e00302f06_0030300030300c_00303100303503_00303600303715_00303800303a09,
  0x00303b00303b03_00303c00303c04_00303d00303d11_00303e00303f15_00304100309604_00309900309a05,
  0x00309b00309c14_00309d00309e03_00309f00309f04_0030a00030a00c_0030a10030fa04_0030fb0030fb11,
  0x0030fc0030fe03_0030ff0030ff04_00310500312f04_00313100318e04_00319000319115_0031920031950a,
  0x00319600319f15_0031a00031bf04_0031c00031e515_0031ef0031ef15_0031f00031ff04_00320000321e15,
  0x0032200032290a_00322a00324715_00324800324f0a_00325000325015_00325100325f0a_00326000327f15,
  0x0032800032890a_00328a0032b015_0032b10032bf0a_0032c00033ff15_003400004dbf04_004dc0004dff15,
  0x004e0000a01404_00a01500a01503_00a01600a48c04_00a49000a4c615_00a4d000a4f704_00a4f800a4fd03,
  0x00a4fe00a4ff11_00a50000a60b04_00a60c00a60c03_00a60d00a60f11_00a61000a61f04_00a62000a62908,
  0x00a62a00a62b04_00a64000a64000_00a64100a64101_00a64200a64200_00a64300a64301_00a64400a64400,
  0x00a64500a64501_00a64600a64600_00a64700a64701_00a64800a64800_00a64900a64901_00a64a00a64a00,
  0x00a64b00a64b01_00a64c00a64c00_00a64d00a64d01_00a64e00a64e00_00a64f00a64f01_00a65000a65000,
  0x00a65100a65101_00a65200a65200_00a65300a65301_00a65400a65400_00a65500a65501_00a65600a65600,
  0x00a65700a65701_00a65800a65800_00a65900a65901_00a65a00a65a00_00a65b00a65b01_00a65c00a65c00,
  0x00a65d00a65d01_00a65e00a65e00_00a65f00a65f01_00a66000a66000_00a66100a66101_00a66200a66200,
  0x00a66300a66301_00a66400a66400_00a66500a66501_00a66600a66600_00a66700a66701_00a66800a66800,
  0x00a66900a66901_00a66a00a66a00_00a66b00a66b01_00a66c00a66c00_00a66d00a66d01_00a66e00a66e04,
  0x00a66f00a66f05_00a67000a67207_00a67300a67311_00a67400a67d05_00a67e00a67e11_00a67f00a67f03,
  0x00a68000a68000_00a68100a68101_00a68200a68200_00a68300a68301_00a68400a68400_00a68500a68501,
  0x00a68600a68600_00a68700a68701_00a68800a68800_00a68900a68901_00a68a00a68a00_00a68b00a68b01,
  0x00a68c00a68c00_00a68d00a68d01_00a68e00a68e00_00a68f00a68f01_00a69000a69000_00a69100a69101,
  0x00a69200a69200_00a69300a69301_00a69400a69400_00a69500a69501_00a69600a69600_00a69700a69701,
  0x00a69800a69800_00a69900a69901_00a69a00a69a00_00a69b00a69b01_00a69c00a69d03_00a69e00a69f05,
  0x00a6a000a6e504_00a6e600a6ef09_00a6f000a6f105_00a6f200a6f711_00a70000a71614_00a71700a71f03,
  0x00a72000a72114_00a72200a72200_00a72300a72301_00a72400a72400_00a72500a72501_00a72600a72600,
  0x00a72700a72701_00a72800a72800_00a72900a72901_00a72a00a72a00_00a72b00a72b01_00a72c00a72c00,
  0x00a72d00a72d01_00a72e00a72e00_00a72f00a73101_00a73200a73200_00a73300a73301_00a73400a73400,
  0x00a73500a73501_00a73600a73600_00a73700a73701_00a73800a73800_00a73900a73901_00a73a00a73a00,
  0x00a73b00a73b01_00a73c00a73c00_00a73d00a73d01_00a73e00a73e00_00a73f00a73f01_00a74000a74000,
  0x00a74100a74101_00a74200a74200_00a74300a74301_00a74400a74400_00a74500a74501_00a74600a74600,
  0x00a74700a74701_00a74800a74800_00a74900a74901_00a74a00a74a00_00a74b00a74b01_00a74c00a74c00,
  0x00a74d00a74d01_00a74e00a74e00_00a74f00a74f01_00a75000a75000_00a75100a75101_00a75200a75200,
  0x00a75300a75301_00a75400a75400_00a75500a75501_00a75600a75600_00a75700a75701_00a75800a75800,
  0x00a75900a75901_00a75a00a75a00_00a75b00a75b01_00a75c00a75c00_00a75d00a75d01_00a75e00a75e00,
  0x00a75f00a75f01_00a76000a76000_00a76100a76101_00a76200a76200_00a76300a76301_00a76400a76400,
  0x00a76500a76501_00a76600a76600_00a76700a76701_00a76800a76800_00a76900a76901_00a76a00a76a00,
  0x00a76b00a76b01_00a76c00a76c00_00a76d00a76d01_00a76e00a76e00_00a76f00a76f01_00a77000a77003,
  0x00a77100a77801_00a77900a77900_00a77a00a77a01_00a77b00a77b00_00a77c00a77c01_00a77d00a77e00,
  0x00a77f00a77f01_00a78000a78000_00a78100a78101_00a78200a78200_00a78300a78301_00a78400a78400,
  0x00a78500a78501_00a78600a78600_00a78700a78701_00a78800a78803_00a78900a78a14_00a78b00a78b00,
  0x00a78c00a78c01_00a78d00a78d00_00a78e00a78e01_00a78f00a78f04_00a79000a79000_00a79100a79101,
  0x00a79200a79200_00a79300a79501_00a79600a79600_00a79700a79701_00a79800a79800_00a79900a79901,
  0x00a79a00a79a00_00a79b00a79b01_00a79c00a79c00_00a79d00a79d01_00a79e00a79e00_00a79f00a79f01,
  0x00a7a000a7a000_00a7a100a7a101_00a7a200a7a200_00a7a300a7a301_00a7a400a7a400_00a7a500a7a501,
  0x00a7a600a7a600_00a7a700a7a701_00a7a800a7a800_00a7a900a7a901_00a7aa00a7ae00_00a7af00a7af01,
  0x00a7b000a7b400_00a7b500a7b501_00a7b600a7b600_00a7b700a7b701_00a7b800a7b800_00a7b900a7b901,
  0x00a7ba00a7ba00_00a7bb00a7bb01_00a7bc00a7bc00_00a7bd00a7bd01_00a7be00a7be00_00a7bf00a7bf01,
  0x00a7c000a7c000_00a7c100a7c101_00a7c200a7c200_00a7c300a7c301_00a7c400a7c700_00a7c800a7c801,
  0x00a7c900a7c900_00a7ca00a7ca01_00a7cb00a7cc00_00a7cd00a7cd01_00a7d000a7d000_00a7d100a7d101,
  0x00a7d300a7d301_00a7d500a7d501_00a7d600a7d600_00a7d700a7d701_00a7d800a7d800_00a7d900a7d901,
  0x00a7da00a7da00_00a7db00a7db01_00a7dc00a7dc00_00a7f200a7f403_00a7f500a7f500_00a7f600a7f601,
  0x00a7f700a7f704_00a7f800a7f903_00a7fa00a7fa01_00a7fb00a80104_00a80200a80205_00a80300a80504,
  0x00a80600a80605_00a80700a80a04_00a80b00a80b05_00a80c00a82204_00a82300a82406_00a82500a82605,
  0x00a82700a82706_00a82800a82b15_00a82c00a82c05_00a83000a8350a_00a83600a83715_00a83800a83813,
  0x00a83900a83915_00a84000a87304_00a87400a87711_00a88000a88106_00a88200a8b304_00a8b400a8c306,
  0x00a8c400a8c505_00a8ce00a8cf11_00a8d000a8d908_00a8e000a8f105_00a8f200a8f704_00a8f800a8fa11,
  0x00a8fb00a8fb04_00a8fc00a8fc11_00a8fd00a8fe04_00a8ff00a8ff05_00a90000a90908_00a90a00a92504,
  0x00a92600a92d05_00a92e00a92f11_00a93000a94604_00a94700a95105_00a95200a95306_00a95f00a95f11,
  0x00a96000a97c04_00a98000a98205_00a98300a98306_00a98400a9b204_00a9b300a9b305_00a9b400a9b506,
  0x00a9b600a9b905_00a9ba00a9bb06_00a9bc00a9bd05_00a9be00a9c006_00a9c100a9cd11_00a9cf00a9cf03,
  0x00a9d000a9d908_00a9de00a9df11_00a9e000a9e404_00a9e500a9e505_00a9e600a9e603_00a9e700a9ef04,
  0x00a9f000a9f908_00a9fa00a9fe04_00aa0000aa2804_00aa2900aa2e05_00aa2f00aa3006_00aa3100aa3205,
  0x00aa3300aa3406_00aa3500aa3605_00aa4000aa4204_00aa4300aa4305_00aa4400aa4b04_00aa4c00aa4c05,
  0x00aa4d00aa4d06_00aa5000aa5908_00aa5c00aa5f11_00aa6000aa6f04_00aa7000aa7003_00aa7100aa7604,
  0x00aa7700aa7915_00aa7a00aa7a04_00aa7b00aa7b06_00aa7c00aa7c05_00aa7d00aa7d06_00aa7e00aaaf04,
  0x00aab000aab005_00aab100aab104_00aab200aab405_00aab500aab604_00aab700aab805_00aab900aabd04,
  0x00aabe00aabf05_00aac000aac004_00aac100aac105_00aac200aac204_00aadb00aadc04_00aadd00aadd03,
  0x00aade00aadf11_00aae000aaea04_00aaeb00aaeb06_00aaec00aaed05_00aaee00aaef06_00aaf000aaf111,
  0x00aaf200aaf204_00aaf300aaf403_00aaf500aaf506_00aaf600aaf605_00ab0100ab0604_00ab0900ab0e04,
  0x00ab1100ab1604_00ab2000ab2604_00ab2800ab2e04_00ab3000ab5a01_00ab5b00ab5b14_00ab5c00ab5f03,
  0x00ab6000ab6801_00ab6900ab6903_00ab6a00ab6b14_00ab7000abbf01_00abc000abe204_00abe300abe406,
  0x00abe500abe505_00abe600abe706_00abe800abe805_00abe900abea06_00abeb00abeb11_00abec00abec06,
  0x00abed00abed05_00abf000abf908_00ac0000d7a304_00d7b000d7c604_00d7cb00d7fb04_00d80000dfff1b,
  0x00e00000f8ff1c_00f90000fa6d04_00fa7000fad904_00fb0000fb0601_00fb1300fb1701_00fb1d00fb1d04,
  0x00fb1e00fb1e05_00fb1f00fb2804_00fb2900fb2912_00fb2a00fb3604_00fb3800fb3c04_00fb3e00fb3e04,
  0x00fb4000fb4104_00fb4300fb4404_00fb4600fbb104_00fbb200fbc214_00fbd300fd3d04_00fd3e00fd3e0e,
  0x00fd3f00fd3f0d_00fd4000fd4f15_00fd5000fd8f04_00fd9200fdc704_00fdcf00fdcf15_00fdf000fdfb04,
  0x00fdfc00fdfc13_00fdfd00fdff15_00fe0000fe0f05_00fe1000fe1611_00fe1700fe170d_00fe1800fe180e,
  0x00fe1900fe1911_00fe2000fe2f05_00fe3000fe3011_00fe3100fe320c_00fe3300fe340b_00fe3500fe350d,
  0x00fe3600fe360e_00fe3700fe370d_00fe3800fe380e_00fe3900fe390d_00fe3a00fe3a0e_00fe3b00fe3b0d,
  0x00fe3c00fe3c0e_00fe3d00fe3d0d_00fe3e00fe3e0e_00fe3f00fe3f0d_00fe4000fe400e_00fe4100fe410d,
  0x00fe4200fe420e_00fe4300fe430d_00fe4400fe440e_00fe4500fe4611_00fe4700fe470d_00fe4800fe480e,
  0x00fe4900fe4c11_00fe4d00fe4f0b_00fe5000fe5211_00fe5400fe5711_00fe5800fe580c_00fe5900fe590d,
  0x00fe5a00fe5a0e_00fe5b00fe5b0d_00fe5c00fe5c0e_00fe5d00fe5d0d_00fe5e00fe5e0e_00fe5f00fe6111,
  0x00fe6200fe6212_00fe6300fe630c_00fe6400fe6612_00fe6800fe6811_00fe6900fe6913_00fe6a00fe6b11,
  0x00fe7000fe7404_00fe7600fefc04_00feff00feff1a_00ff0100ff0311_00ff0400ff0413_00ff0500ff0711,
  0x00ff0800ff080d_00ff0900ff090e_00ff0a00ff0a11_00ff0b00ff0b12_00ff0c00ff0c11_00ff0d00ff0d0c,
  0x00ff0e00ff0f11_00ff1000ff1908_00ff1a00ff1b11_00ff1c00ff1e12_00ff1f00ff2011_00ff2100ff3a00,
  0x00ff3b00ff3b0d_00ff3c00ff3c11_00ff3d00ff3d0e_00ff3e00ff3e14_00ff3f00ff3f0b_00ff4000ff4014,
  0x00ff4100ff5a01_00ff5b00ff5b0d_00ff5c00ff5c12_00ff5d00ff5d0e_00ff5e00ff5e12_00ff5f00ff5f0d,
  0x00ff6000ff600e_00ff6100ff6111_00ff6200ff620d_00ff6300ff630e_00ff6400ff6511_00ff6600ff6f04,
  0x00ff7000ff7003_00ff7100ff9d04_00ff9e00ff9f03_00ffa000ffbe04_00ffc200ffc704_00ffca00ffcf04,
  0x00ffd200ffd704_00ffda00ffdc04_00ffe000ffe113_00ffe200ffe212_00ffe300ffe314_00ffe400ffe415,
  0x00ffe500ffe613_00ffe800ffe815_00ffe900ffec12_00ffed00ffee15_00fff900fffb1a_00fffc00fffd15,
  0x01000001000b04_01000d01002604_01002801003a04_01003c01003d04_01003f01004d04_01005001005d04,
  0x0100800100fa04_01010001010211_0101070101330a_01013701013f15_01014001017409_0101750101780a,
  0x01017901018915_01018a01018b0a_01018c01018e15_01019001019c15_0101a00101a015_0101d00101fc15,
  0x0101fd0101fd05_01028001029c04_0102a00102d004_0102e00102e005_0102e10102fb0a_01030001031f04,
  0x0103200103230a_01032d01034004_01034101034109_01034201034904_01034a01034a09_01035001037504,
  0x01037601037a05_01038001039d04_01039f01039f11_0103a00103c304_0103c80103cf04_0103d00103d011,
  0x0103d10103d509_01040001042700_01042801044f01_01045001049d04_0104a00104a908_0104b00104d300,
  0x0104d80104fb01_01050001052704_01053001056304_01056f01056f11_01057001057a00_01057c01058a00,
  0x01058c01059200_01059401059500_0105970105a101_0105a30105b101_0105b30105b901_0105bb0105bc01,
  0x0105c00105f304_01060001073604_01074001075504_01076001076704_01078001078503_0107870107b003,
  0x0107b20107ba03_01080001080504_01080801080804_01080a01083504_01083701083804_01083c01083c04,
  0x01083f01085504_01085701085711_01085801085f0a_01086001087604_01087701087815_01087901087f0a,
  0x01088001089e04_0108a70108af0a_0108e00108f204_0108f40108f504_0108fb0108ff0a_01090001091504,
  0x01091601091b0a_01091f01091f11_01092001093904_01093f01093f11_0109800109b704_0109bc0109bd0a,
  0x0109be0109bf04_0109c00109cf0a_0109d20109ff0a_010a00010a0004_010a01010a0305_010a05010a0605,
  0x010a0c010a0f05_010a10010a1304_010a15010a1704_010a19010a3504_010a38010a3a05_010a3f010a3f05,
  0x010a40010a480a_010a50010a5811_010a60010a7c04_010a7d010a7e0a_010a7f010a7f11_010a80010a9c04,
  0x010a9d010a9f0a_010ac0010ac704_010ac8010ac815_010ac9010ae404_010ae5010ae605_010aeb010aef0a,
  0x010af0010af611_010b00010b3504_010b39010b3f11_010b40010b5504_010b58010b5f0a_010b60010b7204,
  0x010b78010b7f0a_010b80010b9104_010b99010b9c11_010ba9010baf0a_010c00010c4804_010c80010cb200,
  0x010cc0010cf201_010cfa010cff0a_010d00010d2304_010d24010d2705_010d30010d3908_010d40010d4908,
  0x010d4a010d4d04_010d4e010d4e03_010d4f010d4f04_010d50010d6500_010d69010d6d05_010d6e010d6e0c,
  0x010d6f010d6f03_010d70010d8501_010d8e010d8f12_010e60010e7e0a_010e80010ea904_010eab010eac05,
  0x010ead010ead0c_010eb0010eb104_010ec2010ec404_010efc010eff05_010f00010f1c04_010f1d010f260a,
  0x010f27010f2704_010f30010f4504_010f46010f5005_010f51010f540a_010f55010f5911_010f70010f8104,
  0x010f82010f8505_010f86010f8911_010fb0010fc404_010fc5010fcb0a_010fe0010ff604_01100001100006,
  0x01100101100105_01100201100206_01100301103704_01103801104605_01104701104d11_0110520110650a,
  0x01106601106f08_01107001107005_01107101107204_01107301107405_01107501107504_01107f01108105,
  0x01108201108206_0110830110af04_0110b00110b206_0110b30110b605_0110b70110b806_0110b90110ba05,
  0x0110bb0110bc11_0110bd0110bd1a_0110be0110c111_0110c20110c205_0110cd0110cd1a_0110d00110e804,
  0x0110f00110f908_01110001110205_01110301112604_01112701112b05_01112c01112c06_01112d01113405,
  0x01113601113f08_01114001114311_01114401114404_01114501114606_01114701114704_01115001117204,
  0x01117301117305_01117401117511_01117601117604_01118001118105_01118201118206_0111830111b204,
  0x0111b30111b506_0111b60111be05_0111bf0111c006_0111c10111c404_0111c50111c811_0111c90111cc05,
  0x0111cd0111cd11_0111ce0111ce06_0111cf0111cf05_0111d00111d908_0111da0111da04_0111db0111db11,
  0x0111dc0111dc04_0111dd0111df11_0111e10111f40a_01120001121104_01121301122b04_01122c01122e06,
  0x01122f01123105_01123201123306_01123401123405_01123501123506_01123601123705_01123801123d11,
  0x01123e01123e05_01123f01124004_01124101124105_01128001128604_01128801128804_01128a01128d04,
  0x01128f01129d04_01129f0112a804_0112a90112a911_0112b00112de04_0112df0112df05_0112e00112e206,
  0x0112e30112ea05_0112f00112f908_01130001130105_01130201130306_01130501130c04_01130f01131004,
  0x01131301132804_01132a01133004_01133201133304_01133501133904_01133b01133c05_01133d01133d04,
  0x01133e01133f06_01134001134005_01134101134406_01134701134806_01134b01134d06_01135001135004,
  0x01135701135706_01135d01136104_01136201136306_01136601136c05_01137001137405_01138001138904,
  0x01138b01138b04_01138e01138e04_0113900113b504_0113b70113b704_0113b80113ba06_0113bb0113c005,
  0x0113c20113c206_0113c50113c506_0113c70113ca06_0113cc0113cd06_0113ce0113ce05_0113cf0113cf06,
  0x0113d00113d005_0113d10113d104_0113d20113d205_0113d30113d304_0113d40113d511_0113d70113d811,
  0x0113e10113e205_01140001143404_01143501143706_01143801143f05_01144001144106_01144201144405,
  0x01144501144506_01144601144605_01144701144a04_01144b01144f11_01145001145908_01145a01145b11,
  0x01145d01145d11_01145e01145e05_01145f01146104_0114800114af04_0114b00114b206_0114b30114b805,
  0x0114b90114b906_0114ba0114ba05_0114bb0114be06_0114bf0114c005_0114c10114c106_0114c20114c305,
  0x0114c40114c504_0114c60114c611_0114c70114c704_0114d00114d908_0115800115ae04_0115af0115b106,
  0x0115b20115b505_0115b80115bb06_0115bc0115bd05_0115be0115be06_0115bf0115c005_0115c10115d711,
  0x0115d80115db04_0115dc0115dd05_01160001162f04_01163001163206_01163301163a05_01163b01163c06,
  0x01163d01163d05_01163e01163e06_01163f01164005_01164101164311_01164401164404_01165001165908,
  0x01166001166c11_0116800116aa04_0116ab0116ab05_0116ac0116ac06_0116ad0116ad05_0116ae0116af06,
  0x0116b00116b505_0116b60116b606_0116b70116b705_0116b80116b804_0116b90116b911_0116c00116c908,
  0x0116d00116e308_01170001171a04_01171d01171d05_01171e01171e06_01171f01171f05_01172001172106,
  0x01172201172505_01172601172606_01172701172b05_01173001173908_01173a01173b0a_01173c01173e11,
  0x01173f01173f15_01174001174604_01180001182b04_01182c01182e06_01182f01183705_01183801183806,
  0x01183901183a05_01183b01183b11_0118a00118bf00_0118c00118df01_0118e00118e908_0118ea0118f20a,
  0x0118ff01190604_01190901190904_01190c01191304_01191501191604_01191801192f04_01193001193506,
  0x01193701193806_01193b01193c05_01193d01193d06_01193e01193e05_01193f01193f04_01194001194006,
  0x01194101194104_01194201194206_01194301194305_01194401194611_01195001195908_0119a00119a704,
  0x0119aa0119d004_0119d10119d306_0119d40119d705_0119da0119db05_0119dc0119df06_0119e00119e005,
  0x0119e10119e104_0119e20119e211_0119e30119e304_0119e40119e406_011a00011a0004_011a01011a0a05,
  0x011a0b011a3204_011a33011a3805_011a39011a3906_011a3a011a3a04_011a3b011a3e05_011a3f011a4611,
  0x011a47011a4705_011a50011a5004_011a51011a5605_011a57011a5806_011a59011a5b05_011a5c011a8904,
  0x011a8a011a9605_011a97011a9706_011a98011a9905_011a9a011a9c11_011a9d011a9d04_011a9e011aa211,
  0x011ab0011af804_011b00011b0911_011bc0011be004_011be1011be111_011bf0011bf908_011c00011c0804,
  0x011c0a011c2e04_011c2f011c2f06_011c30011c3605_011c38011c3d05_011c3e011c3e06_011c3f011c3f05,
  0x011c40011c4004_011c41011c4511_011c50011c5908_011c5a011c6c0a_011c70011c7111_011c72011c8f04,
  0x011c92011ca705_011ca9011ca906_011caa011cb005_011cb1011cb106_011cb2011cb305_011cb4011cb406,
  0x011cb5011cb605_011d00011d0604_011d08011d0904_011d0b011d3004_011d31011d3605_011d3a011d3a05,
  0x011d3c011d3d05_011d3f011d4505_011d46011d4604_011d47011d4705_011d50011d5908_011d60011d6504,
  0x011d67011d6804_011d6a011d8904_011d8a011d8e06_011d90011d9105_011d93011d9406_011d95011d9505,
  0x011d96011d9606_011d97011d9705_011d98011d9804_011da0011da908_011ee0011ef204_011ef3011ef405,
  0x011ef5011ef606_011ef7011ef811_011f00011f0105_011f02011f0204_011f03011f0306_011f04011f1004,
  0x011f12011f3304_011f34011f3506_011f36011f3a05_011f3e011f3f06_011f40011f4005_011f41011f4106,
  0x011f42011f4205_011f43011f4f11_011f50011f5908_011f5a011f5a05_011fb0011fb004_011fc0011fd40a,
  0x011fd5011fdc15_011fdd011fe013_011fe1011ff115_011fff011fff11_01200001239904_01240001246e09,
  0x01247001247411_01248001254304_012f90012ff004_012ff1012ff211_01300001342f04_01343001343f1a,
  0x01344001344005_01344101344604_01344701345505_0134600143fa04_01440001464604_01610001611d04,
  0x01611e01612905_01612a01612c06_01612d01612f05_01613001613908_016800016a3804_016a40016a5e04,
  0x016a60016a6908_016a6e016a6f11_016a70016abe04_016ac0016ac908_016ad0016aed04_016af0016af405,
  0x016af5016af511_016b00016b2f04_016b30016b3605_016b37016b3b11_016b3c016b3f15_016b40016b4303,
  0x016b44016b4411_016b45016b4515_016b50016b5908_016b5b016b610a_016b63016b7704_016b7d016b8f04,
  0x016d40016d4203_016d43016d6a04_016d6b016d6c03_016d6d016d6f11_016d70016d7908_016e40016e5f00,
  0x016e60016e7f01_016e80016e960a_016e97016e9a11_016f00016f4a04_016f4f016f4f05_016f50016f5004,
  0x016f51016f8706_016f8f016f9205_016f93016f9f03_016fe0016fe103_016fe2016fe211_016fe3016fe303,
  0x016fe4016fe405_016ff0016ff106_0170000187f704_018800018cd504_018cff018d0804_01aff001aff303,
  0x01aff501affb03_01affd01affe03_01b00001b12204_01b13201b13204_01b15001b15204_01b15501b15504,
  0x01b16401b16704_01b17001b2fb04_01bc0001bc6a04_01bc7001bc7c04_01bc8001bc8804_01bc9001bc9904,
  0x01bc9c01bc9c15_01bc9d01bc9e05_01bc9f01bc9f11_01bca001bca31a_01cc0001ccef15_01ccf001ccf908,
  0x01cd0001ceb315_01cf0001cf2d05_01cf3001cf4605_01cf5001cfc315_01d00001d0f515_01d10001d12615,
  0x01d12901d16415_01d16501d16606_01d16701d16905_01d16a01d16c15_01d16d01d17206_01d17301d17a1a,
  0x01d17b01d18205_01d18301d18415_01d18501d18b05_01d18c01d1a915_01d1aa01d1ad05_01d1ae01d1ea15,
  0x01d20001d24115_01d24201d24405_01d24501d24515_01d2c001d2d30a_01d2e001d2f30a_01d30001d35615,
  0x01d36001d3780a_01d40001d41900_01d41a01d43301_01d43401d44d00_01d44e01d45401_01d45601d46701,
  0x01d46801d48100_01d48201d49b01_01d49c01d49c00_01d49e01d49f00_01d4a201d4a200_01d4a501d4a600,
  0x01d4a901d4ac00_01d4ae01d4b500_01d4b601d4b901_01d4bb01d4bb01_01d4bd01d4c301_01d4c501d4cf01,
  0x01d4d001d4e900_01d4ea01d50301_01d50401d50500_01d50701d50a00_01d50d01d51400_01d51601d51c00,
  0x01d51e01d53701_01d53801d53900_01d53b01d53e00_01d54001d54400_01d54601d54600_01d54a01d55000,
  0x01d55201d56b01_01d56c01d58500_01d58601d59f01_01d5a001d5b900_01d5ba01d5d301_01d5d401d5ed00,
  0x01d5ee01d60701_01d60801d62100_01d62201d63b01_01d63c01d65500_01d65601d66f01_01d67001d68900,
  0x01d68a01d6a501_01d6a801d6c000_01d6c101d6c112_01d6c201d6da01_01d6db01d6db12_01d6dc01d6e101,
  0x01d6e201d6fa00_01d6fb01d6fb12_01d6fc01d71401_01d71501d71512_01d71601d71b01_01d71c01d73400,
  0x01d73501d73512_01d73601d74e01_01d74f01d74f12_01d75001d75501_01d75601d76e00_01d76f01d76f12,
  0x01d77001d78801_01d78901d78912_01d78a01d78f01_01d79001d7a800_01d7a901d7a912_01d7aa01d7c201,
  0x01d7c301d7c312_01d7c401d7c901_01d7ca01d7ca00_01d7cb01d7cb01_01d7ce01d7ff08_01d80001d9ff15,
  0x01da0001da3605_01da3701da3a15_01da3b01da6c05_01da6d01da7415_01da7501da7505_01da7601da8315,
  0x01da8401da8405_01da8501da8615_01da8701da8b11_01da9b01da9f05_01daa101daaf05_01df0001df0901,
  0x01df0a01df0a04_01df0b01df1e01_01df2501df2a01_01e00001e00605_01e00801e01805_01e01b01e02105,
  0x01e02301e02405_01e02601e02a05_01e03001e06d03_01e08f01e08f05_01e10001e12c04_01e13001e13605,
  0x01e13701e13d03_01e14001e14908_01e14e01e14e04_01e14f01e14f15_01e29001e2ad04_01e2ae01e2ae05,
  0x01e2c001e2eb04_01e2ec01e2ef05_01e2f001e2f908_01e2ff01e2ff13_01e4d001e4ea04_01e4eb01e4eb03,
  0x01e4ec01e4ef05_01e4f001e4f908_01e5d001e5ed04_01e5ee01e5ef05_01e5f001e5f004_01e5f101e5fa08,
  0x01e5ff01e5ff11_01e7e001e7e604_01e7e801e7eb04_01e7ed01e7ee04_01e7f001e7fe04_01e80001e8c404,
  0x01e8c701e8cf0a_01e8d001e8d605_01e90001e92100_01e92201e94301_01e94401e94a05_01e94b01e94b03,
  0x01e95001e95908_01e95e01e95f11_01ec7101ecab0a_01ecac01ecac15_01ecad01ecaf0a_01ecb001ecb013,
  0x01ecb101ecb40a_01ed0101ed2d0a_01ed2e01ed2e15_01ed2f01ed3d0a_01ee0001ee0304_01ee0501ee1f04,
  0x01ee2101ee2204_01ee2401ee2404_01ee2701ee2704_01ee2901ee3204_01ee3401ee3704_01ee3901ee3904,
  0x01ee3b01ee3b04_01ee4201ee4204_01ee4701ee4704_01ee4901ee4904_01ee4b01ee4b04_01ee4d01ee4f04,
  0x01ee5101ee5204_01ee5401ee5404_01ee5701ee5704_01ee5901ee5904_01ee5b01ee5b04_01ee5d01ee5d04,
  0x01ee5f01ee5f04_01ee6101ee6204_01ee6401ee6404_01ee6701ee6a04_01ee6c01ee7204_01ee7401ee7704,
  0x01ee7901ee7c04_01ee7e01ee7e04_01ee8001ee8904_01ee8b01ee9b04_01eea101eea304_01eea501eea904,
  0x01eeab01eebb04_01eef001eef112_01f00001f02b15_01f03001f09315_01f0a001f0ae15_01f0b101f0bf15,
  0x01f0c101f0cf15_01f0d101f0f515_01f10001f10c0a_01f10d01f1ad15_01f1e601f20215_01f21001f23b15,
  0x01f24001f24815_01f25001f25115_01f26001f26515_01f30001f3fa15_01f3fb01f3ff14_01f40001f6d715,
  0x01f6dc01f6ec15_01f6f001f6fc15_01f70001f77615_01f77b01f7d915_01f7e001f7eb15_01f7f001f7f015,
  0x01f80001f80b15_01f81001f84715_01f85001f85915_01f86001f88715_01f89001f8ad15_01f8b001f8bb15,
  0x01f8c001f8c115_01f90001fa5315_01fa6001fa6d15_01fa7001fa7c15_01fa8001fa8915_01fa8f01fac615,
  0x01face01fadc15_01fadf01fae915_01faf001faf815_01fb0001fb9215_01fb9401fbef15_01fbf001fbf908,
  0x02000002a6df04_02a70002b73904_02b74002b81d04_02b82002cea104_02ceb002ebe004_02ebf002ee5d04,
  0x02f80002fa1d04_03000003134a04_0313500323af04_0e00010e00011a_0e00200e007f1a_0e01000e01ef05,
  0x0f00000ffffd1c_10000010fffd1c]

end CorpusSearch.Unicode.Table
