/-!
Simple lower-case mapping, which texts use, and simple case folding, which regular expressions use.
-/

set_option autoImplicit false

namespace CorpusSearch.Unicode.Table

/--
Simple lower-case mapping. A record is twenty hexadecimal digits: first code point (6), last code point (6),
image of the first (6), step (2). The other members of the record keep their distance from the first.
-/
def lowercaseMapping : List Nat := [
  0x00004100005a00006101_0000c00000d60000e001_0000d80000de0000f801_00010000012e00010102,
  0x00013200013600013302_00013900014700013a02_00014a00017600014b02_0001780001780000ff01,
  0x00017900017d00017a02_00018100018100025301_00018200018400018302_00018600018600025401,
  0x00018700018700018801_00018900018a00025601_00018b00018b00018c01_00018e00018e0001dd01,
  0x00018f00018f00025901_00019000019000025b01_00019100019100019201_00019300019300026001,
  0x00019400019400026301_00019600019600026901_00019700019700026801_00019800019800019901,
  0x00019c00019c00026f01_00019d00019d00027201_00019f00019f00027501_0001a00001a40001a102,
  0x0001a60001a600028001_0001a70001a70001a801_0001a90001a900028301_0001ac0001ac0001ad01,
  0x0001ae0001ae00028801_0001af0001af0001b001_0001b10001b200028a01_0001b30001b50001b402,
  0x0001b70001b700029201_0001b80001b80001b901_0001bc0001bc0001bd01_0001c40001c40001c601,
  0x0001c50001c50001c601_0001c70001c70001c901_0001c80001c80001c901_0001ca0001ca0001cc01,
  0x0001cb0001db0001cc02_0001de0001ee0001df02_0001f10001f10001f301_0001f20001f40001f302,
  0x0001f60001f600019501_0001f70001f70001bf01_0001f800021e0001f902_00022000022000019e01,
  0x00022200023200022302_00023a00023a002c6501_00023b00023b00023c01_00023d00023d00019a01,
  0x00023e00023e002c6601_00024100024100024201_00024300024300018001_00024400024400028901,
  0x00024500024500028c01_00024600024e00024702_00037000037200037102_00037600037600037701,
  0x00037f00037f0003f301_0003860003860003ac01_00038800038a0003ad01_00038c00038c0003cc01,
  0x00038e00038f0003cd01_0003910003a10003b101_0003a30003ab0003c301_0003cf0003cf0003d701,
  0x0003d80003ee0003d902_0003f40003f40003b801_0003f70003f70003f801_0003f90003f90003f201,
  0x0003fa0003fa0003fb01_0003fd0003ff00037b01_00040000040f00045001_00041000042f00043001,
  0x00046000048000046102_00048a0004be00048b02_0004c00004c00004cf01_0004c10004cd0004c202,
  0x0004d000052e0004d102_00053100055600056101_0010a00010c5002d0001_0010c70010c7002d2701,
  0x0010cd0010cd002d2d01_0013a00013ef00ab7001_0013f00013f50013f801_001c89001c89001c8a01,
  0x001c90001cba0010d001_001cbd001cbf0010fd01_001e00001e94001e0102_001e9e001e9e0000df01,
  0x001ea0001efe001ea102_001f08001f0f001f0001_001f18001f1d001f1001_001f28001f2f001f2001,
  0x001f38001f3f001f3001_001f48001f4d001f4001_001f59001f5f001f5102_001f68001f6f001f6001,
  0x001f88001f8f001f8001_001f98001f9f001f9001_001fa8001faf001fa001_001fb8001fb9001fb001,
  0x001fba001fbb001f7001_001fbc001fbc001fb301_001fc8001fcb001f7201_001fcc001fcc001fc301,
  0x001fd8001fd9001fd001_001fda001fdb001f7601_001fe8001fe9001fe001_001fea001feb001f7a01,
  0x001fec001fec001fe501_001ff8001ff9001f7801_001ffa001ffb001f7c01_001ffc001ffc001ff301,
  0x0021260021260003c901_00212a00212a00006b01_00212b00212b0000e501_00213200213200214e01,
  0x00216000216f00217001_00218300218300218401_0024b60024cf0024d001_002c00002c2f002c3001,
  0x002c60002c60002c6101_002c62002c6200026b01_002c63002c63001d7d01_002c64002c6400027d01,
  0x002c67002c6b002c6802_002c6d002c6d00025101_002c6e002c6e00027101_002c6f002c6f00025001,
  0x002c70002c7000025201_002c72002c72002c7301_002c75002c75002c7601_002c7e002c7f00023f01,
  0x002c80002ce2002c8102_002ceb002ced002cec02_002cf2002cf2002cf301_00a64000a66c00a64102,
  0x00a68000a69a00a68102_00a72200a72e00a72302_00a73200a76e00a73302_00a77900a77b00a77a02,
  0x00a77d00a77d001d7901_00a77e00a78600a77f02_00a78b00a78b00a78c01_00a78d00a78d00026501,
  0x00a79000a79200a79102_00a79600a7a800a79702_00a7aa00a7aa00026601_00a7ab00a7ab00025c01,
  0x00a7ac00a7ac00026101_00a7ad00a7ad00026c01_00a7ae00a7ae00026a01_00a7b000a7b000029e01,
  0x00a7b100a7b100028701_00a7b200a7b200029d01_00a7b300a7b300ab5301_00a7b400a7c200a7b502,
  0x00a7c400a7c400a79401_00a7c500a7c500028201_00a7c600a7c6001d8e01_00a7c700a7c900a7c802,
  0x00a7cb00a7cb00026401_00a7cc00a7da00a7cd02_00a7dc00a7dc00019b01_00a7f500a7f500a7f601,
  0x00ff2100ff3a00ff4101_01040001042701042801_0104b00104d30104d801_01057001057a01059701,
  0x01057c01058a0105a301_01058c0105920105b301_0105940105950105bb01_010c80010cb2010cc001,
  0x010d50010d65010d7001_0118a00118bf0118c001_016e40016e5f016e6001_016ea0016eb8016ebb01,
  0x01e90001e92101e92201]

def caseFolding : List Nat := [
  0x00004100005a00006101_0000b50000b50003bc01_0000c00000d60000e001_0000d80000de0000f801,
  0x00010000012e00010102_00013200013600013302_00013900014700013a02_00014a00017600014b02,
  0x0001780001780000ff01_00017900017d00017a02_00017f00017f00007301_00018100018100025301,
  0x00018200018400018302_00018600018600025401_00018700018700018801_00018900018a00025601,
  0x00018b00018b00018c01_00018e00018e0001dd01_00018f00018f00025901_00019000019000025b01,
  0x00019100019100019201_00019300019300026001_00019400019400026301_00019600019600026901,
  0x00019700019700026801_00019800019800019901_00019c00019c00026f01_00019d00019d00027201,
  0x00019f00019f00027501_0001a00001a40001a102_0001a60001a600028001_0001a70001a70001a801,
  0x0001a90001a900028301_0001ac0001ac0001ad01_0001ae0001ae00028801_0001af0001af0001b001,
  0x0001b10001b200028a01_0001b30001b50001b402_0001b70001b700029201_0001b80001b80001b901,
  0x0001bc0001bc0001bd01_0001c40001c40001c601_0001c50001c50001c601_0001c70001c70001c901,
  0x0001c80001c80001c901_0001ca0001ca0001cc01_0001cb0001db0001cc02_0001de0001ee0001df02,
  0x0001f10001f10001f301_0001f20001f40001f302_0001f60001f600019501_0001f70001f70001bf01,
  0x0001f800021e0001f902_00022000022000019e01_00022200023200022302_00023a00023a002c6501,
  0x00023b00023b00023c01_00023d00023d00019a01_00023e00023e002c6601_00024100024100024201,
  0x00024300024300018001_00024400024400028901_00024500024500028c01_00024600024e00024702,
  0x0003450003450003b901_00037000037200037102_00037600037600037701_00037f00037f0003f301,
  0x0003860003860003ac01_00038800038a0003ad01_00038c00038c0003cc01_00038e00038f0003cd01,
  0x0003910003a10003b101_0003a30003ab0003c301_0003c20003c20003c301_0003cf0003cf0003d701,
  0x0003d00003d00003b201_0003d10003d10003b801_0003d50003d50003c601_0003d60003d60003c001,
  0x0003d80003ee0003d902_0003f00003f00003ba01_0003f10003f10003c101_0003f40003f40003b801,
  0x0003f50003f50003b501_0003f70003f70003f801_0003f90003f90003f201_0003fa0003fa0003fb01,
  0x0003fd0003ff00037b01_00040000040f00045001_00041000042f00043001_00046000048000046102,
  0x00048a0004be00048b02_0004c00004c00004cf01_0004c10004cd0004c202_0004d000052e0004d102,
  0x00053100055600056101_0010a00010c5002d0001_0010c70010c7002d2701_0010cd0010cd002d2d01,
  0x0013f80013fd0013f001_001c80001c8000043201_001c81001c8100043401_001c82001c8200043e01,
  0x001c83001c8400044101_001c85001c8500044201_001c86001c8600044a01_001c87001c8700046301,
  0x001c88001c8800a64b01_001c89001c89001c8a01_001c90001cba0010d001_001cbd001cbf0010fd01,
  0x001e00001e94001e0102_001e9b001e9b001e6101_001e9e001e9e0000df01_001ea0001efe001ea102,
  0x001f08001f0f001f0001_001f18001f1d001f1001_001f28001f2f001f2001_001f38001f3f001f3001,
  0x001f48001f4d001f4001_001f59001f5f001f5102_001f68001f6f001f6001_001f88001f8f001f8001,
  0x001f98001f9f001f9001_001fa8001faf001fa001_001fb8001fb9001fb001_001fba001fbb001f7001,
  0x001fbc001fbc001fb301_001fbe001fbe0003b901_001fc8001fcb001f7201_001fcc001fcc001fc301,
  0x001fd3001fd300039001_001fd8001fd9001fd001_001fda001fdb001f7601_001fe3001fe30003b001,
  0x001fe8001fe9001fe001_001fea001feb001f7a01_001fec001fec001fe501_001ff8001ff9001f7801,
  0x001ffa001ffb001f7c01_001ffc001ffc001ff301_0021260021260003c901_00212a00212a00006b01,
  0x00212b00212b0000e501_00213200213200214e01_00216000216f00217001_00218300218300218401,
  0x0024b60024cf0024d001_002c00002c2f002c3001_002c60002c60002c6101_002c62002c6200026b01,
  0x002c63002c63001d7d01_002c64002c6400027d01_002c67002c6b002c6802_002c6d002c6d00025101,
  0x002c6e002c6e00027101_002c6f002c6f00025001_002c70002c7000025201_002c72002c72002c7301,
  0x002c75002c75002c7601_002c7e002c7f00023f01_002c80002ce2002c8102_002ceb002ced002cec02,
  0x002cf2002cf2002cf301_00a64000a66c00a64102_00a68000a69a00a68102_00a72200a72e00a72302,
  0x00a73200a76e00a73302_00a77900a77b00a77a02_00a77d00a77d001d7901_00a77e00a78600a77f02,
  0x00a78b00a78b00a78c01_00a78d00a78d00026501_00a79000a79200a79102_00a79600a7a800a79702,
  0x00a7aa00a7aa00026601_00a7ab00a7ab00025c01_00a7ac00a7ac00026101_00a7ad00a7ad00026c01,
  0x00a7ae00a7ae00026a01_00a7b000a7b000029e01_00a7b100a7b100028701_00a7b200a7b200029d01,
  0x00a7b300a7b300ab5301_00a7b400a7c200a7b502_00a7c400a7c400a79401_00a7c500a7c500028201,
  0x00a7c600a7c6001d8e01_00a7c700a7c900a7c802_00a7cb00a7cb00026401_00a7cc00a7cc00a7cd01,
  0x00a7d000a7d000a7d101_00a7d600a7da00a7d702_00a7dc00a7dc00019b01_00a7f500a7f500a7f601,
  0x00ab7000abbf0013a001_00fb0500fb0500fb0601_00ff2100ff3a00ff4101_01040001042701042801,
  0x0104b00104d30104d801_01057001057a01059701_01057c01058a0105a301_01058c0105920105b301,
  0x0105940105950105bb01_010c80010cb2010cc001_010d50010d65010d7001_0118a00118bf0118c001,
  0x016e40016e5f016e6001_01e90001e92101e92201]

end CorpusSearch.Unicode.Table
