/-!
What canonical decomposition and composition need to know about single code points.
-/

set_option autoImplicit false

namespace CorpusSearch.Unicode.Table

/--
Canonical decompositions of one step, Hangul syllables left out. A record is eighteen hexadecimal digits: code
point, first and second part (6 each); the second part is zero where there is only one.
-/
def decomposition : List Nat := [
  0x0000c0000041000300_0000c1000041000301_0000c2000041000302_0000c3000041000303_0000c4000041000308,
  0x0000c500004100030a_0000c7000043000327_0000c8000045000300_0000c9000045000301_0000ca000045000302,
  0x0000cb000045000308_0000cc000049000300_0000cd000049000301_0000ce000049000302_0000cf000049000308,
  0x0000d100004e000303_0000d200004f000300_0000d300004f000301_0000d400004f000302_0000d500004f000303,
  0x0000d600004f000308_0000d9000055000300_0000da000055000301_0000db000055000302_0000dc000055000308,
  0x0000dd000059000301_0000e0000061000300_0000e1000061000301_0000e2000061000302_0000e3000061000303,
  0x0000e4000061000308_0000e500006100030a_0000e7000063000327_0000e8000065000300_0000e9000065000301,
  0x0000ea000065000302_0000eb000065000308_0000ec000069000300_0000ed000069000301_0000ee000069000302,
  0x0000ef000069000308_0000f100006e000303_0000f200006f000300_0000f300006f000301_0000f400006f000302,
  0x0000f500006f000303_0000f600006f000308_0000f9000075000300_0000fa000075000301_0000fb000075000302,
  0x0000fc000075000308_0000fd000079000301_0000ff000079000308_000100000041000304_000101000061000304,
  0x000102000041000306_000103000061000306_000104000041000328_000105000061000328_000106000043000301,
  0x000107000063000301_000108000043000302_000109000063000302_00010a000043000307_00010b000063000307,
  0x00010c00004300030c_00010d00006300030c_00010e00004400030c_00010f00006400030c_000112000045000304,
  0x000113000065000304_000114000045000306_000115000065000306_000116000045000307_000117000065000307,
  0x000118000045000328_000119000065000328_00011a00004500030c_00011b00006500030c_00011c000047000302,
  0x00011d000067000302_00011e000047000306_00011f000067000306_000120000047000307_000121000067000307,
  0x000122000047000327_000123000067000327_000124000048000302_000125000068000302_000128000049000303,
  0x000129000069000303_00012a000049000304_00012b000069000304_00012c000049000306_00012d000069000306,
  0x00012e000049000328_00012f000069000328_000130000049000307_00013400004a000302_00013500006a000302,
  0x00013600004b000327_00013700006b000327_00013900004c000301_00013a00006c000301_00013b00004c000327,
  0x00013c00006c000327_00013d00004c00030c_00013e00006c00030c_00014300004e000301_00014400006e000301,
  0x00014500004e000327_00014600006e000327_00014700004e00030c_00014800006e00030c_00014c00004f000304,
  0x00014d00006f000304_00014e00004f000306_00014f00006f000306_00015000004f00030b_00015100006f00030b,
  0x000154000052000301_000155000072000301_000156000052000327_000157000072000327_00015800005200030c,
  0x00015900007200030c_00015a000053000301_00015b000073000301_00015c000053000302_00015d000073000302,
  0x00015e000053000327_00015f000073000327_00016000005300030c_00016100007300030c_000162000054000327,
  0x000163000074000327_00016400005400030c_00016500007400030c_000168000055000303_000169000075000303,
  0x00016a000055000304_00016b000075000304_00016c000055000306_00016d000075000306_00016e00005500030a,
  0x00016f00007500030a_00017000005500030b_00017100007500030b_000172000055000328_000173000075000328,
  0x000174000057000302_000175000077000302_000176000059000302_000177000079000302_000178000059000308,
  0x00017900005a000301_00017a00007a000301_00017b00005a000307_00017c00007a000307_00017d00005a00030c,
  0x00017e00007a00030c_0001a000004f00031b_0001a100006f00031b_0001af00005500031b_0001b000007500031b,
  0x0001cd00004100030c_0001ce00006100030c_0001cf00004900030c_0001d000006900030c_0001d100004f00030c,
  0x0001d200006f00030c_0001d300005500030c_0001d400007500030c_0001d50000dc000304_0001d60000fc000304,
  0x0001d70000dc000301_0001d80000fc000301_0001d90000dc00030c_0001da0000fc00030c_0001db0000dc000300,
  0x0001dc0000fc000300_0001de0000c4000304_0001df0000e4000304_0001e0000226000304_0001e1000227000304,
  0x0001e20000c6000304_0001e30000e6000304_0001e600004700030c_0001e700006700030c_0001e800004b00030c,
  0x0001e900006b00030c_0001ea00004f000328_0001eb00006f000328_0001ec0001ea000304_0001ed0001eb000304,
  0x0001ee0001b700030c_0001ef00029200030c_0001f000006a00030c_0001f4000047000301_0001f5000067000301,
  0x0001f800004e000300_0001f900006e000300_0001fa0000c5000301_0001fb0000e5000301_0001fc0000c6000301,
  0x0001fd0000e6000301_0001fe0000d8000301_0001ff0000f8000301_00020000004100030f_00020100006100030f,
  0x000202000041000311_000203000061000311_00020400004500030f_00020500006500030f_000206000045000311,
  0x000207000065000311_00020800004900030f_00020900006900030f_00020a000049000311_00020b000069000311,
  0x00020c00004f00030f_00020d00006f00030f_00020e00004f000311_00020f00006f000311_00021000005200030f,
  0x00021100007200030f_000212000052000311_000213000072000311_00021400005500030f_00021500007500030f,
  0x000216000055000311_000217000075000311_000218000053000326_000219000073000326_00021a000054000326,
  0x00021b000074000326_00021e00004800030c_00021f00006800030c_000226000041000307_000227000061000307,
  0x000228000045000327_000229000065000327_00022a0000d6000304_00022b0000f6000304_00022c0000d5000304,
  0x00022d0000f5000304_00022e00004f000307_00022f00006f000307_00023000022e000304_00023100022f000304,
  0x000232000059000304_000233000079000304_000340000300000000_000341000301000000_000343000313000000,
  0x000344000308000301_0003740002b9000000_00037e00003b000000_0003850000a8000301_000386000391000301,
  0x0003870000b7000000_000388000395000301_000389000397000301_00038a000399000301_00038c00039f000301,
  0x00038e0003a5000301_00038f0003a9000301_0003900003ca000301_0003aa000399000308_0003ab0003a5000308,
  0x0003ac0003b1000301_0003ad0003b5000301_0003ae0003b7000301_0003af0003b9000301_0003b00003cb000301,
  0x0003ca0003b9000308_0003cb0003c5000308_0003cc0003bf000301_0003cd0003c5000301_0003ce0003c9000301,
  0x0003d30003d2000301_0003d40003d2000308_000400000415000300_000401000415000308_000403000413000301,
  0x000407000406000308_00040c00041a000301_00040d000418000300_00040e000423000306_000419000418000306,
  0x000439000438000306_000450000435000300_000451000435000308_000453000433000301_000457000456000308,
  0x00045c00043a000301_00045d000438000300_00045e000443000306_00047600047400030f_00047700047500030f,
  0x0004c1000416000306_0004c2000436000306_0004d0000410000306_0004d1000430000306_0004d2000410000308,
  0x0004d3000430000308_0004d6000415000306_0004d7000435000306_0004da0004d8000308_0004db0004d9000308,
  0x0004dc000416000308_0004dd000436000308_0004de000417000308_0004df000437000308_0004e2000418000304,
  0x0004e3000438000304_0004e4000418000308_0004e5000438000308_0004e600041e000308_0004e700043e000308,
  0x0004ea0004e8000308_0004eb0004e9000308_0004ec00042d000308_0004ed00044d000308_0004ee000423000304,
  0x0004ef000443000304_0004f0000423000308_0004f1000443000308_0004f200042300030b_0004f300044300030b,
  0x0004f4000427000308_0004f5000447000308_0004f800042b000308_0004f900044b000308_000622000627000653,
  0x000623000627000654_000624000648000654_000625000627000655_00062600064a000654_0006c00006d5000654,
  0x0006c20006c1000654_0006d30006d2000654_00092900092800093c_00093100093000093c_00093400093300093c,
  0x00095800091500093c_00095900091600093c_00095a00091700093c_00095b00091c00093c_00095c00092100093c,
  0x00095d00092200093c_00095e00092b00093c_00095f00092f00093c_0009cb0009c70009be_0009cc0009c70009d7,
  0x0009dc0009a10009bc_0009dd0009a20009bc_0009df0009af0009bc_000a33000a32000a3c_000a36000a38000a3c,
  0x000a59000a16000a3c_000a5a000a17000a3c_000a5b000a1c000a3c_000a5e000a2b000a3c_000b48000b47000b56,
  0x000b4b000b47000b3e_000b4c000b47000b57_000b5c000b21000b3c_000b5d000b22000b3c_000b94000b92000bd7,
  0x000bca000bc6000bbe_000bcb000bc7000bbe_000bcc000bc6000bd7_000c48000c46000c56_000cc0000cbf000cd5,
  0x000cc7000cc6000cd5_000cc8000cc6000cd6_000cca000cc6000cc2_000ccb000cca000cd5_000d4a000d46000d3e,
  0x000d4b000d47000d3e_000d4c000d46000d57_000dda000dd9000dca_000ddc000dd9000dcf_000ddd000ddc000dca,
  0x000dde000dd9000ddf_000f43000f42000fb7_000f4d000f4c000fb7_000f52000f51000fb7_000f57000f56000fb7,
  0x000f5c000f5b000fb7_000f69000f40000fb5_000f73000f71000f72_000f75000f71000f74_000f76000fb2000f80,
  0x000f78000fb3000f80_000f81000f71000f80_000f93000f92000fb7_000f9d000f9c000fb7_000fa2000fa1000fb7,
  0x000fa7000fa6000fb7_000fac000fab000fb7_000fb9000f90000fb5_00102600102500102e_001b06001b05001b35,
  0x001b08001b07001b35_001b0a001b09001b35_001b0c001b0b001b35_001b0e001b0d001b35_001b12001b11001b35,
  0x001b3b001b3a001b35_001b3d001b3c001b35_001b40001b3e001b35_001b41001b3f001b35_001b43001b42001b35,
  0x001e00000041000325_001e01000061000325_001e02000042000307_001e03000062000307_001e04000042000323,
  0x001e05000062000323_001e06000042000331_001e07000062000331_001e080000c7000301_001e090000e7000301,
  0x001e0a000044000307_001e0b000064000307_001e0c000044000323_001e0d000064000323_001e0e000044000331,
  0x001e0f000064000331_001e10000044000327_001e11000064000327_001e1200004400032d_001e1300006400032d,
  0x001e14000112000300_001e15000113000300_001e16000112000301_001e17000113000301_001e1800004500032d,
  0x001e1900006500032d_001e1a000045000330_001e1b000065000330_001e1c000228000306_001e1d000229000306,
  0x001e1e000046000307_001e1f000066000307_001e20000047000304_001e21000067000304_001e22000048000307,
  0x001e23000068000307_001e24000048000323_001e25000068000323_001e26000048000308_001e27000068000308,
  0x001e28000048000327_001e29000068000327_001e2a00004800032e_001e2b00006800032e_001e2c000049000330,
  0x001e2d000069000330_001e2e0000cf000301_001e2f0000ef000301_001e3000004b000301_001e3100006b000301,
  0x001e3200004b000323_001e3300006b000323_001e3400004b000331_001e3500006b000331_001e3600004c000323,
  0x001e3700006c000323_001e38001e36000304_001e39001e37000304_001e3a00004c000331_001e3b00006c000331,
  0x001e3c00004c00032d_001e3d00006c00032d_001e3e00004d000301_001e3f00006d000301_001e4000004d000307,
  0x001e4100006d000307_001e4200004d000323_001e4300006d000323_001e4400004e000307_001e4500006e000307,
  0x001e4600004e000323_001e4700006e000323_001e4800004e000331_001e4900006e000331_001e4a00004e00032d,
  0x001e4b00006e00032d_001e4c0000d5000301_001e4d0000f5000301_001e4e0000d5000308_001e4f0000f5000308,
  0x001e5000014c000300_001e5100014d000300_001e5200014c000301_001e5300014d000301_001e54000050000301,
  0x001e55000070000301_001e56000050000307_001e57000070000307_001e58000052000307_001e59000072000307,
  0x001e5a000052000323_001e5b000072000323_001e5c001e5a000304_001e5d001e5b000304_001e5e000052000331,
  0x001e5f000072000331_001e60000053000307_001e61000073000307_001e62000053000323_001e63000073000323,
  0x001e6400015a000307_001e6500015b000307_001e66000160000307_001e67000161000307_001e68001e62000307,
  0x001e69001e63000307_001e6a000054000307_001e6b000074000307_001e6c000054000323_001e6d000074000323,
  0x001e6e000054000331_001e6f000074000331_001e7000005400032d_001e7100007400032d_001e72000055000324,
  0x001e73000075000324_001e74000055000330_001e75000075000330_001e7600005500032d_001e7700007500032d,
  0x001e78000168000301_001e79000169000301_001e7a00016a000308_001e7b00016b000308_001e7c000056000303,
  0x001e7d000076000303_001e7e000056000323_001e7f000076000323_001e80000057000300_001e81000077000300,
  0x001e82000057000301_001e83000077000301_001e84000057000308_001e85000077000308_001e86000057000307,
  0x001e87000077000307_001e88000057000323_001e89000077000323_001e8a000058000307_001e8b000078000307,
  0x001e8c000058000308_001e8d000078000308_001e8e000059000307_001e8f000079000307_001e9000005a000302,
  0x001e9100007a000302_001e9200005a000323_001e9300007a000323_001e9400005a000331_001e9500007a000331,
  0x001e96000068000331_001e97000074000308_001e9800007700030a_001e9900007900030a_001e9b00017f000307,
  0x001ea0000041000323_001ea1000061000323_001ea2000041000309_001ea3000061000309_001ea40000c2000301,
  0x001ea50000e2000301_001ea60000c2000300_001ea70000e2000300_001ea80000c2000309_001ea90000e2000309,
  0x001eaa0000c2000303_001eab0000e2000303_001eac001ea0000302_001ead001ea1000302_001eae000102000301,
  0x001eaf000103000301_001eb0000102000300_001eb1000103000300_001eb2000102000309_001eb3000103000309,
  0x001eb4000102000303_001eb5000103000303_001eb6001ea0000306_001eb7001ea1000306_001eb8000045000323,
  0x001eb9000065000323_001eba000045000309_001ebb000065000309_001ebc000045000303_001ebd000065000303,
  0x001ebe0000ca000301_001ebf0000ea000301_001ec00000ca000300_001ec10000ea000300_001ec20000ca000309,
  0x001ec30000ea000309_001ec40000ca000303_001ec50000ea000303_001ec6001eb8000302_001ec7001eb9000302,
  0x001ec8000049000309_001ec9000069000309_001eca000049000323_001ecb000069000323_001ecc00004f000323,
  0x001ecd00006f000323_001ece00004f000309_001ecf00006f000309_001ed00000d4000301_001ed10000f4000301,
  0x001ed20000d4000300_001ed30000f4000300_001ed40000d4000309_001ed50000f4000309_001ed60000d4000303,
  0x001ed70000f4000303_001ed8001ecc000302_001ed9001ecd000302_001eda0001a0000301_001edb0001a1000301,
  0x001edc0001a0000300_001edd0001a1000300_001ede0001a0000309_001edf0001a1000309_001ee00001a0000303,
  0x001ee10001a1000303_001ee20001a0000323_001ee30001a1000323_001ee4000055000323_001ee5000075000323,
  0x001ee6000055000309_001ee7000075000309_001ee80001af000301_001ee90001b0000301_001eea0001af000300,
  0x001eeb0001b0000300_001eec0001af000309_001eed0001b0000309_001eee0001af000303_001eef0001b0000303,
  0x001ef00001af000323_001ef10001b0000323_001ef2000059000300_001ef3000079000300_001ef4000059000323,
  0x001ef5000079000323_001ef6000059000309_001ef7000079000309_001ef8000059000303_001ef9000079000303,
  0x001f000003b1000313_001f010003b1000314_001f02001f00000300_001f03001f01000300_001f04001f00000301,
  0x001f05001f01000301_001f06001f00000342_001f07001f01000342_001f08000391000313_001f09000391000314,
  0x001f0a001f08000300_001f0b001f09000300_001f0c001f08000301_001f0d001f09000301_001f0e001f08000342,
  0x001f0f001f09000342_001f100003b5000313_001f110003b5000314_001f12001f10000300_001f13001f11000300,
  0x001f14001f10000301_001f15001f11000301_001f18000395000313_001f19000395000314_001f1a001f18000300,
  0x001f1b001f19000300_001f1c001f18000301_001f1d001f19000301_001f200003b7000313_001f210003b7000314,
  0x001f22001f20000300_001f23001f21000300_001f24001f20000301_001f25001f21000301_001f26001f20000342,
  0x001f27001f21000342_001f28000397000313_001f29000397000314_001f2a001f28000300_001f2b001f29000300,
  0x001f2c001f28000301_001f2d001f29000301_001f2e001f28000342_001f2f001f29000342_001f300003b9000313,
  0x001f310003b9000314_001f32001f30000300_001f33001f31000300_001f34001f30000301_001f35001f31000301,
  0x001f36001f30000342_001f37001f31000342_001f38000399000313_001f39000399000314_001f3a001f38000300,
  0x001f3b001f39000300_001f3c001f38000301_001f3d001f39000301_001f3e001f38000342_001f3f001f39000342,
  0x001f400003bf000313_001f410003bf000314_001f42001f40000300_001f43001f41000300_001f44001f40000301,
  0x001f45001f41000301_001f4800039f000313_001f4900039f000314_001f4a001f48000300_001f4b001f49000300,
  0x001f4c001f48000301_001f4d001f49000301_001f500003c5000313_001f510003c5000314_001f52001f50000300,
  0x001f53001f51000300_001f54001f50000301_001f55001f51000301_001f56001f50000342_001f57001f51000342,
  0x001f590003a5000314_001f5b001f59000300_001f5d001f59000301_001f5f001f59000342_001f600003c9000313,
  0x001f610003c9000314_001f62001f60000300_001f63001f61000300_001f64001f60000301_001f65001f61000301,
  0x001f66001f60000342_001f67001f61000342_001f680003a9000313_001f690003a9000314_001f6a001f68000300,
  0x001f6b001f69000300_001f6c001f68000301_001f6d001f69000301_001f6e001f68000342_001f6f001f69000342,
  0x001f700003b1000300_001f710003ac000000_001f720003b5000300_001f730003ad000000_001f740003b7000300,
  0x001f750003ae000000_001f760003b9000300_001f770003af000000_001f780003bf000300_001f790003cc000000,
  0x001f7a0003c5000300_001f7b0003cd000000_001f7c0003c9000300_001f7d0003ce000000_001f80001f00000345,
  0x001f81001f01000345_001f82001f02000345_001f83001f03000345_001f84001f04000345_001f85001f05000345,
  0x001f86001f06000345_001f87001f07000345_001f88001f08000345_001f89001f09000345_001f8a001f0a000345,
  0x001f8b001f0b000345_001f8c001f0c000345_001f8d001f0d000345_001f8e001f0e000345_001f8f001f0f000345,
  0x001f90001f20000345_001f91001f21000345_001f92001f22000345_001f93001f23000345_001f94001f24000345,
  0x001f95001f25000345_001f96001f26000345_001f97001f27000345_001f98001f28000345_001f99001f29000345,
  0x001f9a001f2a000345_001f9b001f2b000345_001f9c001f2c000345_001f9d001f2d000345_001f9e001f2e000345,
  0x001f9f001f2f000345_001fa0001f60000345_001fa1001f61000345_001fa2001f62000345_001fa3001f63000345,
  0x001fa4001f64000345_001fa5001f65000345_001fa6001f66000345_001fa7001f67000345_001fa8001f68000345,
  0x001fa9001f69000345_001faa001f6a000345_001fab001f6b000345_001fac001f6c000345_001fad001f6d000345,
  0x001fae001f6e000345_001faf001f6f000345_001fb00003b1000306_001fb10003b1000304_001fb2001f70000345,
  0x001fb30003b1000345_001fb40003ac000345_001fb60003b1000342_001fb7001fb6000345_001fb8000391000306,
  0x001fb9000391000304_001fba000391000300_001fbb000386000000_001fbc000391000345_001fbe0003b9000000,
  0x001fc10000a8000342_001fc2001f74000345_001fc30003b7000345_001fc40003ae000345_001fc60003b7000342,
  0x001fc7001fc6000345_001fc8000395000300_001fc9000388000000_001fca000397000300_001fcb000389000000,
  0x001fcc000397000345_001fcd001fbf000300_001fce001fbf000301_001fcf001fbf000342_001fd00003b9000306,
  0x001fd10003b9000304_001fd20003ca000300_001fd3000390000000_001fd60003b9000342_001fd70003ca000342,
  0x001fd8000399000306_001fd9000399000304_001fda000399000300_001fdb00038a000000_001fdd001ffe000300,
  0x001fde001ffe000301_001fdf001ffe000342_001fe00003c5000306_001fe10003c5000304_001fe20003cb000300,
  0x001fe30003b0000000_001fe40003c1000313_001fe50003c1000314_001fe60003c5000342_001fe70003cb000342,
  0x001fe80003a5000306_001fe90003a5000304_001fea0003a5000300_001feb00038e000000_001fec0003a1000314,
  0x001fed0000a8000300_001fee000385000000_001fef000060000000_001ff2001f7c000345_001ff30003c9000345,
  0x001ff40003ce000345_001ff60003c9000342_001ff7001ff6000345_001ff800039f000300_001ff900038c000000,
  0x001ffa0003a9000300_001ffb00038f000000_001ffc0003a9000345_001ffd0000b4000000_002000002002000000,
  0x002001002003000000_0021260003a9000000_00212a00004b000000_00212b0000c5000000_00219a002190000338,
  0x00219b002192000338_0021ae002194000338_0021cd0021d0000338_0021ce0021d4000338_0021cf0021d2000338,
  0x002204002203000338_002209002208000338_00220c00220b000338_002224002223000338_002226002225000338,
  0x00224100223c000338_002244002243000338_002247002245000338_002249002248000338_00226000003d000338,
  0x002262002261000338_00226d00224d000338_00226e00003c000338_00226f00003e000338_002270002264000338,
  0x002271002265000338_002274002272000338_002275002273000338_002278002276000338_002279002277000338,
  0x00228000227a000338_00228100227b000338_002284002282000338_002285002283000338_002288002286000338,
  0x002289002287000338_0022ac0022a2000338_0022ad0022a8000338_0022ae0022a9000338_0022af0022ab000338,
  0x0022e000227c000338_0022e100227d000338_0022e2002291000338_0022e3002292000338_0022ea0022b2000338,
  0x0022eb0022b3000338_0022ec0022b4000338_0022ed0022b5000338_002329003008000000_00232a003009000000,
  0x002adc002add000338_00304c00304b003099_00304e00304d003099_00305000304f003099_003052003051003099,
  0x003054003053003099_003056003055003099_003058003057003099_00305a003059003099_00305c00305b003099,
  0x00305e00305d003099_00306000305f003099_003062003061003099_003065003064003099_003067003066003099,
  0x003069003068003099_00307000306f003099_00307100306f00309a_003073003072003099_00307400307200309a,
  0x003076003075003099_00307700307500309a_003079003078003099_00307a00307800309a_00307c00307b003099,
  0x00307d00307b00309a_003094003046003099_00309e00309d003099_0030ac0030ab003099_0030ae0030ad003099,
  0x0030b00030af003099_0030b20030b1003099_0030b40030b3003099_0030b60030b5003099_0030b80030b7003099,
  0x0030ba0030b9003099_0030bc0030bb003099_0030be0030bd003099_0030c00030bf003099_0030c20030c1003099,
  0x0030c50030c4003099_0030c70030c6003099_0030c90030c8003099_0030d00030cf003099_0030d10030cf00309a,
  0x0030d30030d2003099_0030d40030d200309a_0030d60030d5003099_0030d70030d500309a_0030d90030d8003099,
  0x0030da0030d800309a_0030dc0030db003099_0030dd0030db00309a_0030f40030a6003099_0030f70030ef003099,
  0x0030f80030f0003099_0030f90030f1003099_0030fa0030f2003099_0030fe0030fd003099_00f900008c48000000,
  0x00f9010066f4000000_00f902008eca000000_00f903008cc8000000_00f904006ed1000000_00f905004e32000000,
  0x00f9060053e5000000_00f907009f9c000000_00f908009f9c000000_00f909005951000000_00f90a0091d1000000,
  0x00f90b005587000000_00f90c005948000000_00f90d0061f6000000_00f90e007669000000_00f90f007f85000000,
  0x00f91000863f000000_00f9110087ba000000_00f9120088f8000000_00f91300908f000000_00f914006a02000000,
  0x00f915006d1b000000_00f9160070d9000000_00f9170073de000000_00f91800843d000000_00f91900916a000000,
  0x00f91a0099f1000000_00f91b004e82000000_00f91c005375000000_00f91d006b04000000_00f91e00721b000000,
  0x00f91f00862d000000_00f920009e1e000000_00f921005d50000000_00f922006feb000000_00f9230085cd000000,
  0x00f924008964000000_00f9250062c9000000_00f9260081d8000000_00f92700881f000000_00f928005eca000000,
  0x00f929006717000000_00f92a006d6a000000_00f92b0072fc000000_00f92c0090ce000000_00f92d004f86000000,
  0x00f92e0051b7000000_00f92f0052de000000_00f9300064c4000000_00f931006ad3000000_00f932007210000000,
  0x00f9330076e7000000_00f934008001000000_00f935008606000000_00f93600865c000000_00f937008def000000,
  0x00f938009732000000_00f939009b6f000000_00f93a009dfa000000_00f93b00788c000000_00f93c00797f000000,
  0x00f93d007da0000000_00f93e0083c9000000_00f93f009304000000_00f940009e7f000000_00f941008ad6000000,
  0x00f9420058df000000_00f943005f04000000_00f944007c60000000_00f94500807e000000_00f946007262000000,
  0x00f9470078ca000000_00f948008cc2000000_00f9490096f7000000_00f94a0058d8000000_00f94b005c62000000,
  0x00f94c006a13000000_00f94d006dda000000_00f94e006f0f000000_00f94f007d2f000000_00f950007e37000000,
  0x00f95100964b000000_00f9520052d2000000_00f95300808b000000_00f9540051dc000000_00f9550051cc000000,
  0x00f956007a1c000000_00f957007dbe000000_00f9580083f1000000_00f959009675000000_00f95a008b80000000,
  0x00f95b0062cf000000_00f95c006a02000000_00f95d008afe000000_00f95e004e39000000_00f95f005be7000000,
  0x00f960006012000000_00f961007387000000_00f962007570000000_00f963005317000000_00f9640078fb000000,
  0x00f965004fbf000000_00f966005fa9000000_00f967004e0d000000_00f968006ccc000000_00f969006578000000,
  0x00f96a007d22000000_00f96b0053c3000000_00f96c00585e000000_00f96d007701000000_00f96e008449000000,
  0x00f96f008aaa000000_00f970006bba000000_00f971008fb0000000_00f972006c88000000_00f9730062fe000000,
  0x00f9740082e5000000_00f9750063a0000000_00f976007565000000_00f977004eae000000_00f978005169000000,
  0x00f9790051c9000000_00f97a006881000000_00f97b007ce7000000_00f97c00826f000000_00f97d008ad2000000,
  0x00f97e0091cf000000_00f97f0052f5000000_00f980005442000000_00f981005973000000_00f982005eec000000,
  0x00f9830065c5000000_00f984006ffe000000_00f98500792a000000_00f9860095ad000000_00f987009a6a000000,
  0x00f988009e97000000_00f989009ece000000_00f98a00529b000000_00f98b0066c6000000_00f98c006b77000000,
  0x00f98d008f62000000_00f98e005e74000000_00f98f006190000000_00f990006200000000_00f99100649a000000,
  0x00f992006f23000000_00f993007149000000_00f994007489000000_00f9950079ca000000_00f996007df4000000,
  0x00f99700806f000000_00f998008f26000000_00f9990084ee000000_00f99a009023000000_00f99b00934a000000,
  0x00f99c005217000000_00f99d0052a3000000_00f99e0054bd000000_00f99f0070c8000000_00f9a00088c2000000,
  0x00f9a1008aaa000000_00f9a2005ec9000000_00f9a3005ff5000000_00f9a400637b000000_00f9a5006bae000000,
  0x00f9a6007c3e000000_00f9a7007375000000_00f9a8004ee4000000_00f9a90056f9000000_00f9aa005be7000000,
  0x00f9ab005dba000000_00f9ac00601c000000_00f9ad0073b2000000_00f9ae007469000000_00f9af007f9a000000,
  0x00f9b0008046000000_00f9b1009234000000_00f9b20096f6000000_00f9b3009748000000_00f9b4009818000000,
  0x00f9b5004f8b000000_00f9b60079ae000000_00f9b70091b4000000_00f9b80096b8000000_00f9b90060e1000000,
  0x00f9ba004e86000000_00f9bb0050da000000_00f9bc005bee000000_00f9bd005c3f000000_00f9be006599000000,
  0x00f9bf006a02000000_00f9c00071ce000000_00f9c1007642000000_00f9c20084fc000000_00f9c300907c000000,
  0x00f9c4009f8d000000_00f9c5006688000000_00f9c600962e000000_00f9c7005289000000_00f9c800677b000000,
  0x00f9c90067f3000000_00f9ca006d41000000_00f9cb006e9c000000_00f9cc007409000000_00f9cd007559000000,
  0x00f9ce00786b000000_00f9cf007d10000000_00f9d000985e000000_00f9d100516d000000_00f9d200622e000000,
  0x00f9d3009678000000_00f9d400502b000000_00f9d5005d19000000_00f9d6006dea000000_00f9d7008f2a000000,
  0x00f9d8005f8b000000_00f9d9006144000000_00f9da006817000000_00f9db007387000000_00f9dc009686000000,
  0x00f9dd005229000000_00f9de00540f000000_00f9df005c65000000_00f9e0006613000000_00f9e100674e000000,
  0x00f9e20068a8000000_00f9e3006ce5000000_00f9e4007406000000_00f9e50075e2000000_00f9e6007f79000000,
  0x00f9e70088cf000000_00f9e80088e1000000_00f9e90091cc000000_00f9ea0096e2000000_00f9eb00533f000000,
  0x00f9ec006eba000000_00f9ed00541d000000_00f9ee0071d0000000_00f9ef007498000000_00f9f00085fa000000,
  0x00f9f10096a3000000_00f9f2009c57000000_00f9f3009e9f000000_00f9f4006797000000_00f9f5006dcb000000,
  0x00f9f60081e8000000_00f9f7007acb000000_00f9f8007b20000000_00f9f9007c92000000_00f9fa0072c0000000,
  0x00f9fb007099000000_00f9fc008b58000000_00f9fd004ec0000000_00f9fe008336000000_00f9ff00523a000000,
  0x00fa00005207000000_00fa01005ea6000000_00fa020062d3000000_00fa03007cd6000000_00fa04005b85000000,
  0x00fa05006d1e000000_00fa060066b4000000_00fa07008f3b000000_00fa0800884c000000_00fa0900964d000000,
  0x00fa0a00898b000000_00fa0b005ed3000000_00fa0c005140000000_00fa0d0055c0000000_00fa1000585a000000,
  0x00fa12006674000000_00fa150051de000000_00fa1600732a000000_00fa170076ca000000_00fa1800793c000000,
  0x00fa1900795e000000_00fa1a007965000000_00fa1b00798f000000_00fa1c009756000000_00fa1d007cbe000000,
  0x00fa1e007fbd000000_00fa20008612000000_00fa22008af8000000_00fa25009038000000_00fa260090fd000000,
  0x00fa2a0098ef000000_00fa2b0098fc000000_00fa2c009928000000_00fa2d009db4000000_00fa2e0090de000000,
  0x00fa2f0096b7000000_00fa30004fae000000_00fa310050e7000000_00fa3200514d000000_00fa330052c9000000,
  0x00fa340052e4000000_00fa35005351000000_00fa3600559d000000_00fa37005606000000_00fa38005668000000,
  0x00fa39005840000000_00fa3a0058a8000000_00fa3b005c64000000_00fa3c005c6e000000_00fa3d006094000000,
  0x00fa3e006168000000_00fa3f00618e000000_00fa400061f2000000_00fa4100654f000000_00fa420065e2000000,
  0x00fa43006691000000_00fa44006885000000_00fa45006d77000000_00fa46006e1a000000_00fa47006f22000000,
  0x00fa4800716e000000_00fa4900722b000000_00fa4a007422000000_00fa4b007891000000_00fa4c00793e000000,
  0x00fa4d007949000000_00fa4e007948000000_00fa4f007950000000_00fa50007956000000_00fa5100795d000000,
  0x00fa5200798d000000_00fa5300798e000000_00fa54007a40000000_00fa55007a81000000_00fa56007bc0000000,
  0x00fa57007df4000000_00fa58007e09000000_00fa59007e41000000_00fa5a007f72000000_00fa5b008005000000,
  0x00fa5c0081ed000000_00fa5d008279000000_00fa5e008279000000_00fa5f008457000000_00fa60008910000000,
  0x00fa61008996000000_00fa62008b01000000_00fa63008b39000000_00fa64008cd3000000_00fa65008d08000000,
  0x00fa66008fb6000000_00fa67009038000000_00fa680096e3000000_00fa690097ff000000_00fa6a00983b000000,
  0x00fa6b006075000000_00fa6c0242ee000000_00fa6d008218000000_00fa70004e26000000_00fa710051b5000000,
  0x00fa72005168000000_00fa73004f80000000_00fa74005145000000_00fa75005180000000_00fa760052c7000000,
  0x00fa770052fa000000_00fa7800559d000000_00fa79005555000000_00fa7a005599000000_00fa7b0055e2000000,
  0x00fa7c00585a000000_00fa7d0058b3000000_00fa7e005944000000_00fa7f005954000000_00fa80005a62000000,
  0x00fa81005b28000000_00fa82005ed2000000_00fa83005ed9000000_00fa84005f69000000_00fa85005fad000000,
  0x00fa860060d8000000_00fa8700614e000000_00fa88006108000000_00fa8900618e000000_00fa8a006160000000,
  0x00fa8b0061f2000000_00fa8c006234000000_00fa8d0063c4000000_00fa8e00641c000000_00fa8f006452000000,
  0x00fa90006556000000_00fa91006674000000_00fa92006717000000_00fa9300671b000000_00fa94006756000000,
  0x00fa95006b79000000_00fa96006bba000000_00fa97006d41000000_00fa98006edb000000_00fa99006ecb000000,
  0x00fa9a006f22000000_00fa9b00701e000000_00fa9c00716e000000_00fa9d0077a7000000_00fa9e007235000000,
  0x00fa9f0072af000000_00faa000732a000000_00faa1007471000000_00faa2007506000000_00faa300753b000000,
  0x00faa400761d000000_00faa500761f000000_00faa60076ca000000_00faa70076db000000_00faa80076f4000000,
  0x00faa900774a000000_00faaa007740000000_00faab0078cc000000_00faac007ab1000000_00faad007bc0000000,
  0x00faae007c7b000000_00faaf007d5b000000_00fab0007df4000000_00fab1007f3e000000_00fab2008005000000,
  0x00fab3008352000000_00fab40083ef000000_00fab5008779000000_00fab6008941000000_00fab7008986000000,
  0x00fab8008996000000_00fab9008abf000000_00faba008af8000000_00fabb008acb000000_00fabc008b01000000,
  0x00fabd008afe000000_00fabe008aed000000_00fabf008b39000000_00fac0008b8a000000_00fac1008d08000000,
  0x00fac2008f38000000_00fac3009072000000_00fac4009199000000_00fac5009276000000_00fac600967c000000,
  0x00fac70096e3000000_00fac8009756000000_00fac90097db000000_00faca0097ff000000_00facb00980b000000,
  0x00facc00983b000000_00facd009b12000000_00face009f9c000000_00facf02284a000000_00fad0022844000000,
  0x00fad10233d5000000_00fad2003b9d000000_00fad3004018000000_00fad4004039000000_00fad5025249000000,
  0x00fad6025cd0000000_00fad7027ed3000000_00fad8009f43000000_00fad9009f8e000000_00fb1d0005d90005b4,
  0x00fb1f0005f20005b7_00fb2a0005e90005c1_00fb2b0005e90005c2_00fb2c00fb490005c1_00fb2d00fb490005c2,
  0x00fb2e0005d00005b7_00fb2f0005d00005b8_00fb300005d00005bc_00fb310005d10005bc_00fb320005d20005bc,
  0x00fb330005d30005bc_00fb340005d40005bc_00fb350005d50005bc_00fb360005d60005bc_00fb380005d80005bc,
  0x00fb390005d90005bc_00fb3a0005da0005bc_00fb3b0005db0005bc_00fb3c0005dc0005bc_00fb3e0005de0005bc,
  0x00fb400005e00005bc_00fb410005e10005bc_00fb430005e30005bc_00fb440005e40005bc_00fb460005e60005bc,
  0x00fb470005e70005bc_00fb480005e80005bc_00fb490005e90005bc_00fb4a0005ea0005bc_00fb4b0005d50005b9,
  0x00fb4c0005d10005bf_00fb4d0005db0005bf_00fb4e0005e40005bf_0105c90105d2000307_0105e40105da000307,
  0x01109a0110990110ba_01109c01109b0110ba_0110ab0110a50110ba_01112e011131011127_01112f011132011127,
  0x01134b01134701133e_01134c011347011357_0113830113820113c9_0113850113840113bb_01138e01138b0113c2,
  0x0113910113900113c9_0113c50113c20113c2_0113c70113c20113b8_0113c80113c20113c9_0114bb0114b90114ba,
  0x0114bc0114b90114b0_0114be0114b90114bd_0115ba0115b80115af_0115bb0115b90115af_011938011935011930,
  0x01612101611e01611e_01612201611e016129_01612301611e01611f_01612401612901611f_01612501611e016120,
  0x01612601612101611f_01612701612201611f_016128016121016120_016d68016d67016d67_016d69016d63016d67,
  0x016d6a016d69016d67_01d15e01d15701d165_01d15f01d15801d165_01d16001d15f01d16e_01d16101d15f01d16f,
  0x01d16201d15f01d170_01d16301d15f01d171_01d16401d15f01d172_01d1bb01d1b901d165_01d1bc01d1ba01d165,
  0x01d1bd01d1bb01d16e_01d1be01d1bc01d16e_01d1bf01d1bb01d16f_01d1c001d1bc01d16f_02f800004e3d000000,
  0x02f801004e38000000_02f802004e41000000_02f803020122000000_02f804004f60000000_02f805004fae000000,
  0x02f806004fbb000000_02f807005002000000_02f80800507a000000_02f809005099000000_02f80a0050e7000000,
  0x02f80b0050cf000000_02f80c00349e000000_02f80d02063a000000_02f80e00514d000000_02f80f005154000000,
  0x02f810005164000000_02f811005177000000_02f81202051c000000_02f8130034b9000000_02f814005167000000,
  0x02f81500518d000000_02f81602054b000000_02f817005197000000_02f8180051a4000000_02f819004ecc000000,
  0x02f81a0051ac000000_02f81b0051b5000000_02f81c0291df000000_02f81d0051f5000000_02f81e005203000000,
  0x02f81f0034df000000_02f82000523b000000_02f821005246000000_02f822005272000000_02f823005277000000,
  0x02f824003515000000_02f8250052c7000000_02f8260052c9000000_02f8270052e4000000_02f8280052fa000000,
  0x02f829005305000000_02f82a005306000000_02f82b005317000000_02f82c005349000000_02f82d005351000000,
  0x02f82e00535a000000_02f82f005373000000_02f83000537d000000_02f83100537f000000_02f83200537f000000,
  0x02f83300537f000000_02f834020a2c000000_02f835007070000000_02f8360053ca000000_02f8370053df000000,
  0x02f838020b63000000_02f8390053eb000000_02f83a0053f1000000_02f83b005406000000_02f83c00549e000000,
  0x02f83d005438000000_02f83e005448000000_02f83f005468000000_02f8400054a2000000_02f8410054f6000000,
  0x02f842005510000000_02f843005553000000_02f844005563000000_02f845005584000000_02f846005584000000,
  0x02f847005599000000_02f8480055ab000000_02f8490055b3000000_02f84a0055c2000000_02f84b005716000000,
  0x02f84c005606000000_02f84d005717000000_02f84e005651000000_02f84f005674000000_02f850005207000000,
  0x02f8510058ee000000_02f8520057ce000000_02f8530057f4000000_02f85400580d000000_02f85500578b000000,
  0x02f856005832000000_02f857005831000000_02f8580058ac000000_02f8590214e4000000_02f85a0058f2000000,
  0x02f85b0058f7000000_02f85c005906000000_02f85d00591a000000_02f85e005922000000_02f85f005962000000,
  0x02f8600216a8000000_02f8610216ea000000_02f8620059ec000000_02f863005a1b000000_02f864005a27000000,
  0x02f8650059d8000000_02f866005a66000000_02f8670036ee000000_02f8680036fc000000_02f869005b08000000,
  0x02f86a005b3e000000_02f86b005b3e000000_02f86c0219c8000000_02f86d005bc3000000_02f86e005bd8000000,
  0x02f86f005be7000000_02f870005bf3000000_02f871021b18000000_02f872005bff000000_02f873005c06000000,
  0x02f874005f53000000_02f875005c22000000_02f876003781000000_02f877005c60000000_02f878005c6e000000,
  0x02f879005cc0000000_02f87a005c8d000000_02f87b021de4000000_02f87c005d43000000_02f87d021de6000000,
  0x02f87e005d6e000000_02f87f005d6b000000_02f880005d7c000000_02f881005de1000000_02f882005de2000000,
  0x02f88300382f000000_02f884005dfd000000_02f885005e28000000_02f886005e3d000000_02f887005e69000000,
  0x02f888003862000000_02f889022183000000_02f88a00387c000000_02f88b005eb0000000_02f88c005eb3000000,
  0x02f88d005eb6000000_02f88e005eca000000_02f88f02a392000000_02f890005efe000000_02f891022331000000,
  0x02f892022331000000_02f893008201000000_02f894005f22000000_02f895005f22000000_02f8960038c7000000,
  0x02f8970232b8000000_02f8980261da000000_02f899005f62000000_02f89a005f6b000000_02f89b0038e3000000,
  0x02f89c005f9a000000_02f89d005fcd000000_02f89e005fd7000000_02f89f005ff9000000_02f8a0006081000000,
  0x02f8a100393a000000_02f8a200391c000000_02f8a3006094000000_02f8a40226d4000000_02f8a50060c7000000,
  0x02f8a6006148000000_02f8a700614c000000_02f8a800614e000000_02f8a900614c000000_02f8aa00617a000000,
  0x02f8ab00618e000000_02f8ac0061b2000000_02f8ad0061a4000000_02f8ae0061af000000_02f8af0061de000000,
  0x02f8b00061f2000000_02f8b10061f6000000_02f8b2006210000000_02f8b300621b000000_02f8b400625d000000,
  0x02f8b50062b1000000_02f8b60062d4000000_02f8b7006350000000_02f8b8022b0c000000_02f8b900633d000000,
  0x02f8ba0062fc000000_02f8bb006368000000_02f8bc006383000000_02f8bd0063e4000000_02f8be022bf1000000,
  0x02f8bf006422000000_02f8c00063c5000000_02f8c10063a9000000_02f8c2003a2e000000_02f8c3006469000000,
  0x02f8c400647e000000_02f8c500649d000000_02f8c6006477000000_02f8c7003a6c000000_02f8c800654f000000,
  0x02f8c900656c000000_02f8ca02300a000000_02f8cb0065e3000000_02f8cc0066f8000000_02f8cd006649000000,
  0x02f8ce003b19000000_02f8cf006691000000_02f8d0003b08000000_02f8d1003ae4000000_02f8d2005192000000,
  0x02f8d3005195000000_02f8d4006700000000_02f8d500669c000000_02f8d60080ad000000_02f8d70043d9000000,
  0x02f8d8006717000000_02f8d900671b000000_02f8da006721000000_02f8db00675e000000_02f8dc006753000000,
  0x02f8dd0233c3000000_02f8de003b49000000_02f8df0067fa000000_02f8e0006785000000_02f8e1006852000000,
  0x02f8e2006885000000_02f8e302346d000000_02f8e400688e000000_02f8e500681f000000_02f8e6006914000000,
  0x02f8e7003b9d000000_02f8e8006942000000_02f8e90069a3000000_02f8ea0069ea000000_02f8eb006aa8000000,
  0x02f8ec0236a3000000_02f8ed006adb000000_02f8ee003c18000000_02f8ef006b21000000_02f8f00238a7000000,
  0x02f8f1006b54000000_02f8f2003c4e000000_02f8f3006b72000000_02f8f4006b9f000000_02f8f5006bba000000,
  0x02f8f6006bbb000000_02f8f7023a8d000000_02f8f8021d0b000000_02f8f9023afa000000_02f8fa006c4e000000,
  0x02f8fb023cbc000000_02f8fc006cbf000000_02f8fd006ccd000000_02f8fe006c67000000_02f8ff006d16000000,
  0x02f900006d3e000000_02f901006d77000000_02f902006d41000000_02f903006d69000000_02f904006d78000000,
  0x02f905006d85000000_02f906023d1e000000_02f907006d34000000_02f908006e2f000000_02f909006e6e000000,
  0x02f90a003d33000000_02f90b006ecb000000_02f90c006ec7000000_02f90d023ed1000000_02f90e006df9000000,
  0x02f90f006f6e000000_02f910023f5e000000_02f911023f8e000000_02f912006fc6000000_02f913007039000000,
  0x02f91400701e000000_02f91500701b000000_02f916003d96000000_02f91700704a000000_02f91800707d000000,
  0x02f919007077000000_02f91a0070ad000000_02f91b020525000000_02f91c007145000000_02f91d024263000000,
  0x02f91e00719c000000_02f91f0243ab000000_02f920007228000000_02f921007235000000_02f922007250000000,
  0x02f923024608000000_02f924007280000000_02f925007295000000_02f926024735000000_02f927024814000000,
  0x02f92800737a000000_02f92900738b000000_02f92a003eac000000_02f92b0073a5000000_02f92c003eb8000000,
  0x02f92d003eb8000000_02f92e007447000000_02f92f00745c000000_02f930007471000000_02f931007485000000,
  0x02f9320074ca000000_02f933003f1b000000_02f934007524000000_02f935024c36000000_02f93600753e000000,
  0x02f937024c92000000_02f938007570000000_02f93902219f000000_02f93a007610000000_02f93b024fa1000000,
  0x02f93c024fb8000000_02f93d025044000000_02f93e003ffc000000_02f93f004008000000_02f9400076f4000000,
  0x02f9410250f3000000_02f9420250f2000000_02f943025119000000_02f944025133000000_02f94500771e000000,
  0x02f94600771f000000_02f94700771f000000_02f94800774a000000_02f949004039000000_02f94a00778b000000,
  0x02f94b004046000000_02f94c004096000000_02f94d02541d000000_02f94e00784e000000_02f94f00788c000000,
  0x02f9500078cc000000_02f9510040e3000000_02f952025626000000_02f953007956000000_02f95402569a000000,
  0x02f9550256c5000000_02f95600798f000000_02f9570079eb000000_02f95800412f000000_02f959007a40000000,
  0x02f95a007a4a000000_02f95b007a4f000000_02f95c02597c000000_02f95d025aa7000000_02f95e025aa7000000,
  0x02f95f007aee000000_02f960004202000000_02f961025bab000000_02f962007bc6000000_02f963007bc9000000,
  0x02f964004227000000_02f965025c80000000_02f966007cd2000000_02f9670042a0000000_02f968007ce8000000,
  0x02f969007ce3000000_02f96a007d00000000_02f96b025f86000000_02f96c007d63000000_02f96d004301000000,
  0x02f96e007dc7000000_02f96f007e02000000_02f970007e45000000_02f971004334000000_02f972026228000000,
  0x02f973026247000000_02f974004359000000_02f9750262d9000000_02f976007f7a000000_02f97702633e000000,
  0x02f978007f95000000_02f979007ffa000000_02f97a008005000000_02f97b0264da000000_02f97c026523000000,
  0x02f97d008060000000_02f97e0265a8000000_02f97f008070000000_02f98002335f000000_02f9810043d5000000,
  0x02f9820080b2000000_02f983008103000000_02f98400440b000000_02f98500813e000000_02f986005ab5000000,
  0x02f9870267a7000000_02f9880267b5000000_02f989023393000000_02f98a02339c000000_02f98b008201000000,
  0x02f98c008204000000_02f98d008f9e000000_02f98e00446b000000_02f98f008291000000_02f99000828b000000,
  0x02f99100829d000000_02f9920052b3000000_02f9930082b1000000_02f9940082b3000000_02f9950082bd000000,
  0x02f9960082e6000000_02f997026b3c000000_02f9980082e5000000_02f99900831d000000_02f99a008363000000,
  0x02f99b0083ad000000_02f99c008323000000_02f99d0083bd000000_02f99e0083e7000000_02f99f008457000000,
  0x02f9a0008353000000_02f9a10083ca000000_02f9a20083cc000000_02f9a30083dc000000_02f9a4026c36000000,
  0x02f9a5026d6b000000_02f9a6026cd5000000_02f9a700452b000000_02f9a80084f1000000_02f9a90084f3000000,
  0x02f9aa008516000000_02f9ab0273ca000000_02f9ac008564000000_02f9ad026f2c000000_02f9ae00455d000000,
  0x02f9af004561000000_02f9b0026fb1000000_02f9b10270d2000000_02f9b200456b000000_02f9b3008650000000,
  0x02f9b400865c000000_02f9b5008667000000_02f9b6008669000000_02f9b70086a9000000_02f9b8008688000000,
  0x02f9b900870e000000_02f9ba0086e2000000_02f9bb008779000000_02f9bc008728000000_02f9bd00876b000000,
  0x02f9be008786000000_02f9bf0045d7000000_02f9c00087e1000000_02f9c1008801000000_02f9c20045f9000000,
  0x02f9c3008860000000_02f9c4008863000000_02f9c5027667000000_02f9c60088d7000000_02f9c70088de000000,
  0x02f9c8004635000000_02f9c90088fa000000_02f9ca0034bb000000_02f9cb0278ae000000_02f9cc027966000000,
  0x02f9cd0046be000000_02f9ce0046c7000000_02f9cf008aa0000000_02f9d0008aed000000_02f9d1008b8a000000,
  0x02f9d2008c55000000_02f9d3027ca8000000_02f9d4008cab000000_02f9d5008cc1000000_02f9d6008d1b000000,
  0x02f9d7008d77000000_02f9d8027f2f000000_02f9d9020804000000_02f9da008dcb000000_02f9db008dbc000000,
  0x02f9dc008df0000000_02f9dd0208de000000_02f9de008ed4000000_02f9df008f38000000_02f9e00285d2000000,
  0x02f9e10285ed000000_02f9e2009094000000_02f9e30090f1000000_02f9e4009111000000_02f9e502872e000000,
  0x02f9e600911b000000_02f9e7009238000000_02f9e80092d7000000_02f9e90092d8000000_02f9ea00927c000000,
  0x02f9eb0093f9000000_02f9ec009415000000_02f9ed028bfa000000_02f9ee00958b000000_02f9ef004995000000,
  0x02f9f00095b7000000_02f9f1028d77000000_02f9f20049e6000000_02f9f30096c3000000_02f9f4005db2000000,
  0x02f9f5009723000000_02f9f6029145000000_02f9f702921a000000_02f9f8004a6e000000_02f9f9004a76000000,
  0x02f9fa0097e0000000_02f9fb02940a000000_02f9fc004ab2000000_02f9fd029496000000_02f9fe00980b000000,
  0x02f9ff00980b000000_02fa00009829000000_02fa010295b6000000_02fa020098e2000000_02fa03004b33000000,
  0x02fa04009929000000_02fa050099a7000000_02fa060099c2000000_02fa070099fe000000_02fa08004bce000000,
  0x02fa09029b30000000_02fa0a009b12000000_02fa0b009c40000000_02fa0c009cfd000000_02fa0d004cce000000,
  0x02fa0e004ced000000_02fa0f009d67000000_02fa1002a0ce000000_02fa11004cf8000000_02fa1202a105000000,
  0x02fa1302a20e000000_02fa1402a291000000_02fa15009ebb000000_02fa16004d56000000_02fa17009ef9000000,
  0x02fa18009efe000000_02fa19009f05000000_02fa1a009f0f000000_02fa1b009f16000000_02fa1c009f3b000000,
  0x02fa1d02a600000000]

/-- Canonical combining classes other than zero: first code point (6), last code point (6), class (2). -/
def combiningClass : List Nat := [
  0x000300000314e6_000315000315e8_000316000319dc_00031a00031ae8_00031b00031bd8_00031c000320dc,
  0x000321000322ca_000323000326dc_000327000328ca_000329000333dc_00033400033801_00033900033cdc,
  0x00033d000344e6_000345000345f0_000346000346e6_000347000349dc_00034a00034ce6_00034d00034edc,
  0x000350000352e6_000353000356dc_000357000357e6_000358000358e8_00035900035adc_00035b00035be6,
  0x00035c00035ce9_00035d00035eea_00035f00035fe9_000360000361ea_000362000362e9_00036300036fe6,
  0x000483000487e6_000591000591dc_000592000595e6_000596000596dc_000597000599e6_00059a00059ade,
  0x00059b00059bdc_00059c0005a1e6_0005a20005a7dc_0005a80005a9e6_0005aa0005aadc_0005ab0005ace6,
  0x0005ad0005adde_0005ae0005aee4_0005af0005afe6_0005b00005b00a_0005b10005b10b_0005b20005b20c,
  0x0005b30005b30d_0005b40005b40e_0005b50005b50f_0005b60005b610_0005b70005b711_0005b80005b812,
  0x0005b90005ba13_0005bb0005bb14_0005bc0005bc15_0005bd0005bd16_0005bf0005bf17_0005c10005c118,
  0x0005c20005c219_0005c40005c4e6_0005c50005c5dc_0005c70005c712_000610000617e6_0006180006181e,
  0x0006190006191f_00061a00061a20_00064b00064b1b_00064c00064c1c_00064d00064d1d_00064e00064e1e,
  0x00064f00064f1f_00065000065020_00065100065121_00065200065222_000653000654e6_000655000656dc,
  0x00065700065be6_00065c00065cdc_00065d00065ee6_00065f00065fdc_00067000067023_0006d60006dce6,
  0x0006df0006e2e6_0006e30006e3dc_0006e40006e4e6_0006e70006e8e6_0006ea0006eadc_0006eb0006ece6,
  0x0006ed0006eddc_00071100071124_000730000730e6_000731000731dc_000732000733e6_000734000734dc,
  0x000735000736e6_000737000739dc_00073a00073ae6_00073b00073cdc_00073d00073de6_00073e00073edc,
  0x00073f000741e6_000742000742dc_000743000743e6_000744000744dc_000745000745e6_000746000746dc,
  0x000747000747e6_000748000748dc_00074900074ae6_0007eb0007f1e6_0007f20007f2dc_0007f30007f3e6,
  0x0007fd0007fddc_000816000819e6_00081b000823e6_000825000827e6_00082900082de6_00085900085bdc,
  0x000897000898e6_00089900089bdc_00089c00089fe6_0008ca0008cee6_0008cf0008d3dc_0008d40008e1e6,
  0x0008e30008e3dc_0008e40008e5e6_0008e60008e6dc_0008e70008e8e6_0008e90008e9dc_0008ea0008ece6,
  0x0008ed0008efdc_0008f00008f01b_0008f10008f11c_0008f20008f21d_0008f30008f5e6_0008f60008f6dc,
  0x0008f70008f8e6_0008f90008fadc_0008fb0008ffe6_00093c00093c07_00094d00094d09_000951000951e6,
  0x000952000952dc_000953000954e6_0009bc0009bc07_0009cd0009cd09_0009fe0009fee6_000a3c000a3c07,
  0x000a4d000a4d09_000abc000abc07_000acd000acd09_000b3c000b3c07_000b4d000b4d09_000bcd000bcd09,
  0x000c3c000c3c07_000c4d000c4d09_000c55000c5554_000c56000c565b_000cbc000cbc07_000ccd000ccd09,
  0x000d3b000d3c09_000d4d000d4d09_000dca000dca09_000e38000e3967_000e3a000e3a09_000e48000e4b6b,
  0x000eb8000eb976_000eba000eba09_000ec8000ecb7a_000f18000f19dc_000f35000f35dc_000f37000f37dc,
  0x000f39000f39d8_000f71000f7181_000f72000f7282_000f74000f7484_000f7a000f7d82_000f80000f8082,
  0x000f82000f83e6_000f84000f8409_000f86000f87e6_000fc6000fc6dc_00103700103707_00103900103a09,
  0x00108d00108ddc_00135d00135fe6_00171400171509_00173400173409_0017d20017d209_0017dd0017dde6,
  0x0018a90018a9e4_001939001939de_00193a00193ae6_00193b00193bdc_001a17001a17e6_001a18001a18dc,
  0x001a60001a6009_001a75001a7ce6_001a7f001a7fdc_001ab0001ab4e6_001ab5001abadc_001abb001abce6,
  0x001abd001abddc_001abf001ac0dc_001ac1001ac2e6_001ac3001ac4dc_001ac5001ac9e6_001aca001acadc,
  0x001acb001adce6_001add001adddc_001ae0001ae5e6_001ae6001ae6dc_001ae7001aeae6_001aeb001aebea,
  0x001b34001b3407_001b44001b4409_001b6b001b6be6_001b6c001b6cdc_001b6d001b73e6_001baa001bab09,
  0x001be6001be607_001bf2001bf309_001c37001c3707_001cd0001cd2e6_001cd4001cd401_001cd5001cd9dc,
  0x001cda001cdbe6_001cdc001cdfdc_001ce0001ce0e6_001ce2001ce801_001ced001ceddc_001cf4001cf4e6,
  0x001cf8001cf9e6_001dc0001dc1e6_001dc2001dc2dc_001dc3001dc9e6_001dca001dcadc_001dcb001dcce6,
  0x001dcd001dcdea_001dce001dced6_001dcf001dcfdc_001dd0001dd0ca_001dd1001df5e6_001df6001df6e8,
  0x001df7001df8e4_001df9001df9dc_001dfa001dfada_001dfb001dfbe6_001dfc001dfce9_001dfd001dfddc,
  0x001dfe001dfee6_001dff001dffdc_0020d00020d1e6_0020d20020d301_0020d40020d7e6_0020d80020da01,
  0x0020db0020dce6_0020e10020e1e6_0020e50020e601_0020e70020e7e6_0020e80020e8dc_0020e90020e9e6,
  0x0020ea0020eb01_0020ec0020efdc_0020f00020f0e6_002cef002cf1e6_002d7f002d7f09_002de0002dffe6,
  0x00302a00302ada_00302b00302be4_00302c00302ce8_00302d00302dde_00302e00302fe0_00309900309a08,
  0x00a66f00a66fe6_00a67400a67de6_00a69e00a69fe6_00a6f000a6f1e6_00a80600a80609_00a82c00a82c09,
  0x00a8c400a8c409_00a8e000a8f1e6_00a92b00a92ddc_00a95300a95309_00a9b300a9b307_00a9c000a9c009,
  0x00aab000aab0e6_00aab200aab3e6_00aab400aab4dc_00aab700aab8e6_00aabe00aabfe6_00aac100aac1e6,
  0x00aaf600aaf609_00abed00abed09_00fb1e00fb1e1a_00fe2000fe26e6_00fe2700fe2ddc_00fe2e00fe2fe6,
  0x0101fd0101fddc_0102e00102e0dc_01037601037ae6_010a0d010a0ddc_010a0f010a0fe6_010a38010a38e6,
  0x010a39010a3901_010a3a010a3adc_010a3f010a3f09_010ae5010ae5e6_010ae6010ae6dc_010d24010d27e6,
  0x010d69010d6de6_010eab010eace6_010efa010efbdc_010efd010effdc_010f46010f47dc_010f48010f4ae6,
  0x010f4b010f4bdc_010f4c010f4ce6_010f4d010f50dc_010f82010f82e6_010f83010f83dc_010f84010f84e6,
  0x010f85010f85dc_01104601104609_01107001107009_01107f01107f09_0110b90110b909_0110ba0110ba07,
  0x011100011102e6_01113301113409_01117301117307_0111c00111c009_0111ca0111ca07_01123501123509,
  0x01123601123607_0112e90112e907_0112ea0112ea09_01133b01133c07_01134d01134d09_01136601136ce6,
  0x011370011374e6_0113ce0113d009_01144201144209_01144601144607_01145e01145ee6_0114c20114c209,
  0x0114c30114c307_0115bf0115bf09_0115c00115c007_01163f01163f09_0116b60116b609_0116b70116b707,
  0x01172b01172b09_01183901183909_01183a01183a07_01193d01193e09_01194301194307_0119e00119e009,
  0x011a34011a3409_011a47011a4709_011a99011a9909_011c3f011c3f09_011d42011d4207_011d44011d4509,
  0x011d97011d9709_011f41011f4209_01612f01612f09_016af0016af401_016b30016b36e6_016ff0016ff106,
  0x01bc9e01bc9e01_01d16501d166d8_01d16701d16901_01d16d01d16de2_01d16e01d172d8_01d17b01d182dc,
  0x01d18501d189e6_01d18a01d18bdc_01d1aa01d1ade6_01d24201d244e6_01e00001e006e6_01e00801e018e6,
  0x01e01b01e021e6_01e02301e024e6_01e02601e02ae6_01e08f01e08fe6_01e13001e136e6_01e2ae01e2aee6,
  0x01e2ec01e2efe6_01e4ec01e4ede8_01e4ee01e4eedc_01e4ef01e4efe6_01e5ee01e5eee6_01e5ef01e5efdc,
  0x01e6e301e6e3e6_01e6e601e6e6e6_01e6ee01e6efe6_01e6f501e6f5e6_01e8d001e8d6dc_01e94401e949e6,
  0x01e94a01e94a07]

/-- Code points that composition never produces; the tag of each record is zero. -/
def compositionExclusion : List Nat := [
  0x00034000034100_00034300034400_00037400037400_00037e00037e00_00038700038700_00095800095f00,
  0x0009dc0009dd00_0009df0009df00_000a33000a3300_000a36000a3600_000a59000a5b00_000a5e000a5e00,
  0x000b5c000b5d00_000f43000f4300_000f4d000f4d00_000f52000f5200_000f57000f5700_000f5c000f5c00,
  0x000f69000f6900_000f73000f7300_000f75000f7600_000f78000f7800_000f81000f8100_000f93000f9300,
  0x000f9d000f9d00_000fa2000fa200_000fa7000fa700_000fac000fac00_000fb9000fb900_001f71001f7100,
  0x001f73001f7300_001f75001f7500_001f77001f7700_001f79001f7900_001f7b001f7b00_001f7d001f7d00,
  0x001fbb001fbb00_001fbe001fbe00_001fc9001fc900_001fcb001fcb00_001fd3001fd300_001fdb001fdb00,
  0x001fe3001fe300_001feb001feb00_001fee001fef00_001ff9001ff900_001ffb001ffb00_001ffd001ffd00,
  0x00200000200100_00212600212600_00212a00212b00_00232900232a00_002adc002adc00_00f90000fa0d00,
  0x00fa1000fa1000_00fa1200fa1200_00fa1500fa1e00_00fa2000fa2000_00fa2200fa2200_00fa2500fa2600,
  0x00fa2a00fa6d00_00fa7000fad900_00fb1d00fb1d00_00fb1f00fb1f00_00fb2a00fb3600_00fb3800fb3c00,
  0x00fb3e00fb3e00_00fb4000fb4100_00fb4300fb4400_00fb4600fb4e00_01d15e01d16400_01d1bb01d1c000,
  0x02f80002fa1d00]

end CorpusSearch.Unicode.Table
