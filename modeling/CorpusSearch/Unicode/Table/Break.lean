/-!
Where grapheme clusters, words and sentences can break, by classes of code points.
-/

set_option autoImplicit false

namespace CorpusSearch.Unicode.Table

def clusterBreakNames : List (List String) := [
  ["cr"],
  ["cn", "control"],
  ["ex", "extend"],
  ["l"],
  ["lf"],
  ["lv"],
  ["lvt"],
  ["pp", "prepend"],
  ["ri", "regionalindicator"],
  ["sm", "spacingmark"],
  ["t"],
  ["v"],
  ["zwj"]]

/--
Grapheme cluster breaks; code points in no record have no value. A record is fourteen hexadecimal digits:
first code point (6), last code point (6), position of the value in the list of names (2).
-/
def clusterBreak : List Nat := [
  0x00000000000901_00000a00000a04_00000b00000c01_00000d00000d00_00000e00001f01_00007f00009f01,
  0x0000ad0000ad01_00030000036f02_00048300048902_0005910005bd02_0005bf0005bf02_0005c10005c202,
  0x0005c40005c502_0005c70005c702_00060000060507_00061000061a02_00061c00061c01_00064b00065f02,
  0x00067000067002_0006d60006dc02_0006dd0006dd07_0006df0006e402_0006e70006e802_0006ea0006ed02,
  0x00070f00070f07_00071100071102_00073000074a02_0007a60007b002_0007eb0007f302_0007fd0007fd02,
  0x00081600081902_00081b00082302_00082500082702_00082900082d02_00085900085b02_00089000089107,
  0x00089700089f02_0008ca0008e102_0008e20008e207_0008e300090202_00090300090309_00093a00093a02,
  0x00093b00093b09_00093c00093c02_00093e00094009_00094100094802_00094900094c09_00094d00094d02,
  0x00094e00094f09_00095100095702_00096200096302_00098100098102_00098200098309_0009bc0009bc02,
  0x0009be0009be02_0009bf0009c009_0009c10009c402_0009c70009c809_0009cb0009cc09_0009cd0009cd02,
  0x0009d70009d702_0009e20009e302_0009fe0009fe02_000a01000a0202_000a03000a0309_000a3c000a3c02,
  0x000a3e000a4009_000a41000a4202_000a47000a4802_000a4b000a4d02_000a51000a5102_000a70000a7102,
  0x000a75000a7502_000a81000a8202_000a83000a8309_000abc000abc02_000abe000ac009_000ac1000ac502,
  0x000ac7000ac802_000ac9000ac909_000acb000acc09_000acd000acd02_000ae2000ae302_000afa000aff02,
  0x000b01000b0102_000b02000b0309_000b3c000b3c02_000b3e000b3f02_000b40000b4009_000b41000b4402,
  0x000b47000b4809_000b4b000b4c09_000b4d000b4d02_000b55000b5702_000b62000b6302_000b82000b8202,
  0x000bbe000bbe02_000bbf000bbf09_000bc0000bc002_000bc1000bc209_000bc6000bc809_000bca000bcc09,
  0x000bcd000bcd02_000bd7000bd702_000c00000c0002_000c01000c0309_000c04000c0402_000c3c000c3c02,
  0x000c3e000c4002_000c41000c4409_000c46000c4802_000c4a000c4d02_000c55000c5602_000c62000c6302,
  0x000c81000c8102_000c82000c8309_000cbc000cbc02_000cbe000cbe09_000cbf000cc002_000cc1000cc109,
  0x000cc2000cc202_000cc3000cc409_000cc6000cc802_000cca000ccd02_000cd5000cd602_000ce2000ce302,
  0x000cf3000cf309_000d00000d0102_000d02000d0309_000d3b000d3c02_000d3e000d3e02_000d3f000d4009,
  0x000d41000d4402_000d46000d4809_000d4a000d4c09_000d4d000d4d02_000d4e000d4e07_000d57000d5702,
  0x000d62000d6302_000d81000d8102_000d82000d8309_000dca000dca02_000dcf000dcf02_000dd0000dd109,
  0x000dd2000dd402_000dd6000dd602_000dd8000dde09_000ddf000ddf02_000df2000df309_000e31000e3102,
  0x000e33000e3309_000e34000e3a02_000e47000e4e02_000eb1000eb102_000eb3000eb309_000eb4000ebc02,
  0x000ec8000ece02_000f18000f1902_000f35000f3502_000f37000f3702_000f39000f3902_000f3e000f3f09,
  0x000f71000f7e02_000f7f000f7f09_000f80000f8402_000f86000f8702_000f8d000f9702_000f99000fbc02,
  0x000fc6000fc602_00102d00103002_00103100103109_00103200103702_00103900103a02_00103b00103c09,
  0x00103d00103e02_00105600105709_00105800105902_00105e00106002_00107100107402_00108200108202,
  0x00108400108409_00108500108602_00108d00108d02_00109d00109d02_00110000115f03_0011600011a70b,
  0x0011a80011ff0a_00135d00135f02_00171200171502_00173200173402_00175200175302_00177200177302,
  0x0017b40017b502_0017b60017b609_0017b70017bd02_0017be0017c509_0017c60017c602_0017c70017c809,
  0x0017c90017d302_0017dd0017dd02_00180b00180d02_00180e00180e01_00180f00180f02_00188500188602,
  0x0018a90018a902_00192000192202_00192300192609_00192700192802_00192900192b09_00193000193109,
  0x00193200193202_00193300193809_00193900193b02_001a17001a1802_001a19001a1a09_001a1b001a1b02,
  0x001a55001a5509_001a56001a5602_001a57001a5709_001a58001a5e02_001a60001a6002_001a62001a6202,
  0x001a65001a6c02_001a6d001a7209_001a73001a7c02_001a7f001a7f02_001ab0001ace02_001b00001b0302,
  0x001b04001b0409_001b34001b3d02_001b3e001b4109_001b42001b4402_001b6b001b7302_001b80001b8102,
  0x001b82001b8209_001ba1001ba109_001ba2001ba502_001ba6001ba709_001ba8001bad02_001be6001be602,
  0x001be7001be709_001be8001be902_001bea001bec09_001bed001bed02_001bee001bee09_001bef001bf302,
  0x001c24001c2b09_001c2c001c3302_001c34001c3509_001c36001c3702_001cd0001cd202_001cd4001ce002,
  0x001ce1001ce109_001ce2001ce802_001ced001ced02_001cf4001cf402_001cf7001cf709_001cf8001cf902,
  0x001dc0001dff02_00200b00200b01_00200c00200c02_00200d00200d0c_00200e00200f01_00202800202e01,
  0x00206000206f01_0020d00020f002_002cef002cf102_002d7f002d7f02_002de0002dff02_00302a00302f02,
  0x00309900309a02_00a66f00a67202_00a67400a67d02_00a69e00a69f02_00a6f000a6f102_00a80200a80202,
  0x00a80600a80602_00a80b00a80b02_00a82300a82409_00a82500a82602_00a82700a82709_00a82c00a82c02,
  0x00a88000a88109_00a8b400a8c309_00a8c400a8c502_00a8e000a8f102_00a8ff00a8ff02_00a92600a92d02,
  0x00a94700a95102_00a95200a95209_00a95300a95302_00a96000a97c03_00a98000a98202_00a98300a98309,
  0x00a9b300a9b302_00a9b400a9b509_00a9b600a9b902_00a9ba00a9bb09_00a9bc00a9bd02_00a9be00a9bf09,
  0x00a9c000a9c002_00a9e500a9e502_00aa2900aa2e02_00aa2f00aa3009_00aa3100aa3202_00aa3300aa3409,
  0x00aa3500aa3602_00aa4300aa4302_00aa4c00aa4c02_00aa4d00aa4d09_00aa7c00aa7c02_00aab000aab002,
  0x00aab200aab402_00aab700aab802_00aabe00aabf02_00aac100aac102_00aaeb00aaeb09_00aaec00aaed02,
  0x00aaee00aaef09_00aaf500aaf509_00aaf600aaf602_00abe300abe409_00abe500abe502_00abe600abe709,
  0x00abe800abe802_00abe900abea09_00abec00abec09_00abed00abed02_00ac0000ac0005_00ac0100ac1b06,
  0x00ac1c00ac1c05_00ac1d00ac3706_00ac3800ac3805_00ac3900ac5306_00ac5400ac5405_00ac5500ac6f06,
  0x00ac7000ac7005_00ac7100ac8b06_00ac8c00ac8c05_00ac8d00aca706_00aca800aca805_00aca900acc306,
  0x00acc400acc405_00acc500acdf06_00ace000ace005_00ace100acfb06_00acfc00acfc05_00acfd00ad1706,
  0x00ad1800ad1805_00ad1900ad3306_00ad3400ad3405_00ad3500ad4f06_00ad5000ad5005_00ad5100ad6b06,
  0x00ad6c00ad6c05_00ad6d00ad8706_00ad8800ad8805_00ad8900ada306_00ada400ada405_00ada500adbf06,
  0x00adc000adc005_00adc100addb06_00addc00addc05_00addd00adf706_00adf800adf805_00adf900ae1306,
  0x00ae1400ae1405_00ae1500ae2f06_00ae3000ae3005_00ae3100ae4b06_00ae4c00ae4c05_00ae4d00ae6706,
  0x00ae6800ae6805_00ae6900ae8306_00ae8400ae8405_00ae8500ae9f06_00aea000aea005_00aea100aebb06,
  0x00aebc00aebc05_00aebd00aed706_00aed800aed805_00aed900aef306_00aef400aef405_00aef500af0f06,
  0x00af1000af1005_00af1100af2b06_00af2c00af2c05_00af2d00af4706_00af4800af4805_00af4900af6306,
  0x00af6400af6405_00af6500af7f06_00af8000af8005_00af8100af9b06_00af9c00af9c05_00af9d00afb706,
  0x00afb800afb805_00afb900afd306_00afd400afd405_00afd500afef06_00aff000aff005_00aff100b00b06,
  0x00b00c00b00c05_00b00d00b02706_00b02800b02805_00b02900b04306_00b04400b04405_00b04500b05f06,
  0x00b06000b06005_00b06100b07b06_00b07c00b07c05_00b07d00b09706_00b09800b09805_00b09900b0b306,
  0x00b0b400b0b405_00b0b500b0cf06_00b0d000b0d005_00b0d100b0eb06_00b0ec00b0ec05_00b0ed00b10706,
  0x00b10800b10805_00b10900b12306_00b12400b12405_00b12500b13f06_00b14000b14005_00b14100b15b06,
  0x00b15c00b15c05_00b15d00b17706_00b17800b17805_00b17900b19306_00b19400b19405_00b19500b1af06,
  0x00b1b000b1b005_00b1b100b1cb06_00b1cc00b1cc05_00b1cd00b1e706_00b1e800b1e805_00b1e900b20306,
  0x00b20400b20405_00b20500b21f06_00b22000b22005_00b22100b23b06_00b23c00b23c05_00b23d00b25706,
  0x00b25800b25805_00b25900b27306_00b27400b27405_00b27500b28f06_00b29000b29005_00b29100b2ab06,
  0x00b2ac00b2ac05_00b2ad00b2c706_00b2c800b2c805_00b2c900b2e306_00b2e400b2e405_00b2e500b2ff06,
  0x00b30000b30005_00b30100b31b06_00b31c00b31c05_00b31d00b33706_00b33800b33805_00b33900b35306,
  0x00b35400b35405_00b35500b36f06_00b37000b37005_00b37100b38b06_00b38c00b38c05_00b38d00b3a706,
  0x00b3a800b3a805_00b3a900b3c306_00b3c400b3c405_00b3c500b3df06_00b3e000b3e005_00b3e100b3fb06,
  0x00b3fc00b3fc05_00b3fd00b41706_00b41800b41805_00b41900b43306_00b43400b43405_00b43500b44f06,
  0x00b45000b45005_00b45100b46b06_00b46c00b46c05_00b46d00b48706_00b48800b48805_00b48900b4a306,
  0x00b4a400b4a405_00b4a500b4bf06_00b4c000b4c005_00b4c100b4db06_00b4dc00b4dc05_00b4dd00b4f706,
  0x00b4f800b4f805_00b4f900b51306_00b51400b51405_00b51500b52f06_00b53000b53005_00b53100b54b06,
  0x00b54c00b54c05_00b54d00b56706_00b56800b56805_00b56900b58306_00b58400b58405_00b58500b59f06,
  0x00b5a000b5a005_00b5a100b5bb06_00b5bc00b5bc05_00b5bd00b5d706_00b5d800b5d805_00b5d900b5f306,
  0x00b5f400b5f405_00b5f500b60f06_00b61000b61005_00b61100b62b06_00b62c00b62c05_00b62d00b64706,
  0x00b64800b64805_00b64900b66306_00b66400b66405_00b66500b67f06_00b68000b68005_00b68100b69b06,
  0x00b69c00b69c05_00b69d00b6b706_00b6b800b6b805_00b6b900b6d306_00b6d400b6d405_00b6d500b6ef06,
  0x00b6f000b6f005_00b6f100b70b06_00b70c00b70c05_00b70d00b72706_00b72800b72805_00b72900b74306,
  0x00b74400b74405_00b74500b75f06_00b76000b76005_00b76100b77b06_00b77c00b77c05_00b77d00b79706,
  0x00b79800b79805_00b79900b7b306_00b7b400b7b405_00b7b500b7cf06_00b7d000b7d005_00b7d100b7eb06,
  0x00b7ec00b7ec05_00b7ed00b80706_00b80800b80805_00b80900b82306_00b82400b82405_00b82500b83f06,
  0x00b84000b84005_00b84100b85b06_00b85c00b85c05_00b85d00b87706_00b87800b87805_00b87900b89306,
  0x00b89400b89405_00b89500b8af06_00b8b000b8b005_00b8b100b8cb06_00b8cc00b8cc05_00b8cd00b8e706,
  0x00b8e800b8e805_00b8e900b90306_00b90400b90405_00b90500b91f06_00b92000b92005_00b92100b93b06,
  0x00b93c00b93c05_00b93d00b95706_00b95800b95805_00b95900b97306_00b97400b97405_00b97500b98f06,
  0x00b99000b99005_00b99100b9ab06_00b9ac00b9ac05_00b9ad00b9c706_00b9c800b9c805_00b9c900b9e306,
  0x00b9e400b9e405_00b9e500b9ff06_00ba0000ba0005_00ba0100ba1b06_00ba1c00ba1c05_00ba1d00ba3706,
  0x00ba3800ba3805_00ba3900ba5306_00ba5400ba5405_00ba5500ba6f06_00ba7000ba7005_00ba7100ba8b06,
  0x00ba8c00ba8c05_00ba8d00baa706_00baa800baa805_00baa900bac306_00bac400bac405_00bac500badf06,
  0x00bae000bae005_00bae100bafb06_00bafc00bafc05_00bafd00bb1706_00bb1800bb1805_00bb1900bb3306,
  0x00bb3400bb3405_00bb3500bb4f06_00bb5000bb5005_00bb5100bb6b06_00bb6c00bb6c05_00bb6d00bb8706,
  0x00bb8800bb8805_00bb8900bba306_00bba400bba405_00bba500bbbf06_00bbc000bbc005_00bbc100bbdb06,
  0x00bbdc00bbdc05_00bbdd00bbf706_00bbf800bbf805_00bbf900bc1306_00bc1400bc1405_00bc1500bc2f06,
  0x00bc3000bc3005_00bc3100bc4b06_00bc4c00bc4c05_00bc4d00bc6706_00bc6800bc6805_00bc6900bc8306,
  0x00bc8400bc8405_00bc8500bc9f06_00bca000bca005_00bca100bcbb06_00bcbc00bcbc05_00bcbd00bcd706,
  0x00bcd800bcd805_00bcd900bcf306_00bcf400bcf405_00bcf500bd0f06_00bd1000bd1005_00bd1100bd2b06,
  0x00bd2c00bd2c05_00bd2d00bd4706_00bd4800bd4805_00bd4900bd6306_00bd6400bd6405_00bd6500bd7f06,
  0x00bd8000bd8005_00bd8100bd9b06_00bd9c00bd9c05_00bd9d00bdb706_00bdb800bdb805_00bdb900bdd306,
  0x00bdd400bdd405_00bdd500bdef06_00bdf000bdf005_00bdf100be0b06_00be0c00be0c05_00be0d00be2706,
  0x00be2800be2805_00be2900be4306_00be4400be4405_00be4500be5f06_00be6000be6005_00be6100be7b06,
  0x00be7c00be7c05_00be7d00be9706_00be9800be9805_00be9900beb306_00beb400beb405_00beb500becf06,
  0x00bed000bed005_00bed100beeb06_00beec00beec05_00beed00bf0706_00bf0800bf0805_00bf0900bf2306,
  0x00bf2400bf2405_00bf2500bf3f06_00bf4000bf4005_00bf4100bf5b06_00bf5c00bf5c05_00bf5d00bf7706,
  0x00bf7800bf7805_00bf7900bf9306_00bf9400bf9405_00bf9500bfaf06_00bfb000bfb005_00bfb100bfcb06,
  0x00bfcc00bfcc05_00bfcd00bfe706_00bfe800bfe805_00bfe900c00306_00c00400c00405_00c00500c01f06,
  0x00c02000c02005_00c02100c03b06_00c03c00c03c05_00c03d00c05706_00c05800c05805_00c05900c07306,
  0x00c07400c07405_00c07500c08f06_00c09000c09005_00c09100c0ab06_00c0ac00c0ac05_00c0ad00c0c706,
  0x00c0c800c0c805_00c0c900c0e306_00c0e400c0e405_00c0e500c0ff06_00c10000c10005_00c10100c11b06,
  0x00c11c00c11c05_00c11d00c13706_00c13800c13805_00c13900c15306_00c15400c15405_00c15500c16f06,
  0x00c17000c17005_00c17100c18b06_00c18c00c18c05_00c18d00c1a706_00c1a800c1a805_00c1a900c1c306,
  0x00c1c400c1c405_00c1c500c1df06_00c1e000c1e005_00c1e100c1fb06_00c1fc00c1fc05_00c1fd00c21706,
  0x00c21800c21805_00c21900c23306_00c23400c23405_00c23500c24f06_00c25000c25005_00c25100c26b06,
  0x00c26c00c26c05_00c26d00c28706_00c28800c28805_00c28900c2a306_00c2a400c2a405_00c2a500c2bf06,
  0x00c2c000c2c005_00c2c100c2db06_00c2dc00c2dc05_00c2dd00c2f706_00c2f800c2f805_00c2f900c31306,
  0x00c31400c31405_00c31500c32f06_00c33000c33005_00c33100c34b06_00c34c00c34c05_00c34d00c36706,
  0x00c36800c36805_00c36900c38306_00c38400c38405_00c38500c39f06_00c3a000c3a005_00c3a100c3bb06,
  0x00c3bc00c3bc05_00c3bd00c3d706_00c3d800c3d805_00c3d900c3f306_00c3f400c3f405_00c3f500c40f06,
  0x00c41000c41005_00c41100c42b06_00c42c00c42c05_00c42d00c44706_00c44800c44805_00c44900c46306,
  0x00c46400c46405_00c46500c47f06_00c48000c48005_00c48100c49b06_00c49c00c49c05_00c49d00c4b706,
  0x00c4b800c4b805_00c4b900c4d306_00c4d400c4d405_00c4d500c4ef06_00c4f000c4f005_00c4f100c50b06,
  0x00c50c00c50c05_00c50d00c52706_00c52800c52805_00c52900c54306_00c54400c54405_00c54500c55f06,
  0x00c56000c56005_00c56100c57b06_00c57c00c57c05_00c57d00c59706_00c59800c59805_00c59900c5b306,
  0x00c5b400c5b405_00c5b500c5cf06_00c5d000c5d005_00c5d100c5eb06_00c5ec00c5ec05_00c5ed00c60706,
  0x00c60800c60805_00c60900c62306_00c62400c62405_00c62500c63f06_00c64000c64005_00c64100c65b06,
  0x00c65c00c65c05_00c65d00c67706_00c67800c67805_00c67900c69306_00c69400c69405_00c69500c6af06,
  0x00c6b000c6b005_00c6b100c6cb06_00c6cc00c6cc05_00c6cd00c6e706_00c6e800c6e805_00c6e900c70306,
  0x00c70400c70405_00c70500c71f06_00c72000c72005_00c72100c73b06_00c73c00c73c05_00c73d00c75706,
  0x00c75800c75805_00c75900c77306_00c77400c77405_00c77500c78f06_00c79000c79005_00c79100c7ab06,
  0x00c7ac00c7ac05_00c7ad00c7c706_00c7c800c7c805_00c7c900c7e306_00c7e400c7e405_00c7e500c7ff06,
  0x00c80000c80005_00c80100c81b06_00c81c00c81c05_00c81d00c83706_00c83800c83805_00c83900c85306,
  0x00c85400c85405_00c85500c86f06_00c87000c87005_00c87100c88b06_00c88c00c88c05_00c88d00c8a706,
  0x00c8a800c8a805_00c8a900c8c306_00c8c400c8c405_00c8c500c8df06_00c8e000c8e005_00c8e100c8fb06,
  0x00c8fc00c8fc05_00c8fd00c91706_00c91800c91805_00c91900c93306_00c93400c93405_00c93500c94f06,
  0x00c95000c95005_00c95100c96b06_00c96c00c96c05_00c96d00c98706_00c98800c98805_00c98900c9a306,
  0x00c9a400c9a405_00c9a500c9bf06_00c9c000c9c005_00c9c100c9db06_00c9dc00c9dc05_00c9dd00c9f706,
  0x00c9f800c9f805_00c9f900ca1306_00ca1400ca1405_00ca1500ca2f06_00ca3000ca3005_00ca3100ca4b06,
  0x00ca4c00ca4c05_00ca4d00ca6706_00ca6800ca6805_00ca6900ca8306_00ca8400ca8405_00ca8500ca9f06,
  0x00caa000caa005_00caa100cabb06_00cabc00cabc05_00cabd00cad706_00cad800cad805_00cad900caf306,
  0x00caf400caf405_00caf500cb0f06_00cb1000cb1005_00cb1100cb2b06_00cb2c00cb2c05_00cb2d00cb4706,
  0x00cb4800cb4805_00cb4900cb6306_00cb6400cb6405_00cb6500cb7f06_00cb8000cb8005_00cb8100cb9b06,
  0x00cb9c00cb9c05_00cb9d00cbb706_00cbb800cbb805_00cbb900cbd306_00cbd400cbd405_00cbd500cbef06,
  0x00cbf000cbf005_00cbf100cc0b06_00cc0c00cc0c05_00cc0d00cc2706_00cc2800cc2805_00cc2900cc4306,
  0x00cc4400cc4405_00cc4500cc5f06_00cc6000cc6005_00cc6100cc7b06_00cc7c00cc7c05_00cc7d00cc9706,
  0x00cc9800cc9805_00cc9900ccb306_00ccb400ccb405_00ccb500cccf06_00ccd000ccd005_00ccd100cceb06,
  0x00ccec00ccec05_00cced00cd0706_00cd0800cd0805_00cd0900cd2306_00cd2400cd2405_00cd2500cd3f06,
  0x00cd4000cd4005_00cd4100cd5b06_00cd5c00cd5c05_00cd5d00cd7706_00cd7800cd7805_00cd7900cd9306,
  0x00cd9400cd9405_00cd9500cdaf06_00cdb000cdb005_00cdb100cdcb06_00cdcc00cdcc05_00cdcd00cde706,
  0x00cde800cde805_00cde900ce0306_00ce0400ce0405_00ce0500ce1f06_00ce2000ce2005_00ce2100ce3b06,
  0x00ce3c00ce3c05_00ce3d00ce5706_00ce5800ce5805_00ce5900ce7306_00ce7400ce7405_00ce7500ce8f06,
  0x00ce9000ce9005_00ce9100ceab06_00ceac00ceac05_00cead00cec706_00cec800cec805_00cec900cee306,
  0x00cee400cee405_00cee500ceff06_00cf0000cf0005_00cf0100cf1b06_00cf1c00cf1c05_00cf1d00cf3706,
  0x00cf3800cf3805_00cf3900cf5306_00cf5400cf5405_00cf5500cf6f06_00cf7000cf7005_00cf7100cf8b06,
  0x00cf8c00cf8c05_00cf8d00cfa706_00cfa800cfa805_00cfa900cfc306_00cfc400cfc405_00cfc500cfdf06,
  0x00cfe000cfe005_00cfe100cffb06_00cffc00cffc05_00cffd00d01706_00d01800d01805_00d01900d03306,
  0x00d03400d03405_00d03500d04f06_00d05000d05005_00d05100d06b06_00d06c00d06c05_00d06d00d08706,
  0x00d08800d08805_00d08900d0a306_00d0a400d0a405_00d0a500d0bf06_00d0c000d0c005_00d0c100d0db06,
  0x00d0dc00d0dc05_00d0dd00d0f706_00d0f800d0f805_00d0f900d11306_00d11400d11405_00d11500d12f06,
  0x00d13000d13005_00d13100d14b06_00d14c00d14c05_00d14d00d16706_00d16800d16805_00d16900d18306,
  0x00d18400d18405_00d18500d19f06_00d1a000d1a005_00d1a100d1bb06_00d1bc00d1bc05_00d1bd00d1d706,
  0x00d1d800d1d805_00d1d900d1f306_00d1f400d1f405_00d1f500d20f06_00d21000d21005_00d21100d22b06,
  0x00d22c00d22c05_00d22d00d24706_00d24800d24805_00d24900d26306_00d26400d26405_00d26500d27f06,
  0x00d28000d28005_00d28100d29b06_00d29c00d29c05_00d29d00d2b706_00d2b800d2b805_00d2b900d2d306,
  0x00d2d400d2d405_00d2d500d2ef06_00d2f000d2f005_00d2f100d30b06_00d30c00d30c05_00d30d00d32706,
  0x00d32800d32805_00d32900d34306_00d34400d34405_00d34500d35f06_00d36000d36005_00d36100d37b06,
  0x00d37c00d37c05_00d37d00d39706_00d39800d39805_00d39900d3b306_00d3b400d3b405_00d3b500d3cf06,
  0x00d3d000d3d005_00d3d100d3eb06_00d3ec00d3ec05_00d3ed00d40706_00d40800d40805_00d40900d42306,
  0x00d42400d42405_00d42500d43f06_00d44000d44005_00d44100d45b06_00d45c00d45c05_00d45d00d47706,
  0x00d47800d47805_00d47900d49306_00d49400d49405_00d49500d4af06_00d4b000d4b005_00d4b100d4cb06,
  0x00d4cc00d4cc05_00d4cd00d4e706_00d4e800d4e805_00d4e900d50306_00d50400d50405_00d50500d51f06,
  0x00d52000d52005_00d52100d53b06_00d53c00d53c05_00d53d00d55706_00d55800d55805_00d55900d57306,
  0x00d57400d57405_00d57500d58f06_00d59000d59005_00d59100d5ab06_00d5ac00d5ac05_00d5ad00d5c706,
  0x00d5c800d5c805_00d5c900d5e306_00d5e400d5e405_00d5e500d5ff06_00d60000d60005_00d60100d61b06,
  0x00d61c00d61c05_00d61d00d63706_00d63800d63805_00d63900d65306_00d65400d65405_00d65500d66f06,
  0x00d67000d67005_00d67100d68b06_00d68c00d68c05_00d68d00d6a706_00d6a800d6a805_00d6a900d6c306,
  0x00d6c400d6c405_00d6c500d6df06_00d6e000d6e005_00d6e100d6fb06_00d6fc00d6fc05_00d6fd00d71706,
  0x00d71800d71805_00d71900d73306_00d73400d73405_00d73500d74f06_00d75000d75005_00d75100d76b06,
  0x00d76c00d76c05_00d76d00d78706_00d78800d78805_00d78900d7a306_00d7b000d7c60b_00d7cb00d7fb0a,
  0x00fb1e00fb1e02_00fe0000fe0f02_00fe2000fe2f02_00feff00feff01_00ff9e00ff9f02_00fff000fffb01,
  0x0101fd0101fd02_0102e00102e002_01037601037a02_010a01010a0302_010a05010a0602_010a0c010a0f02,
  0x010a38010a3a02_010a3f010a3f02_010ae5010ae602_010d24010d2702_010d69010d6d02_010eab010eac02,
  0x010efc010eff02_010f46010f5002_010f82010f8502_01100001100009_01100101100102_01100201100209,
  0x01103801104602_01107001107002_01107301107402_01107f01108102_01108201108209_0110b00110b209,
  0x0110b30110b602_0110b70110b809_0110b90110ba02_0110bd0110bd07_0110c20110c202_0110cd0110cd07,
  0x01110001110202_01112701112b02_01112c01112c09_01112d01113402_01114501114609_01117301117302,
  0x01118001118102_01118201118209_0111b30111b509_0111b60111be02_0111bf0111bf09_0111c00111c002,
  0x0111c20111c307_0111c90111cc02_0111ce0111ce09_0111cf0111cf02_01122c01122e09_01122f01123102,
  0x01123201123309_01123401123702_01123e01123e02_01124101124102_0112df0112df02_0112e00112e209,
  0x0112e30112ea02_01130001130102_01130201130309_01133b01133c02_01133e01133e02_01133f01133f09,
  0x01134001134002_01134101134409_01134701134809_01134b01134c09_01134d01134d02_01135701135702,
  0x01136201136309_01136601136c02_01137001137402_0113b80113b802_0113b90113ba09_0113bb0113c002,
  0x0113c20113c202_0113c50113c502_0113c70113c902_0113ca0113ca09_0113cc0113cd09_0113ce0113d002,
  0x0113d10113d107_0113d20113d202_0113e10113e202_01143501143709_01143801143f02_01144001144109,
  0x01144201144402_01144501144509_01144601144602_01145e01145e02_0114b00114b002_0114b10114b209,
  0x0114b30114b802_0114b90114b909_0114ba0114ba02_0114bb0114bc09_0114bd0114bd02_0114be0114be09,
  0x0114bf0114c002_0114c10114c109_0114c20114c302_0115af0115af02_0115b00115b109_0115b20115b502,
  0x0115b80115bb09_0115bc0115bd02_0115be0115be09_0115bf0115c002_0115dc0115dd02_01163001163209,
  0x01163301163a02_01163b01163c09_01163d01163d02_01163e01163e09_01163f01164002_0116ab0116ab02,
  0x0116ac0116ac09_0116ad0116ad02_0116ae0116af09_0116b00116b702_01171d01171d02_01171e01171e09,
  0x01171f01171f02_01172201172502_01172601172609_01172701172b02_01182c01182e09_01182f01183702,
  0x01183801183809_01183901183a02_01193001193002_01193101193509_01193701193809_01193b01193e02,
  0x01193f01193f07_01194001194009_01194101194107_01194201194209_01194301194302_0119d10119d309,
  0x0119d40119d702_0119da0119db02_0119dc0119df09_0119e00119e002_0119e40119e409_011a01011a0a02,
  0x011a33011a3802_011a39011a3909_011a3a011a3a07_011a3b011a3e02_011a47011a4702_011a51011a5602,
  0x011a57011a5809_011a59011a5b02_011a84011a8907_011a8a011a9602_011a97011a9709_011a98011a9902,
  0x011c2f011c2f09_011c30011c3602_011c38011c3d02_011c3e011c3e09_011c3f011c3f02_011c92011ca702,
  0x011ca9011ca909_011caa011cb002_011cb1011cb109_011cb2011cb302_011cb4011cb409_011cb5011cb602,
  0x011d31011d3602_011d3a011d3a02_011d3c011d3d02_011d3f011d4502_011d46011d4607_011d47011d4702,
  0x011d8a011d8e09_011d90011d9102_011d93011d9409_011d95011d9502_011d96011d9609_011d97011d9702,
  0x011ef3011ef402_011ef5011ef609_011f00011f0102_011f02011f0207_011f03011f0309_011f34011f3509,
  0x011f36011f3a02_011f3e011f3f09_011f40011f4202_011f5a011f5a02_01343001343f01_01344001344002,
  0x01344701345502_01611e01612902_01612a01612c09_01612d01612f02_016af0016af402_016b30016b3602,
  0x016d63016d630b_016d67016d6a0b_016f4f016f4f02_016f51016f8709_016f8f016f9202_016fe4016fe402,
  0x016ff0016ff102_01bc9d01bc9e02_01bca001bca301_01cf0001cf2d02_01cf3001cf4602_01d16501d16902,
  0x01d16d01d17202_01d17301d17a01_01d17b01d18202_01d18501d18b02_01d1aa01d1ad02_01d24201d24402,
  0x01da0001da3602_01da3b01da6c02_01da7501da7502_01da8401da8402_01da9b01da9f02_01daa101daaf02,
  0x01e00001e00602_01e00801e01802_01e01b01e02102_01e02301e02402_01e02601e02a02_01e08f01e08f02,
  0x01e13001e13602_01e2ae01e2ae02_01e2ec01e2ef02_01e4ec01e4ef02_01e5ee01e5ef02_01e8d001e8d602,
  0x01e94401e94a02_01f1e601f1ff08_01f3fb01f3ff02_0e00000e001f01_0e00200e007f02_0e00800e00ff01,
  0x0e01000e01ef02_0e01f00e0fff01]

def wordBreakNames : List (List String) := [
  ["le", "aletter"],
  ["cr"],
  ["dq", "doublequote"],
  ["extend"],
  ["ex", "extendnumlet"],
  ["fo", "format"],
  ["hl", "hebrewletter"],
  ["ka", "katakana"],
  ["lf"],
  ["ml", "midletter"],
  ["mn", "midnum"],
  ["mb", "midnumlet"],
  ["nl", "newline"],
  ["nu", "numeric"],
  ["ri", "regionalindicator"],
  ["sq", "singlequote"],
  ["wsegspace"],
  ["zwj"]]

/--
Word breaks; code points in no record have no value. A record is fourteen hexadecimal digits:
first code point (6), last code point (6), position of the value in the list of names (2).
-/
def wordBreak : List Nat := [
  0x00000a00000a08_00000b00000c0c_00000d00000d01_00002000002010_00002200002202_0000270000270f,
  0x00002c00002c0a_00002e00002e0b_0000300000390d_00003a00003a09_00003b00003b0a_00004100005a00,
  0x00005f00005f04_00006100007a00_0000850000850c_0000aa0000aa00_0000ad0000ad05_0000b50000b500,
  0x0000b70000b709_0000ba0000ba00_0000c00000d600_0000d80000f600_0000f80002d700_0002de0002ff00,
  0x00030000036f03_00037000037400_00037600037700_00037a00037d00_00037e00037e0a_00037f00037f00,
  0x00038600038600_00038700038709_00038800038a00_00038c00038c00_00038e0003a100_0003a30003f500,
  0x0003f700048100_00048300048903_00048a00052f00_00053100055600_00055900055c00_00055e00055e00,
  0x00055f00055f09_00056000058800_0005890005890a_00058a00058a00_0005910005bd03_0005bf0005bf03,
  0x0005c10005c203_0005c40005c503_0005c70005c703_0005d00005ea06_0005ef0005f206_0005f30005f300,
  0x0005f40005f409_0006000006050d_00060c00060d0a_00061000061a03_00061c00061c05_00062000064a00,
  0x00064b00065f03_0006600006690d_00066b00066b0d_00066c00066c0a_00066e00066f00_00067000067003,
  0x0006710006d300_0006d50006d500_0006d60006dc03_0006dd0006dd0d_0006df0006e403_0006e50006e600,
  0x0006e70006e803_0006ea0006ed03_0006ee0006ef00_0006f00006f90d_0006fa0006fc00_0006ff0006ff00,
  0x00070f00071000_00071100071103_00071200072f00_00073000074a03_00074d0007a500_0007a60007b003,
  0x0007b10007b100_0007c00007c90d_0007ca0007ea00_0007eb0007f303_0007f40007f500_0007f80007f80a,
  0x0007fa0007fa00_0007fd0007fd03_00080000081500_00081600081903_00081a00081a00_00081b00082303,
  0x00082400082400_00082500082703_00082800082800_00082900082d03_00084000085800_00085900085b03,
  0x00086000086a00_00087000088700_00088900088e00_0008900008910d_00089700089f03_0008a00008c900,
  0x0008ca0008e103_0008e20008e20d_0008e300090303_00090400093900_00093a00093c03_00093d00093d00,
  0x00093e00094f03_00095000095000_00095100095703_00095800096100_00096200096303_00096600096f0d,
  0x00097100098000_00098100098303_00098500098c00_00098f00099000_0009930009a800_0009aa0009b000,
  0x0009b20009b200_0009b60009b900_0009bc0009bc03_0009bd0009bd00_0009be0009c403_0009c70009c803,
  0x0009cb0009cd03_0009ce0009ce00_0009d70009d703_0009dc0009dd00_0009df0009e100_0009e20009e303,
  0x0009e60009ef0d_0009f00009f100_0009fc0009fc00_0009fe0009fe03_000a01000a0303_000a05000a0a00,
  0x000a0f000a1000_000a13000a2800_000a2a000a3000_000a32000a3300_000a35000a3600_000a38000a3900,
  0x000a3c000a3c03_000a3e000a4203_000a47000a4803_000a4b000a4d03_000a51000a5103_000a59000a5c00,
  0x000a5e000a5e00_000a66000a6f0d_000a70000a7103_000a72000a7400_000a75000a7503_000a81000a8303,
  0x000a85000a8d00_000a8f000a9100_000a93000aa800_000aaa000ab000_000ab2000ab300_000ab5000ab900,
  0x000abc000abc03_000abd000abd00_000abe000ac503_000ac7000ac903_000acb000acd03_000ad0000ad000,
  0x000ae0000ae100_000ae2000ae303_000ae6000aef0d_000af9000af900_000afa000aff03_000b01000b0303,
  0x000b05000b0c00_000b0f000b1000_000b13000b2800_000b2a000b3000_000b32000b3300_000b35000b3900,
  0x000b3c000b3c03_000b3d000b3d00_000b3e000b4403_000b47000b4803_000b4b000b4d03_000b55000b5703,
  0x000b5c000b5d00_000b5f000b6100_000b62000b6303_000b66000b6f0d_000b71000b7100_000b82000b8203,
  0x000b83000b8300_000b85000b8a00_000b8e000b9000_000b92000b9500_000b99000b9a00_000b9c000b9c00,
  0x000b9e000b9f00_000ba3000ba400_000ba8000baa00_000bae000bb900_000bbe000bc203_000bc6000bc803,
  0x000bca000bcd03_000bd0000bd000_000bd7000bd703_000be6000bef0d_000c00000c0403_000c05000c0c00,
  0x000c0e000c1000_000c12000c2800_000c2a000c3900_000c3c000c3c03_000c3d000c3d00_000c3e000c4403,
  0x000c46000c4803_000c4a000c4d03_000c55000c5603_000c58000c5a00_000c5d000c5d00_000c60000c6100,
  0x000c62000c6303_000c66000c6f0d_000c80000c8000_000c81000c8303_000c85000c8c00_000c8e000c9000,
  0x000c92000ca800_000caa000cb300_000cb5000cb900_000cbc000cbc03_000cbd000cbd00_000cbe000cc403,
  0x000cc6000cc803_000cca000ccd03_000cd5000cd603_000cdd000cde00_000ce0000ce100_000ce2000ce303,
  0x000ce6000cef0d_000cf1000cf200_000cf3000cf303_000d00000d0303_000d04000d0c00_000d0e000d1000,
  0x000d12000d3a00_000d3b000d3c03_000d3d000d3d00_000d3e000d4403_000d46000d4803_000d4a000d4d03,
  0x000d4e000d4e00_000d54000d5600_000d57000d5703_000d5f000d6100_000d62000d6303_000d66000d6f0d,
  0x000d7a000d7f00_000d81000d8303_000d85000d9600_000d9a000db100_000db3000dbb00_000dbd000dbd00,
  0x000dc0000dc600_000dca000dca03_000dcf000dd403_000dd6000dd603_000dd8000ddf03_000de6000def0d,
  0x000df2000df303_000e31000e3103_000e34000e3a03_000e47000e4e03_000e50000e590d_000eb1000eb103,
  0x000eb4000ebc03_000ec8000ece03_000ed0000ed90d_000f00000f0000_000f18000f1903_000f20000f290d,
  0x000f35000f3503_000f37000f3703_000f39000f3903_000f3e000f3f03_000f40000f4700_000f49000f6c00,
  0x000f71000f8403_000f86000f8703_000f88000f8c00_000f8d000f9703_000f99000fbc03_000fc6000fc603,
  0x00102b00103e03_0010400010490d_00105600105903_00105e00106003_00106200106403_00106700106d03,
  0x00107100107403_00108200108d03_00108f00108f03_0010900010990d_00109a00109d03_0010a00010c500,
  0x0010c70010c700_0010cd0010cd00_0010d00010fa00_0010fc00124800_00124a00124d00_00125000125600,
  0x00125800125800_00125a00125d00_00126000128800_00128a00128d00_0012900012b000_0012b20012b500,
  0x0012b80012be00_0012c00012c000_0012c20012c500_0012c80012d600_0012d800131000_00131200131500,
  0x00131800135a00_00135d00135f03_00138000138f00_0013a00013f500_0013f80013fd00_00140100166c00,
  0x00166f00167f00_00168000168010_00168100169a00_0016a00016ea00_0016ee0016f800_00170000171100,
  0x00171200171503_00171f00173100_00173200173403_00174000175100_00175200175303_00176000176c00,
  0x00176e00177000_00177200177303_0017b40017d303_0017dd0017dd03_0017e00017e90d_00180b00180d03,
  0x00180e00180e05_00180f00180f03_0018100018190d_00182000187800_00188000188400_00188500188603,
  0x0018870018a800_0018a90018a903_0018aa0018aa00_0018b00018f500_00190000191e00_00192000192b03,
  0x00193000193b03_00194600194f0d_0019d00019da0d_001a00001a1600_001a17001a1b03_001a55001a5e03,
  0x001a60001a7c03_001a7f001a7f03_001a80001a890d_001a90001a990d_001ab0001ace03_001b00001b0403,
  0x001b05001b3300_001b34001b4403_001b45001b4c00_001b50001b590d_001b6b001b7303_001b80001b8203,
  0x001b83001ba000_001ba1001bad03_001bae001baf00_001bb0001bb90d_001bba001be500_001be6001bf303,
  0x001c00001c2300_001c24001c3703_001c40001c490d_001c4d001c4f00_001c50001c590d_001c5a001c7d00,
  0x001c80001c8a00_001c90001cba00_001cbd001cbf00_001cd0001cd203_001cd4001ce803_001ce9001cec00,
  0x001ced001ced03_001cee001cf300_001cf4001cf403_001cf5001cf600_001cf7001cf903_001cfa001cfa00,
  0x001d00001dbf00_001dc0001dff03_001e00001f1500_001f18001f1d00_001f20001f4500_001f48001f4d00,
  0x001f50001f5700_001f59001f5900_001f5b001f5b00_001f5d001f5d00_001f5f001f7d00_001f80001fb400,
  0x001fb6001fbc00_001fbe001fbe00_001fc2001fc400_001fc6001fcc00_001fd0001fd300_001fd6001fdb00,
  0x001fe0001fec00_001ff2001ff400_001ff6001ffc00_00200000200610_00200800200a10_00200c00200c03,
  0x00200d00200d11_00200e00200f05_0020180020190b_0020240020240b_00202700202709_0020280020290c,
  0x00202a00202e05_00202f00202f04_00203f00204004_0020440020440a_00205400205404_00205f00205f10,
  0x00206000206405_00206600206f05_00207100207100_00207f00207f00_00209000209c00_0020d00020f003,
  0x00210200210200_00210700210700_00210a00211300_00211500211500_00211900211d00_00212400212400,
  0x00212600212600_00212800212800_00212a00212d00_00212f00213900_00213c00213f00_00214500214900,
  0x00214e00214e00_00216000218800_0024b60024e900_002c00002ce400_002ceb002cee00_002cef002cf103,
  0x002cf2002cf300_002d00002d2500_002d27002d2700_002d2d002d2d00_002d30002d6700_002d6f002d6f00,
  0x002d7f002d7f03_002d80002d9600_002da0002da600_002da8002dae00_002db0002db600_002db8002dbe00,
  0x002dc0002dc600_002dc8002dce00_002dd0002dd600_002dd8002dde00_002de0002dff03_002e2f002e2f00,
  0x00300000300010_00300500300500_00302a00302f03_00303100303507_00303b00303c00_00309900309a03,
  0x00309b00309c07_0030a00030fa07_0030fc0030ff07_00310500312f00_00313100318e00_0031a00031bf00,
  0x0031f00031ff07_0032d00032fe07_00330000335707_00a00000a48c00_00a4d000a4fd00_00a50000a60c00,
  0x00a61000a61f00_00a62000a6290d_00a62a00a62b00_00a64000a66e00_00a66f00a67203_00a67400a67d03,
  0x00a67f00a69d00_00a69e00a69f03_00a6a000a6ef00_00a6f000a6f103_00a70800a7cd00_00a7d000a7d100,
  0x00a7d300a7d300_00a7d500a7dc00_00a7f200a80100_00a80200a80203_00a80300a80500_00a80600a80603,
  0x00a80700a80a00_00a80b00a80b03_00a80c00a82200_00a82300a82703_00a82c00a82c03_00a84000a87300,
  0x00a88000a88103_00a88200a8b300_00a8b400a8c503_00a8d000a8d90d_00a8e000a8f103_00a8f200a8f700,
  0x00a8fb00a8fb00_00a8fd00a8fe00_00a8ff00a8ff03_00a90000a9090d_00a90a00a92500_00a92600a92d03,
  0x00a93000a94600_00a94700a95303_00a96000a97c00_00a98000a98303_00a98400a9b200_00a9b300a9c003,
  0x00a9cf00a9cf00_00a9d000a9d90d_00a9e500a9e503_00a9f000a9f90d_00aa0000aa2800_00aa2900aa3603,
  0x00aa4000aa4200_00aa4300aa4303_00aa4400aa4b00_00aa4c00aa4d03_00aa5000aa590d_00aa7b00aa7d03,
  0x00aab000aab003_00aab200aab403_00aab700aab803_00aabe00aabf03_00aac100aac103_00aae000aaea00,
  0x00aaeb00aaef03_00aaf200aaf400_00aaf500aaf603_00ab0100ab0600_00ab0900ab0e00_00ab1100ab1600,
  0x00ab2000ab2600_00ab2800ab2e00_00ab3000ab6900_00ab7000abe200_00abe300abea03_00abec00abed03,
  0x00abf000abf90d_00ac0000d7a300_00d7b000d7c600_00d7cb00d7fb00_00fb0000fb0600_00fb1300fb1700,
  0x00fb1d00fb1d06_00fb1e00fb1e03_00fb1f00fb2806_00fb2a00fb3606_00fb3800fb3c06_00fb3e00fb3e06,
  0x00fb4000fb4106_00fb4300fb4406_00fb4600fb4f06_00fb5000fbb100_00fbd300fd3d00_00fd5000fd8f00,
  0x00fd9200fdc700_00fdf000fdfb00_00fe0000fe0f03_00fe1300fe1309_00fe2000fe2f03_00fe3300fe3404,
  0x00fe4d00fe4f04_00fe5000fe500a_00fe5200fe520b_00fe5400fe540a_00fe5500fe5509_00fe7000fe7400,
  0x00fe7600fefc00_00feff00feff05_00ff0700ff070b_00ff0c00ff0c0a_00ff0e00ff0e0b_00ff1000ff190d,
  0x00ff1a00ff1a09_00ff1b00ff1b0a_00ff2100ff3a00_00ff3f00ff3f04_00ff4100ff5a00_00ff6600ff9d07,
  0x00ff9e00ff9f03_00ffa000ffbe00_00ffc200ffc700_00ffca00ffcf00_00ffd200ffd700_00ffda00ffdc00,
  0x00fff900fffb05_01000001000b00_01000d01002600_01002801003a00_01003c01003d00_01003f01004d00,
  0x01005001005d00_0100800100fa00_01014001017400_0101fd0101fd03_01028001029c00_0102a00102d000,
  0x0102e00102e003_01030001031f00_01032d01034a00_01035001037500_01037601037a03_01038001039d00,
  0x0103a00103c300_0103c80103cf00_0103d10103d500_01040001049d00_0104a00104a90d_0104b00104d300,
  0x0104d80104fb00_01050001052700_01053001056300_01057001057a00_01057c01058a00_01058c01059200,
  0x01059401059500_0105970105a100_0105a30105b100_0105b30105b900_0105bb0105bc00_0105c00105f300,
  0x01060001073600_01074001075500_01076001076700_01078001078500_0107870107b000_0107b20107ba00,
  0x01080001080500_01080801080800_01080a01083500_01083701083800_01083c01083c00_01083f01085500,
  0x01086001087600_01088001089e00_0108e00108f200_0108f40108f500_01090001091500_01092001093900,
  0x0109800109b700_0109be0109bf00_010a00010a0000_010a01010a0303_010a05010a0603_010a0c010a0f03,
  0x010a10010a1300_010a15010a1700_010a19010a3500_010a38010a3a03_010a3f010a3f03_010a60010a7c00,
  0x010a80010a9c00_010ac0010ac700_010ac9010ae400_010ae5010ae603_010b00010b3500_010b40010b5500,
  0x010b60010b7200_010b80010b9100_010c00010c4800_010c80010cb200_010cc0010cf200_010d00010d2300,
  0x010d24010d2703_010d30010d390d_010d40010d490d_010d4a010d6500_010d69010d6d03_010d6f010d8500,
  0x010e80010ea900_010eab010eac03_010eb0010eb100_010ec2010ec400_010efc010eff03_010f00010f1c00,
  0x010f27010f2700_010f30010f4500_010f46010f5003_010f70010f8100_010f82010f8503_010fb0010fc400,
  0x010fe0010ff600_01100001100203_01100301103700_01103801104603_01106601106f0d_01107001107003,
  0x01107101107200_01107301107403_01107501107500_01107f01108203_0110830110af00_0110b00110ba03,
  0x0110bd0110bd0d_0110c20110c203_0110cd0110cd0d_0110d00110e800_0110f00110f90d_01110001110203,
  0x01110301112600_01112701113403_01113601113f0d_01114401114400_01114501114603_01114701114700,
  0x01115001117200_01117301117303_01117601117600_01118001118203_0111830111b200_0111b30111c003,
  0x0111c10111c400_0111c90111cc03_0111ce0111cf03_0111d00111d90d_0111da0111da00_0111dc0111dc00,
  0x01120001121100_01121301122b00_01122c01123703_01123e01123e03_01123f01124000_01124101124103,
  0x01128001128600_01128801128800_01128a01128d00_01128f01129d00_01129f0112a800_0112b00112de00,
  0x0112df0112ea03_0112f00112f90d_01130001130303_01130501130c00_01130f01131000_01131301132800,
  0x01132a01133000_01133201133300_01133501133900_01133b01133c03_01133d01133d00_01133e01134403,
  0x01134701134803_01134b01134d03_01135001135000_01135701135703_01135d01136100_01136201136303,
  0x01136601136c03_01137001137403_01138001138900_01138b01138b00_01138e01138e00_0113900113b500,
  0x0113b70113b700_0113b80113c003_0113c20113c203_0113c50113c503_0113c70113ca03_0113cc0113d003,
  0x0113d10113d100_0113d20113d203_0113d30113d300_0113e10113e203_01140001143400_01143501144603,
  0x01144701144a00_0114500114590d_01145e01145e03_01145f01146100_0114800114af00_0114b00114c303,
  0x0114c40114c500_0114c70114c700_0114d00114d90d_0115800115ae00_0115af0115b503_0115b80115c003,
  0x0115d80115db00_0115dc0115dd03_01160001162f00_01163001164003_01164401164400_0116500116590d,
  0x0116800116aa00_0116ab0116b703_0116b80116b800_0116c00116c90d_0116d00116e30d_01171d01172b03,
  0x0117300117390d_01180001182b00_01182c01183a03_0118a00118df00_0118e00118e90d_0118ff01190600,
  0x01190901190900_01190c01191300_01191501191600_01191801192f00_01193001193503_01193701193803,
  0x01193b01193e03_01193f01193f00_01194001194003_01194101194100_01194201194303_0119500119590d,
  0x0119a00119a700_0119aa0119d000_0119d10119d703_0119da0119e003_0119e10119e100_0119e30119e300,
  0x0119e40119e403_011a00011a0000_011a01011a0a03_011a0b011a3200_011a33011a3903_011a3a011a3a00,
  0x011a3b011a3e03_011a47011a4703_011a50011a5000_011a51011a5b03_011a5c011a8900_011a8a011a9903,
  0x011a9d011a9d00_011ab0011af800_011bc0011be000_011bf0011bf90d_011c00011c0800_011c0a011c2e00,
  0x011c2f011c3603_011c38011c3f03_011c40011c4000_011c50011c590d_011c72011c8f00_011c92011ca703,
  0x011ca9011cb603_011d00011d0600_011d08011d0900_011d0b011d3000_011d31011d3603_011d3a011d3a03,
  0x011d3c011d3d03_011d3f011d4503_011d46011d4600_011d47011d4703_011d50011d590d_011d60011d6500,
  0x011d67011d6800_011d6a011d8900_011d8a011d8e03_011d90011d9103_011d93011d9703_011d98011d9800,
  0x011da0011da90d_011ee0011ef200_011ef3011ef603_011f00011f0103_011f02011f0200_011f03011f0303,
  0x011f04011f1000_011f12011f3300_011f34011f3a03_011f3e011f4203_011f50011f590d_011f5a011f5a03,
  0x011fb0011fb000_01200001239900_01240001246e00_01248001254300_012f90012ff000_01300001342f00,
  0x01343001343f05_01344001344003_01344101344600_01344701345503_0134600143fa00_01440001464600,
  0x01610001611d00_01611e01612f03_0161300161390d_016800016a3800_016a40016a5e00_016a60016a690d,
  0x016a70016abe00_016ac0016ac90d_016ad0016aed00_016af0016af403_016b00016b2f00_016b30016b3603,
  0x016b40016b4300_016b50016b590d_016b63016b7700_016b7d016b8f00_016d40016d6c00_016d70016d790d,
  0x016e40016e7f00_016f00016f4a00_016f4f016f4f03_016f50016f5000_016f51016f8703_016f8f016f9203,
  0x016f93016f9f00_016fe0016fe100_016fe3016fe300_016fe4016fe403_016ff0016ff103_01aff001aff307,
  0x01aff501affb07_01affd01affe07_01b00001b00007_01b12001b12207_01b15501b15507_01b16401b16707,
  0x01bc0001bc6a00_01bc7001bc7c00_01bc8001bc8800_01bc9001bc9900_01bc9d01bc9e03_01bca001bca305,
  0x01ccf001ccf90d_01cf0001cf2d03_01cf3001cf4603_01d16501d16903_01d16d01d17203_01d17301d17a05,
  0x01d17b01d18203_01d18501d18b03_01d1aa01d1ad03_01d24201d24403_01d40001d45400_01d45601d49c00,
  0x01d49e01d49f00_01d4a201d4a200_01d4a501d4a600_01d4a901d4ac00_01d4ae01d4b900_01d4bb01d4bb00,
  0x01d4bd01d4c300_01d4c501d50500_01d50701d50a00_01d50d01d51400_01d51601d51c00_01d51e01d53900,
  0x01d53b01d53e00_01d54001d54400_01d54601d54600_01d54a01d55000_01d55201d6a500_01d6a801d6c000,
  0x01d6c201d6da00_01d6dc01d6fa00_01d6fc01d71400_01d71601d73400_01d73601d74e00_01d75001d76e00,
  0x01d77001d78800_01d78a01d7a800_01d7aa01d7c200_01d7c401d7cb00_01d7ce01d7ff0d_01da0001da3603,
  0x01da3b01da6c03_01da7501da7503_01da8401da8403_01da9b01da9f03_01daa101daaf03_01df0001df1e00,
  0x01df2501df2a00_01e00001e00603_01e00801e01803_01e01b01e02103_01e02301e02403_01e02601e02a03,
  0x01e03001e06d00_01e08f01e08f03_01e10001e12c00_01e13001e13603_01e13701e13d00_01e14001e1490d,
  0x01e14e01e14e00_01e29001e2ad00_01e2ae01e2ae03_01e2c001e2eb00_01e2ec01e2ef03_01e2f001e2f90d,
  0x01e4d001e4eb00_01e4ec01e4ef03_01e4f001e4f90d_01e5d001e5ed00_01e5ee01e5ef03_01e5f001e5f000,
  0x01e5f101e5fa0d_01e7e001e7e600_01e7e801e7eb00_01e7ed01e7ee00_01e7f001e7fe00_01e80001e8c400,
  0x01e8d001e8d603_01e90001e94300_01e94401e94a03_01e94b01e94b00_01e95001e9590d_01ee0001ee0300,
  0x01ee0501ee1f00_01ee2101ee2200_01ee2401ee2400_01ee2701ee2700_01ee2901ee3200_01ee3401ee3700,
  0x01ee3901ee3900_01ee3b01ee3b00_01ee4201ee4200_01ee4701ee4700_01ee4901ee4900_01ee4b01ee4b00,
  0x01ee4d01ee4f00_01ee5101ee5200_01ee5401ee5400_01ee5701ee5700_01ee5901ee5900_01ee5b01ee5b00,
  0x01ee5d01ee5d00_01ee5f01ee5f00_01ee6101ee6200_01ee6401ee6400_01ee6701ee6a00_01ee6c01ee7200,
  0x01ee7401ee7700_01ee7901ee7c00_01ee7e01ee7e00_01ee8001ee8900_01ee8b01ee9b00_01eea101eea300,
  0x01eea501eea900_01eeab01eebb00_01f13001f14900_01f15001f16900_01f17001f18900_01f1e601f1ff0e,
  0x01f3fb01f3ff03_01fbf001fbf90d_0e00010e000105_0e00200e007f03_0e01000e01ef03]

def sentenceBreakNames : List (List String) := [
  ["at", "aterm"],
  ["cr"],
  ["cl", "close"],
  ["ex", "extend"],
  ["fo", "format"],
  ["lf"],
  ["lo", "lower"],
  ["nu", "numeric"],
  ["le", "oletter"],
  ["sc", "scontinue"],
  ["st", "sterm"],
  ["se", "sep"],
  ["sp"],
  ["up", "upper"]]

/--
Sentence breaks; code points in no record have no value. A record is fourteen hexadecimal digits:
first code point (6), last code point (6), position of the value in the list of names (2).
-/
def sentenceBreak : List Nat := [
  0x0000090000090c_00000a00000a05_00000b00000c0c_00000d00000d01_0000200000200c_0000210000210a,
  0x00002200002202_00002700002902_00002c00002d09_00002e00002e00_00003000003907_00003a00003b09,
  0x00003f00003f0a_00004100005a0d_00005b00005b02_00005d00005d02_00006100007a06_00007b00007b02,
  0x00007d00007d02_0000850000850b_0000a00000a00c_0000aa0000aa06_0000ab0000ab02_0000ad0000ad04,
  0x0000b50000b506_0000ba0000ba06_0000bb0000bb02_0000c00000d60d_0000d80000de0d_0000df0000f606,
  0x0000f80000ff06_0001000001000d_00010100010106_0001020001020d_00010300010306_0001040001040d,
  0x00010500010506_0001060001060d_00010700010706_0001080001080d_00010900010906_00010a00010a0d,
  0x00010b00010b06_00010c00010c0d_00010d00010d06_00010e00010e0d_00010f00010f06_0001100001100d,
  0x00011100011106_0001120001120d_00011300011306_0001140001140d_00011500011506_0001160001160d,
  0x00011700011706_0001180001180d_00011900011906_00011a00011a0d_00011b00011b06_00011c00011c0d,
  0x00011d00011d06_00011e00011e0d_00011f00011f06_0001200001200d_00012100012106_0001220001220d,
  0x00012300012306_0001240001240d_00012500012506_0001260001260d_00012700012706_0001280001280d,
  0x00012900012906_00012a00012a0d_00012b00012b06_00012c00012c0d_00012d00012d06_00012e00012e0d,
  0x00012f00012f06_0001300001300d_00013100013106_0001320001320d_00013300013306_0001340001340d,
  0x00013500013506_0001360001360d_00013700013806_0001390001390d_00013a00013a06_00013b00013b0d,
  0x00013c00013c06_00013d00013d0d_00013e00013e06_00013f00013f0d_00014000014006_0001410001410d,
  0x00014200014206_0001430001430d_00014400014406_0001450001450d_00014600014606_0001470001470d,
  0x00014800014906_00014a00014a0d_00014b00014b06_00014c00014c0d_00014d00014d06_00014e00014e0d,
  0x00014f00014f06_0001500001500d_00015100015106_0001520001520d_00015300015306_0001540001540d,
  0x00015500015506_0001560001560d_00015700015706_0001580001580d_00015900015906_00015a00015a0d,
  0x00015b00015b06_00015c00015c0d_00015d00015d06_00015e00015e0d_00015f00015f06_0001600001600d,
  0x00016100016106_0001620001620d_00016300016306_0001640001640d_00016500016506_0001660001660d,
  0x00016700016706_0001680001680d_00016900016906_00016a00016a0d_00016b00016b06_00016c00016c0d,
  0x00016d00016d06_00016e00016e0d_00016f00016f06_0001700001700d_00017100017106_0001720001720d,
  0x00017300017306_0001740001740d_00017500017506_0001760001760d_00017700017706_0001780001790d,
  0x00017a00017a06_00017b00017b0d_00017c00017c06_00017d00017d0d_00017e00018006_0001810001820d,
  0x00018300018306_0001840001840d_00018500018506_0001860001870d_00018800018806_00018900018b0d,
  0x00018c00018d06_00018e0001910d_00019200019206_0001930001940d_00019500019506_0001960001980d,
  0x00019900019b06_00019c00019d0d_00019e00019e06_00019f0001a00d_0001a10001a106_0001a20001a20d,
  0x0001a30001a306_0001a40001a40d_0001a50001a506_0001a60001a70d_0001a80001a806_0001a90001a90d,
  0x0001aa0001ab06_0001ac0001ac0d_0001ad0001ad06_0001ae0001af0d_0001b00001b006_0001b10001b30d,
  0x0001b40001b406_0001b50001b50d_0001b60001b606_0001b70001b80d_0001b90001ba06_0001bb0001bb08,
  0x0001bc0001bc0d_0001bd0001bf06_0001c00001c308_0001c40001c50d_0001c60001c606_0001c70001c80d,
  0x0001c90001c906_0001ca0001cb0d_0001cc0001cc06_0001cd0001cd0d_0001ce0001ce06_0001cf0001cf0d,
  0x0001d00001d006_0001d10001d10d_0001d20001d206_0001d30001d30d_0001d40001d406_0001d50001d50d,
  0x0001d60001d606_0001d70001d70d_0001d80001d806_0001d90001d90d_0001da0001da06_0001db0001db0d,
  0x0001dc0001dd06_0001de0001de0d_0001df0001df06_0001e00001e00d_0001e10001e106_0001e20001e20d,
  0x0001e30001e306_0001e40001e40d_0001e50001e506_0001e60001e60d_0001e70001e706_0001e80001e80d,
  0x0001e90001e906_0001ea0001ea0d_0001eb0001eb06_0001ec0001ec0d_0001ed0001ed06_0001ee0001ee0d,
  0x0001ef0001f006_0001f10001f20d_0001f30001f306_0001f40001f40d_0001f50001f506_0001f60001f80d,
  0x0001f90001f906_0001fa0001fa0d_0001fb0001fb06_0001fc0001fc0d_0001fd0001fd06_0001fe0001fe0d,
  0x0001ff0001ff06_0002000002000d_00020100020106_0002020002020d_00020300020306_0002040002040d,
  0x00020500020506_0002060002060d_00020700020706_0002080002080d_00020900020906_00020a00020a0d,
  0x00020b00020b06_00020c00020c0d_00020d00020d06_00020e00020e0d_00020f00020f06_0002100002100d,
  0x00021100021106_0002120002120d_00021300021306_0002140002140d_00021500021506_0002160002160d,
  0x00021700021706_0002180002180d_00021900021906_00021a00021a0d_00021b00021b06_00021c00021c0d,
  0x00021d00021d06_00021e00021e0d_00021f00021f06_0002200002200d_00022100022106_0002220002220d,
  0x00022300022306_0002240002240d_00022500022506_0002260002260d_00022700022706_0002280002280d,
  0x00022900022906_00022a00022a0d_00022b00022b06_00022c00022c0d_00022d00022d06_00022e00022e0d,
  0x00022f00022f06_0002300002300d_00023100023106_0002320002320d_00023300023906_00023a00023b0d,
  0x00023c00023c06_00023d00023e0d_00023f00024006_0002410002410d_00024200024206_0002430002460d,
  0x00024700024706_0002480002480d_00024900024906_00024a00024a0d_00024b00024b06_00024c00024c0d,
  0x00024d00024d06_00024e00024e0d_00024f00029306_00029400029408_0002950002b806_0002b90002bf08,
  0x0002c00002c106_0002c60002d108_0002e00002e406_0002ec0002ec08_0002ee0002ee08_00030000036f03,
  0x0003700003700d_00037100037106_0003720003720d_00037300037306_00037400037408_0003760003760d,
  0x00037700037706_00037a00037d06_00037e00037e09_00037f00037f0d_0003860003860d_00038800038a0d,
  0x00038c00038c0d_00038e00038f0d_00039000039006_0003910003a10d_0003a30003ab0d_0003ac0003ce06,
  0x0003cf0003cf0d_0003d00003d106_0003d20003d40d_0003d50003d706_0003d80003d80d_0003d90003d906,
  0x0003da0003da0d_0003db0003db06_0003dc0003dc0d_0003dd0003dd06_0003de0003de0d_0003df0003df06,
  0x0003e00003e00d_0003e10003e106_0003e20003e20d_0003e30003e306_0003e40003e40d_0003e50003e506,
  0x0003e60003e60d_0003e70003e706_0003e80003e80d_0003e90003e906_0003ea0003ea0d_0003eb0003eb06,
  0x0003ec0003ec0d_0003ed0003ed06_0003ee0003ee0d_0003ef0003f306_0003f40003f40d_0003f50003f506,
  0x0003f70003f70d_0003f80003f806_0003f90003fa0d_0003fb0003fc06_0003fd00042f0d_00043000045f06,
  0x0004600004600d_00046100046106_0004620004620d_00046300046306_0004640004640d_00046500046506,
  0x0004660004660d_00046700046706_0004680004680d_00046900046906_00046a00046a0d_00046b00046b06,
  0x00046c00046c0d_00046d00046d06_00046e00046e0d_00046f00046f06_0004700004700d_00047100047106,
  0x0004720004720d_00047300047306_0004740004740d_00047500047506_0004760004760d_00047700047706,
  0x0004780004780d_00047900047906_00047a00047a0d_00047b00047b06_00047c00047c0d_00047d00047d06,
  0x00047e00047e0d_00047f00047f06_0004800004800d_00048100048106_00048300048903_00048a00048a0d,
  0x00048b00048b06_00048c00048c0d_00048d00048d06_00048e00048e0d_00048f00048f06_0004900004900d,
  0x00049100049106_0004920004920d_00049300049306_0004940004940d_00049500049506_0004960004960d,
  0x00049700049706_0004980004980d_00049900049906_00049a00049a0d_00049b00049b06_00049c00049c0d,
  0x00049d00049d06_00049e00049e0d_00049f00049f06_0004a00004a00d_0004a10004a106_0004a20004a20d,
  0x0004a30004a306_0004a40004a40d_0004a50004a506_0004a60004a60d_0004a70004a706_0004a80004a80d,
  0x0004a90004a906_0004aa0004aa0d_0004ab0004ab06_0004ac0004ac0d_0004ad0004ad06_0004ae0004ae0d,
  0x0004af0004af06_0004b00004b00d_0004b10004b106_0004b20004b20d_0004b30004b306_0004b40004b40d,
  0x0004b50004b506_0004b60004b60d_0004b70004b706_0004b80004b80d_0004b90004b906_0004ba0004ba0d,
  0x0004bb0004bb06_0004bc0004bc0d_0004bd0004bd06_0004be0004be0d_0004bf0004bf06_0004c00004c10d,
  0x0004c20004c206_0004c30004c30d_0004c40004c406_0004c50004c50d_0004c60004c606_0004c70004c70d,
  0x0004c80004c806_0004c90004c90d_0004ca0004ca06_0004cb0004cb0d_0004cc0004cc06_0004cd0004cd0d,
  0x0004ce0004cf06_0004d00004d00d_0004d10004d106_0004d20004d20d_0004d30004d306_0004d40004d40d,
  0x0004d50004d506_0004d60004d60d_0004d70004d706_0004d80004d80d_0004d90004d906_0004da0004da0d,
  0x0004db0004db06_0004dc0004dc0d_0004dd0004dd06_0004de0004de0d_0004df0004df06_0004e00004e00d,
  0x0004e10004e106_0004e20004e20d_0004e30004e306_0004e40004e40d_0004e50004e506_0004e60004e60d,
  0x0004e70004e706_0004e80004e80d_0004e90004e906_0004ea0004ea0d_0004eb0004eb06_0004ec0004ec0d,
  0x0004ed0004ed06_0004ee0004ee0d_0004ef0004ef06_0004f00004f00d_0004f10004f106_0004f20004f20d,
  0x0004f30004f306_0004f40004f40d_0004f50004f506_0004f60004f60d_0004f70004f706_0004f80004f80d,
  0x0004f90004f906_0004fa0004fa0d_0004fb0004fb06_0004fc0004fc0d_0004fd0004fd06_0004fe0004fe0d,
  0x0004ff0004ff06_0005000005000d_00050100050106_0005020005020d_00050300050306_0005040005040d,
  0x00050500050506_0005060005060d_00050700050706_0005080005080d_00050900050906_00050a00050a0d,
  0x00050b00050b06_00050c00050c0d_00050d00050d06_00050e00050e0d_00050f00050f06_0005100005100d,
  0x00051100051106_0005120005120d_00051300051306_0005140005140d_00051500051506_0005160005160d,
  0x00051700051706_0005180005180d_00051900051906_00051a00051a0d_00051b00051b06_00051c00051c0d,
  0x00051d00051d06_00051e00051e0d_00051f00051f06_0005200005200d_00052100052106_0005220005220d,
  0x00052300052306_0005240005240d_00052500052506_0005260005260d_00052700052706_0005280005280d,
  0x00052900052906_00052a00052a0d_00052b00052b06_00052c00052c0d_00052d00052d06_00052e00052e0d,
  0x00052f00052f06_0005310005560d_00055900055908_00055d00055d09_00056000058806_0005890005890a,
  0x0005910005bd03_0005bf0005bf03_0005c10005c203_0005c40005c503_0005c70005c703_0005d00005ea08,
  0x0005ef0005f308_00060000060507_00060c00060d09_00061000061a03_00061c00061c04_00061d00061f0a,
  0x00062000064a08_00064b00065f03_00066000066907_00066b00066c07_00066e00066f08_00067000067003,
  0x0006710006d308_0006d40006d40a_0006d50006d508_0006d60006dc03_0006dd0006dd07_0006df0006e403,
  0x0006e50006e608_0006e70006e803_0006ea0006ed03_0006ee0006ef08_0006f00006f907_0006fa0006fc08,
  0x0006ff0006ff08_0007000007020a_00070f00070f04_00071000071008_00071100071103_00071200072f08,
  0x00073000074a03_00074d0007a508_0007a60007b003_0007b10007b108_0007c00007c907_0007ca0007ea08,
  0x0007eb0007f303_0007f40007f508_0007f80007f809_0007f90007f90a_0007fa0007fa08_0007fd0007fd03,
  0x00080000081508_00081600081903_00081a00081a08_00081b00082303_00082400082408_00082500082703,
  0x00082800082808_00082900082d03_0008370008370a_0008390008390a_00083d00083e0a_00084000085808,
  0x00085900085b03_00086000086a08_00087000088708_00088900088e08_00089000089107_00089700089f03,
  0x0008a00008c908_0008ca0008e103_0008e20008e207_0008e300090303_00090400093908_00093a00093c03,
  0x00093d00093d08_00093e00094f03_00095000095008_00095100095703_00095800096108_00096200096303,
  0x0009640009650a_00096600096f07_00097100098008_00098100098303_00098500098c08_00098f00099008,
  0x0009930009a808_0009aa0009b008_0009b20009b208_0009b60009b908_0009bc0009bc03_0009bd0009bd08,
  0x0009be0009c403_0009c70009c803_0009cb0009cd03_0009ce0009ce08_0009d70009d703_0009dc0009dd08,
  0x0009df0009e108_0009e20009e303_0009e60009ef07_0009f00009f108_0009fc0009fc08_0009fe0009fe03,
  0x000a01000a0303_000a05000a0a08_000a0f000a1008_000a13000a2808_000a2a000a3008_000a32000a3308,
  0x000a35000a3608_000a38000a3908_000a3c000a3c03_000a3e000a4203_000a47000a4803_000a4b000a4d03,
  0x000a51000a5103_000a59000a5c08_000a5e000a5e08_000a66000a6f07_000a70000a7103_000a72000a7408,
  0x000a75000a7503_000a81000a8303_000a85000a8d08_000a8f000a9108_000a93000aa808_000aaa000ab008,
  0x000ab2000ab308_000ab5000ab908_000abc000abc03_000abd000abd08_000abe000ac503_000ac7000ac903,
  0x000acb000acd03_000ad0000ad008_000ae0000ae108_000ae2000ae303_000ae6000aef07_000af9000af908,
  0x000afa000aff03_000b01000b0303_000b05000b0c08_000b0f000b1008_000b13000b2808_000b2a000b3008,
  0x000b32000b3308_000b35000b3908_000b3c000b3c03_000b3d000b3d08_000b3e000b4403_000b47000b4803,
  0x000b4b000b4d03_000b55000b5703_000b5c000b5d08_000b5f000b6108_000b62000b6303_000b66000b6f07,
  0x000b71000b7108_000b82000b8203_000b83000b8308_000b85000b8a08_000b8e000b9008_000b92000b9508,
  0x000b99000b9a08_000b9c000b9c08_000b9e000b9f08_000ba3000ba408_000ba8000baa08_000bae000bb908,
  0x000bbe000bc203_000bc6000bc803_000bca000bcd03_000bd0000bd008_000bd7000bd703_000be6000bef07,
  0x000c00000c0403_000c05000c0c08_000c0e000c1008_000c12000c2808_000c2a000c3908_000c3c000c3c03,
  0x000c3d000c3d08_000c3e000c4403_000c46000c4803_000c4a000c4d03_000c55000c5603_000c58000c5a08,
  0x000c5d000c5d08_000c60000c6108_000c62000c6303_000c66000c6f07_000c80000c8008_000c81000c8303,
  0x000c85000c8c08_000c8e000c9008_000c92000ca808_000caa000cb308_000cb5000cb908_000cbc000cbc03,
  0x000cbd000cbd08_000cbe000cc403_000cc6000cc803_000cca000ccd03_000cd5000cd603_000cdd000cde08,
  0x000ce0000ce108_000ce2000ce303_000ce6000cef07_000cf1000cf208_000cf3000cf303_000d00000d0303,
  0x000d04000d0c08_000d0e000d1008_000d12000d3a08_000d3b000d3c03_000d3d000d3d08_000d3e000d4403,
  0x000d46000d4803_000d4a000d4d03_000d4e000d4e08_000d54000d5608_000d57000d5703_000d5f000d6108,
  0x000d62000d6303_000d66000d6f07_000d7a000d7f08_000d81000d8303_000d85000d9608_000d9a000db108,
  0x000db3000dbb08_000dbd000dbd08_000dc0000dc608_000dca000dca03_000dcf000dd403_000dd6000dd603,
  0x000dd8000ddf03_000de6000def07_000df2000df303_000e01000e3008_000e31000e3103_000e32000e3308,
  0x000e34000e3a03_000e40000e4608_000e47000e4e03_000e50000e5907_000e81000e8208_000e84000e8408,
  0x000e86000e8a08_000e8c000ea308_000ea5000ea508_000ea7000eb008_000eb1000eb103_000eb2000eb308,
  0x000eb4000ebc03_000ebd000ebd08_000ec0000ec408_000ec6000ec608_000ec8000ece03_000ed0000ed907,
  0x000edc000edf08_000f00000f0008_000f18000f1903_000f20000f2907_000f35000f3503_000f37000f3703,
  0x000f39000f3903_000f3a000f3d02_000f3e000f3f03_000f40000f4708_000f49000f6c08_000f71000f8403,
  0x000f86000f8703_000f88000f8c08_000f8d000f9703_000f99000fbc03_000fc6000fc603_00100000102a08,
  0x00102b00103e03_00103f00103f08_00104000104907_00104a00104b0a_00105000105508_00105600105903,
  0x00105a00105d08_00105e00106003_00106100106108_00106200106403_00106500106608_00106700106d03,
  0x00106e00107008_00107100107403_00107500108108_00108200108d03_00108e00108e08_00108f00108f03,
  0x00109000109907_00109a00109d03_0010a00010c50d_0010c70010c70d_0010cd0010cd0d_0010d00010fa08,
  0x0010fc0010fc06_0010fd00124808_00124a00124d08_00125000125608_00125800125808_00125a00125d08,
  0x00126000128808_00128a00128d08_0012900012b008_0012b20012b508_0012b80012be08_0012c00012c008,
  0x0012c20012c508_0012c80012d608_0012d800131008_00131200131508_00131800135a08_00135d00135f03,
  0x0013620013620a_0013670013680a_00138000138f08_0013a00013f50d_0013f80013fd06_00140100166c08,
  0x00166e00166e0a_00166f00167f08_0016800016800c_00168100169a08_00169b00169c02_0016a00016ea08,
  0x0016ee0016f808_00170000171108_00171200171503_00171f00173108_00173200173403_0017350017360a,
  0x00174000175108_00175200175303_00176000176c08_00176e00177008_00177200177303_0017800017b308,
  0x0017b40017d303_0017d40017d50a_0017d70017d708_0017dc0017dc08_0017dd0017dd03_0017e00017e907,
  0x00180200180209_0018030018030a_00180800180809_0018090018090a_00180b00180d03_00180e00180e04,
  0x00180f00180f03_00181000181907_00182000187808_00188000188408_00188500188603_0018870018a808,
  0x0018a90018a903_0018aa0018aa08_0018b00018f508_00190000191e08_00192000192b03_00193000193b03,
  0x0019440019450a_00194600194f07_00195000196d08_00197000197408_0019800019ab08_0019b00019c908,
  0x0019d00019da07_001a00001a1608_001a17001a1b03_001a20001a5408_001a55001a5e03_001a60001a7c03,
  0x001a7f001a7f03_001a80001a8907_001a90001a9907_001aa7001aa708_001aa8001aab0a_001ab0001ace03,
  0x001b00001b0403_001b05001b3308_001b34001b4403_001b45001b4c08_001b4e001b4f0a_001b50001b5907,
  0x001b5a001b5b0a_001b5e001b5f0a_001b6b001b7303_001b7d001b7f0a_001b80001b8203_001b83001ba008,
  0x001ba1001bad03_001bae001baf08_001bb0001bb907_001bba001be508_001be6001bf303_001c00001c2308,
  0x001c24001c3703_001c3b001c3c0a_001c40001c4907_001c4d001c4f08_001c50001c5907_001c5a001c7d08,
  0x001c7e001c7f0a_001c80001c8806_001c89001c890d_001c8a001c8a06_001c90001cba08_001cbd001cbf08,
  0x001cd0001cd203_001cd4001ce803_001ce9001cec08_001ced001ced03_001cee001cf308_001cf4001cf403,
  0x001cf5001cf608_001cf7001cf903_001cfa001cfa08_001d00001dbf06_001dc0001dff03_001e00001e000d,
  0x001e01001e0106_001e02001e020d_001e03001e0306_001e04001e040d_001e05001e0506_001e06001e060d,
  0x001e07001e0706_001e08001e080d_001e09001e0906_001e0a001e0a0d_001e0b001e0b06_001e0c001e0c0d,
  0x001e0d001e0d06_001e0e001e0e0d_001e0f001e0f06_001e10001e100d_001e11001e1106_001e12001e120d,
  0x001e13001e1306_001e14001e140d_001e15001e1506_001e16001e160d_001e17001e1706_001e18001e180d,
  0x001e19001e1906_001e1a001e1a0d_001e1b001e1b06_001e1c001e1c0d_001e1d001e1d06_001e1e001e1e0d,
  0x001e1f001e1f06_001e20001e200d_001e21001e2106_001e22001e220d_001e23001e2306_001e24001e240d,
  0x001e25001e2506_001e26001e260d_001e27001e2706_001e28001e280d_001e29001e2906_001e2a001e2a0d,
  0x001e2b001e2b06_001e2c001e2c0d_001e2d001e2d06_001e2e001e2e0d_001e2f001e2f06_001e30001e300d,
  0x001e31001e3106_001e32001e320d_001e33001e3306_001e34001e340d_001e35001e3506_001e36001e360d,
  0x001e37001e3706_001e38001e380d_001e39001e3906_001e3a001e3a0d_001e3b001e3b06_001e3c001e3c0d,
  0x001e3d001e3d06_001e3e001e3e0d_001e3f001e3f06_001e40001e400d_001e41001e4106_001e42001e420d,
  0x001e43001e4306_001e44001e440d_001e45001e4506_001e46001e460d_001e47001e4706_001e48001e480d,
  0x001e49001e4906_001e4a001e4a0d_001e4b001e4b06_001e4c001e4c0d_001e4d001e4d06_001e4e001e4e0d,
  0x001e4f001e4f06_001e50001e500d_001e51001e5106_001e52001e520d_001e53001e5306_001e54001e540d,
  0x001e55001e5506_001e56001e560d_001e57001e5706_001e58001e580d_001e59001e5906_001e5a001e5a0d,
  0x001e5b001e5b06_001e5c001e5c0d_001e5d001e5d06_001e5e001e5e0d_001e5f001e5f06_001e60001e600d,
  0x001e61001e6106_001e62001e620d_001e63001e6306_001e64001e640d_001e65001e6506_001e66001e660d,
  0x001e67001e6706_001e68001e680d_001e69001e6906_001e6a001e6a0d_001e6b001e6b06_001e6c001e6c0d,
  0x001e6d001e6d06_001e6e001e6e0d_001e6f001e6f06_001e70001e700d_001e71001e7106_001e72001e720d,
  0x001e73001e7306_001e74001e740d_001e75001e7506_001e76001e760d_001e77001e7706_001e78001e780d,
  0x001e79001e7906_001e7a001e7a0d_001e7b001e7b06_001e7c001e7c0d_001e7d001e7d06_001e7e001e7e0d,
  0x001e7f001e7f06_001e80001e800d_001e81001e8106_001e82001e820d_001e83001e8306_001e84001e840d,
  0x001e85001e8506_001e86001e860d_001e87001e8706_001e88001e880d_001e89001e8906_001e8a001e8a0d,
  0x001e8b001e8b06_001e8c001e8c0d_001e8d001e8d06_001e8e001e8e0d_001e8f001e8f06_001e90001e900d,
  0x001e91001e9106_001e92001e920d_001e93001e9306_001e94001e940d_001e95001e9d06_001e9e001e9e0d,
  0x001e9f001e9f06_001ea0001ea00d_001ea1001ea106_001ea2001ea20d_001ea3001ea306_001ea4001ea40d,
  0x001ea5001ea506_001ea6001ea60d_001ea7001ea706_001ea8001ea80d_001ea9001ea906_001eaa001eaa0d,
  0x001eab001eab06_001eac001eac0d_001ead001ead06_001eae001eae0d_001eaf001eaf06_001eb0001eb00d,
  0x001eb1001eb106_001eb2001eb20d_001eb3001eb306_001eb4001eb40d_001eb5001eb506_001eb6001eb60d,
  0x001eb7001eb706_001eb8001eb80d_001eb9001eb906_001eba001eba0d_001ebb001ebb06_001ebc001ebc0d,
  0x001ebd001ebd06_001ebe001ebe0d_001ebf001ebf06_001ec0001ec00d_001ec1001ec106_001ec2001ec20d,
  0x001ec3001ec306_001ec4001ec40d_001ec5001ec506_001ec6001ec60d_001ec7001ec706_001ec8001ec80d,
  0x001ec9001ec906_001eca001eca0d_001ecb001ecb06_001ecc001ecc0d_001ecd001ecd06_001ece001ece0d,
  0x001ecf001ecf06_001ed0001ed00d_001ed1001ed106_001ed2001ed20d_001ed3001ed306_001ed4001ed40d,
  0x001ed5001ed506_001ed6001ed60d_001ed7001ed706_001ed8001ed80d_001ed9001ed906_001eda001eda0d,
  0x001edb001edb06_001edc001edc0d_001edd001edd06_001ede001ede0d_001edf001edf06_001ee0001ee00d,
  0x001ee1001ee106_001ee2001ee20d_001ee3001ee306_001ee4001ee40d_001ee5001ee506_001ee6001ee60d,
  0x001ee7001ee706_001ee8001ee80d_001ee9001ee906_001eea001eea0d_001eeb001eeb06_001eec001eec0d,
  0x001eed001eed06_001eee001eee0d_001eef001eef06_001ef0001ef00d_001ef1001ef106_001ef2001ef20d,
  0x001ef3001ef306_001ef4001ef40d_001ef5001ef506_001ef6001ef60d_001ef7001ef706_001ef8001ef80d,
  0x001ef9001ef906_001efa001efa0d_001efb001efb06_001efc001efc0d_001efd001efd06_001efe001efe0d,
  0x001eff001f0706_001f08001f0f0d_001f10001f1506_001f18001f1d0d_001f20001f2706_001f28001f2f0d,
  0x001f30001f3706_001f38001f3f0d_001f40001f4506_001f48001f4d0d_001f50001f5706_001f59001f590d,
  0x001f5b001f5b0d_001f5d001f5d0d_001f5f001f5f0d_001f60001f6706_001f68001f6f0d_001f70001f7d06,
  0x001f80001f8706_001f88001f8f0d_001f90001f9706_001f98001f9f0d_001fa0001fa706_001fa8001faf0d,
  0x001fb0001fb406_001fb6001fb706_001fb8001fbc0d_001fbe001fbe06_001fc2001fc406_001fc6001fc706,
  0x001fc8001fcc0d_001fd0001fd306_001fd6001fd706_001fd8001fdb0d_001fe0001fe706_001fe8001fec0d,
  0x001ff2001ff406_001ff6001ff706_001ff8001ffc0d_00200000200a0c_00200b00200b04_00200c00200d03,
  0x00200e00200f04_00201300201409_00201800201f02_00202400202400_0020280020290b_00202a00202e04,
  0x00202f00202f0c_00203900203a02_00203c00203d0a_00204500204602_0020470020490a_00205f00205f0c,
  0x00206000206404_00206600206f04_00207100207106_00207d00207e02_00207f00207f06_00208d00208e02,
  0x00209000209c06_0020d00020f003_0021020021020d_0021070021070d_00210a00210a06_00210b00210d0d,
  0x00210e00210f06_0021100021120d_00211300211306_0021150021150d_00211900211d0d_0021240021240d,
  0x0021260021260d_0021280021280d_00212a00212d0d_00212f00212f06_0021300021330d_00213400213406,
  0x00213500213808_00213900213906_00213c00213d06_00213e00213f0d_0021450021450d_00214600214906,
  0x00214e00214e06_00216000216f0d_00217000217f06_00218000218208_0021830021830d_00218400218406,
  0x00218500218808_00230800230b02_00232900232a02_0024b60024cf0d_0024d00024e906_00275b00276002,
  0x00276800277502_0027c50027c602_0027e60027ef02_00298300299802_0029d80029db02_0029fc0029fd02,
  0x002c00002c2f0d_002c30002c5f06_002c60002c600d_002c61002c6106_002c62002c640d_002c65002c6606,
  0x002c67002c670d_002c68002c6806_002c69002c690d_002c6a002c6a06_002c6b002c6b0d_002c6c002c6c06,
  0x002c6d002c700d_002c71002c7106_002c72002c720d_002c73002c7406_002c75002c750d_002c76002c7d06,
  0x002c7e002c800d_002c81002c8106_002c82002c820d_002c83002c8306_002c84002c840d_002c85002c8506,
  0x002c86002c860d_002c87002c8706_002c88002c880d_002c89002c8906_002c8a002c8a0d_002c8b002c8b06,
  0x002c8c002c8c0d_002c8d002c8d06_002c8e002c8e0d_002c8f002c8f06_002c90002c900d_002c91002c9106,
  0x002c92002c920d_002c93002c9306_002c94002c940d_002c95002c9506_002c96002c960d_002c97002c9706,
  0x002c98002c980d_002c99002c9906_002c9a002c9a0d_002c9b002c9b06_002c9c002c9c0d_002c9d002c9d06,
  0x002c9e002c9e0d_002c9f002c9f06_002ca0002ca00d_002ca1002ca106_002ca2002ca20d_002ca3002ca306,
  0x002ca4002ca40d_002ca5002ca506_002ca6002ca60d_002ca7002ca706_002ca8002ca80d_002ca9002ca906,
  0x002caa002caa0d_002cab002cab06_002cac002cac0d_002cad002cad06_002cae002cae0d_002caf002caf06,
  0x002cb0002cb00d_002cb1002cb106_002cb2002cb20d_002cb3002cb306_002cb4002cb40d_002cb5002cb506,
  0x002cb6002cb60d_002cb7002cb706_002cb8002cb80d_002cb9002cb906_002cba002cba0d_002cbb002cbb06,
  0x002cbc002cbc0d_002cbd002cbd06_002cbe002cbe0d_002cbf002cbf06_002cc0002cc00d_002cc1002cc106,
  0x002cc2002cc20d_002cc3002cc306_002cc4002cc40d_002cc5002cc506_002cc6002cc60d_002cc7002cc706,
  0x002cc8002cc80d_002cc9002cc906_002cca002cca0d_002ccb002ccb06_002ccc002ccc0d_002ccd002ccd06,
  0x002cce002cce0d_002ccf002ccf06_002cd0002cd00d_002cd1002cd106_002cd2002cd20d_002cd3002cd306,
  0x002cd4002cd40d_002cd5002cd506_002cd6002cd60d_002cd7002cd706_002cd8002cd80d_002cd9002cd906,
  0x002cda002cda0d_002cdb002cdb06_002cdc002cdc0d_002cdd002cdd06_002cde002cde0d_002cdf002cdf06,
  0x002ce0002ce00d_002ce1002ce106_002ce2002ce20d_002ce3002ce406_002ceb002ceb0d_002cec002cec06,
  0x002ced002ced0d_002cee002cee06_002cef002cf103_002cf2002cf20d_002cf3002cf306_002cf9002cfb0a,
  0x002d00002d2506_002d27002d2706_002d2d002d2d06_002d30002d6708_002d6f002d6f08_002d7f002d7f03,
  0x002d80002d9608_002da0002da608_002da8002dae08_002db0002db608_002db8002dbe08_002dc0002dc608,
  0x002dc8002dce08_002dd0002dd608_002dd8002dde08_002de0002dff03_002e00002e0d02_002e1c002e1d02,
  0x002e20002e2902_002e2e002e2e0a_002e2f002e2f08_002e3c002e3c0a_002e42002e4202_002e53002e540a,
  0x002e55002e5c02_0030000030000c_00300100300109_0030020030020a_00300500300708_00300800301102,
  0x00301400301b02_00301d00301f02_00302100302908_00302a00302f03_00303100303508_00303800303c08,
  0x00304100309608_00309900309a03_00309d00309f08_0030a10030fa08_0030fc0030ff08_00310500312f08,
  0x00313100318e08_0031a00031bf08_0031f00031ff08_003400004dbf08_004e0000a48c08_00a4d000a4fd08,
  0x00a4ff00a4ff0a_00a50000a60c08_00a60e00a60f0a_00a61000a61f08_00a62000a62907_00a62a00a62b08,
  0x00a64000a6400d_00a64100a64106_00a64200a6420d_00a64300a64306_00a64400a6440d_00a64500a64506,
  0x00a64600a6460d_00a64700a64706_00a64800a6480d_00a64900a64906_00a64a00a64a0d_00a64b00a64b06,
  0x00a64c00a64c0d_00a64d00a64d06_00a64e00a64e0d_00a64f00a64f06_00a65000a6500d_00a65100a65106,
  0x00a65200a6520d_00a65300a65306_00a65400a6540d_00a65500a65506_00a65600a6560d_00a65700a65706,
  0x00a65800a6580d_00a65900a65906_00a65a00a65a0d_00a65b00a65b06_00a65c00a65c0d_00a65d00a65d06,
  0x00a65e00a65e0d_00a65f00a65f06_00a66000a6600d_00a66100a66106_00a66200a6620d_00a66300a66306,
  0x00a66400a6640d_00a66500a66506_00a66600a6660d_00a66700a66706_00a66800a6680d_00a66900a66906,
  0x00a66a00a66a0d_00a66b00a66b06_00a66c00a66c0d_00a66d00a66d06_00a66e00a66e08_00a66f00a67203,
  0x00a67400a67d03_00a67f00a67f08_00a68000a6800d_00a68100a68106_00a68200a6820d_00a68300a68306,
  0x00a68400a6840d_00a68500a68506_00a68600a6860d_00a68700a68706_00a68800a6880d_00a68900a68906,
  0x00a68a00a68a0d_00a68b00a68b06_00a68c00a68c0d_00a68d00a68d06_00a68e00a68e0d_00a68f00a68f06,
  0x00a69000a6900d_00a69100a69106_00a69200a6920d_00a69300a69306_00a69400a6940d_00a69500a69506,
  0x00a69600a6960d_00a69700a69706_00a69800a6980d_00a69900a69906_00a69a00a69a0d_00a69b00a69d06,
  0x00a69e00a69f03_00a6a000a6ef08_00a6f000a6f103_00a6f300a6f30a_00a6f700a6f70a_00a71700a71f08,
  0x00a72200a7220d_00a72300a72306_00a72400a7240d_00a72500a72506_00a72600a7260d_00a72700a72706,
  0x00a72800a7280d_00a72900a72906_00a72a00a72a0d_00a72b00a72b06_00a72c00a72c0d_00a72d00a72d06,
  0x00a72e00a72e0d_00a72f00a73106_00a73200a7320d_00a73300a73306_00a73400a7340d_00a73500a73506,
  0x00a73600a7360d_00a73700a73706_00a73800a7380d_00a73900a73906_00a73a00a73a0d_00a73b00a73b06,
  0x00a73c00a73c0d_00a73d00a73d06_00a73e00a73e0d_00a73f00a73f06_00a74000a7400d_00a74100a74106,
  0x00a74200a7420d_00a74300a74306_00a74400a7440d_00a74500a74506_00a74600a7460d_00a74700a74706,
  0x00a74800a7480d_00a74900a74906_00a74a00a74a0d_00a74b00a74b06_00a74c00a74c0d_00a74d00a74d06,
  0x00a74e00a74e0d_00a74f00a74f06_00a75000a7500d_00a75100a75106_00a75200a7520d_00a75300a75306,
  0x00a75400a7540d_00a75500a75506_00a75600a7560d_00a75700a75706_00a75800a7580d_00a75900a75906,
  0x00a75a00a75a0d_00a75b00a75b06_00a75c00a75c0d_00a75d00a75d06_00a75e00a75e0d_00a75f00a75f06,
  0x00a76000a7600d_00a76100a76106_00a76200a7620d_00a76300a76306_00a76400a7640d_00a76500a76506,
  0x00a76600a7660d_00a76700a76706_00a76800a7680d_00a76900a76906_00a76a00a76a0d_00a76b00a76b06,
  0x00a76c00a76c0d_00a76d00a76d06_00a76e00a76e0d_00a76f00a77806_00a77900a7790d_00a77a00a77a06,
  0x00a77b00a77b0d_00a77c00a77c06_00a77d00a77e0d_00a77f00a77f06_00a78000a7800d_00a78100a78106,
  0x00a78200a7820d_00a78300a78306_00a78400a7840d_00a78500a78506_00a78600a7860d_00a78700a78706,
  0x00a78800a78808_00a78b00a78b0d_00a78c00a78c06_00a78d00a78d0d_00a78e00a78e06_00a78f00a78f08,
  0x00a79000a7900d_00a79100a79106_00a79200a7920d_00a79300a79506_00a79600a7960d_00a79700a79706,
  0x00a79800a7980d_00a79900a79906_00a79a00a79a0d_00a79b00a79b06_00a79c00a79c0d_00a79d00a79d06,
  0x00a79e00a79e0d_00a79f00a79f06_00a7a000a7a00d_00a7a100a7a106_00a7a200a7a20d_00a7a300a7a306,
  0x00a7a400a7a40d_00a7a500a7a506_00a7a600a7a60d_00a7a700a7a706_00a7a800a7a80d_00a7a900a7a906,
  0x00a7aa00a7ae0d_00a7af00a7af06_00a7b000a7b40d_00a7b500a7b506_00a7b600a7b60d_00a7b700a7b706,
  0x00a7b800a7b80d_00a7b900a7b906_00a7ba00a7ba0d_00a7bb00a7bb06_00a7bc00a7bc0d_00a7bd00a7bd06,
  0x00a7be00a7be0d_00a7bf00a7bf06_00a7c000a7c00d_00a7c100a7c106_00a7c200a7c20d_00a7c300a7c306,
  0x00a7c400a7c70d_00a7c800a7c806_00a7c900a7c90d_00a7ca00a7ca06_00a7cb00a7cc0d_00a7cd00a7cd06,
  0x00a7d000a7d00d_00a7d100a7d106_00a7d300a7d306_00a7d500a7d506_00a7d600a7d60d_00a7d700a7d706,
  0x00a7d800a7d80d_00a7d900a7d906_00a7da00a7da0d_00a7db00a7db06_00a7dc00a7dc0d_00a7f200a7f406,
  0x00a7f500a7f50d_00a7f600a7f606_00a7f700a7f708_00a7f800a7fa06_00a7fb00a80108_00a80200a80203,
  0x00a80300a80508_00a80600a80603_00a80700a80a08_00a80b00a80b03_00a80c00a82208_00a82300a82703,
  0x00a82c00a82c03_00a84000a87308_00a87600a8770a_00a88000a88103_00a88200a8b308_00a8b400a8c503,
  0x00a8ce00a8cf0a_00a8d000a8d907_00a8e000a8f103_00a8f200a8f708_00a8fb00a8fb08_00a8fd00a8fe08,
  0x00a8ff00a8ff03_00a90000a90907_00a90a00a92508_00a92600a92d03_00a92f00a92f0a_00a93000a94608,
  0x00a94700a95303_00a96000a97c08_00a98000a98303_00a98400a9b208_00a9b300a9c003_00a9c800a9c90a,
  0x00a9cf00a9cf08_00a9d000a9d907_00a9e000a9e408_00a9e500a9e503_00a9e600a9ef08_00a9f000a9f907,
  0x00a9fa00a9fe08_00aa0000aa2808_00aa2900aa3603_00aa4000aa4208_00aa4300aa4303_00aa4400aa4b08,
  0x00aa4c00aa4d03_00aa5000aa5907_00aa5d00aa5f0a_00aa6000aa7608_00aa7a00aa7a08_00aa7b00aa7d03,
  0x00aa7e00aaaf08_00aab000aab003_00aab100aab108_00aab200aab403_00aab500aab608_00aab700aab803,
  0x00aab900aabd08_00aabe00aabf03_00aac000aac008_00aac100aac103_00aac200aac208_00aadb00aadd08,
  0x00aae000aaea08_00aaeb00aaef03_00aaf000aaf10a_00aaf200aaf408_00aaf500aaf603_00ab0100ab0608,
  0x00ab0900ab0e08_00ab1100ab1608_00ab2000ab2608_00ab2800ab2e08_00ab3000ab5a06_00ab5c00ab6906,
  0x00ab7000abbf06_00abc000abe208_00abe300abea03_00abeb00abeb0a_00abec00abed03_00abf000abf907,
  0x00ac0000d7a308_00d7b000d7c608_00d7cb00d7fb08_00f90000fa6d08_00fa7000fad908_00fb0000fb0606,
  0x00fb1300fb1706_00fb1d00fb1d08_00fb1e00fb1e03_00fb1f00fb2808_00fb2a00fb3608_00fb3800fb3c08,
  0x00fb3e00fb3e08_00fb4000fb4108_00fb4300fb4408_00fb4600fbb108_00fbd300fd3d08_00fd3e00fd3f02,
  0x00fd5000fd8f08_00fd9200fdc708_00fdf000fdfb08_00fe0000fe0f03_00fe1000fe1109_00fe1200fe120a,
  0x00fe1300fe1409_00fe1500fe160a_00fe1700fe1802_00fe2000fe2f03_00fe3100fe3209_00fe3500fe4402,
  0x00fe4700fe4802_00fe5000fe5109_00fe5200fe5200_00fe5400fe5509_00fe5600fe570a_00fe5800fe5809,
  0x00fe5900fe5e02_00fe6300fe6309_00fe7000fe7408_00fe7600fefc08_00feff00feff04_00ff0100ff010a,
  0x00ff0800ff0902_00ff0c00ff0d09_00ff0e00ff0e00_00ff1000ff1907_00ff1a00ff1b09_00ff1f00ff1f0a,
  0x00ff2100ff3a0d_00ff3b00ff3b02_00ff3d00ff3d02_00ff4100ff5a06_00ff5b00ff5b02_00ff5d00ff5d02,
  0x00ff5f00ff6002_00ff6100ff610a_00ff6200ff6302_00ff6400ff6409_00ff6600ff9d08_00ff9e00ff9f03,
  0x00ffa000ffbe08_00ffc200ffc708_00ffca00ffcf08_00ffd200ffd708_00ffda00ffdc08_00fff900fffb04,
  0x01000001000b08_01000d01002608_01002801003a08_01003c01003d08_01003f01004d08_01005001005d08,
  0x0100800100fa08_01014001017408_0101fd0101fd03_01028001029c08_0102a00102d008_0102e00102e003,
  0x01030001031f08_01032d01034a08_01035001037508_01037601037a03_01038001039d08_0103a00103c308,
  0x0103c80103cf08_0103d10103d508_0104000104270d_01042801044f06_01045001049d08_0104a00104a907,
  0x0104b00104d30d_0104d80104fb06_01050001052708_01053001056308_01057001057a0d_01057c01058a0d,
  0x01058c0105920d_0105940105950d_0105970105a106_0105a30105b106_0105b30105b906_0105bb0105bc06,
  0x0105c00105f308_01060001073608_01074001075508_01076001076708_01078001078006_01078101078208,
  0x01078301078506_0107870107b006_0107b20107ba06_01080001080508_01080801080808_01080a01083508,
  0x01083701083808_01083c01083c08_01083f01085508_01086001087608_01088001089e08_0108e00108f208,
  0x0108f40108f508_01090001091508_01092001093908_0109800109b708_0109be0109bf08_010a00010a0008,
  0x010a01010a0303_010a05010a0603_010a0c010a0f03_010a10010a1308_010a15010a1708_010a19010a3508,
  0x010a38010a3a03_010a3f010a3f03_010a56010a570a_010a60010a7c08_010a80010a9c08_010ac0010ac708,
  0x010ac9010ae408_010ae5010ae603_010b00010b3508_010b40010b5508_010b60010b7208_010b80010b9108,
  0x010c00010c4808_010c80010cb20d_010cc0010cf206_010d00010d2308_010d24010d2703_010d30010d3907,
  0x010d40010d4907_010d4a010d4f08_010d50010d650d_010d69010d6d03_010d6f010d6f08_010d70010d8506,
  0x010e80010ea908_010eab010eac03_010eb0010eb108_010ec2010ec408_010efc010eff03_010f00010f1c08,
  0x010f27010f2708_010f30010f4508_010f46010f5003_010f55010f590a_010f70010f8108_010f82010f8503,
  0x010f86010f890a_010fb0010fc408_010fe0010ff608_01100001100203_01100301103708_01103801104603,
  0x0110470110480a_01106601106f07_01107001107003_01107101107208_01107301107403_01107501107508,
  0x01107f01108203_0110830110af08_0110b00110ba03_0110bd0110bd07_0110be0110c10a_0110c20110c203,
  0x0110cd0110cd07_0110d00110e808_0110f00110f907_01110001110203_01110301112608_01112701113403,
  0x01113601113f07_0111410111430a_01114401114408_01114501114603_01114701114708_01115001117208,
  0x01117301117303_01117601117608_01118001118203_0111830111b208_0111b30111c003_0111c10111c408,
  0x0111c50111c60a_0111c90111cc03_0111cd0111cd0a_0111ce0111cf03_0111d00111d907_0111da0111da08,
  0x0111dc0111dc08_0111de0111df0a_01120001121108_01121301122b08_01122c01123703_0112380112390a,
  0x01123b01123c0a_01123e01123e03_01123f01124008_01124101124103_01128001128608_01128801128808,
  0x01128a01128d08_01128f01129d08_01129f0112a808_0112a90112a90a_0112b00112de08_0112df0112ea03,
  0x0112f00112f907_01130001130303_01130501130c08_01130f01131008_01131301132808_01132a01133008,
  0x01133201133308_01133501133908_01133b01133c03_01133d01133d08_01133e01134403_01134701134803,
  0x01134b01134d03_01135001135008_01135701135703_01135d01136108_01136201136303_01136601136c03,
  0x01137001137403_01138001138908_01138b01138b08_01138e01138e08_0113900113b508_0113b70113b708,
  0x0113b80113c003_0113c20113c203_0113c50113c503_0113c70113ca03_0113cc0113d003_0113d10113d108,
  0x0113d20113d203_0113d30113d308_0113d40113d50a_0113e10113e203_01140001143408_01143501144603,
  0x01144701144a08_01144b01144c0a_01145001145907_01145e01145e03_01145f01146108_0114800114af08,
  0x0114b00114c303_0114c40114c508_0114c70114c708_0114d00114d907_0115800115ae08_0115af0115b503,
  0x0115b80115c003_0115c20115c30a_0115c90115d70a_0115d80115db08_0115dc0115dd03_01160001162f08,
  0x01163001164003_0116410116420a_01164401164408_01165001165907_0116800116aa08_0116ab0116b703,
  0x0116b80116b808_0116c00116c907_0116d00116e307_01170001171a08_01171d01172b03_01173001173907,
  0x01173c01173e0a_01174001174608_01180001182b08_01182c01183a03_0118a00118bf0d_0118c00118df06,
  0x0118e00118e907_0118ff01190608_01190901190908_01190c01191308_01191501191608_01191801192f08,
  0x01193001193503_01193701193803_01193b01193e03_01193f01193f08_01194001194003_01194101194108,
  0x01194201194303_0119440119440a_0119460119460a_01195001195907_0119a00119a708_0119aa0119d008,
  0x0119d10119d703_0119da0119e003_0119e10119e108_0119e30119e308_0119e40119e403_011a00011a0008,
  0x011a01011a0a03_011a0b011a3208_011a33011a3903_011a3a011a3a08_011a3b011a3e03_011a42011a430a,
  0x011a47011a4703_011a50011a5008_011a51011a5b03_011a5c011a8908_011a8a011a9903_011a9b011a9c0a,
  0x011a9d011a9d08_011ab0011af808_011bc0011be008_011bf0011bf907_011c00011c0808_011c0a011c2e08,
  0x011c2f011c3603_011c38011c3f03_011c40011c4008_011c41011c420a_011c50011c5907_011c72011c8f08,
  0x011c92011ca703_011ca9011cb603_011d00011d0608_011d08011d0908_011d0b011d3008_011d31011d3603,
  0x011d3a011d3a03_011d3c011d3d03_011d3f011d4503_011d46011d4608_011d47011d4703_011d50011d5907,
  0x011d60011d6508_011d67011d6808_011d6a011d8908_011d8a011d8e03_011d90011d9103_011d93011d9703,
  0x011d98011d9808_011da0011da907_011ee0011ef208_011ef3011ef603_011ef7011ef80a_011f00011f0103,
  0x011f02011f0208_011f03011f0303_011f04011f1008_011f12011f3308_011f34011f3a03_011f3e011f4203,
  0x011f43011f440a_011f50011f5907_011f5a011f5a03_011fb0011fb008_01200001239908_01240001246e08,
  0x01248001254308_012f90012ff008_01300001342f08_01343001343f04_01344001344003_01344101344608,
  0x01344701345503_0134600143fa08_01440001464608_01610001611d08_01611e01612f03_01613001613907,
  0x016800016a3808_016a40016a5e08_016a60016a6907_016a6e016a6f0a_016a70016abe08_016ac0016ac907,
  0x016ad0016aed08_016af0016af403_016af5016af50a_016b00016b2f08_016b30016b3603_016b37016b380a,
  0x016b40016b4308_016b44016b440a_016b50016b5907_016b63016b7708_016b7d016b8f08_016d40016d6c08,
  0x016d6e016d6f0a_016d70016d7907_016e40016e5f0d_016e60016e7f06_016e98016e980a_016f00016f4a08,
  0x016f4f016f4f03_016f50016f5008_016f51016f8703_016f8f016f9203_016f93016f9f08_016fe0016fe108,
  0x016fe3016fe308_016fe4016fe403_016ff0016ff103_0170000187f708_018800018cd508_018cff018d0808,
  0x01aff001aff308_01aff501affb08_01affd01affe08_01b00001b12208_01b13201b13208_01b15001b15208,
  0x01b15501b15508_01b16401b16708_01b17001b2fb08_01bc0001bc6a08_01bc7001bc7c08_01bc8001bc8808,
  0x01bc9001bc9908_01bc9d01bc9e03_01bc9f01bc9f0a_01bca001bca304_01ccf001ccf907_01cf0001cf2d03,
  0x01cf3001cf4603_01d16501d16903_01d16d01d17203_01d17301d17a04_01d17b01d18203_01d18501d18b03,
  0x01d1aa01d1ad03_01d24201d24403_01d40001d4190d_01d41a01d43306_01d43401d44d0d_01d44e01d45406,
  0x01d45601d46706_01d46801d4810d_01d48201d49b06_01d49c01d49c0d_01d49e01d49f0d_01d4a201d4a20d,
  0x01d4a501d4a60d_01d4a901d4ac0d_01d4ae01d4b50d_01d4b601d4b906_01d4bb01d4bb06_01d4bd01d4c306,
  0x01d4c501d4cf06_01d4d001d4e90d_01d4ea01d50306_01d50401d5050d_01d50701d50a0d_01d50d01d5140d,
  0x01d51601d51c0d_01d51e01d53706_01d53801d5390d_01d53b01d53e0d_01d54001d5440d_01d54601d5460d,
  0x01d54a01d5500d_01d55201d56b06_01d56c01d5850d_01d58601d59f06_01d5a001d5b90d_01d5ba01d5d306,
  0x01d5d401d5ed0d_01d5ee01d60706_01d60801d6210d_01d62201d63b06_01d63c01d6550d_01d65601d66f06,
  0x01d67001d6890d_01d68a01d6a506_01d6a801d6c00d_01d6c201d6da06_01d6dc01d6e106_01d6e201d6fa0d,
  0x01d6fc01d71406_01d71601d71b06_01d71c01d7340d_01d73601d74e06_01d75001d75506_01d75601d76e0d,
  0x01d77001d78806_01d78a01d78f06_01d79001d7a80d_01d7aa01d7c206_01d7c401d7c906_01d7ca01d7ca0d,
  0x01d7cb01d7cb06_01d7ce01d7ff07_01da0001da3603_01da3b01da6c03_01da7501da7503_01da8401da8403,
  0x01da8801da880a_01da9b01da9f03_01daa101daaf03_01df0001df0906_01df0a01df0a08_01df0b01df1e06,
  0x01df2501df2a06_01e00001e00603_01e00801e01803_01e01b01e02103_01e02301e02403_01e02601e02a03,
  0x01e03001e06d06_01e08f01e08f03_01e10001e12c08_01e13001e13603_01e13701e13d08_01e14001e14907,
  0x01e14e01e14e08_01e29001e2ad08_01e2ae01e2ae03_01e2c001e2eb08_01e2ec01e2ef03_01e2f001e2f907,
  0x01e4d001e4eb08_01e4ec01e4ef03_01e4f001e4f907_01e5d001e5ed08_01e5ee01e5ef03_01e5f001e5f008,
  0x01e5f101e5fa07_01e7e001e7e608_01e7e801e7eb08_01e7ed01e7ee08_01e7f001e7fe08_01e80001e8c408,
  0x01e8d001e8d603_01e90001e9210d_01e92201e94306_01e94401e94a03_01e94b01e94b08_01e95001e95907,
  0x01ee0001ee0308_01ee0501ee1f08_01ee2101ee2208_01ee2401ee2408_01ee2701ee2708_01ee2901ee3208,
  0x01ee3401ee3708_01ee3901ee3908_01ee3b01ee3b08_01ee4201ee4208_01ee4701ee4708_01ee4901ee4908,
  0x01ee4b01ee4b08_01ee4d01ee4f08_01ee5101ee5208_01ee5401ee5408_01ee5701ee5708_01ee5901ee5908,
  0x01ee5b01ee5b08_01ee5d01ee5d08_01ee5f01ee5f08_01ee6101ee6208_01ee6401ee6408_01ee6701ee6a08,
  0x01ee6c01ee7208_01ee7401ee7708_01ee7901ee7c08_01ee7e01ee7e08_01ee8001ee8908_01ee8b01ee9b08,
  0x01eea101eea308_01eea501eea908_01eeab01eebb08_01f13001f1490d_01f15001f1690d_01f17001f1890d,
  0x01f67601f67802_01fbf001fbf907_02000002a6df08_02a70002b73908_02b74002b81d08_02b82002cea108,
  0x02ceb002ebe008_02ebf002ee5d08_02f80002fa1d08_03000003134a08_0313500323af08_0e00010e000104,
  0x0e00200e007f03_0e01000e01ef03]

end CorpusSearch.Unicode.Table
