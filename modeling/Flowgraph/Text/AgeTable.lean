/-! The editions in which characters came to be assigned. The ranges of an edition may cover what
earlier editions have assigned and what none has. -/

namespace Flowgraph.Text

def ageRanges : List (Nat × Nat × List (Nat × Nat)) := [
  (1, 1, [(0x0, 0x1f5), (0x1fa, 0x217), (0x250, 0x2a8), (0x2b0, 0x2de), (0x2e0, 0x2e9),
    (0x300, 0x345), (0x360, 0x361), (0x374, 0x375), (0x37a, 0x37a), (0x37e, 0x37e), (0x384, 0x3ce),
    (0x3d0, 0x3d6), (0x3da, 0x3da), (0x3dc, 0x3dc), (0x3de, 0x3de), (0x3e0, 0x3e0), (0x3e2, 0x3f3),
    (0x401, 0x40c), (0x40e, 0x44f), (0x451, 0x45c), (0x45e, 0x486), (0x490, 0x4c4), (0x4c7, 0x4c8),
    (0x4cb, 0x4cc), (0x4d0, 0x4eb), (0x4ee, 0x4f5), (0x4f8, 0x4f9), (0x531, 0x55f), (0x561, 0x587),
    (0x589, 0x589), (0x5b0, 0x5b9), (0x5bb, 0x5c3), (0x5d0, 0x5ea), (0x5f0, 0x5f4), (0x60c, 0x60c),
    (0x61b, 0x61b), (0x61f, 0x61f), (0x621, 0x63a), (0x640, 0x652), (0x660, 0x66d), (0x670, 0x6b7),
    (0x6ba, 0x6be), (0x6c0, 0x6ce), (0x6d0, 0x6ed), (0x6f0, 0x6f9), (0x901, 0x903), (0x905, 0x939),
    (0x93c, 0x94d), (0x950, 0x954), (0x958, 0x970), (0x981, 0x9bc), (0x9be, 0x9cd), (0x9d7, 0x9fa),
    (0xa02, 0xa02), (0xa05, 0xa4d), (0xa59, 0xa74), (0xa81, 0xa8b), (0xa8d, 0xae0), (0xae6, 0xaef),
    (0xb01, 0xb33), (0xb36, 0xb43), (0xb47, 0xb4d), (0xb56, 0xb61), (0xb66, 0xb70), (0xb82, 0xbb5),
    (0xbb7, 0xbcd), (0xbd7, 0xbd7), (0xbe7, 0xbf2), (0xc01, 0xc03), (0xc05, 0xc33), (0xc35, 0xc39),
    (0xc3e, 0xc56), (0xc60, 0xc61), (0xc66, 0xc6f), (0xc82, 0xc83), (0xc85, 0xcb9), (0xcbe, 0xcd6),
    (0xcde, 0xce1), (0xce6, 0xcef), (0xd02, 0xd03), (0xd05, 0xd28), (0xd2a, 0xd39), (0xd3e, 0xd43),
    (0xd46, 0xd4d), (0xd57, 0xd57), (0xd60, 0xd61), (0xd66, 0xd6f), (0xe01, 0xe84), (0xe87, 0xe88),
    (0xe8a, 0xe8a), (0xe8d, 0xe8d), (0xe94, 0xe97), (0xe99, 0xe9f), (0xea1, 0xea7), (0xeaa, 0xeab),
    (0xead, 0xeb9), (0xebb, 0xecd), (0xed0, 0xedd), (0x10a0, 0x10c5), (0x10d0, 0x10f6),
    (0x10fb, 0x10fb), (0x1100, 0x1159), (0x115f, 0x11a2), (0x11a8, 0x11f9), (0x1e00, 0x1e9a),
    (0x1ea0, 0x1ef9), (0x1f00, 0x202e), (0x2030, 0x2046), (0x206a, 0x2070), (0x2074, 0x208e),
    (0x20a0, 0x20aa), (0x20d0, 0x20e1), (0x2100, 0x2138), (0x2153, 0x2182), (0x2190, 0x21ea),
    (0x2200, 0x22f1), (0x2300, 0x2300), (0x2302, 0x237a), (0x2400, 0x2424), (0x2440, 0x24ea),
    (0x2500, 0x2595), (0x25a0, 0x25ef), (0x2600, 0x2613), (0x261a, 0x266f), (0x2701, 0x2704),
    (0x2706, 0x2709), (0x270c, 0x2727), (0x2729, 0x274b), (0x274d, 0x274d), (0x274f, 0x2752),
    (0x2756, 0x2756), (0x2758, 0x275e), (0x2761, 0x2767), (0x2776, 0x2794), (0x2798, 0x27af),
    (0x27b1, 0x27be), (0x3000, 0x3037), (0x303f, 0x3094), (0x3099, 0x309e), (0x30a1, 0x30fe),
    (0x3105, 0x312c), (0x3131, 0x319f), (0x3200, 0x321c), (0x3220, 0x3243), (0x3260, 0x327b),
    (0x327f, 0x32b0), (0x32c0, 0x32cb), (0x32d0, 0x32fe), (0x3300, 0x3376), (0x337b, 0x33dd),
    (0x33e0, 0x33fe), (0x4e00, 0x9fa5), (0xe000, 0xfa2d), (0xfb00, 0xfb17), (0xfb1e, 0xfbb1),
    (0xfbd3, 0xfd3f), (0xfd50, 0xfdc7), (0xfdf0, 0xfdfb), (0xfe20, 0xfe23), (0xfe30, 0xfe44),
    (0xfe49, 0xfe72), (0xfe74, 0xff5e), (0xff61, 0xffee), (0xfffd, 0xffff)]),
  (2, 0, [(0x591, 0x5a1), (0x5a3, 0x5af), (0x5c4, 0x5c4), (0xf00, 0xf69), (0xf71, 0xf8b),
    (0xf90, 0xf95), (0xf97, 0xfad), (0xfb1, 0xfb7), (0xfb9, 0xfb9), (0x1e9b, 0x1e9b),
    (0x20ab, 0x20ab), (0xac00, 0xd7a3), (0x1fffe, 0x1ffff), (0x2fffe, 0x2ffff), (0x3fffe, 0xdffff),
    (0xefffe, 0x10ffff)]),
  (2, 1, [(0x20ac, 0x20ac), (0xfffc, 0xfffc)]),
  (3, 0, [(0x1f6, 0x21f), (0x222, 0x233), (0x2a9, 0x2ad), (0x2df, 0x2ee), (0x346, 0x34e),
    (0x362, 0x362), (0x3d7, 0x3d7), (0x3db, 0x3e1), (0x400, 0x45d), (0x488, 0x489), (0x48c, 0x48f),
    (0x4ec, 0x4ed), (0x58a, 0x58a), (0x653, 0x655), (0x6b8, 0x6cf), (0x6fa, 0x6fe), (0x700, 0x72c),
    (0x730, 0x74a), (0x780, 0x7b0), (0xd82, 0xddf), (0xdf2, 0xdf4), (0xf6a, 0xf6a), (0xf96, 0xfcc),
    (0xfcf, 0xfcf), (0x1000, 0x1021), (0x1023, 0x1027), (0x1029, 0x102a), (0x102c, 0x1032),
    (0x1036, 0x1039), (0x1040, 0x1059), (0x1200, 0x1206), (0x1208, 0x1246), (0x1248, 0x1286),
    (0x1288, 0x12ae), (0x12b0, 0x12ce), (0x12d0, 0x12ee), (0x12f0, 0x130e), (0x1310, 0x131e),
    (0x1320, 0x1346), (0x1348, 0x135a), (0x1361, 0x137c), (0x13a0, 0x13f4), (0x1401, 0x1676),
    (0x1680, 0x16f0), (0x1780, 0x17dc), (0x17e0, 0x17e9), (0x1800, 0x180e), (0x1810, 0x1877),
    (0x1880, 0x18a9), (0x202f, 0x202f), (0x2048, 0x204d), (0x20ad, 0x20af), (0x20e2, 0x20e3),
    (0x2139, 0x213a), (0x2183, 0x2183), (0x21eb, 0x21f3), (0x2301, 0x237b), (0x237d, 0x239a),
    (0x2425, 0x2426), (0x25f0, 0x25f7), (0x2619, 0x2671), (0x2800, 0x28ff), (0x2e80, 0x2ffb),
    (0x3038, 0x303a), (0x303e, 0x303e), (0x31a0, 0x31b7), (0x3400, 0x4db5), (0xa000, 0xa4a1),
    (0xa4a4, 0xa4b3), (0xa4b5, 0xa4c0), (0xa4c2, 0xa4c4), (0xa4c6, 0xa4c6), (0xfb1d, 0xfb1d),
    (0xfff9, 0xfffb)]),
  (3, 1, [(0x3f4, 0x3f5), (0xfdd0, 0xfdef), (0x10300, 0x1031e), (0x10320, 0x10323),
    (0x10330, 0x1034a), (0x10400, 0x10425), (0x10428, 0x1044d), (0x1d000, 0x1d126),
    (0x1d12a, 0x1d1dd), (0x1d400, 0x1d4c0), (0x1d4c2, 0x1d6a3), (0x1d6a8, 0x1d7c9),
    (0x1d7ce, 0x1d7ff), (0x20000, 0x2a6d6), (0x2f800, 0x2fa1d), (0xe0001, 0xe007f)]),
  (3, 2, [(0x220, 0x220), (0x34f, 0x34f), (0x363, 0x36f), (0x3d8, 0x3f6), (0x48a, 0x4ce),
    (0x500, 0x50f), (0x66e, 0x66f), (0x7b1, 0x7b1), (0x10f7, 0x10f8), (0x1700, 0x170c),
    (0x170e, 0x1714), (0x1720, 0x1773), (0x2047, 0x2052), (0x2057, 0x2057), (0x205f, 0x2063),
    (0x2071, 0x2071), (0x20b0, 0x20b1), (0x20e4, 0x20ea), (0x213d, 0x214b), (0x21f4, 0x23ce),
    (0x24eb, 0x24fe), (0x2596, 0x25ff), (0x2616, 0x2617), (0x2672, 0x267d), (0x2680, 0x2689),
    (0x2768, 0x2775), (0x27d0, 0x27eb), (0x27f0, 0x2aff), (0x303b, 0x30ff), (0x31f0, 0x31ff),
    (0x3251, 0x325f), (0x32b1, 0x32bf), (0xa4a2, 0xa4c5), (0xfa30, 0xfa6a), (0xfdfc, 0xfdfc),
    (0xfe00, 0xfe0f), (0xfe45, 0xfe46), (0xfe73, 0xff60)]),
  (4, 0, [(0x221, 0x236), (0x2ae, 0x357), (0x35d, 0x35f), (0x3f7, 0x3fb), (0x600, 0x603),
    (0x60d, 0x615), (0x656, 0x658), (0x6ee, 0x74f), (0x904, 0x904), (0x9bd, 0x9bd), (0xa01, 0xa03),
    (0xa8c, 0xae3), (0xaf1, 0xaf1), (0xb35, 0xb35), (0xb71, 0xb71), (0xbf3, 0xbfa), (0xcbc, 0xcbd),
    (0x17dd, 0x17f9), (0x1900, 0x191c), (0x1920, 0x1974), (0x19e0, 0x19ff), (0x1d00, 0x1d6b),
    (0x2053, 0x2054), (0x213b, 0x213b), (0x23cf, 0x23d0), (0x24ff, 0x2615), (0x268a, 0x2691),
    (0x26a0, 0x26a1), (0x2b00, 0x2b0d), (0x321d, 0x321e), (0x3250, 0x327d), (0x32cc, 0x32cf),
    (0x3377, 0x33ff), (0x4dc0, 0x4dff), (0xfdfd, 0xfdfd), (0xfe47, 0x1013f), (0x10380, 0x1039f),
    (0x10426, 0x104a9), (0x10800, 0x1083f), (0x1d300, 0x1d356), (0x1d4c1, 0x1d4c1),
    (0xe0100, 0xe01ef)]),
  (4, 1, [(0x237, 0x241), (0x358, 0x35c), (0x3fc, 0x3ff), (0x4f6, 0x4f7), (0x5a2, 0x5a2),
    (0x5c5, 0x5c7), (0x60b, 0x60b), (0x61e, 0x61e), (0x659, 0x65e), (0x750, 0x76d), (0x97d, 0x97d),
    (0x9ce, 0x9ce), (0xbb6, 0xbb6), (0xbe6, 0xbe6), (0xfd0, 0xfd1), (0x10f9, 0x10fc),
    (0x1207, 0x1347), (0x135f, 0x1399), (0x1980, 0x19a9), (0x19b0, 0x19d9), (0x19de, 0x1a1f),
    (0x1d6c, 0x1dc3), (0x2055, 0x205e), (0x2090, 0x2094), (0x20b2, 0x20b5), (0x20eb, 0x20eb),
    (0x213c, 0x214c), (0x23d1, 0x23db), (0x2618, 0x269c), (0x26a2, 0x26b1), (0x27c0, 0x27c6),
    (0x2b0e, 0x2b13), (0x2c00, 0x2c2e), (0x2c30, 0x2c5e), (0x2c80, 0x2cea), (0x2cf9, 0x2d25),
    (0x2d30, 0x2d65), (0x2d6f, 0x2d6f), (0x2d80, 0x2dde), (0x2e00, 0x2e17), (0x2e1c, 0x2e1d),
    (0x31c0, 0x31cf), (0x327e, 0x327e), (0x9fa6, 0x9fbb), (0xa700, 0xa716), (0xa800, 0xa82b),
    (0xfa70, 0xfad9), (0xfe10, 0xfe19), (0x10140, 0x1018a), (0x103a0, 0x103d5), (0x10a00, 0x10a33),
    (0x10a38, 0x10a47), (0x10a50, 0x10a58), (0x1d200, 0x1d245), (0x1d6a4, 0x1d6a5)]),
  (5, 0, [(0x242, 0x24f), (0x37b, 0x37d), (0x4cf, 0x513), (0x5ba, 0x5ba), (0x7c0, 0x7fa),
    (0x97b, 0x97f), (0xce2, 0xcf2), (0x1b00, 0x1b4b), (0x1b50, 0x1b7c), (0x1dc4, 0x1dca),
    (0x1dfe, 0x1dff), (0x20ec, 0x20ef), (0x214d, 0x214e), (0x2184, 0x2184), (0x23dc, 0x23e7),
    (0x26b2, 0x26b2), (0x27c7, 0x27ca), (0x2b14, 0x2b1a), (0x2b20, 0x2b23), (0x2c60, 0x2c6c),
    (0x2c74, 0x2c77), (0xa717, 0xa71a), (0xa720, 0xa721), (0xa840, 0xa877), (0x10900, 0x10919),
    (0x1091f, 0x1091f), (0x12000, 0x1236e), (0x12400, 0x12462), (0x12470, 0x12473),
    (0x1d360, 0x1d371), (0x1d7ca, 0x1d7cb)]),
  (5, 1, [(0x370, 0x377), (0x3cf, 0x523), (0x606, 0x61a), (0x63b, 0x63f), (0x76e, 0x77f),
    (0x971, 0x972), (0xa51, 0xa75), (0xb44, 0xb44), (0xb62, 0xb63), (0xbd0, 0xbd0), (0xc3d, 0xc59),
    (0xc62, 0xc63), (0xc78, 0xc7f), (0xd3d, 0xd44), (0xd62, 0xd75), (0xd79, 0xd7f), (0xf6b, 0xf6c),
    (0xfce, 0xfd4), (0x1022, 0x1099), (0x109e, 0x109f), (0x18aa, 0x18aa), (0x1b80, 0x1baa),
    (0x1bae, 0x1bb9), (0x1c00, 0x1c7f), (0x1dcb, 0x1de6), (0x1e9c, 0x2064), (0x20f0, 0x214f),
    (0x2185, 0x2188), (0x269d, 0x269d), (0x26b3, 0x26bc), (0x26c0, 0x26c3), (0x27cc, 0x27cc),
    (0x27ec, 0x2b4c), (0x2b50, 0x2b54), (0x2c6d, 0x2c6f), (0x2c71, 0x2c7d), (0x2de0, 0x2e30),
    (0x312d, 0x312d), (0x31d0, 0x31e3), (0x9fbc, 0x9fc3), (0xa500, 0xa65f), (0xa662, 0xa673),
    (0xa67c, 0xa697), (0xa71b, 0xa78c), (0xa7fb, 0xa7ff), (0xa880, 0xa8c4), (0xa8ce, 0xa8d9),
    (0xa900, 0xa95f), (0xaa00, 0xaa5f), (0xfe24, 0xfe26), (0x10190, 0x1019b), (0x101d0, 0x102d0),
    (0x10920, 0x1093f), (0x1d129, 0x1d129), (0x1f000, 0x1f093)]),
  (5, 2, [(0x524, 0x525), (0x800, 0x83e), (0x900, 0x900), (0x94e, 0x94e), (0x955, 0x955),
    (0x979, 0x97a), (0x9fb, 0x9fb), (0xfd5, 0xfd8), (0x109a, 0x109d), (0x115a, 0x11ff),
    (0x1400, 0x167f), (0x18b0, 0x18f5), (0x19aa, 0x1aad), (0x1cd0, 0x1cf2), (0x1dfd, 0x1dfd),
    (0x20b6, 0x20b8), (0x2150, 0x2189), (0x23e8, 0x23e8), (0x269e, 0x26cd), (0x26cf, 0x26e1),
    (0x26e3, 0x26e3), (0x26e8, 0x26ff), (0x2757, 0x2757), (0x2b55, 0x2b59), (0x2c70, 0x2cf1),
    (0x2e31, 0x2e31), (0x3244, 0x324f), (0x9fc4, 0x9fcb), (0xa4d0, 0xa4ff), (0xa6a0, 0xa6f7),
    (0xa830, 0xa839), (0xa8e0, 0xa8fb), (0xa960, 0xa9df), (0xaa60, 0xaa7b), (0xaa80, 0xaadf),
    (0xabc0, 0xd7fb), (0xfa6b, 0xfa6d), (0x10840, 0x1085f), (0x1091a, 0x1091b), (0x10a60, 0x10a7f),
    (0x10b00, 0x10b7f), (0x10c00, 0x10c48), (0x10e60, 0x10e7e), (0x11080, 0x110c1),
    (0x13000, 0x1342e), (0x1f100, 0x1f10a), (0x1f110, 0x1f12e), (0x1f131, 0x1f131),
    (0x1f13d, 0x1f13d), (0x1f13f, 0x1f13f), (0x1f142, 0x1f142), (0x1f146, 0x1f146),
    (0x1f14a, 0x1f14e), (0x1f157, 0x1f157), (0x1f15f, 0x1f15f), (0x1f179, 0x1f179),
    (0x1f17b, 0x1f17c), (0x1f17f, 0x1f17f), (0x1f18a, 0x1f18d), (0x1f190, 0x1f190),
    (0x1f200, 0x1f200), (0x1f210, 0x1f231), (0x1f240, 0x1f248), (0x2a700, 0x2b734)]),
  (6, 0, [(0x526, 0x527), (0x620, 0x65f), (0x840, 0x85e), (0x93a, 0x977), (0xb72, 0xb77),
    (0xd29, 0xd3a), (0xd4e, 0xd4e), (0xf8c, 0xfda), (0x135d, 0x135e), (0x1bc0, 0x1bff),
    (0x1dfc, 0x1dfc), (0x2095, 0x20b9), (0x23e9, 0x23f3), (0x26ce, 0x26e7), (0x2705, 0x27bf),
    (0x27ce, 0x27cf), (0x2d70, 0x2d7f), (0x31b8, 0x31ba), (0xa660, 0xa661), (0xa78d, 0xa78e),
    (0xa790, 0xa791), (0xa7a0, 0xa7a9), (0xa7fa, 0xa7fa), (0xab01, 0xab2e), (0xfbb2, 0xfbc1),
    (0x11000, 0x1106f), (0x16800, 0x16a38), (0x1b000, 0x1b001), (0x1f0a0, 0x1f0be),
    (0x1f0c1, 0x1f0df), (0x1f130, 0x1f169), (0x1f170, 0x1f19a), (0x1f1e6, 0x1f23a),
    (0x1f250, 0x1f251), (0x1f300, 0x1f320), (0x1f330, 0x1f335), (0x1f337, 0x1f37c),
    (0x1f380, 0x1f393), (0x1f3a0, 0x1f3c4), (0x1f3c6, 0x1f3ca), (0x1f3e0, 0x1f3f0),
    (0x1f400, 0x1f43e), (0x1f440, 0x1f440), (0x1f442, 0x1f4f7), (0x1f4f9, 0x1f4fc),
    (0x1f500, 0x1f53d), (0x1f550, 0x1f567), (0x1f5fb, 0x1f5ff), (0x1f601, 0x1f610),
    (0x1f612, 0x1f614), (0x1f616, 0x1f616), (0x1f618, 0x1f618), (0x1f61a, 0x1f61a),
    (0x1f61c, 0x1f61e), (0x1f620, 0x1f625), (0x1f628, 0x1f62b), (0x1f62d, 0x1f62d),
    (0x1f630, 0x1f633), (0x1f635, 0x1f640), (0x1f645, 0x1f64f), (0x1f680, 0x1f6c5),
    (0x1f700, 0x1f773), (0x2b740, 0x2b81d)]),
  (6, 1, [(0x58f, 0x58f), (0x604, 0x604), (0x8a0, 0x8a0), (0x8a2, 0x8ac), (0x8e4, 0x8fe),
    (0xaf0, 0xaf0), (0xede, 0x10ff), (0x1bab, 0x1bbf), (0x1cc0, 0x1cf6), (0x27cb, 0x27cd),
    (0x2cf2, 0x2e3b), (0x9fcc, 0x9fcc), (0xa674, 0xa67b), (0xa69f, 0xa69f), (0xa792, 0xa793),
    (0xa7aa, 0xa7aa), (0xa7f8, 0xa7f9), (0xaae0, 0xaaf6), (0xfa2e, 0xfa2f), (0x10980, 0x109b7),
    (0x109be, 0x109bf), (0x110d0, 0x11143), (0x11180, 0x111c8), (0x111d0, 0x111d9),
    (0x11680, 0x116b7), (0x116c0, 0x116c9), (0x16f00, 0x16f44), (0x16f50, 0x16f7e),
    (0x16f8f, 0x16f9f), (0x1ee00, 0x1eef1), (0x1f16a, 0x1f16b), (0x1f540, 0x1f543),
    (0x1f600, 0x1f634)]),
  (6, 2, [(0x20ba, 0x20ba)]),
  (6, 3, [(0x61c, 0x61c), (0x2066, 0x2069)]),
  (7, 0, [(0x37f, 0x52f), (0x58d, 0x58e), (0x605, 0x605), (0x8a1, 0x8b2), (0x8ff, 0x980),
    (0xc00, 0xc00), (0xc34, 0xc34), (0xc81, 0xc81), (0xd01, 0xd01), (0xde6, 0xdef),
    (0x16f1, 0x16f8), (0x191d, 0x1abe), (0x1cf8, 0x1cf9), (0x1de7, 0x1df5), (0x20bb, 0x20bd),
    (0x23f4, 0x23fa), (0x2700, 0x2b95), (0x2b98, 0x2bb9), (0x2bbd, 0x2bc8), (0x2bca, 0x2bd1),
    (0x2e3c, 0x2e42), (0xa698, 0xa69d), (0xa794, 0xa7ad), (0xa7b0, 0xa7b1), (0xa7f7, 0xa7f7),
    (0xa9e0, 0xab5f), (0xab64, 0xab65), (0xfe27, 0xfe2d), (0x1018b, 0x1018c), (0x101a0, 0x1031f),
    (0x10350, 0x1037a), (0x10500, 0x1056f), (0x10600, 0x10767), (0x10860, 0x108af),
    (0x10a80, 0x10baf), (0x1107f, 0x1107f), (0x11150, 0x11176), (0x111cd, 0x111cd),
    (0x111da, 0x111da), (0x111e1, 0x1123d), (0x112b0, 0x112f9), (0x11301, 0x11339),
    (0x1133c, 0x1134d), (0x11357, 0x11374), (0x11480, 0x115c9), (0x11600, 0x11659),
    (0x118a0, 0x118ff), (0x11ac0, 0x11af8), (0x1236f, 0x12398), (0x12463, 0x12474),
    (0x16a40, 0x16a6f), (0x16ad0, 0x16b8f), (0x1bc00, 0x1bca3), (0x1e800, 0x1e8d6),
    (0x1f0bf, 0x1f10c), (0x1f321, 0x1f32c), (0x1f336, 0x1f37d), (0x1f394, 0x1f3ce),
    (0x1f3d4, 0x1f3f7), (0x1f43f, 0x1f4fe), (0x1f53e, 0x1f54a), (0x1f568, 0x1f579),
    (0x1f57b, 0x1f5a3), (0x1f5a5, 0x1f642), (0x1f650, 0x1f6cf), (0x1f6e0, 0x1f6f3),
    (0x1f780, 0x1f7d4), (0x1f800, 0x1f8ad)]),
  (8, 0, [(0x8b3, 0x8b4), (0x8e3, 0x8e3), (0xaf9, 0xaf9), (0xc5a, 0xc5a), (0xd5f, 0xd5f),
    (0x13f5, 0x13fd), (0x20be, 0x20be), (0x218a, 0x218b), (0x2bec, 0x2bef), (0x9fcd, 0x9fd5),
    (0xa69e, 0xa78f), (0xa7b2, 0xa7b7), (0xa8fc, 0xa8fd), (0xab60, 0xab63), (0xab70, 0xabbf),
    (0xfe2e, 0xfe2f), (0x108e0, 0x109ff), (0x10c80, 0x10cff), (0x111c9, 0x111cc),
    (0x111db, 0x111df), (0x11280, 0x11300), (0x11350, 0x11350), (0x115ca, 0x115dd),
    (0x11700, 0x11719), (0x1171d, 0x1173f), (0x12399, 0x12543), (0x14400, 0x14646),
    (0x1d1de, 0x1d1e8), (0x1d800, 0x1daaf), (0x1f32d, 0x1f54f), (0x1f643, 0x1f6d0),
    (0x1f910, 0x1f918), (0x1f980, 0x1f984), (0x1f9c0, 0x1f9c0), (0x2b820, 0x2cea1)]),
  (9, 0, [(0x8b6, 0x8bd), (0x8d4, 0x8e2), (0xc80, 0xc80), (0xd4f, 0xd78), (0x1c80, 0x1c88),
    (0x1dfb, 0x1dfb), (0x23fb, 0x23fe), (0x2e43, 0x2e44), (0xa7ae, 0xa7ae), (0xa8c5, 0xa8c5),
    (0x1018d, 0x1018e), (0x104b0, 0x104fb), (0x1123e, 0x1123e), (0x11400, 0x11459),
    (0x1145b, 0x1145d), (0x11660, 0x1166c), (0x11c00, 0x11cb6), (0x16fe0, 0x16fe0),
    (0x17000, 0x187ec), (0x18800, 0x18af2), (0x1e000, 0x1e02a), (0x1e900, 0x1e94a),
    (0x1e950, 0x1e95f), (0x1f19b, 0x1f1ac), (0x1f23b, 0x1f23b), (0x1f57a, 0x1f6d2),
    (0x1f6f4, 0x1f6f6), (0x1f919, 0x1f91e), (0x1f920, 0x1f927), (0x1f930, 0x1f930),
    (0x1f933, 0x1f93e), (0x1f940, 0x1f94b), (0x1f950, 0x1f95e), (0x1f985, 0x1f991)]),
  (10, 0, [(0x860, 0x86a), (0x9fc, 0x9fd), (0xafa, 0xaff), (0xd00, 0xd00), (0xd3b, 0xd3c),
    (0x1cf7, 0x1cf7), (0x1df6, 0x1df9), (0x20bf, 0x20bf), (0x23ff, 0x23ff), (0x2bd2, 0x2bd2),
    (0x2e45, 0x2e49), (0x312e, 0x312e), (0x9fd6, 0x9fea), (0x1032d, 0x1032f), (0x11a00, 0x11a83),
    (0x11a86, 0x11a9c), (0x11a9e, 0x11aa2), (0x11d00, 0x11d59), (0x16fe1, 0x16fe1),
    (0x1b002, 0x1b11e), (0x1b170, 0x1b2fb), (0x1f260, 0x1f6d4), (0x1f6f7, 0x1f6f8),
    (0x1f900, 0x1f90b), (0x1f91f, 0x1f932), (0x1f94c, 0x1f94c), (0x1f95f, 0x1f96b),
    (0x1f992, 0x1f997), (0x1f9d0, 0x1f9e6), (0x2ceb0, 0x2ebe0)]),
  (11, 0, [(0x560, 0x5ef), (0x7fd, 0x7ff), (0x8d3, 0xa76), (0xc04, 0xc04), (0xc84, 0xc84),
    (0x1878, 0x1878), (0x1c90, 0x1cbf), (0x2bba, 0x2bbc), (0x2bd3, 0x2bfe), (0x2e4a, 0x2e4e),
    (0x312f, 0x312f), (0x9feb, 0x9fef), (0xa7af, 0xa7b9), (0xa8fe, 0xa8ff), (0x10a34, 0x10d39),
    (0x10f00, 0x10f59), (0x110cd, 0x11146), (0x1133b, 0x1133b), (0x1145e, 0x1145e),
    (0x1171a, 0x1171a), (0x11800, 0x1183b), (0x11a9d, 0x11a9d), (0x11d60, 0x11ef8),
    (0x16e40, 0x16e9a), (0x187ed, 0x187f1), (0x1d2e0, 0x1d378), (0x1ec71, 0x1ecb4),
    (0x1f12f, 0x1f12f), (0x1f6f9, 0x1f6f9), (0x1f7d5, 0x1f7d8), (0x1f94d, 0x1f970),
    (0x1f973, 0x1f976), (0x1f97a, 0x1f97a), (0x1f97c, 0x1f9a2), (0x1f9b0, 0x1f9b9),
    (0x1f9c1, 0x1f9c2), (0x1f9e7, 0x1f9ff), (0x1fa60, 0x1fa6d)]),
  (12, 0, [(0xc77, 0xc77), (0xe86, 0xeba), (0x1cfa, 0x1cfa), (0x2bc9, 0x2bff), (0x2e4f, 0x2e4f),
    (0xa7ba, 0xa7bf), (0xa7c2, 0xa7c6), (0xab66, 0xab67), (0x10fe0, 0x10ff6), (0x1145f, 0x1145f),
    (0x116b8, 0x116b8), (0x119a0, 0x11a85), (0x11fc0, 0x11fff), (0x13430, 0x13438),
    (0x16f45, 0x16fe3), (0x187f2, 0x187f7), (0x1b150, 0x1b152), (0x1b164, 0x1b167),
    (0x1e100, 0x1e14f), (0x1e2c0, 0x1e2ff), (0x1e94b, 0x1ed3d), (0x1f16c, 0x1f16c),
    (0x1f6d5, 0x1f6d5), (0x1f6fa, 0x1f6fa), (0x1f7e0, 0x1f7eb), (0x1f90d, 0x1f971),
    (0x1f97b, 0x1f97b), (0x1f9a5, 0x1f9aa), (0x1f9ae, 0x1f9ca), (0x1f9cd, 0x1fa73),
    (0x1fa78, 0x1fa7a), (0x1fa80, 0x1fa82), (0x1fa90, 0x1fa95)]),
  (12, 1, [(0x32ff, 0x32ff)]),
  (13, 0, [(0x8be, 0x8c7), (0xb55, 0xb55), (0xd04, 0xd81), (0x1abf, 0x1ac0), (0x2b97, 0x2b97),
    (0x2e50, 0x2e52), (0x31bb, 0x31bf), (0x4db6, 0x9ffc), (0xa7c7, 0xa7ca), (0xa7f5, 0xab6b),
    (0x1019c, 0x1019c), (0x10e80, 0x10eb1), (0x10fb0, 0x10fcb), (0x11147, 0x111cf),
    (0x1145a, 0x11461), (0x11900, 0x11959), (0x11fb0, 0x11fb0), (0x16fe4, 0x18cd5),
    (0x18d00, 0x18d08), (0x1f10d, 0x1f6d7), (0x1f6fb, 0x1f6fc), (0x1f8b0, 0x1f8b1),
    (0x1f90c, 0x1f978), (0x1f9a3, 0x1f9cb), (0x1fa74, 0x1fa74), (0x1fa83, 0x1fa86),
    (0x1fa96, 0x1faa8), (0x1fab0, 0x1fab6), (0x1fac0, 0x1fac2), (0x1fad0, 0x1fad6),
    (0x1fb00, 0x1fbca), (0x1fbf0, 0x2a6dd), (0x30000, 0x3134a)]),
  (14, 0, [(0x61d, 0x891), (0x898, 0xcdd), (0x170d, 0x1b4c), (0x1b7d, 0x1b7e), (0x1dfa, 0x20c0),
    (0x2c2f, 0x2e5d), (0x9ffd, 0xa7c1), (0xa7d0, 0xa7d9), (0xa7f2, 0x105bc), (0x10780, 0x107ba),
    (0x10f70, 0x110c2), (0x116b9, 0x116b9), (0x11740, 0x11abf), (0x12f90, 0x12ff2),
    (0x16a70, 0x16ac9), (0x1aff0, 0x1b122), (0x1cf00, 0x1d1ea), (0x1df00, 0x1df1e),
    (0x1e290, 0x1e2ae), (0x1e7e0, 0x1e7fe), (0x1f6dd, 0x1f6df), (0x1f7f0, 0x1f7f0),
    (0x1f979, 0x1f9cc), (0x1fa7b, 0x1fa7c), (0x1faa9, 0x1faac), (0x1fab7, 0x1faba),
    (0x1fac3, 0x1fac5), (0x1fad7, 0x1fad9), (0x1fae0, 0x1fae7), (0x1faf0, 0x1faf6),
    (0x2a6de, 0x2b738)]),
  (15, 0, [(0xcf3, 0xece), (0x10efd, 0x11241), (0x11b00, 0x11b09), (0x11f00, 0x11f59),
    (0x1342f, 0x13455), (0x1b132, 0x1b155), (0x1d2c0, 0x1e4f9), (0x1f6dc, 0x1f7d9),
    (0x1fa75, 0x1fa88), (0x1faad, 0x1fabd), (0x1fabf, 0x1fabf), (0x1face, 0x1fadb),
    (0x1fae8, 0x1fae8), (0x1faf7, 0x1faf8), (0x2b739, 0x2b739), (0x31350, 0x323af)]),
  (15, 1, [(0x2ffc, 0x2fff), (0x31ef, 0x31ef), (0x2ebf0, 0x2ee5d)]),
  (16, 0, [(0x897, 0x1fbef)])]

end Flowgraph.Text
