import Stencil.Text.Normal

/-! Texts without regard to capital letters. -/
namespace Stencil.Text

/-- Characters with a character each that stands for them: the first and the last by their numbers,
the distance between two of them, and what stands for the first. That of the next one is as far from
it. -/
def foldRuns : List (Nat × Nat × Nat × Nat) := [
  (0x41, 0x5a, 1, 0x61), (0xb5, 0xb5, 1, 0x3bc), (0xc0, 0xd6, 1, 0xe0), (0xd8, 0xde, 1, 0xf8),
  (0x100, 0x12e, 2, 0x101), (0x132, 0x136, 2, 0x133), (0x139, 0x147, 2, 0x13a),
  (0x14a, 0x176, 2, 0x14b), (0x178, 0x178, 1, 0xff), (0x179, 0x17d, 2, 0x17a),
  (0x17f, 0x17f, 1, 0x73), (0x181, 0x181, 1, 0x253), (0x182, 0x184, 2, 0x183),
  (0x186, 0x186, 1, 0x254), (0x187, 0x187, 1, 0x188), (0x189, 0x18a, 1, 0x256),
  (0x18b, 0x18b, 1, 0x18c), (0x18e, 0x18e, 1, 0x1dd), (0x18f, 0x18f, 1, 0x259),
  (0x190, 0x190, 1, 0x25b), (0x191, 0x191, 1, 0x192), (0x193, 0x193, 1, 0x260),
  (0x194, 0x194, 1, 0x263), (0x196, 0x196, 1, 0x269), (0x197, 0x197, 1, 0x268),
  (0x198, 0x198, 1, 0x199), (0x19c, 0x19c, 1, 0x26f), (0x19d, 0x19d, 1, 0x272),
  (0x19f, 0x19f, 1, 0x275), (0x1a0, 0x1a4, 2, 0x1a1), (0x1a6, 0x1a6, 1, 0x280),
  (0x1a7, 0x1a7, 1, 0x1a8), (0x1a9, 0x1a9, 1, 0x283), (0x1ac, 0x1ac, 1, 0x1ad),
  (0x1ae, 0x1ae, 1, 0x288), (0x1af, 0x1af, 1, 0x1b0), (0x1b1, 0x1b2, 1, 0x28a),
  (0x1b3, 0x1b5, 2, 0x1b4), (0x1b7, 0x1b7, 1, 0x292), (0x1b8, 0x1bc, 4, 0x1b9),
  (0x1c4, 0x1c4, 1, 0x1c6), (0x1c5, 0x1c5, 1, 0x1c6), (0x1c7, 0x1c7, 1, 0x1c9),
  (0x1c8, 0x1c8, 1, 0x1c9), (0x1ca, 0x1ca, 1, 0x1cc), (0x1cb, 0x1db, 2, 0x1cc),
  (0x1de, 0x1ee, 2, 0x1df), (0x1f1, 0x1f1, 1, 0x1f3), (0x1f2, 0x1f4, 2, 0x1f3),
  (0x1f6, 0x1f6, 1, 0x195), (0x1f7, 0x1f7, 1, 0x1bf), (0x1f8, 0x21e, 2, 0x1f9),
  (0x220, 0x220, 1, 0x19e), (0x222, 0x232, 2, 0x223), (0x23a, 0x23a, 1, 0x2c65),
  (0x23b, 0x23b, 1, 0x23c), (0x23d, 0x23d, 1, 0x19a), (0x23e, 0x23e, 1, 0x2c66),
  (0x241, 0x241, 1, 0x242), (0x243, 0x243, 1, 0x180), (0x244, 0x244, 1, 0x289),
  (0x245, 0x245, 1, 0x28c), (0x246, 0x24e, 2, 0x247), (0x345, 0x345, 1, 0x3b9),
  (0x370, 0x372, 2, 0x371), (0x376, 0x376, 1, 0x377), (0x37f, 0x37f, 1, 0x3f3),
  (0x386, 0x386, 1, 0x3ac), (0x388, 0x38a, 1, 0x3ad), (0x38c, 0x38c, 1, 0x3cc),
  (0x38e, 0x38f, 1, 0x3cd), (0x391, 0x3a1, 1, 0x3b1), (0x3a3, 0x3ab, 1, 0x3c3),
  (0x3c2, 0x3c2, 1, 0x3c3), (0x3cf, 0x3cf, 1, 0x3d7), (0x3d0, 0x3d0, 1, 0x3b2),
  (0x3d1, 0x3d1, 1, 0x3b8), (0x3d2, 0x3d2, 1, 0x3c5), (0x3d3, 0x3d3, 1, 0x3cd),
  (0x3d4, 0x3d4, 1, 0x3cb), (0x3d5, 0x3d5, 1, 0x3c6), (0x3d6, 0x3d6, 1, 0x3c0),
  (0x3d8, 0x3ee, 2, 0x3d9), (0x3f0, 0x3f0, 1, 0x3ba), (0x3f1, 0x3f1, 1, 0x3c1),
  (0x3f2, 0x3f2, 1, 0x3c3), (0x3f4, 0x3f4, 1, 0x3b8), (0x3f5, 0x3f5, 1, 0x3b5),
  (0x3f7, 0x3f7, 1, 0x3f8), (0x3f9, 0x3f9, 1, 0x3c3), (0x3fa, 0x3fa, 1, 0x3fb),
  (0x3fd, 0x3ff, 1, 0x37b), (0x400, 0x40f, 1, 0x450), (0x410, 0x42f, 1, 0x430),
  (0x460, 0x480, 2, 0x461), (0x48a, 0x4be, 2, 0x48b), (0x4c0, 0x4c0, 1, 0x4cf),
  (0x4c1, 0x4cd, 2, 0x4c2), (0x4d0, 0x52e, 2, 0x4d1), (0x531, 0x556, 1, 0x561),
  (0x10a0, 0x10c5, 1, 0x2d00), (0x10c7, 0x10c7, 1, 0x2d27), (0x10cd, 0x10cd, 1, 0x2d2d),
  (0x13a0, 0x13ef, 1, 0xab70), (0x13f0, 0x13f5, 1, 0x13f8), (0x1c90, 0x1cba, 1, 0x10d0),
  (0x1cbd, 0x1cbf, 1, 0x10fd), (0x1e00, 0x1e94, 2, 0x1e01), (0x1e9b, 0x1e9b, 1, 0x1e61),
  (0x1ea0, 0x1efe, 2, 0x1ea1), (0x1f08, 0x1f0f, 1, 0x1f00), (0x1f18, 0x1f1d, 1, 0x1f10),
  (0x1f28, 0x1f2f, 1, 0x1f20), (0x1f38, 0x1f3f, 1, 0x1f30), (0x1f48, 0x1f4d, 1, 0x1f40),
  (0x1f59, 0x1f5f, 2, 0x1f51), (0x1f68, 0x1f6f, 1, 0x1f60), (0x1fb8, 0x1fb9, 1, 0x1fb0),
  (0x1fba, 0x1fbb, 1, 0x1f70), (0x1fbe, 0x1fbe, 1, 0x3b9), (0x1fc8, 0x1fcb, 1, 0x1f72),
  (0x1fd8, 0x1fd9, 1, 0x1fd0), (0x1fda, 0x1fdb, 1, 0x1f76), (0x1fe8, 0x1fe9, 1, 0x1fe0),
  (0x1fea, 0x1feb, 1, 0x1f7a), (0x1fec, 0x1fec, 1, 0x1fe5), (0x1ff8, 0x1ff9, 1, 0x1f78),
  (0x1ffa, 0x1ffb, 1, 0x1f7c), (0x2102, 0x2102, 1, 0x63), (0x2107, 0x2107, 1, 0x25b),
  (0x210b, 0x210b, 1, 0x68), (0x210c, 0x210c, 1, 0x68), (0x210d, 0x210d, 1, 0x68),
  (0x2110, 0x2110, 1, 0x69), (0x2111, 0x2111, 1, 0x69), (0x2112, 0x2112, 1, 0x6c),
  (0x2115, 0x2115, 1, 0x6e), (0x2119, 0x211b, 1, 0x70), (0x211c, 0x211c, 1, 0x72),
  (0x211d, 0x211d, 1, 0x72), (0x2124, 0x2124, 1, 0x7a), (0x2126, 0x2126, 1, 0x3c9),
  (0x2128, 0x2128, 1, 0x7a), (0x212a, 0x212a, 1, 0x6b), (0x212b, 0x212b, 1, 0xe5),
  (0x212c, 0x212d, 1, 0x62), (0x2130, 0x2131, 1, 0x65), (0x2132, 0x2132, 1, 0x214e),
  (0x2133, 0x2133, 1, 0x6d), (0x213e, 0x213e, 1, 0x3b3), (0x213f, 0x213f, 1, 0x3c0),
  (0x2145, 0x2145, 1, 0x64), (0x2160, 0x216f, 1, 0x2170), (0x2183, 0x2183, 1, 0x2184),
  (0x24b6, 0x24cf, 1, 0x24d0), (0x2c00, 0x2c2f, 1, 0x2c30), (0x2c60, 0x2c60, 1, 0x2c61),
  (0x2c62, 0x2c62, 1, 0x26b), (0x2c63, 0x2c63, 1, 0x1d7d), (0x2c64, 0x2c64, 1, 0x27d),
  (0x2c67, 0x2c6b, 2, 0x2c68), (0x2c6d, 0x2c6d, 1, 0x251), (0x2c6e, 0x2c6e, 1, 0x271),
  (0x2c6f, 0x2c6f, 1, 0x250), (0x2c70, 0x2c70, 1, 0x252), (0x2c72, 0x2c72, 1, 0x2c73),
  (0x2c75, 0x2c75, 1, 0x2c76), (0x2c7e, 0x2c7f, 1, 0x23f), (0x2c80, 0x2ce2, 2, 0x2c81),
  (0x2ceb, 0x2ced, 2, 0x2cec), (0x2cf2, 0x2cf2, 1, 0x2cf3), (0xa640, 0xa66c, 2, 0xa641),
  (0xa680, 0xa69a, 2, 0xa681), (0xa722, 0xa72e, 2, 0xa723), (0xa732, 0xa76e, 2, 0xa733),
  (0xa779, 0xa77b, 2, 0xa77a), (0xa77d, 0xa77d, 1, 0x1d79), (0xa77e, 0xa786, 2, 0xa77f),
  (0xa78b, 0xa78b, 1, 0xa78c), (0xa78d, 0xa78d, 1, 0x265), (0xa790, 0xa792, 2, 0xa791),
  (0xa796, 0xa7a8, 2, 0xa797), (0xa7aa, 0xa7aa, 1, 0x266), (0xa7ab, 0xa7ab, 1, 0x25c),
  (0xa7ac, 0xa7ac, 1, 0x261), (0xa7ad, 0xa7ad, 1, 0x26c), (0xa7ae, 0xa7ae, 1, 0x26a),
  (0xa7b0, 0xa7b0, 1, 0x29e), (0xa7b1, 0xa7b1, 1, 0x287), (0xa7b2, 0xa7b2, 1, 0x29d),
  (0xa7b3, 0xa7b3, 1, 0xab53), (0xa7b4, 0xa7c2, 2, 0xa7b5), (0xa7c4, 0xa7c4, 1, 0xa794),
  (0xa7c5, 0xa7c5, 1, 0x282), (0xa7c6, 0xa7c6, 1, 0x1d8e), (0xa7c7, 0xa7c9, 2, 0xa7c8),
  (0xa7d0, 0xa7d0, 1, 0xa7d1), (0xa7d6, 0xa7d8, 2, 0xa7d7), (0xa7f5, 0xa7f5, 1, 0xa7f6),
  (0xff21, 0xff3a, 1, 0xff41), (0x10400, 0x10427, 1, 0x10428), (0x104b0, 0x104d3, 1, 0x104d8),
  (0x10570, 0x1057a, 1, 0x10597), (0x1057c, 0x1058a, 1, 0x105a3), (0x1058c, 0x10592, 1, 0x105b3),
  (0x10594, 0x10595, 1, 0x105bb), (0x10c80, 0x10cb2, 1, 0x10cc0), (0x118a0, 0x118bf, 1, 0x118c0),
  (0x16e40, 0x16e5f, 1, 0x16e60), (0x1d400, 0x1d419, 1, 0x61), (0x1d434, 0x1d44d, 1, 0x61),
  (0x1d468, 0x1d481, 1, 0x61), (0x1d49c, 0x1d49e, 2, 0x61), (0x1d49f, 0x1d49f, 1, 0x64),
  (0x1d4a2, 0x1d4a2, 1, 0x67), (0x1d4a5, 0x1d4a6, 1, 0x6a), (0x1d4a9, 0x1d4ac, 1, 0x6e),
  (0x1d4ae, 0x1d4b5, 1, 0x73), (0x1d4d0, 0x1d4e9, 1, 0x61), (0x1d504, 0x1d505, 1, 0x61),
  (0x1d507, 0x1d50a, 1, 0x64), (0x1d50d, 0x1d514, 1, 0x6a), (0x1d516, 0x1d51c, 1, 0x73),
  (0x1d538, 0x1d539, 1, 0x61), (0x1d53b, 0x1d53e, 1, 0x64), (0x1d540, 0x1d544, 1, 0x69),
  (0x1d546, 0x1d54a, 4, 0x6f), (0x1d54b, 0x1d550, 1, 0x74), (0x1d56c, 0x1d585, 1, 0x61),
  (0x1d5a0, 0x1d5b9, 1, 0x61), (0x1d5d4, 0x1d5ed, 1, 0x61), (0x1d608, 0x1d621, 1, 0x61),
  (0x1d63c, 0x1d655, 1, 0x61), (0x1d670, 0x1d689, 1, 0x61), (0x1d6a8, 0x1d6b8, 1, 0x3b1),
  (0x1d6b9, 0x1d6b9, 1, 0x3b8), (0x1d6ba, 0x1d6c0, 1, 0x3c3), (0x1d6d3, 0x1d6d3, 1, 0x3c3),
  (0x1d6e2, 0x1d6f2, 1, 0x3b1), (0x1d6f3, 0x1d6f3, 1, 0x3b8), (0x1d6f4, 0x1d6fa, 1, 0x3c3),
  (0x1d70d, 0x1d70d, 1, 0x3c3), (0x1d71c, 0x1d72c, 1, 0x3b1), (0x1d72d, 0x1d72d, 1, 0x3b8),
  (0x1d72e, 0x1d734, 1, 0x3c3), (0x1d747, 0x1d747, 1, 0x3c3), (0x1d756, 0x1d766, 1, 0x3b1),
  (0x1d767, 0x1d767, 1, 0x3b8), (0x1d768, 0x1d76e, 1, 0x3c3), (0x1d781, 0x1d781, 1, 0x3c3),
  (0x1d790, 0x1d7a0, 1, 0x3b1), (0x1d7a1, 0x1d7a1, 1, 0x3b8), (0x1d7a2, 0x1d7a8, 1, 0x3c3),
  (0x1d7bb, 0x1d7bb, 1, 0x3c3), (0x1e900, 0x1e921, 1, 0x1e922)]

/-- Characters for which a text stands. -/
def foldTexts : List (Nat × String) := [
  (0xdf, "ss"), (0x130, "i\u0307"), (0x149, "ʼn"), (0x1f0, "j\u030c"), (0x37a, " ι"),
  (0x390, "ι\u0308\u0301"), (0x3b0, "υ\u0308\u0301"), (0x587, "եւ"), (0x1e96, "h\u0331"),
  (0x1e97, "t\u0308"), (0x1e98, "w\u030a"), (0x1e99, "y\u030a"), (0x1e9a, "aʾ"), (0x1e9e, "ss"),
  (0x1f50, "υ\u0313"), (0x1f52, "υ\u0313\u0300"), (0x1f54, "υ\u0313\u0301"),
  (0x1f56, "υ\u0313\u0342"), (0x1f80, "ἀι"), (0x1f81, "ἁι"), (0x1f82, "ἂι"), (0x1f83, "ἃι"),
  (0x1f84, "ἄι"), (0x1f85, "ἅι"), (0x1f86, "ἆι"), (0x1f87, "ἇι"), (0x1f88, "ἀι"), (0x1f89, "ἁι"),
  (0x1f8a, "ἂι"), (0x1f8b, "ἃι"), (0x1f8c, "ἄι"), (0x1f8d, "ἅι"), (0x1f8e, "ἆι"), (0x1f8f, "ἇι"),
  (0x1f90, "ἠι"), (0x1f91, "ἡι"), (0x1f92, "ἢι"), (0x1f93, "ἣι"), (0x1f94, "ἤι"), (0x1f95, "ἥι"),
  (0x1f96, "ἦι"), (0x1f97, "ἧι"), (0x1f98, "ἠι"), (0x1f99, "ἡι"), (0x1f9a, "ἢι"), (0x1f9b, "ἣι"),
  (0x1f9c, "ἤι"), (0x1f9d, "ἥι"), (0x1f9e, "ἦι"), (0x1f9f, "ἧι"), (0x1fa0, "ὠι"), (0x1fa1, "ὡι"),
  (0x1fa2, "ὢι"), (0x1fa3, "ὣι"), (0x1fa4, "ὤι"), (0x1fa5, "ὥι"), (0x1fa6, "ὦι"), (0x1fa7, "ὧι"),
  (0x1fa8, "ὠι"), (0x1fa9, "ὡι"), (0x1faa, "ὢι"), (0x1fab, "ὣι"), (0x1fac, "ὤι"), (0x1fad, "ὥι"),
  (0x1fae, "ὦι"), (0x1faf, "ὧι"), (0x1fb2, "ὰι"), (0x1fb3, "αι"), (0x1fb4, "άι"),
  (0x1fb6, "α\u0342"), (0x1fb7, "α\u0342ι"), (0x1fbc, "αι"), (0x1fc2, "ὴι"), (0x1fc3, "ηι"),
  (0x1fc4, "ήι"), (0x1fc6, "η\u0342"), (0x1fc7, "η\u0342ι"), (0x1fcc, "ηι"),
  (0x1fd2, "ι\u0308\u0300"), (0x1fd3, "ι\u0308\u0301"), (0x1fd6, "ι\u0342"),
  (0x1fd7, "ι\u0308\u0342"), (0x1fe2, "υ\u0308\u0300"), (0x1fe3, "υ\u0308\u0301"),
  (0x1fe4, "ρ\u0313"), (0x1fe6, "υ\u0342"), (0x1fe7, "υ\u0308\u0342"), (0x1ff2, "ὼι"),
  (0x1ff3, "ωι"), (0x1ff4, "ώι"), (0x1ff6, "ω\u0342"), (0x1ff7, "ω\u0342ι"), (0x1ffc, "ωι"),
  (0x20a8, "rs"), (0x2103, "°c"), (0x2109, "°f"), (0x2116, "no"), (0x2120, "sm"), (0x2121, "tel"),
  (0x2122, "tm"), (0x3371, "hpa"), (0x3373, "au"), (0x3375, "ov"), (0x3380, "pa"), (0x3381, "na"),
  (0x3382, "μa"), (0x3383, "ma"), (0x3384, "ka"), (0x3385, "kb"), (0x3386, "mb"), (0x3387, "gb"),
  (0x338a, "pf"), (0x338b, "nf"), (0x338c, "μf"), (0x3390, "hz"), (0x3391, "khz"), (0x3392, "mhz"),
  (0x3393, "ghz"), (0x3394, "thz"), (0x33a9, "pa"), (0x33aa, "kpa"), (0x33ab, "mpa"),
  (0x33ac, "gpa"), (0x33b4, "pv"), (0x33b5, "nv"), (0x33b6, "μv"), (0x33b7, "mv"), (0x33b8, "kv"),
  (0x33b9, "mv"), (0x33ba, "pw"), (0x33bb, "nw"), (0x33bc, "μw"), (0x33bd, "mw"), (0x33be, "kw"),
  (0x33bf, "mw"), (0x33c0, "kω"), (0x33c1, "mω"), (0x33c3, "bq"), (0x33c6, "c∕kg"), (0x33c7, "co."),
  (0x33c8, "db"), (0x33c9, "gy"), (0x33cb, "hp"), (0x33cd, "kk"), (0x33ce, "km"), (0x33d7, "ph"),
  (0x33d9, "ppm"), (0x33da, "pr"), (0x33dc, "sv"), (0x33dd, "wb"), (0xfb00, "ff"), (0xfb01, "fi"),
  (0xfb02, "fl"), (0xfb03, "ffi"), (0xfb04, "ffl"), (0xfb05, "st"), (0xfb06, "st"), (0xfb13, "մն"),
  (0xfb14, "մե"), (0xfb15, "մի"), (0xfb16, "վն"), (0xfb17, "մխ")]

/-- What stands for a character where capitals are of no account. -/
def fold (c : Char) : List Char :=
  let run := foldRuns.findSome? fun (first, last, step, target) =>
    if first ≤ c.toNat ∧ c.toNat ≤ last ∧ (c.toNat - first) % step = 0 then
      some [Char.ofNat (target + (c.toNat - first))]
    else none
  (run <|> (foldTexts.lookup c.toNat).map String.toList).getD [c]

end Stencil.Text
