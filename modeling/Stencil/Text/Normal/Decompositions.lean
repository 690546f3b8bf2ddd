/-! Characters that are taken apart, in the version 3.2 of Unicode. Syllables of Hangul are not
among them. -/
namespace Stencil.Text.Normal

/-- What characters from a number on are taken apart into, with section signs in between. -/
def decompositions : List (Nat × String) := [
  (0xa0, " "),
  (0xa8, " \u0308"),
  (0xaa, "a"),
  (0xaf, " \u0304"),
  (0xb2, "2§3§ \u0301§μ"),
  (0xb8, " \u0327§1§o"),
  (0xbc, "1⁄4§1⁄2§3⁄4"),
  (0xc0, "A\u0300§A\u0301§A\u0302§A\u0303§A\u0308§A\u030a"),
  (0xc7, "C\u0327§E\u0300§E\u0301§E\u0302§E\u0308§I\u0300§I\u0301§I\u0302§I\u0308"),
  (0xd1, "N\u0303§O\u0300§O\u0301§O\u0302§O\u0303§O\u0308"),
  (0xd9, "U\u0300§U\u0301§U\u0302§U\u0308§Y\u0301"),
  (0xe0, "a\u0300§a\u0301§a\u0302§a\u0303§a\u0308§a\u030a"),
  (0xe7, "c\u0327§e\u0300§e\u0301§e\u0302§e\u0308§i\u0300§i\u0301§i\u0302§i\u0308"),
  (0xf1, "n\u0303§o\u0300§o\u0301§o\u0302§o\u0303§o\u0308"),
  (0xf9, "u\u0300§u\u0301§u\u0302§u\u0308§y\u0301"),
  (0xff, "y\u0308§A\u0304§a\u0304§A\u0306§a\u0306§A\u0328§a\u0328§C\u0301§c\u0301§C\u0302§c" ++
    "\u0302§C\u0307§c\u0307§C\u030c§c\u030c§D\u030c§d\u030c"),
  (0x112, "E\u0304§e\u0304§E\u0306§e\u0306§E\u0307§e\u0307§E\u0328§e\u0328§E\u030c§e\u030c§G" ++
    "\u0302§g\u0302§G\u0306§g\u0306§G\u0307§g\u0307§G\u0327§g\u0327§H\u0302§h\u0302"),
  (0x128, "I\u0303§i\u0303§I\u0304§i\u0304§I\u0306§i\u0306§I\u0328§i\u0328§I\u0307"),
  (0x132, "IJ§ij§J\u0302§j\u0302§K\u0327§k\u0327"),
  (0x139, "L\u0301§l\u0301§L\u0327§l\u0327§L\u030c§l\u030c§L·§l·"),
  (0x143, "N\u0301§n\u0301§N\u0327§n\u0327§N\u030c§n\u030c§ʼn"),
  (0x14c, "O\u0304§o\u0304§O\u0306§o\u0306§O\u030b§o\u030b"),
  (0x154, "R\u0301§r\u0301§R\u0327§r\u0327§R\u030c§r\u030c§S\u0301§s\u0301§S\u0302§s\u0302§S" ++
    "\u0327§s\u0327§S\u030c§s\u030c§T\u0327§t\u0327§T\u030c§t\u030c"),
  (0x168, "U\u0303§u\u0303§U\u0304§u\u0304§U\u0306§u\u0306§U\u030a§u\u030a§U\u030b§u\u030b§U" ++
    "\u0328§u\u0328§W\u0302§w\u0302§Y\u0302§y\u0302§Y\u0308§Z\u0301§z\u0301§Z\u0307§z\u0307§Z" ++
    "\u030c§z\u030c§s"),
  (0x1a0, "O\u031b§o\u031b"),
  (0x1af, "U\u031b§u\u031b"),
  (0x1c4, "DZ\u030c§Dz\u030c§dz\u030c§LJ§Lj§lj§NJ§Nj§nj§A\u030c§a\u030c§I\u030c§i\u030c§O\u030c§" ++
    "o\u030c§U\u030c§u\u030c§U\u0308\u0304§u\u0308\u0304§U\u0308\u0301§u\u0308\u0301§U\u0308" ++
    "\u030c§u\u0308\u030c§U\u0308\u0300§u\u0308\u0300"),
  (0x1de, "A\u0308\u0304§a\u0308\u0304§A\u0307\u0304§a\u0307\u0304§Æ\u0304§æ\u0304"),
  (0x1e6, "G\u030c§g\u030c§K\u030c§k\u030c§O\u0328§o\u0328§O\u0328\u0304§o\u0328\u0304§Ʒ\u030c§ʒ" ++
    "\u030c§j\u030c§DZ§Dz§dz§G\u0301§g\u0301"),
  (0x1f8, "N\u0300§n\u0300§A\u030a\u0301§a\u030a\u0301§Æ\u0301§æ\u0301§Ø\u0301§ø\u0301§A\u030f§a" ++
    "\u030f§A\u0311§a\u0311§E\u030f§e\u030f§E\u0311§e\u0311§I\u030f§i\u030f§I\u0311§i\u0311§O" ++
    "\u030f§o\u030f§O\u0311§o\u0311§R\u030f§r\u030f§R\u0311§r\u0311§U\u030f§u\u030f§U\u0311§u" ++
    "\u0311§S\u0326§s\u0326§T\u0326§t\u0326"),
  (0x21e, "H\u030c§h\u030c"),
  (0x226, "A\u0307§a\u0307§E\u0327§e\u0327§O\u0308\u0304§o\u0308\u0304§O\u0303\u0304§o\u0303" ++
    "\u0304§O\u0307§o\u0307§O\u0307\u0304§o\u0307\u0304§Y\u0304§y\u0304"),
  (0x2b0, "h§ɦ§j§r§ɹ§ɻ§ʁ§w§y"),
  (0x2d8, " \u0306§ \u0307§ \u030a§ \u0328§ \u0303§ \u030b"),
  (0x2e0, "ɣ§l§s§x§ʕ"),
  (0x340, "\u0300§\u0301"),
  (0x343, "\u0313§\u0308\u0301"),
  (0x374, "ʹ"),
  (0x37a, " \u0345"),
  (0x37e, ";"),
  (0x384, " \u0301§ \u0308\u0301§Α\u0301§·§Ε\u0301§Η\u0301§Ι\u0301"),
  (0x38c, "Ο\u0301"),
  (0x38e, "Υ\u0301§Ω\u0301§ι\u0308\u0301"),
  (0x3aa, "Ι\u0308§Υ\u0308§α\u0301§ε\u0301§η\u0301§ι\u0301§υ\u0308\u0301"),
  (0x3ca, "ι\u0308§υ\u0308§ο\u0301§υ\u0301§ω\u0301"),
  (0x3d0, "β§θ§Υ§Υ\u0301§Υ\u0308§φ§π"),
  (0x3f0, "κ§ρ§ς"),
  (0x3f4, "Θ§ε"),
  (0x400, "Е\u0300§Е\u0308"),
  (0x403, "Г\u0301"),
  (0x407, "І\u0308"),
  (0x40c, "К\u0301§И\u0300§У\u0306"),
  (0x419, "И\u0306"),
  (0x439, "и\u0306"),
  (0x450, "е\u0300§е\u0308"),
  (0x453, "г\u0301"),
  (0x457, "і\u0308"),
  (0x45c, "к\u0301§и\u0300§у\u0306"),
  (0x476, "Ѵ\u030f§ѵ\u030f"),
  (0x4c1, "Ж\u0306§ж\u0306"),
  (0x4d0, "А\u0306§а\u0306§А\u0308§а\u0308"),
  (0x4d6, "Е\u0306§е\u0306"),
  (0x4da, "Ә\u0308§ә\u0308§Ж\u0308§ж\u0308§З\u0308§з\u0308"),
  (0x4e2, "И\u0304§и\u0304§И\u0308§и\u0308§О\u0308§о\u0308"),
  (0x4ea, "Ө\u0308§ө\u0308§Э\u0308§э\u0308§У\u0304§у\u0304§У\u0308§у\u0308§У\u030b§у\u030b§Ч" ++
    "\u0308§ч\u0308"),
  (0x4f8, "Ы\u0308§ы\u0308"),
  (0x587, "եւ"),
  (0x622, "\u0627\u0653§\u0627\u0654§\u0648\u0654§\u0627\u0655§\u064a\u0654"),
  (0x675, "\u0627\u0674§\u0648\u0674§\u06c7\u0674§\u064a\u0674"),
  (0x6c0, "\u06d5\u0654"),
  (0x6c2, "\u06c1\u0654"),
  (0x6d3, "\u06d2\u0654"),
  (0x929, "न\u093c"),
  (0x931, "र\u093c"),
  (0x934, "ळ\u093c"),
  (0x958, "क\u093c§ख\u093c§ग\u093c§ज\u093c§ड\u093c§ढ\u093c§फ\u093c§य\u093c"),
  (0x9cb, "\u09c7\u09be§\u09c7\u09d7"),
  (0x9dc, "ড\u09bc§ঢ\u09bc"),
  (0x9df, "য\u09bc"),
  (0xa33, "ਲ\u0a3c"),
  (0xa36, "ਸ\u0a3c"),
  (0xa59, "ਖ\u0a3c§ਗ\u0a3c§ਜ\u0a3c"),
  (0xa5e, "ਫ\u0a3c"),
  (0xb48, "\u0b47\u0b56"),
  (0xb4b, "\u0b47\u0b3e§\u0b47\u0b57"),
  (0xb5c, "ଡ\u0b3c§ଢ\u0b3c"),
  (0xb94, "ஒ\u0bd7"),
  (0xbca, "\u0bc6\u0bbe§\u0bc7\u0bbe§\u0bc6\u0bd7"),
  (0xc48, "\u0c46\u0c56"),
  (0xcc0, "\u0cbf\u0cd5"),
  (0xcc7, "\u0cc6\u0cd5§\u0cc6\u0cd6"),
  (0xcca, "\u0cc6\u0cc2§\u0cc6\u0cc2\u0cd5"),
  (0xd4a, "\u0d46\u0d3e§\u0d47\u0d3e§\u0d46\u0d57"),
  (0xdda, "\u0dd9\u0dca"),
  (0xddc, "\u0dd9\u0dcf§\u0dd9\u0dcf\u0dca§\u0dd9\u0ddf"),
  (0xe33, "\u0e4dา"),
  (0xeb3, "\u0ecdາ"),
  (0xedc, "ຫນ§ຫມ"),
  (0xf0c, "་"),
  (0xf43, "ག\u0fb7"),
  (0xf4d, "ཌ\u0fb7"),
  (0xf52, "ད\u0fb7"),
  (0xf57, "བ\u0fb7"),
  (0xf5c, "ཛ\u0fb7"),
  (0xf69, "ཀ\u0fb5"),
  (0xf73, "\u0f71\u0f72"),
  (0xf75, "\u0f71\u0f74§\u0fb2\u0f80§\u0fb2\u0f71\u0f80§\u0fb3\u0f80§\u0fb3\u0f71\u0f80"),
  (0xf81, "\u0f71\u0f80"),
  (0xf93, "\u0f92\u0fb7"),
  (0xf9d, "\u0f9c\u0fb7"),
  (0xfa2, "\u0fa1\u0fb7"),
  (0xfa7, "\u0fa6\u0fb7"),
  (0xfac, "\u0fab\u0fb7"),
  (0xfb9, "\u0f90\u0fb5"),
  (0x1026, "ဥ\u102e"),
  (0x1e00, "A\u0325§a\u0325§B\u0307§b\u0307§B\u0323§b\u0323§B\u0331§b\u0331§C\u0327\u0301§c" ++
    "\u0327\u0301§D\u0307§d\u0307§D\u0323§d\u0323§D\u0331§d\u0331§D\u0327§d\u0327§D\u032d§d" ++
    "\u032d§E\u0304\u0300§e\u0304\u0300§E\u0304\u0301§e\u0304\u0301§E\u032d§e\u032d§E\u0330§e" ++
    "\u0330§E\u0327\u0306§e\u0327\u0306§F\u0307§f\u0307§G\u0304§g\u0304§H\u0307§h\u0307§H\u0323§" ++
    "h\u0323§H\u0308§h\u0308§H\u0327§h\u0327§H\u032e§h\u032e§I\u0330§i\u0330§I\u0308\u0301§i" ++
    "\u0308\u0301§K\u0301§k\u0301§K\u0323§k\u0323§K\u0331§k\u0331§L\u0323§l\u0323§L\u0323\u0304§" ++
    "l\u0323\u0304§L\u0331§l\u0331§L\u032d§l\u032d§M\u0301§m\u0301§M\u0307§m\u0307§M\u0323§m" ++
    "\u0323§N\u0307§n\u0307§N\u0323§n\u0323§N\u0331§n\u0331§N\u032d§n\u032d§O\u0303\u0301§o" ++
    "\u0303\u0301§O\u0303\u0308§o\u0303\u0308§O\u0304\u0300§o\u0304\u0300§O\u0304\u0301§o\u0304" ++
    "\u0301§P\u0301§p\u0301§P\u0307§p\u0307§R\u0307§r\u0307§R\u0323§r\u0323§R\u0323\u0304§r" ++
    "\u0323\u0304§R\u0331§r\u0331§S\u0307§s\u0307§S\u0323§s\u0323§S\u0301\u0307§s\u0301\u0307§S" ++
    "\u030c\u0307§s\u030c\u0307§S\u0323\u0307§s\u0323\u0307§T\u0307§t\u0307§T\u0323§t\u0323§T" ++
    "\u0331§t\u0331§T\u032d§t\u032d§U\u0324§u\u0324§U\u0330§u\u0330§U\u032d§u\u032d§U\u0303" ++
    "\u0301§u\u0303\u0301§U\u0304\u0308§u\u0304\u0308§V\u0303§v\u0303§V\u0323§v\u0323§W\u0300§w" ++
    "\u0300§W\u0301§w\u0301§W\u0308§w\u0308§W\u0307§w\u0307§W\u0323§w\u0323§X\u0307§x\u0307§X" ++
    "\u0308§x\u0308§Y\u0307§y\u0307§Z\u0302§z\u0302§Z\u0323§z\u0323§Z\u0331§z\u0331§h\u0331§t" ++
    "\u0308§w\u030a§y\u030a§aʾ§s\u0307"),
  (0x1ea0, "A\u0323§a\u0323§A\u0309§a\u0309§A\u0302\u0301§a\u0302\u0301§A\u0302\u0300§a\u0302" ++
    "\u0300§A\u0302\u0309§a\u0302\u0309§A\u0302\u0303§a\u0302\u0303§A\u0323\u0302§a\u0323\u0302§" ++
    "A\u0306\u0301§a\u0306\u0301§A\u0306\u0300§a\u0306\u0300§A\u0306\u0309§a\u0306\u0309§A\u0306" ++
    "\u0303§a\u0306\u0303§A\u0323\u0306§a\u0323\u0306§E\u0323§e\u0323§E\u0309§e\u0309§E\u0303§e" ++
    "\u0303§E\u0302\u0301§e\u0302\u0301§E\u0302\u0300§e\u0302\u0300§E\u0302\u0309§e\u0302\u0309§" ++
    "E\u0302\u0303§e\u0302\u0303§E\u0323\u0302§e\u0323\u0302§I\u0309§i\u0309§I\u0323§i\u0323§O" ++
    "\u0323§o\u0323§O\u0309§o\u0309§O\u0302\u0301§o\u0302\u0301§O\u0302\u0300§o\u0302\u0300§O" ++
    "\u0302\u0309§o\u0302\u0309§O\u0302\u0303§o\u0302\u0303§O\u0323\u0302§o\u0323\u0302§O\u031b" ++
    "\u0301§o\u031b\u0301§O\u031b\u0300§o\u031b\u0300§O\u031b\u0309§o\u031b\u0309§O\u031b\u0303§" ++
    "o\u031b\u0303§O\u031b\u0323§o\u031b\u0323§U\u0323§u\u0323§U\u0309§u\u0309§U\u031b\u0301§u" ++
    "\u031b\u0301§U\u031b\u0300§u\u031b\u0300§U\u031b\u0309§u\u031b\u0309§U\u031b\u0303§u\u031b" ++
    "\u0303§U\u031b\u0323§u\u031b\u0323§Y\u0300§y\u0300§Y\u0323§y\u0323§Y\u0309§y\u0309§Y\u0303§" ++
    "y\u0303"),
  (0x1f00, "α\u0313§α\u0314§α\u0313\u0300§α\u0314\u0300§α\u0313\u0301§α\u0314\u0301§α\u0313" ++
    "\u0342§α\u0314\u0342§Α\u0313§Α\u0314§Α\u0313\u0300§Α\u0314\u0300§Α\u0313\u0301§Α\u0314" ++
    "\u0301§Α\u0313\u0342§Α\u0314\u0342§ε\u0313§ε\u0314§ε\u0313\u0300§ε\u0314\u0300§ε\u0313" ++
    "\u0301§ε\u0314\u0301"),
  (0x1f18, "Ε\u0313§Ε\u0314§Ε\u0313\u0300§Ε\u0314\u0300§Ε\u0313\u0301§Ε\u0314\u0301"),
  (0x1f20, "η\u0313§η\u0314§η\u0313\u0300§η\u0314\u0300§η\u0313\u0301§η\u0314\u0301§η\u0313" ++
    "\u0342§η\u0314\u0342§Η\u0313§Η\u0314§Η\u0313\u0300§Η\u0314\u0300§Η\u0313\u0301§Η\u0314" ++
    "\u0301§Η\u0313\u0342§Η\u0314\u0342§ι\u0313§ι\u0314§ι\u0313\u0300§ι\u0314\u0300§ι\u0313" ++
    "\u0301§ι\u0314\u0301§ι\u0313\u0342§ι\u0314\u0342§Ι\u0313§Ι\u0314§Ι\u0313\u0300§Ι\u0314" ++
    "\u0300§Ι\u0313\u0301§Ι\u0314\u0301§Ι\u0313\u0342§Ι\u0314\u0342§ο\u0313§ο\u0314§ο\u0313" ++
    "\u0300§ο\u0314\u0300§ο\u0313\u0301§ο\u0314\u0301"),
  (0x1f48, "Ο\u0313§Ο\u0314§Ο\u0313\u0300§Ο\u0314\u0300§Ο\u0313\u0301§Ο\u0314\u0301"),
  (0x1f50, "υ\u0313§υ\u0314§υ\u0313\u0300§υ\u0314\u0300§υ\u0313\u0301§υ\u0314\u0301§υ\u0313" ++
    "\u0342§υ\u0314\u0342"),
  (0x1f59, "Υ\u0314"),
  (0x1f5b, "Υ\u0314\u0300"),
  (0x1f5d, "Υ\u0314\u0301"),
  (0x1f5f, "Υ\u0314\u0342§ω\u0313§ω\u0314§ω\u0313\u0300§ω\u0314\u0300§ω\u0313\u0301§ω\u0314" ++
    "\u0301§ω\u0313\u0342§ω\u0314\u0342§Ω\u0313§Ω\u0314§Ω\u0313\u0300§Ω\u0314\u0300§Ω\u0313" ++
    "\u0301§Ω\u0314\u0301§Ω\u0313\u0342§Ω\u0314\u0342§α\u0300§α\u0301§ε\u0300§ε\u0301§η\u0300§η" ++
    "\u0301§ι\u0300§ι\u0301§ο\u0300§ο\u0301§υ\u0300§υ\u0301§ω\u0300§ω\u0301"),
  (0x1f80, "α\u0313\u0345§α\u0314\u0345§α\u0313\u0300\u0345§α\u0314\u0300\u0345§α\u0313\u0301" ++
    "\u0345§α\u0314\u0301\u0345§α\u0313\u0342\u0345§α\u0314\u0342\u0345§Α\u0313\u0345§Α\u0314" ++
    "\u0345§Α\u0313\u0300\u0345§Α\u0314\u0300\u0345§Α\u0313\u0301\u0345§Α\u0314\u0301\u0345§Α" ++
    "\u0313\u0342\u0345§Α\u0314\u0342\u0345§η\u0313\u0345§η\u0314\u0345§η\u0313\u0300\u0345§η" ++
    "\u0314\u0300\u0345§η\u0313\u0301\u0345§η\u0314\u0301\u0345§η\u0313\u0342\u0345§η\u0314" ++
    "\u0342\u0345§Η\u0313\u0345§Η\u0314\u0345§Η\u0313\u0300\u0345§Η\u0314\u0300\u0345§Η\u0313" ++
    "\u0301\u0345§Η\u0314\u0301\u0345§Η\u0313\u0342\u0345§Η\u0314\u0342\u0345§ω\u0313\u0345§ω" ++
    "\u0314\u0345§ω\u0313\u0300\u0345§ω\u0314\u0300\u0345§ω\u0313\u0301\u0345§ω\u0314\u0301" ++
    "\u0345§ω\u0313\u0342\u0345§ω\u0314\u0342\u0345§Ω\u0313\u0345§Ω\u0314\u0345§Ω\u0313\u0300" ++
    "\u0345§Ω\u0314\u0300\u0345§Ω\u0313\u0301\u0345§Ω\u0314\u0301\u0345§Ω\u0313\u0342\u0345§Ω" ++
    "\u0314\u0342\u0345§α\u0306§α\u0304§α\u0300\u0345§α\u0345§α\u0301\u0345"),
  (0x1fb6, "α\u0342§α\u0342\u0345§Α\u0306§Α\u0304§Α\u0300§Α\u0301§Α\u0345§ \u0313§ι§ \u0313§ " ++
    "\u0342§ \u0308\u0342§η\u0300\u0345§η\u0345§η\u0301\u0345"),
  (0x1fc6, "η\u0342§η\u0342\u0345§Ε\u0300§Ε\u0301§Η\u0300§Η\u0301§Η\u0345§ \u0313\u0300§ \u0313" ++
    "\u0301§ \u0313\u0342§ι\u0306§ι\u0304§ι\u0308\u0300§ι\u0308\u0301"),
  (0x1fd6, "ι\u0342§ι\u0308\u0342§Ι\u0306§Ι\u0304§Ι\u0300§Ι\u0301"),
  (0x1fdd, " \u0314\u0300§ \u0314\u0301§ \u0314\u0342§υ\u0306§υ\u0304§υ\u0308\u0300§υ\u0308" ++
    "\u0301§ρ\u0313§ρ\u0314§υ\u0342§υ\u0308\u0342§Υ\u0306§Υ\u0304§Υ\u0300§Υ\u0301§Ρ\u0314§ " ++
    "\u0308\u0300§ \u0308\u0301§`"),
  (0x1ff2, "ω\u0300\u0345§ω\u0345§ω\u0301\u0345"),
  (0x1ff6, "ω\u0342§ω\u0342\u0345§Ο\u0300§Ο\u0301§Ω\u0300§Ω\u0301§Ω\u0345§ \u0301§ \u0314"),
  (0x2000, " § § § § § § § § § § "),
  (0x2011, "‐"),
  (0x2017, " \u0333"),
  (0x2024, ".§..§..."),
  (0x202f, " "),
  (0x2033, "′′§′′′"),
  (0x2036, "‵‵§‵‵‵"),
  (0x203c, "!!"),
  (0x203e, " \u0305"),
  (0x2047, "??§?!§!?"),
  (0x2057, "′′′′"),
  (0x205f, " "),
  (0x2070, "0§i"),
  (0x2074, "4§5§6§7§8§9§+§−§=§(§)§n§0§1§2§3§4§5§6§7§8§9§+§−§=§(§)"),
  (0x20a8, "Rs"),
  (0x2100, "a/c§a/s§C§°C"),
  (0x2105, "c/o§c/u§Ɛ"),
  (0x2109, "°F§g§H§H§H§h§ħ§I§I§L§l"),
  (0x2115, "N§No"),
  (0x2119, "P§Q§R§R§R"),
  (0x2120, "SM§TEL§TM"),
  (0x2124, "Z"),
  (0x2126, "Ω"),
  (0x2128, "Z"),
  (0x212a, "K§A\u030a§B§C"),
  (0x212f, "e§E§F"),
  (0x2133, "M§o§\u05d0§\u05d1§\u05d2§\u05d3§i"),
  (0x213d, "γ§Γ§Π§∑"),
  (0x2145, "D§d§e§i§j"),
  (0x2153, "1⁄3§2⁄3§1⁄5§2⁄5§3⁄5§4⁄5§1⁄6§5⁄6§1⁄8§3⁄8§5⁄8§7⁄8§1⁄§I§II§III§IV§V§VI§VII§VIII§IX§X§XI" ++
    "§XII§L§C§D§M§i§ii§iii§iv§v§vi§vii§viii§ix§x§xi§xii§l§c§d§m"),
  (0x219a, "←\u0338§→\u0338"),
  (0x21ae, "↔\u0338"),
  (0x21cd, "⇐\u0338§⇔\u0338§⇒\u0338"),
  (0x2204, "∃\u0338"),
  (0x2209, "∈\u0338"),
  (0x220c, "∋\u0338"),
  (0x2224, "∣\u0338"),
  (0x2226, "∥\u0338"),
  (0x222c, "∫∫§∫∫∫"),
  (0x222f, "∮∮§∮∮∮"),
  (0x2241, "∼\u0338"),
  (0x2244, "≃\u0338"),
  (0x2247, "≅\u0338"),
  (0x2249, "≈\u0338"),
  (0x2260, "=\u0338"),
  (0x2262, "≡\u0338"),
  (0x226d, "≍\u0338§<\u0338§>\u0338§≤\u0338§≥\u0338"),
  (0x2274, "≲\u0338§≳\u0338"),
  (0x2278, "≶\u0338§≷\u0338"),
  (0x2280, "≺\u0338§≻\u0338"),
  (0x2284, "⊂\u0338§⊃\u0338"),
  (0x2288, "⊆\u0338§⊇\u0338"),
  (0x22ac, "⊢\u0338§⊨\u0338§⊩\u0338§⊫\u0338"),
  (0x22e0, "≼\u0338§≽\u0338§⊑\u0338§⊒\u0338"),
  (0x22ea, "⊲\u0338§⊳\u0338§⊴\u0338§⊵\u0338"),
  (0x2329, "〈§〉"),
  (0x2460, "1§2§3§4§5§6§7§8§9§10§11§12§13§14§15§16§17§18§19§20§(1)§(2)§(3)§(4)§(5)§(6)§(7)§(8)§(" ++
    "9)§(10)§(11)§(12)§(13)§(14)§(15)§(16)§(17)§(18)§(19)§(20)§1.§2.§3.§4.§5.§6.§7.§8.§9.§10.§11" ++
    ".§12.§13.§14.§15.§16.§17.§18.§19.§20.§(a)§(b)§(c)§(d)§(e)§(f)§(g)§(h)§(i)§(j)§(k)§(l)§(m)§(" ++
    "n)§(o)§(p)§(q)§(r)§(s)§(t)§(u)§(v)§(w)§(x)§(y)§(z)§A§B§C§D§E§F§G§H§I§J§K§L§M§N§O§P§Q§R§S§T§" ++
    "U§V§W§X§Y§Z§a§b§c§d§e§f§g§h§i§j§k§l§m§n§o§p§q§r§s§t§u§v§w§x§y§z§0"),
  (0x2a0c, "∫∫∫∫"),
  (0x2a74, "::=§==§==="),
  (0x2adc, "⫝\u0338"),
  (0x2e9f, "母"),
  (0x2ef3, "龟"),
  (0x2f00, "一§丨§丶§丿§乙§亅§二§亠§人§儿§入§八§冂§冖§冫§几§凵§刀§力§勹§匕§匚§匸§十§卜§卩§厂§厶§又§口§囗§土§士§夂§夊§夕§大§女§子§宀§寸§小§" ++
    "尢§尸§屮§山§巛§工§己§巾§干§幺§广§廴§廾§弋§弓§彐§彡§彳§心§戈§戶§手§支§攴§文§斗§斤§方§无§日§曰§月§木§欠§止§歹§殳§毋§比§毛§氏§气§水§火§爪§父" ++
    "§爻§爿§片§牙§牛§犬§玄§玉§瓜§瓦§甘§生§用§田§疋§疒§癶§白§皮§皿§目§矛§矢§石§示§禸§禾§穴§立§竹§米§糸§缶§网§羊§羽§老§而§耒§耳§聿§肉§臣§自§至§" ++
    "臼§舌§舛§舟§艮§色§艸§虍§虫§血§行§衣§襾§見§角§言§谷§豆§豕§豸§貝§赤§走§足§身§車§辛§辰§辵§邑§酉§釆§里§金§長§門§阜§隶§隹§雨§靑§非§面§革§韋§韭" ++
    "§音§頁§風§飛§食§首§香§馬§骨§高§髟§鬥§鬯§鬲§鬼§魚§鳥§鹵§鹿§麥§麻§黃§黍§黑§黹§黽§鼎§鼓§鼠§鼻§齊§齒§龍§龜§龠"),
  (0x3000, " "),
  (0x3036, "〒"),
  (0x3038, "十§卄§卅"),
  (0x304c, "か\u3099"),
  (0x304e, "き\u3099"),
  (0x3050, "く\u3099"),
  (0x3052, "け\u3099"),
  (0x3054, "こ\u3099"),
  (0x3056, "さ\u3099"),
  (0x3058, "し\u3099"),
  (0x305a, "す\u3099"),
  (0x305c, "せ\u3099"),
  (0x305e, "そ\u3099"),
  (0x3060, "た\u3099"),
  (0x3062, "ち\u3099"),
  (0x3065, "つ\u3099"),
  (0x3067, "て\u3099"),
  (0x3069, "と\u3099"),
  (0x3070, "は\u3099§は\u309a"),
  (0x3073, "ひ\u3099§ひ\u309a"),
  (0x3076, "ふ\u3099§ふ\u309a"),
  (0x3079, "へ\u3099§へ\u309a"),
  (0x307c, "ほ\u3099§ほ\u309a"),
  (0x3094, "う\u3099"),
  (0x309b, " \u3099§ \u309a"),
  (0x309e, "ゝ\u3099§より"),
  (0x30ac, "カ\u3099"),
  (0x30ae, "キ\u3099"),
  (0x30b0, "ク\u3099"),
  (0x30b2, "ケ\u3099"),
  (0x30b4, "コ\u3099"),
  (0x30b6, "サ\u3099"),
  (0x30b8, "シ\u3099"),
  (0x30ba, "ス\u3099"),
  (0x30bc, "セ\u3099"),
  (0x30be, "ソ\u3099"),
  (0x30c0, "タ\u3099"),
  (0x30c2, "チ\u3099"),
  (0x30c5, "ツ\u3099"),
  (0x30c7, "テ\u3099"),
  (0x30c9, "ト\u3099"),
  (0x30d0, "ハ\u3099§ハ\u309a"),
  (0x30d3, "ヒ\u3099§ヒ\u309a"),
  (0x30d6, "フ\u3099§フ\u309a"),
  (0x30d9, "ヘ\u3099§ヘ\u309a"),
  (0x30dc, "ホ\u3099§ホ\u309a"),
  (0x30f4, "ウ\u3099"),
  (0x30f7, "ワ\u3099§ヰ\u3099§ヱ\u3099§ヲ\u3099"),
  (0x30fe, "ヽ\u3099§コト"),
  (0x3131, "ᄀ§ᄁ§ᆪ§ᄂ§ᆬ§ᆭ§ᄃ§ᄄ§ᄅ§ᆰ§ᆱ§ᆲ§ᆳ§ᆴ§ᆵ§ᄚ§ᄆ§ᄇ§ᄈ§ᄡ§ᄉ§ᄊ§ᄋ§ᄌ§ᄍ§ᄎ§ᄏ§ᄐ§ᄑ§ᄒ§ᅡ§ᅢ§ᅣ§ᅤ§ᅥ§ᅦ§ᅧ§ᅨ§ᅩ§ᅪ§ᅫ§ᅬ§" ++
    "ᅭ§ᅮ§ᅯ§ᅰ§ᅱ§ᅲ§ᅳ§ᅴ§ᅵ§ᅠ§ᄔ§ᄕ§ᇇ§ᇈ§ᇌ§ᇎ§ᇓ§ᇗ§ᇙ§ᄜ§ᇝ§ᇟ§ᄝ§ᄞ§ᄠ§ᄢ§ᄣ§ᄧ§ᄩ§ᄫ§ᄬ§ᄭ§ᄮ§ᄯ§ᄲ§ᄶ§ᅀ§ᅇ§ᅌ§ᇱ§ᇲ§ᅗ§ᅘ§ᅙ§ᆄ§ᆅ" ++
    "§ᆈ§ᆑ§ᆒ§ᆔ§ᆞ§ᆡ"),
  (0x3192, "一§二§三§四§上§中§下§甲§乙§丙§丁§天§地§人"),
  (0x3200, "(ᄀ)§(ᄂ)§(ᄃ)§(ᄅ)§(ᄆ)§(ᄇ)§(ᄉ)§(ᄋ)§(ᄌ)§(ᄎ)§(ᄏ)§(ᄐ)§(ᄑ)§(ᄒ)§(가)§(나)§(다)§(라)§(마)§(바" ++
    ")§(사)§(아)§(자)§(차)§(카)§(타)§(파)§(하)§(주)"),
  (0x3220, "(一)§(二)§(三)§(四)§(五)§(六)§(七)§(八)§(九)§(十)§(月)§(火)§(水)§(木)§(金)§(土)§(日)§(株)§(有)§(社)§(名)§" ++
    "(特)§(財)§(祝)§(労)§(代)§(呼)§(学)§(監)§(企)§(資)§(協)§(祭)§(休)§(自)§(至)"),
  (0x3251, "21§22§23§24§25§26§27§28§29§30§31§32§33§34§35§ᄀ§ᄂ§ᄃ§ᄅ§ᄆ§ᄇ§ᄉ§ᄋ§ᄌ§ᄎ§ᄏ§ᄐ§ᄑ§ᄒ§가§나§다§라" ++
    "§마§바§사§아§자§차§카§타§파§하"),
  (0x3280, "一§二§三§四§五§六§七§八§九§十§月§火§水§木§金§土§日§株§有§社§名§特§財§祝§労§秘§男§女§適§優§印§注§項§休§写§正§上§中§下§左§右§医§" ++
    "宗§学§監§企§資§協§夜§36§37§38§39§40§41§42§43§44§45§46§47§48§49§50§1月§2月§3月§4月§5月§6月§7月§8月§9月§10月§1" ++
    "1月§12月"),
  (0x32d0, "ア§イ§ウ§エ§オ§カ§キ§ク§ケ§コ§サ§シ§ス§セ§ソ§タ§チ§ツ§テ§ト§ナ§ニ§ヌ§ネ§ノ§ハ§ヒ§フ§ヘ§ホ§マ§ミ§ム§メ§モ§ヤ§ユ§ヨ§ラ§リ§ル§レ§" ++
    "ロ§ワ§ヰ§ヱ§ヲ"),
  (0x3300, "アハ\u309aート§アルファ§アンヘ\u309aア§アール§イニンク\u3099§インチ§ウォン§エスクート\u3099§エーカー§オンス§オーム§カイリ§カラット§" ++
    "カロリー§カ\u3099ロン§カ\u3099ンマ§キ\u3099カ\u3099§キ\u3099ニー§キュリー§キ\u3099ルタ\u3099ー§キロ§キロク\u3099ラム§キロメー" ++
    "トル§キロワット§ク\u3099ラム§ク\u3099ラムトン§クルセ\u3099イロ§クローネ§ケース§コルナ§コーホ\u309a§サイクル§サンチーム§シリンク\u3099§センチ" ++
    "§セント§タ\u3099ース§テ\u3099シ§ト\u3099ル§トン§ナノ§ノット§ハイツ§ハ\u309aーセント§ハ\u309aーツ§ハ\u3099ーレル§ヒ\u309aアストル" ++
    "§ヒ\u309aクル§ヒ\u309aコ§ヒ\u3099ル§ファラット\u3099§フィート§フ\u3099ッシェル§フラン§ヘクタール§ヘ\u309aソ§ヘ\u309aニヒ§ヘルツ§" ++
    "ヘ\u309aンス§ヘ\u309aーシ\u3099§ヘ\u3099ータ§ホ\u309aイント§ホ\u3099ルト§ホン§ホ\u309aント\u3099§ホール§ホーン§マイクロ§マイ" ++
    "ル§マッハ§マルク§マンション§ミクロン§ミリ§ミリハ\u3099ール§メカ\u3099§メカ\u3099トン§メートル§ヤート\u3099§ヤール§ユアン§リットル§リラ§ルヒ" ++
    "\u309aー§ルーフ\u3099ル§レム§レントケ\u3099ン§ワット§0点§1点§2点§3点§4点§5点§6点§7点§8点§9点§10点§11点§12点§13点§14点§15点" ++
    "§16点§17点§18点§19点§20点§21点§22点§23点§24点§hPa§da§AU§bar§oV§pc"),
  (0x337b, "平成§昭和§大正§明治§株式会社§pA§nA§μA§mA§kA§KB§MB§GB§cal§kcal§pF§nF§μF§μg§mg§kg§Hz§kHz§MHz§GHz§T" ++
    "Hz§μl§ml§dl§kl§fm§nm§μm§mm§cm§km§mm2§cm2§m2§km2§mm3§cm3§m3§km3§m∕s§m∕s2§Pa§kPa§MPa§GPa§rad§" ++
    "rad∕s§rad∕s2§ps§ns§μs§ms§pV§nV§μV§mV§kV§MV§pW§nW§μW§mW§kW§MW§kΩ§MΩ§a.m.§Bq§cc§cd§C∕kg§Co.§d" ++
    "B§Gy§ha§HP§in§KK§KM§kt§lm§ln§log§lx§mb§mil§mol§PH§p.m.§PPM§PR§sr§Sv§Wb"),
  (0x33e0, "1日§2日§3日§4日§5日§6日§7日§8日§9日§10日§11日§12日§13日§14日§15日§16日§17日§18日§19日§20日§21日§22日§23日§2" ++
    "4日§25日§26日§27日§28日§29日§30日§31日"),
  (0xf900, "豈§更§車§賈§滑§串§句§龜§龜§契§金§喇§奈§懶§癩§羅§蘿§螺§裸§邏§樂§洛§烙§珞§落§酪§駱§亂§卵§欄§爛§蘭§鸞§嵐§濫§藍§襤§拉§臘§蠟§廊§朗§" ++
    "浪§狼§郎§來§冷§勞§擄§櫓§爐§盧§老§蘆§虜§路§露§魯§鷺§碌§祿§綠§菉§錄§鹿§論§壟§弄§籠§聾§牢§磊§賂§雷§壘§屢§樓§淚§漏§累§縷§陋§勒§肋§凜§凌§稜§綾" ++
    "§菱§陵§讀§拏§樂§諾§丹§寧§怒§率§異§北§磻§便§復§不§泌§數§索§參§塞§省§葉§說§殺§辰§沈§拾§若§掠§略§亮§兩§凉§梁§糧§良§諒§量§勵§呂§女§廬§旅§濾§" ++
    "礪§閭§驪§麗§黎§力§曆§歷§轢§年§憐§戀§撚§漣§煉§璉§秊§練§聯§輦§蓮§連§鍊§列§劣§咽§烈§裂§說§廉§念§捻§殮§簾§獵§令§囹§寧§嶺§怜§玲§瑩§羚§聆§鈴§零" ++
    "§靈§領§例§禮§醴§隸§惡§了§僚§寮§尿§料§樂§燎§療§蓼§遼§龍§暈§阮§劉§杻§柳§流§溜§琉§留§硫§紐§類§六§戮§陸§倫§崙§淪§輪§律§慄§栗§率§隆§利§吏§履§" ++
    "易§李§梨§泥§理§痢§罹§裏§裡§里§離§匿§溺§吝§燐§璘§藺§隣§鱗§麟§林§淋§臨§立§笠§粒§狀§炙§識§什§茶§刺§切§度§拓§糖§宅§洞§暴§輻§行§降§見§廓§兀§嗀"),
  (0xfa10, "塚"),
  (0xfa12, "晴"),
  (0xfa15, "凞§猪§益§礼§神§祥§福§靖§精§羽"),
  (0xfa20, "蘒"),
  (0xfa22, "諸"),
  (0xfa25, "逸§都"),
  (0xfa2a, "飯§飼§館§鶴"),
  (0xfa30, "侮§僧§免§勉§勤§卑§喝§嘆§器§塀§墨§層§屮§悔§慨§憎§懲§敏§既§暑§梅§海§渚§漢§煮§爫§琢§碑§社§祉§祈§祐§祖§祝§禍§禎§穀§突§節§練§縉§繁§" ++
    "署§者§臭§艹§艹§著§褐§視§謁§謹§賓§贈§辶§逸§難§響§頻"),
  (0xfb00, "ff§fi§fl§ffi§ffl§st§st"),
  (0xfb13, "մն§մե§մի§վն§մխ"),
  (0xfb1d, "\u05d9\u05b4"),
  (0xfb1f, "\u05f2\u05b7§\u05e2§\u05d0§\u05d3§\u05d4§\u05db§\u05dc§\u05dd§\u05e8§\u05ea§+§\u05e9" ++
    "\u05c1§\u05e9\u05c2§\u05e9\u05bc\u05c1§\u05e9\u05bc\u05c2§\u05d0\u05b7§\u05d0\u05b8§\u05d0" ++
    "\u05bc§\u05d1\u05bc§\u05d2\u05bc§\u05d3\u05bc§\u05d4\u05bc§\u05d5\u05bc§\u05d6\u05bc"),
  (0xfb38, "\u05d8\u05bc§\u05d9\u05bc§\u05da\u05bc§\u05db\u05bc§\u05dc\u05bc"),
  (0xfb3e, "\u05de\u05bc"),
  (0xfb40, "\u05e0\u05bc§\u05e1\u05bc"),
  (0xfb43, "\u05e3\u05bc§\u05e4\u05bc"),
  (0xfb46, "\u05e6\u05bc§\u05e7\u05bc§\u05e8\u05bc§\u05e9\u05bc§\u05ea\u05bc§\u05d5\u05b9§\u05d1" ++
    "\u05bf§\u05db\u05bf§\u05e4\u05bf§\u05d0\u05dc§\u0671§\u0671§\u067b§\u067b§\u067b§\u067b§" ++
    "\u067e§\u067e§\u067e§\u067e§\u0680§\u0680§\u0680§\u0680§\u067a§\u067a§\u067a§\u067a§\u067f§" ++
    "\u067f§\u067f§\u067f§\u0679§\u0679§\u0679§\u0679§\u06a4§\u06a4§\u06a4§\u06a4§\u06a6§\u06a6§" ++
    "\u06a6§\u06a6§\u0684§\u0684§\u0684§\u0684§\u0683§\u0683§\u0683§\u0683§\u0686§\u0686§\u0686§" ++
    "\u0686§\u0687§\u0687§\u0687§\u0687§\u068d§\u068d§\u068c§\u068c§\u068e§\u068e§\u0688§\u0688§" ++
    "\u0698§\u0698§\u0691§\u0691§\u06a9§\u06a9§\u06a9§\u06a9§\u06af§\u06af§\u06af§\u06af§\u06b3§" ++
    "\u06b3§\u06b3§\u06b3§\u06b1§\u06b1§\u06b1§\u06b1§\u06ba§\u06ba§\u06bb§\u06bb§\u06bb§\u06bb§" ++
    "\u06d5\u0654§\u06d5\u0654§\u06c1§\u06c1§\u06c1§\u06c1§\u06be§\u06be§\u06be§\u06be§\u06d2§" ++
    "\u06d2§\u06d2\u0654§\u06d2\u0654"),
  (0xfbd3, "\u06ad§\u06ad§\u06ad§\u06ad§\u06c7§\u06c7§\u06c6§\u06c6§\u06c8§\u06c8§\u06c7\u0674§" ++
    "\u06cb§\u06cb§\u06c5§\u06c5§\u06c9§\u06c9§\u06d0§\u06d0§\u06d0§\u06d0§\u0649§\u0649§\u064a" ++
    "\u0654\u0627§\u064a\u0654\u0627§\u064a\u0654\u06d5§\u064a\u0654\u06d5§\u064a\u0654\u0648§" ++
    "\u064a\u0654\u0648§\u064a\u0654\u06c7§\u064a\u0654\u06c7§\u064a\u0654\u06c6§\u064a\u0654" ++
    "\u06c6§\u064a\u0654\u06c8§\u064a\u0654\u06c8§\u064a\u0654\u06d0§\u064a\u0654\u06d0§\u064a" ++
    "\u0654\u06d0§\u064a\u0654\u0649§\u064a\u0654\u0649§\u064a\u0654\u0649§\u06cc§\u06cc§\u06cc§" ++
    "\u06cc§\u064a\u0654\u062c§\u064a\u0654\u062d§\u064a\u0654\u0645§\u064a\u0654\u0649§\u064a" ++
    "\u0654\u064a§\u0628\u062c§\u0628\u062d§\u0628\u062e§\u0628\u0645§\u0628\u0649§\u0628\u064a§" ++
    "\u062a\u062c§\u062a\u062d§\u062a\u062e§\u062a\u0645§\u062a\u0649§\u062a\u064a§\u062b\u062c§" ++
    "\u062b\u0645§\u062b\u0649§\u062b\u064a§\u062c\u062d§\u062c\u0645§\u062d\u062c§\u062d\u0645§" ++
    "\u062e\u062c§\u062e\u062d§\u062e\u0645§\u0633\u062c§\u0633\u062d§\u0633\u062e§\u0633\u0645§" ++
    "\u0635\u062d§\u0635\u0645§\u0636\u062c§\u0636\u062d§\u0636\u062e§\u0636\u0645§\u0637\u062d§" ++
    "\u0637\u0645§\u0638\u0645§\u0639\u062c§\u0639\u0645§\u063a\u062c§\u063a\u0645§\u0641\u062c§" ++
    "\u0641\u062d§\u0641\u062e§\u0641\u0645§\u0641\u0649§\u0641\u064a§\u0642\u062d§\u0642\u0645§" ++
    "\u0642\u0649§\u0642\u064a§\u0643\u0627§\u0643\u062c§\u0643\u062d§\u0643\u062e§\u0643\u0644§" ++
    "\u0643\u0645§\u0643\u0649§\u0643\u064a§\u0644\u062c§\u0644\u062d§\u0644\u062e§\u0644\u0645§" ++
    "\u0644\u0649§\u0644\u064a§\u0645\u062c§\u0645\u062d§\u0645\u062e§\u0645\u0645§\u0645\u0649§" ++
    "\u0645\u064a§\u0646\u062c§\u0646\u062d§\u0646\u062e§\u0646\u0645§\u0646\u0649§\u0646\u064a§" ++
    "\u0647\u062c§\u0647\u0645§\u0647\u0649§\u0647\u064a§\u064a\u062c§\u064a\u062d§\u064a\u062e§" ++
    "\u064a\u0645§\u064a\u0649§\u064a\u064a§\u0630\u0670§\u0631\u0670§\u0649\u0670§ \u064c\u0651" ++
    "§ \u064d\u0651§ \u064e\u0651§ \u064f\u0651§ \u0650\u0651§ \u0651\u0670§\u064a\u0654\u0631§" ++
    "\u064a\u0654\u0632§\u064a\u0654\u0645§\u064a\u0654\u0646§\u064a\u0654\u0649§\u064a\u0654" ++
    "\u064a§\u0628\u0631§\u0628\u0632§\u0628\u0645§\u0628\u0646§\u0628\u0649§\u0628\u064a§\u062a" ++
    "\u0631§\u062a\u0632§\u062a\u0645§\u062a\u0646§\u062a\u0649§\u062a\u064a§\u062b\u0631§\u062b" ++
    "\u0632§\u062b\u0645§\u062b\u0646§\u062b\u0649§\u062b\u064a§\u0641\u0649§\u0641\u064a§\u0642" ++
    "\u0649§\u0642\u064a§\u0643\u0627§\u0643\u0644§\u0643\u0645§\u0643\u0649§\u0643\u064a§\u0644" ++
    "\u0645§\u0644\u0649§\u0644\u064a§\u0645\u0627§\u0645\u0645§\u0646\u0631§\u0646\u0632§\u0646" ++
    "\u0645§\u0646\u0646§\u0646\u0649§\u0646\u064a§\u0649\u0670§\u064a\u0631§\u064a\u0632§\u064a" ++
    "\u0645§\u064a\u0646§\u064a\u0649§\u064a\u064a§\u064a\u0654\u062c§\u064a\u0654\u062d§\u064a" ++
    "\u0654\u062e§\u064a\u0654\u0645§\u064a\u0654\u0647§\u0628\u062c§\u0628\u062d§\u0628\u062e§" ++
    "\u0628\u0645§\u0628\u0647§\u062a\u062c§\u062a\u062d§\u062a\u062e§\u062a\u0645§\u062a\u0647§" ++
    "\u062b\u0645§\u062c\u062d§\u062c\u0645§\u062d\u062c§\u062d\u0645§\u062e\u062c§\u062e\u0645§" ++
    "\u0633\u062c§\u0633\u062d§\u0633\u062e§\u0633\u0645§\u0635\u062d§\u0635\u062e§\u0635\u0645§" ++
    "\u0636\u062c§\u0636\u062d§\u0636\u062e§\u0636\u0645§\u0637\u062d§\u0638\u0645§\u0639\u062c§" ++
    "\u0639\u0645§\u063a\u062c§\u063a\u0645§\u0641\u062c§\u0641\u062d§\u0641\u062e§\u0641\u0645§" ++
    "\u0642\u062d§\u0642\u0645§\u0643\u062c§\u0643\u062d§\u0643\u062e§\u0643\u0644§\u0643\u0645§" ++
    "\u0644\u062c§\u0644\u062d§\u0644\u062e§\u0644\u0645§\u0644\u0647§\u0645\u062c§\u0645\u062d§" ++
    "\u0645\u062e§\u0645\u0645§\u0646\u062c§\u0646\u062d§\u0646\u062e§\u0646\u0645§\u0646\u0647§" ++
    "\u0647\u062c§\u0647\u0645§\u0647\u0670§\u064a\u062c§\u064a\u062d§\u064a\u062e§\u064a\u0645§" ++
    "\u064a\u0647§\u064a\u0654\u0645§\u064a\u0654\u0647§\u0628\u0645§\u0628\u0647§\u062a\u0645§" ++
    "\u062a\u0647§\u062b\u0645§\u062b\u0647§\u0633\u0645§\u0633\u0647§\u0634\u0645§\u0634\u0647§" ++
    "\u0643\u0644§\u0643\u0645§\u0644\u0645§\u0646\u0645§\u0646\u0647§\u064a\u0645§\u064a\u0647§" ++
    "\u0640\u064e\u0651§\u0640\u064f\u0651§\u0640\u0650\u0651§\u0637\u0649§\u0637\u064a§\u0639" ++
    "\u0649§\u0639\u064a§\u063a\u0649§\u063a\u064a§\u0633\u0649§\u0633\u064a§\u0634\u0649§\u0634" ++
    "\u064a§\u062d\u0649§\u062d\u064a§\u062c\u0649§\u062c\u064a§\u062e\u0649§\u062e\u064a§\u0635" ++
    "\u0649§\u0635\u064a§\u0636\u0649§\u0636\u064a§\u0634\u062c§\u0634\u062d§\u0634\u062e§\u0634" ++
    "\u0645§\u0634\u0631§\u0633\u0631§\u0635\u0631§\u0636\u0631§\u0637\u0649§\u0637\u064a§\u0639" ++
    "\u0649§\u0639\u064a§\u063a\u0649§\u063a\u064a§\u0633\u0649§\u0633\u064a§\u0634\u0649§\u0634" ++
    "\u064a§\u062d\u0649§\u062d\u064a§\u062c\u0649§\u062c\u064a§\u062e\u0649§\u062e\u064a§\u0635" ++
    "\u0649§\u0635\u064a§\u0636\u0649§\u0636\u064a§\u0634\u062c§\u0634\u062d§\u0634\u062e§\u0634" ++
    "\u0645§\u0634\u0631§\u0633\u0631§\u0635\u0631§\u0636\u0631§\u0634\u062c§\u0634\u062d§\u0634" ++
    "\u062e§\u0634\u0645§\u0633\u0647§\u0634\u0647§\u0637\u0645§\u0633\u062c§\u0633\u062d§\u0633" ++
    "\u062e§\u0634\u062c§\u0634\u062d§\u0634\u062e§\u0637\u0645§\u0638\u0645§\u0627\u064b§\u0627" ++
    "\u064b"),
  (0xfd50, "\u062a\u062c\u0645§\u062a\u062d\u062c§\u062a\u062d\u062c§\u062a\u062d\u0645§\u062a" ++
    "\u062e\u0645§\u062a\u0645\u062c§\u062a\u0645\u062d§\u062a\u0645\u062e§\u062c\u0645\u062d§" ++
    "\u062c\u0645\u062d§\u062d\u0645\u064a§\u062d\u0645\u0649§\u0633\u062d\u062c§\u0633\u062c" ++
    "\u062d§\u0633\u062c\u0649§\u0633\u0645\u062d§\u0633\u0645\u062d§\u0633\u0645\u062c§\u0633" ++
    "\u0645\u0645§\u0633\u0645\u0645§\u0635\u062d\u062d§\u0635\u062d\u062d§\u0635\u0645\u0645§" ++
    "\u0634\u062d\u0645§\u0634\u062d\u0645§\u0634\u062c\u064a§\u0634\u0645\u062e§\u0634\u0645" ++
    "\u062e§\u0634\u0645\u0645§\u0634\u0645\u0645§\u0636\u062d\u0649§\u0636\u062e\u0645§\u0636" ++
    "\u062e\u0645§\u0637\u0645\u062d§\u0637\u0645\u062d§\u0637\u0645\u0645§\u0637\u0645\u064a§" ++
    "\u0639\u062c\u0645§\u0639\u0645\u0645§\u0639\u0645\u0645§\u0639\u0645\u0649§\u063a\u0645" ++
    "\u0645§\u063a\u0645\u064a§\u063a\u0645\u0649§\u0641\u062e\u0645§\u0641\u062e\u0645§\u0642" ++
    "\u0645\u062d§\u0642\u0645\u0645§\u0644\u062d\u0645§\u0644\u062d\u064a§\u0644\u062d\u0649§" ++
    "\u0644\u062c\u062c§\u0644\u062c\u062c§\u0644\u062e\u0645§\u0644\u062e\u0645§\u0644\u0645" ++
    "\u062d§\u0644\u0645\u062d§\u0645\u062d\u062c§\u0645\u062d\u0645§\u0645\u062d\u064a§\u0645" ++
    "\u062c\u062d§\u0645\u062c\u0645§\u0645\u062e\u062c§\u0645\u062e\u0645"),
  (0xfd92, "\u0645\u062c\u062e§\u0647\u0645\u062c§\u0647\u0645\u0645§\u0646\u062d\u0645§\u0646" ++
    "\u062d\u0649§\u0646\u062c\u0645§\u0646\u062c\u0645§\u0646\u062c\u0649§\u0646\u0645\u064a§" ++
    "\u0646\u0645\u0649§\u064a\u0645\u0645§\u064a\u0645\u0645§\u0628\u062e\u064a§\u062a\u062c" ++
    "\u064a§\u062a\u062c\u0649§\u062a\u062e\u064a§\u062a\u062e\u0649§\u062a\u0645\u064a§\u062a" ++
    "\u0645\u0649§\u062c\u0645\u064a§\u062c\u062d\u0649§\u062c\u0645\u0649§\u0633\u062e\u0649§" ++
    "\u0635\u062d\u064a§\u0634\u062d\u064a§\u0636\u062d\u064a§\u0644\u062c\u064a§\u0644\u0645" ++
    "\u064a§\u064a\u062d\u064a§\u064a\u062c\u064a§\u064a\u0645\u064a§\u0645\u0645\u064a§\u0642" ++
    "\u0645\u064a§\u0646\u062d\u064a§\u0642\u0645\u062d§\u0644\u062d\u0645§\u0639\u0645\u064a§" ++
    "\u0643\u0645\u064a§\u0646\u062c\u062d§\u0645\u062e\u064a§\u0644\u062c\u0645§\u0643\u0645" ++
    "\u0645§\u0644\u062c\u0645§\u0646\u062c\u062d§\u062c\u062d\u064a§\u062d\u062c\u064a§\u0645" ++
    "\u062c\u064a§\u0641\u0645\u064a§\u0628\u062d\u064a§\u0643\u0645\u0645§\u0639\u062c\u0645§" ++
    "\u0635\u0645\u0645§\u0633\u062e\u064a§\u0646\u062c\u064a"),
  (0xfdf0, "\u0635\u0644\u06d2§\u0642\u0644\u06d2§\u0627\u0644\u0644\u0647§\u0627\u0643\u0628" ++
    "\u0631§\u0645\u062d\u0645\u062f§\u0635\u0644\u0639\u0645§\u0631\u0633\u0648\u0644§\u0639" ++
    "\u0644\u064a\u0647§\u0648\u0633\u0644\u0645§\u0635\u0644\u0649§\u0635\u0644\u0649 \u0627" ++
    "\u0644\u0644\u0647 \u0639\u0644\u064a\u0647 \u0648\u0633\u0644\u0645§\u062c\u0644 \u062c" ++
    "\u0644\u0627\u0644\u0647§\u0631\u06cc\u0627\u0644"),
  (0xfe30, "..§—§–§_§_§(§)§\x7b§\x7d§〔§〕§【§】§《§》§〈§〉§「§」§『§』"),
  (0xfe49, " \u0305§ \u0305§ \u0305§ \u0305§_§_§_§,§、§."),
  (0xfe54, ";§:§?§!§—§(§)§\x7b§\x7d§〔§〕§#§&§*§+§-§<§>§="),
  (0xfe68, "\\§$§%§@"),
  (0xfe70, " \u064b§\u0640\u064b§ \u064c"),
  (0xfe74, " \u064d"),
  (0xfe76, " \u064e§\u0640\u064e§ \u064f§\u0640\u064f§ \u0650§\u0640\u0650§ \u0651§\u0640\u0651§" ++
    " \u0652§\u0640\u0652§\u0621§\u0627\u0653§\u0627\u0653§\u0627\u0654§\u0627\u0654§\u0648" ++
    "\u0654§\u0648\u0654§\u0627\u0655§\u0627\u0655§\u064a\u0654§\u064a\u0654§\u064a\u0654§\u064a" ++
    "\u0654§\u0627§\u0627§\u0628§\u0628§\u0628§\u0628§\u0629§\u0629§\u062a§\u062a§\u062a§\u062a§" ++
    "\u062b§\u062b§\u062b§\u062b§\u062c§\u062c§\u062c§\u062c§\u062d§\u062d§\u062d§\u062d§\u062e§" ++
    "\u062e§\u062e§\u062e§\u062f§\u062f§\u0630§\u0630§\u0631§\u0631§\u0632§\u0632§\u0633§\u0633§" ++
    "\u0633§\u0633§\u0634§\u0634§\u0634§\u0634§\u0635§\u0635§\u0635§\u0635§\u0636§\u0636§\u0636§" ++
    "\u0636§\u0637§\u0637§\u0637§\u0637§\u0638§\u0638§\u0638§\u0638§\u0639§\u0639§\u0639§\u0639§" ++
    "\u063a§\u063a§\u063a§\u063a§\u0641§\u0641§\u0641§\u0641§\u0642§\u0642§\u0642§\u0642§\u0643§" ++
    "\u0643§\u0643§\u0643§\u0644§\u0644§\u0644§\u0644§\u0645§\u0645§\u0645§\u0645§\u0646§\u0646§" ++
    "\u0646§\u0646§\u0647§\u0647§\u0647§\u0647§\u0648§\u0648§\u0649§\u0649§\u064a§\u064a§\u064a§" ++
    "\u064a§\u0644\u0627\u0653§\u0644\u0627\u0653§\u0644\u0627\u0654§\u0644\u0627\u0654§\u0644" ++
    "\u0627\u0655§\u0644\u0627\u0655§\u0644\u0627§\u0644\u0627"),
  (0xff01, "!§\"§#§$§%§&§'§(§)§*§+§,§-§.§/§0§1§2§3§4§5§6§7§8§9§:§;§<§=§>§?§@§A§B§C§D§E§F§G§H§I§J" ++
    "§K§L§M§N§O§P§Q§R§S§T§U§V§W§X§Y§Z§[§\\§]§^§_§`§a§b§c§d§e§f§g§h§i§j§k§l§m§n§o§p§q§r§s§t§u§v§w" ++
    "§x§y§z§\x7b§|§\x7d§~§⦅§⦆§。§「§」§、§・§ヲ§ァ§ィ§ゥ§ェ§ォ§ャ§ュ§ョ§ッ§ー§ア§イ§ウ§エ§オ§カ§キ§ク§ケ§コ§サ§シ§ス§セ§ソ§タ§チ§" ++
    "ツ§テ§ト§ナ§ニ§ヌ§ネ§ノ§ハ§ヒ§フ§ヘ§ホ§マ§ミ§ム§メ§モ§ヤ§ユ§ヨ§ラ§リ§ル§レ§ロ§ワ§ン§\u3099§\u309a§ᅠ§ᄀ§ᄁ§ᆪ§ᄂ§ᆬ§ᆭ§ᄃ§ᄄ§ᄅ§ᆰ" ++
    "§ᆱ§ᆲ§ᆳ§ᆴ§ᆵ§ᄚ§ᄆ§ᄇ§ᄈ§ᄡ§ᄉ§ᄊ§ᄋ§ᄌ§ᄍ§ᄎ§ᄏ§ᄐ§ᄑ§ᄒ"),
  (0xffc2, "ᅡ§ᅢ§ᅣ§ᅤ§ᅥ§ᅦ"),
  (0xffca, "ᅧ§ᅨ§ᅩ§ᅪ§ᅫ§ᅬ"),
  (0xffd2, "ᅭ§ᅮ§ᅯ§ᅰ§ᅱ§ᅲ"),
  (0xffda, "ᅳ§ᅴ§ᅵ"),
  (0xffe0, "¢§£§¬§ \u0304§¦§¥§₩"),
  (0xffe8, "│§←§↑§→§↓§■§○"),
  (0x1d15e, "𝅗𝅥§𝅘𝅥§𝅘𝅥𝅮§𝅘𝅥𝅯§𝅘𝅥𝅰§𝅘𝅥𝅱§𝅘𝅥𝅲"),
  (0x1d1bb, "𝆹𝅥§𝆺𝅥§𝆹𝅥𝅮§𝆺𝅥𝅮§𝆹𝅥𝅯§𝆺𝅥𝅯"),
  (0x1d400, "A§B§C§D§E§F§G§H§I§J§K§L§M§N§O§P§Q§R§S§T§U§V§W§X§Y§Z§a§b§c§d§e§f§g§h§i§j§k§l§m§n§o§p" ++
    "§q§r§s§t§u§v§w§x§y§z§A§B§C§D§E§F§G§H§I§J§K§L§M§N§O§P§Q§R§S§T§U§V§W§X§Y§Z§a§b§c§d§e§f§g"),
  (0x1d456, "i§j§k§l§m§n§o§p§q§r§s§t§u§v§w§x§y§z§A§B§C§D§E§F§G§H§I§J§K§L§M§N§O§P§Q§R§S§T§U§V§W§X" ++
    "§Y§Z§a§b§c§d§e§f§g§h§i§j§k§l§m§n§o§p§q§r§s§t§u§v§w§x§y§z§A"),
  (0x1d49e, "C§D"),
  (0x1d4a2, "G"),
  (0x1d4a5, "J§K"),
  (0x1d4a9, "N§O§P§Q"),
  (0x1d4ae, "S§T§U§V§W§X§Y§Z§a§b§c§d"),
  (0x1d4bb, "f"),
  (0x1d4bd, "h§i§j§k"),
  (0x1d4c2, "m§n"),
  (0x1d4c5, "p§q§r§s§t§u§v§w§x§y§z§A§B§C§D§E§F§G§H§I§J§K§L§M§N§O§P§Q§R§S§T§U§V§W§X§Y§Z§a§b§c§d§e" ++
    "§f§g§h§i§j§k§l§m§n§o§p§q§r§s§t§u§v§w§x§y§z§A§B"),
  (0x1d507, "D§E§F§G"),
  (0x1d50d, "J§K§L§M§N§O§P§Q"),
  (0x1d516, "S§T§U§V§W§X§Y"),
  (0x1d51e, "a§b§c§d§e§f§g§h§i§j§k§l§m§n§o§p§q§r§s§t§u§v§w§x§y§z§A§B"),
  (0x1d53b, "D§E§F§G"),
  (0x1d540, "I§J§K§L§M"),
  (0x1d546, "O"),
  (0x1d54a, "S§T§U§V§W§X§Y"),
  (0x1d552, "a§b§c§d§e§f§g§h§i§j§k§l§m§n§o§p§q§r§s§t§u§v§w§x§y§z§A§B§C§D§E§F§G§H§I§J§K§L§M§N§O§P" ++
    "§Q§R§S§T§U§V§W§X§Y§Z§a§b§c§d§e§f§g§h§i§j§k§l§m§n§o§p§q§r§s§t§u§v§w§x§y§z§A§B§C§D§E§F§G§H§I§" ++
    "J§K§L§M§N§O§P§Q§R§S§T§U§V§W§X§Y§Z§a§b§c§d§e§f§g§h§i§j§k§l§m§n§o§p§q§r§s§t§u§v§w§x§y§z§A§B§C" ++
    "§D§E§F§G§H§I§J§K§L§M§N§O§P§Q§R§S§T§U§V§W§X§Y§Z§a§b§c§d§e§f§g§h§i§j§k§l§m§n§o§p§q§r§s§t§u§v§" ++
    "w§x§y§z§A§B§C§D§E§F§G§H§I§J§K§L§M§N§O§P§Q§R§S§T§U§V§W§X§Y§Z§a§b§c§d§e§f§g§h§i§j§k§l§m§n§o§p" ++
    "§q§r§s§t§u§v§w§x§y§z§A§B§C§D§E§F§G§H§I§J§K§L§M§N§O§P§Q§R§S§T§U§V§W§X§Y§Z§a§b§c§d§e§f§g§h§i§" ++
    "j§k§l§m§n§o§p§q§r§s§t§u§v§w§x§y§z§A§B§C§D§E§F§G§H§I§J§K§L§M§N§O§P§Q§R§S§T§U§V§W§X§Y§Z§a§b§c" ++
    "§d§e§f§g§h§i§j§k§l§m§n§o§p§q§r§s§t§u§v§w§x§y§z"),
  (0x1d6a8, "Α§Β§Γ§Δ§Ε§Ζ§Η§Θ§Ι§Κ§Λ§Μ§Ν§Ξ§Ο§Π§Ρ§Θ§Σ§Τ§Υ§Φ§Χ§Ψ§Ω§∇§α§β§γ§δ§ε§ζ§η§θ§ι§κ§λ§μ§ν§ξ§ο§π" ++
    "§ρ§ς§σ§τ§υ§φ§χ§ψ§ω§∂§ε§θ§κ§φ§ρ§π§Α§Β§Γ§Δ§Ε§Ζ§Η§Θ§Ι§Κ§Λ§Μ§Ν§Ξ§Ο§Π§Ρ§Θ§Σ§Τ§Υ§Φ§Χ§Ψ§Ω§∇§α§β§γ§" ++
    "δ§ε§ζ§η§θ§ι§κ§λ§μ§ν§ξ§ο§π§ρ§ς§σ§τ§υ§φ§χ§ψ§ω§∂§ε§θ§κ§φ§ρ§π§Α§Β§Γ§Δ§Ε§Ζ§Η§Θ§Ι§Κ§Λ§Μ§Ν§Ξ§Ο§Π§Ρ" ++
    "§Θ§Σ§Τ§Υ§Φ§Χ§Ψ§Ω§∇§α§β§γ§δ§ε§ζ§η§θ§ι§κ§λ§μ§ν§ξ§ο§π§ρ§ς§σ§τ§υ§φ§χ§ψ§ω§∂§ε§θ§κ§φ§ρ§π§Α§Β§Γ§Δ§" ++
    "Ε§Ζ§Η§Θ§Ι§Κ§Λ§Μ§Ν§Ξ§Ο§Π§Ρ§Θ§Σ§Τ§Υ§Φ§Χ§Ψ§Ω§∇§α§β§γ§δ§ε§ζ§η§θ§ι§κ§λ§μ§ν§ξ§ο§π§ρ§ς§σ§τ§υ§φ§χ§ψ" ++
    "§ω§∂§ε§θ§κ§φ§ρ§π§Α§Β§Γ§Δ§Ε§Ζ§Η§Θ§Ι§Κ§Λ§Μ§Ν§Ξ§Ο§Π§Ρ§Θ§Σ§Τ§Υ§Φ§Χ§Ψ§Ω§∇§α§β§γ§δ§ε§ζ§η§θ§ι§κ§λ§" ++
    "μ§ν§ξ§ο§π§ρ§ς§σ§τ§υ§φ§χ§ψ§ω§∂§ε§θ§κ§φ§ρ§π"),
  (0x1d7ce, "0§1§2§3§4§5§6§7§8§9§0§1§2§3§4§5§6§7§8§9§0§1§2§3§4§5§6§7§8§9§0§1§2§3§4§5§6§7§8§9§0§1" ++
    "§2§3§4§5§6§7§8§9"),
  (0x2f800, "丽§丸§乁§𠄢§你§侮§侻§倂§偺§備§僧§像§㒞§𠘺§免§兔§兤§具§𠔜§㒹§內§再§𠕋§冗§冤§仌§冬§况§𩇟§凵§刃§㓟§刻§剆§割§剷§㔕§勇§勉§勤§勺§包" ++
    "§匆§北§卉§卑§博§即§卽§卿§卿§卿§𠨬§灰§及§叟§𠭣§叫§叱§吆§咞§吸§呈§周§咢§哶§唐§啓§啣§善§善§喙§喫§喳§嗂§圖§嘆§圗§噑§噴§切§壮§城§埴§堍§型§堲§" ++
    "報§墬§𡓤§売§壷§夆§多§夢§奢§𡚨§𡛪§姬§娛§娧§姘§婦§㛮§𡍪§嬈§嬾§嬾§𡧈§寃§寘§寧§寳§𡬘§寿§将§弳§尢§㞁§屠§屮§峀§岍§𡷤§嵃§𡷦§嵮§嵫§嵼§巡§巢§㠯§巽" ++
    "§帨§帽§幩§㡢§𢆃§㡼§庰§庳§庶§廊§𪎒§廾§𢌱§𢌱§舁§弢§弢§㣇§𣊸§𦇚§形§彫§㣣§徚§忍§志§忹§悁§㤺§㤜§悔§𢛔§惇§慈§慌§慎§慌§慺§憎§憲§憤§憯§懞§懲§懶§" ++
    "成§戛§扝§抱§拔§捐§𢬌§挽§拼§捨§掃§揤§𢯱§搢§揅§掩§㨮§摩§摾§撝§摷§㩬§敏§敬§𣀊§旣§書§晉§㬙§暑§㬈§㫤§冒§冕§最§暜§肭§䏙§朗§望§朡§杞§杓§𣏃§㭉§柺" ++
    "§枅§桒§梅§𣑭§梎§栟§椔§㮝§楂§榣§槪§檨§𣚣§櫛§㰘§次§𣢧§歔§㱎§歲§殟§殺§殻§𣪍§𡴋§𣫺§汎§𣲼§沿§泍§汧§洖§派§海§流§浩§浸§涅§𣴞§洴§港§湮§㴳§滋§滇§" ++
    "𣻑§淹§潮§𣽞§𣾎§濆§瀹§瀞§瀛§㶖§灊§災§灷§炭§𠔥§煅§𤉣§熜§䎫§爨§爵§牐§𤘈§犀§犕§𤜵§𤠔§獺§王§㺬§玥§㺸§㺸§瑇§瑜§瑱§璅§瓊§㼛§甤§𤰶§甾§𤲒§異§𢆟§瘐" ++
    "§𤾡§𤾸§𥁄§㿼§䀈§直§𥃳§𥃲§𥄙§𥄳§眞§真§真§睊§䀹§瞋§䁆§䂖§𥐝§硎§碌§磌§䃣§𥘦§祖§𥚚§𥛅§福§秫§䄯§穀§穊§穏§𥥼§𥪧§𥪧§窮§䈂§𥮫§篆§築§䈧§𥲀§糒§䊠§" ++
    "糨§糣§紀§𥾆§絣§䌁§緇§縂§繅§䌴§𦈨§𦉇§䍙§𦋙§罺§𦌾§羕§翺§者§𦓚§𦔣§聠§𦖨§聰§𣍟§䏕§育§脃§䐋§脾§媵§𦞧§𦞵§𣎓§𣎜§舁§舄§辞§䑫§芑§芋§芝§劳§花§芳§芽" ++
    "§苦§𦬼§若§茝§荣§莭§茣§莽§菧§著§荓§菊§菌§菜§𦰶§𦵫§𦳕§䔫§蓱§蓳§蔖§𧏊§蕤§𦼬§䕝§䕡§𦾱§𧃒§䕫§虐§虜§虧§虩§蚩§蚈§蜎§蛢§蝹§蜨§蝫§螆§䵗§蟡§蠁§䗹§" ++
    "衠§衣§𧙧§裗§裞§䘵§裺§㒻§𧢮§𧥦§䚾§䛇§誠§諭§變§豕§𧲨§貫§賁§贛§起§𧼯§𠠄§跋§趼§跰§𠣞§軔§輸§𨗒§𨗭§邔§郱§鄑§𨜮§鄛§鈸§鋗§鋘§鉼§鏹§鐕§𨯺§開§䦕§閷" ++
    "§𨵷§䧦§雃§嶲§霣§𩅅§𩈚§䩮§䩶§韠§𩐊§䪲§𩒖§頋§頋§頩§𩖶§飢§䬳§餩§馧§駂§駾§䯎§𩬰§鬒§鱀§鳽§䳎§䳭§鵧§𪃎§䳸§𪄅§𪈎§𪊑§麻§䵖§黹§黾§鼅§鼏§鼖§鼻§𪘀")]

end Stencil.Text.Normal
