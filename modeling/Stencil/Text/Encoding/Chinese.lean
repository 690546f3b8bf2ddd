import Stencil.Text.Encoding.Grid.Big5
import Stencil.Text.Encoding.Grid.Gb2312
import Stencil.Text.Encoding.Grid.Gbk
import Stencil.Text.Encoding.Grid.HongKong
import Stencil.Text.Encoding.Intake

/-! Chinese encodings: GB 2312 and what extends it, GBK and GB 18030, then HZ, which writes GB 2312
in seven bits, and Big5 with its extensions. -/
namespace Stencil.Text.Chinese

def takeGb2312 : Unit → List UInt8 → Intake Unit :=
  Intake.takeAsciiOrPair fun a b => (Grid.gb2312.pair? 0xa1 a b).map ([·])

/-- The unified ideographs of Unicode 1.1 that GB 2312 lacks. -/
def laterIdeographs : Array Char := Grid.gb2312.lacking 0x4e00 20902

/-- The column of a second byte in rows of 190 columns. -/
def column? (b : UInt8) : Option Nat :=
  if 0x40 ≤ b ∧ b < 0x7f then some (b - 0x40).toNat
  else if 0x80 ≤ b ∧ b < 0xff then some (b - 0x41).toNat
  else none

/-- The later ideographs fill the rows before GB 2312 and then what is left to the left of it. -/
def later? (a b : UInt8) : Option Char := do
  let column ← column? b
  if 0x81 ≤ a ∧ a ≤ 0xa0 then laterIdeographs[(a - 0x81).toNat * 190 + column]?
  else if 0xaa ≤ a ∧ column < 96 then laterIdeographs[6080 + (a - 0xaa).toNat * 96 + column]?
  else none

def gbk? (a b : UInt8) : Option Char := do
  let column ← column? b
  Grid.gbkSymbols.char? a.toNat column <|> Grid.gb2312.pair? 0xa1 a b <|> later? a b

def takeGbk : Unit → List UInt8 → Intake Unit :=
  Intake.takeAsciiOrPair fun a b => (gbk? a b).map ([·])

/-- The three areas for private use, two in the right half of what GBK leaves empty and one in the
left. -/
def ownUse? (a b : UInt8) : Option Char := do
  let column ← column? b
  if 0xaa ≤ a ∧ a ≤ 0xaf ∧ 96 ≤ column then
    some (Char.ofNat (0xe000 + (a - 0xaa).toNat * 94 + (column - 96)))
  else if 0xf8 ≤ a ∧ a ≤ 0xfe ∧ 96 ≤ column then
    some (Char.ofNat (0xe234 + (a - 0xf8).toNat * 94 + (column - 96)))
  else if 0xa1 ≤ a ∧ a ≤ 0xa7 ∧ column < 96 then
    some (Char.ofNat (0xe4c6 + (a - 0xa1).toNat * 96 + column))
  else none

/-- The characters below 65536 that no pair stands for, by their numbers. -/
def unpaired : List (Nat × Nat) := [
  (0x80, 0xa3), (0xa5, 0xa6), (0xa9, 0xaf), (0xb2, 0xb6), (0xb8, 0xd6), (0xd8, 0xdf), (0xe2, 0xe7),
  (0xeb, 0xeb), (0xee, 0xf1), (0xf4, 0xf6), (0xf8, 0xf8), (0xfb, 0xfb), (0xfd, 0x100),
  (0x102, 0x112), (0x114, 0x11a), (0x11c, 0x12a), (0x12c, 0x143), (0x145, 0x147), (0x149, 0x14c),
  (0x14e, 0x16a), (0x16c, 0x1cd), (0x1cf, 0x1cf), (0x1d1, 0x1d1), (0x1d3, 0x1d3), (0x1d5, 0x1d5),
  (0x1d7, 0x1d7), (0x1d9, 0x1d9), (0x1db, 0x1db), (0x1dd, 0x1f8), (0x1fa, 0x250), (0x252, 0x260),
  (0x262, 0x2c6), (0x2c8, 0x2c8), (0x2cc, 0x2d8), (0x2da, 0x390), (0x3a2, 0x3a2), (0x3aa, 0x3b0),
  (0x3c2, 0x3c2), (0x3ca, 0x400), (0x402, 0x40f), (0x450, 0x450), (0x452, 0x200f), (0x2011, 0x2012),
  (0x2017, 0x2017), (0x201a, 0x201b), (0x201e, 0x2024), (0x2027, 0x202f), (0x2031, 0x2031),
  (0x2034, 0x2034), (0x2036, 0x203a), (0x203c, 0x20ab), (0x20ad, 0x2102), (0x2104, 0x2104),
  (0x2106, 0x2108), (0x210a, 0x2115), (0x2117, 0x2120), (0x2122, 0x215f), (0x216c, 0x216f),
  (0x217a, 0x218f), (0x2194, 0x2195), (0x219a, 0x2207), (0x2209, 0x220e), (0x2210, 0x2210),
  (0x2212, 0x2214), (0x2216, 0x2219), (0x221b, 0x221c), (0x2221, 0x2222), (0x2224, 0x2224),
  (0x2226, 0x2226), (0x222c, 0x222d), (0x222f, 0x2233), (0x2238, 0x223c), (0x223e, 0x2247),
  (0x2249, 0x224b), (0x224d, 0x2251), (0x2253, 0x225f), (0x2262, 0x2263), (0x2268, 0x226d),
  (0x2270, 0x2294), (0x2296, 0x2298), (0x229a, 0x22a4), (0x22a6, 0x22be), (0x22c0, 0x2311),
  (0x2313, 0x245f), (0x246a, 0x2473), (0x249c, 0x24ff), (0x254c, 0x254f), (0x2574, 0x2580),
  (0x2590, 0x2592), (0x2596, 0x259f), (0x25a2, 0x25b1), (0x25b4, 0x25bb), (0x25be, 0x25c5),
  (0x25c8, 0x25ca), (0x25cc, 0x25cd), (0x25d0, 0x25e1), (0x25e6, 0x2604), (0x2607, 0x2608),
  (0x260a, 0x263f), (0x2641, 0x2641), (0x2643, 0x2e80), (0x2e82, 0x2e83), (0x2e85, 0x2e87),
  (0x2e89, 0x2e8a), (0x2e8d, 0x2e96), (0x2e98, 0x2ea6), (0x2ea8, 0x2ea9), (0x2eab, 0x2ead),
  (0x2eaf, 0x2eb2), (0x2eb4, 0x2eb5), (0x2eb8, 0x2eba), (0x2ebc, 0x2ec9), (0x2ecb, 0x2fef),
  (0x2ffc, 0x2fff), (0x3004, 0x3004), (0x3018, 0x301c), (0x301f, 0x3020), (0x302a, 0x303d),
  (0x303f, 0x3040), (0x3094, 0x309a), (0x309f, 0x30a0), (0x30f7, 0x30fb), (0x30ff, 0x3104),
  (0x312a, 0x321f), (0x322a, 0x3230), (0x3232, 0x32a2), (0x32a4, 0x338d), (0x3390, 0x339b),
  (0x339f, 0x33a0), (0x33a2, 0x33c3), (0x33c5, 0x33cd), (0x33cf, 0x33d0), (0x33d3, 0x33d4),
  (0x33d6, 0x3446), (0x3448, 0x3472), (0x3474, 0x359d), (0x359f, 0x360d), (0x360f, 0x3619),
  (0x361b, 0x3917), (0x3919, 0x396d), (0x396f, 0x39ce), (0x39d1, 0x39de), (0x39e0, 0x3a72),
  (0x3a74, 0x3b4d), (0x3b4f, 0x3c6d), (0x3c6f, 0x3cdf), (0x3ce1, 0x4055), (0x4057, 0x415e),
  (0x4160, 0x4336), (0x4338, 0x43ab), (0x43ad, 0x43b0), (0x43b2, 0x43dc), (0x43de, 0x44d5),
  (0x44d7, 0x464b), (0x464d, 0x4660), (0x4662, 0x4722), (0x4724, 0x4728), (0x472a, 0x477b),
  (0x477d, 0x478c), (0x478e, 0x4946), (0x4948, 0x4979), (0x497b, 0x497c), (0x497e, 0x4981),
  (0x4984, 0x4984), (0x4987, 0x499a), (0x499c, 0x499e), (0x49a0, 0x49b5), (0x49b8, 0x4c76),
  (0x4c78, 0x4c9e), (0x4ca4, 0x4d12), (0x4d1a, 0x4dad), (0x4daf, 0x4dff), (0x9fa6, 0xd7ff),
  (0xe76c, 0xe76c), (0xe7c8, 0xe7c8), (0xe7e7, 0xe7f3), (0xe815, 0xe815), (0xe819, 0xe81d),
  (0xe81f, 0xe825), (0xe827, 0xe82a), (0xe82d, 0xe830), (0xe833, 0xe83a), (0xe83c, 0xe842),
  (0xe844, 0xe853), (0xe856, 0xe863), (0xe865, 0xf92b), (0xf92d, 0xf978), (0xf97a, 0xf994),
  (0xf996, 0xf9e6), (0xf9e8, 0xf9f0), (0xf9f2, 0xfa0b), (0xfa10, 0xfa10), (0xfa12, 0xfa12),
  (0xfa15, 0xfa17), (0xfa19, 0xfa1e), (0xfa22, 0xfa22), (0xfa25, 0xfa26), (0xfa2a, 0xfe2f),
  (0xfe32, 0xfe32), (0xfe45, 0xfe48), (0xfe53, 0xfe53), (0xfe58, 0xfe58), (0xfe67, 0xfe67),
  (0xfe6c, 0xff00), (0xff5f, 0xffdf), (0xffe6, 0xffff)]

/-- The number in a place of a list of ranges. -/
def nth? : List (Nat × Nat) → Nat → Option Nat
  | [], _ => none
  | (low, high) :: ranges, n =>
    if low + n ≤ high then some (low + n) else nth? ranges (low + n - high - 1)

/-- Four bytes count, with ten or 126 values each in turn, the characters that no pair stands for,
and from a first byte of 0x90 on those above 65535. -/
def quadruple? (a b c d : UInt8) : Option Char :=
  if a < 0x81 ∨ 0xfe < a ∨ c < 0x81 ∨ 0xfe < c ∨ d < 0x30 ∨ 0x39 < d then none
  else
    let place := (((a - 0x81).toNat * 10 + (b - 0x30).toNat) * 126 + (c - 0x81).toNat) * 10 +
      (d - 0x30).toNat
    if a < 0x85 then (nth? unpaired place).map Char.ofNat
    else if a < 0x90 then none
    else
      let code := 0x10000 + (place - 15 * 12600)
      if code ≤ 0x10ffff then some (Char.ofNat code) else none

/-- Takes a byte, or a pair, or four bytes, of which the second is a digit. -/
def takeGb18030 (_ : Unit) (bytes : List UInt8) : Intake Unit :=
  match bytes with
  | [] => .noRule
  | a :: rest =>
    if a < 0x80 then .text 1 [Char.ofNat a.toNat] ()
    else
      match rest with
      | [] => .incomplete bytes
      | b :: rest =>
        if 0x30 ≤ b ∧ b ≤ 0x39 then
          match rest with
          | c :: d :: _ =>
            match quadruple? a b c d with
            | some found => .text 4 [found] ()
            | none => .illegal 1
          | _ => .incomplete bytes
        else
          let added := (column? b).bind (Grid.gb18030Added.char? a.toNat)
          match gbk? a b <|> added <|> ownUse? a b with
          | some c => .text 2 [c] ()
          | none => .illegal 1

/-- Takes a byte, or a pair of GB 2312 between braces with tildes in front. A tilde is also in front
of another one and of the end of a line that goes on. -/
def takeHz (inPairs : Bool) (bytes : List UInt8) : Intake Bool :=
  match bytes with
  | [] => .noRule
  | a :: rest =>
    if a = 0x7e then
      match rest with
      | [] => .incomplete bytes
      | b :: _ =>
        if inPairs then if b = 0x7d then .text 2 [] false else .illegal 1
        else if b = 0x7e then .text 2 ['~'] false
        else if b = 0x7b then .text 2 [] true
        else if b = 0x0a then .text 2 [] false
        else .illegal 1
    else if 0x80 ≤ a then .illegal 1
    else if inPairs then
      match rest with
      | [] => .incomplete bytes
      | b :: _ =>
        match Grid.gb2312.pair? 0x21 a b with
        | some c => .text 2 [c] true
        | none => .illegal 1
    else .text 1 [Char.ofNat a.toNat] false

/-- The column of a second byte in rows of 157 columns. -/
def narrowColumn? (b : UInt8) : Option Nat :=
  if 0x40 ≤ b ∧ b < 0x7f then some (b - 0x40).toNat
  else if 0xa1 ≤ b ∧ b < 0xff then some (b - 0x62).toNat
  else none

def big5? (g : Grid) (a b : UInt8) : Option Char := do g.char? a.toNat (← narrowColumn? b)

def takeBig5 : Unit → List UInt8 → Intake Unit :=
  Intake.takeAsciiOrPair fun a b => (big5? Grid.big5 a b).map ([·])

def takeBig5Windows : Unit → List UInt8 → Intake Unit :=
  Intake.takeAsciiOrPair fun a b =>
    (big5? Grid.big5Windows a b <|> big5? Grid.big5 a b).map ([·])

/-- Pairs for a letter and a mark on it. -/
def marked : List ((UInt8 × UInt8) × List Char) := [
  ((0x88, 0x62), ['Ê', '\u0304']), ((0x88, 0x64), ['Ê', '\u030c']),
  ((0x88, 0xa3), ['ê', '\u0304']), ((0x88, 0xa5), ['ê', '\u030c'])]

/-- Whether the supplementary set of Hong Kong has a place of Big5 for itself. -/
def isHongKongs (a b : UInt8) : Bool := 0xc6 ≤ a && a ≤ 0xc8 && !(a = 0xc6 && b < 0xa1)

def hongKong? (a b : UInt8) : Option (List Char) :=
  let standard := if isHongKongs a b then none else big5? Grid.big5 a b
  (standard <|> big5? Grid.hongKong a b).map ([·]) <|> marked.lookup (a, b)

def takeHongKong : Unit → List UInt8 → Intake Unit := Intake.takeAsciiOrPair hongKong?

end Stencil.Text.Chinese
