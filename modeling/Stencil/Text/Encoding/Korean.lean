import Stencil.Text.Encoding.Grid.KsX1001
import Stencil.Text.Encoding.Intake
import Stencil.Text.Hangul

/-! Korean encodings: the extended Unix code of KS X 1001, code page 949, which adds the syllables
that this set lacks, and Johab, which spells syllables out. -/
namespace Stencil.Text

namespace Korean

/-- The syllables that KS X 1001 lacks. -/
def laterSyllables : Array Char := Grid.ksX1001.lacking Hangul.firstSyllable Hangul.syllables

def standard? (a b : UInt8) : Option (List Char) := (Grid.ksX1001.pair? 0xa1 a b).map ([·])

/-- The number of a consonant in a list, by the byte that stands for it after a mark. -/
def consonant? (cs : List Char) (b : UInt8) : Option Nat := do
  if b < 0xa1 ∨ 0xbe < b then none else cs.idxOf? (Char.ofNat (0x3131 + (b - 0xa1).toNat))

/-- The byte that marks letters, and the one that fills the place of a letter. -/
def letterMark : UInt8 := 0xa4
def filler : UInt8 := 0xd4

/-- A syllable of three letters. -/
def spelled? (lead vowel tail : UInt8) : Option Char := do
  let l ← consonant? Hangul.leads lead
  if vowel < 0xbf ∨ 0xd3 < vowel then none
  let t ← if tail = filler then some 0 else (consonant? Hangul.tails tail).map (· + 1)
  some (Hangul.syllable l (vowel - 0xbf).toNat t)

/-- Takes a byte, or a pair, or the letters of a syllable after a filler, each with a mark. -/
def takeUnix (_ : Unit) (bytes : List UInt8) : Intake Unit :=
  match bytes with
  | a :: b :: rest =>
    if a = letterMark ∧ b = filler then
      match rest with
      | m :: lead :: n :: vowel :: o :: tail :: _ =>
        if m = letterMark ∧ n = letterMark ∧ o = letterMark then
          match spelled? lead vowel tail with
          | some c => .text 8 [c] ()
          | none => .illegal 1
        else .illegal 1
      | _ => .incomplete bytes
    else Intake.takeAsciiOrPair standard? () bytes
  | _ => Intake.takeAsciiOrPair standard? () bytes

/-- The number of a letter among the second bytes of code page 949. -/
def letterColumn? (b : UInt8) : Option Nat :=
  if 0x41 ≤ b ∧ b ≤ 0x5a then some (b - 0x41).toNat
  else if 0x61 ≤ b ∧ b ≤ 0x7a then some ((b - 0x61).toNat + 26)
  else if 0x81 ≤ b ∧ b ≤ 0xfe then some ((b - 0x81).toNat + 52)
  else none

/-- The later syllables fill rows of 178 columns, and of 84 from the byte 0xa1 on. -/
def later? (a b : UInt8) : Option Char := do
  let column ← letterColumn? b
  if a < 0x81 then none
  else if a < 0xa1 then laterSyllables[(a - 0x81).toNat * 178 + column]?
  else if column < 84 then laterSyllables[32 * 178 + (a - 0xa1).toNat * 84 + column]?
  else none

def takeUnified : Unit → List UInt8 → Intake Unit :=
  Intake.takeAsciiOrPair fun a b => standard? a b <|> (later? a b).map ([·])

/-- What five bits of Johab stand for. -/
inductive Letter
  | blank
  | number (n : Nat)

/-- A letter by its five bits: `blank` stands for none, and the others are numbered in runs. -/
def letter? (blank : Nat) (runs : List (Nat × Nat × Nat)) (bits : Nat) : Option Letter :=
  if bits = blank then some .blank
  else
    runs.findSome? fun (first, last, number) =>
      if first ≤ bits ∧ bits ≤ last then some (.number (bits - first + number)) else none

def lead? : Nat → Option Letter := letter? 1 [(2, 20, 0)]

def vowel? : Nat → Option Letter := letter? 2 [(3, 7, 0), (10, 15, 5), (18, 23, 11), (26, 29, 17)]

def tail? : Nat → Option Letter := letter? 1 [(2, 17, 1), (19, 29, 17)]

/-- Three letters of five bits each: a syllable, or a single letter, or a space. -/
def johabSyllable? (a b : UInt8) : Option Char := do
  let bits := a.toNat * 256 + b.toNat
  match ← lead? (bits / 1024 % 32), ← vowel? (bits / 32 % 32), ← tail? (bits % 32) with
  | .number l, .number v, .number t => some (Hangul.syllable l v t)
  | .number l, .number v, .blank => some (Hangul.syllable l v 0)
  | .number l, .blank, .blank => Hangul.leads[l]?
  | .blank, .number v, .blank => Hangul.vowels[v]?
  | .blank, .blank, .number t => Hangul.tails[t - 1]?
  | .blank, .blank, .blank => some '\u3000'
  | _, _, _ => none

/-- A pair of Johab for what is no syllable. -/
def johabOther? (a b : UInt8) : Option Char :=
  if a = 0xd8 ∨ a = 0xdf ∨ 0xf9 < a ∨ b < 0x31 ∨ (0x80 ≤ b ∧ b < 0x91) ∨ b = 0x7f ∨
      b = 0xff ∨ (a = 0xda ∧ 0xa1 ≤ b ∧ b ≤ 0xd3) then none
  else
    let double := if a < 0xe0 then 2 * (a.toNat - 0xd9) else 2 * a.toNat - 0x197
    let column := if b < 0x91 then (b - 0x31).toNat else (b - 0x43).toNat
    Grid.ksX1001.char? (double + column / 94 + 1) (column % 94)

def takeJohab : Unit → List UInt8 → Intake Unit :=
  Intake.takeAsciiOrPair fun a b =>
    (if a < 0xd8 then johabSyllable? a b else johabOther? a b).map ([·])

end Korean

end Stencil.Text
