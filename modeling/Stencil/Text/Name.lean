import Stencil.Text.Hangul
import Stencil.Text.Name.Ancient
import Stencil.Text.Name.Figures
import Stencil.Text.Name.Forms
import Stencil.Text.Name.Letters
import Stencil.Text.Name.Others
import Stencil.Text.Name.Signs
import Stencil.Text.Ranges

/-! Names of the characters of Unicode 14.0. Most are listed; those of ideographs and the like end
with the number of the character, and those of Hangul syllables spell them. -/
namespace Stencil.Text.Name

def runs : List (List Run) := [letters, signs, forms, ancient, figures]

/-- The value of a hexadecimal numeral without small letters. -/
def number? (cs : List Char) : Option Nat :=
  cs.foldlM (fun n c =>
    if c.isDigit then some (16 * n + (c.toNat - '0'.toNat))
    else if 'A' ≤ c ∧ c ≤ 'F' then some (16 * n + (c.toNat - 'A'.toNat + 10))
    else none) 0

/-- The unified ideographs. -/
def ideographs : List (Nat × Nat) := [
  (0x3400, 0x4dbf), (0x4e00, 0x9fff), (0x20000, 0x2a6df), (0x2a700, 0x2b738), (0x2b740, 0x2b81d),
  (0x2b820, 0x2cea1), (0x2ceb0, 0x2ebe0), (0x30000, 0x3134a)]

/-- Other characters with the names that stand in front of their numbers. -/
def numbered : List (String × List (Nat × Nat)) := [
  ("CJK COMPATIBILITY IDEOGRAPH-", [(0xf900, 0xfa6d), (0xfa70, 0xfad9), (0x2f800, 0x2fa1d)]),
  ("KHITAN SMALL SCRIPT CHARACTER-", [(0x18b00, 0x18cd5)]),
  ("NUSHU CHARACTER-", [(0x1b170, 0x1b2fb)])]

/-- The number of a unified ideograph, written with four or five digits. -/
def ideograph? (digits : List Char) : Option Nat := do
  let code ← number? digits
  if (digits.length = 4 ∨ digits.length = 5) ∧ covers ideographs code then some code else none

/-- The number of another character, written with as many digits as it needs. -/
def numbered? (name : List Char) : Option Nat :=
  numbered.findSome? fun (front, ranges) => do
    let digits ← front.toList.isPrefixOf? name
    let code ← number? digits
    if digits.head? ≠ some '0' ∧ covers ranges code then some code else none

/-- The spellings of the letters of a syllable: leads, vowels and tails, the first tail being
none. -/
def leads : List String :=
  ["G", "GG", "N", "D", "DD", "R", "M", "B", "BB", "S", "SS", "", "J", "JJ", "C", "K", "T", "P",
    "H"]

def vowels : List String :=
  ["A", "AE", "YA", "YAE", "EO", "E", "YEO", "YE", "O", "WA", "WAE", "OE", "YO", "U", "WEO", "WE",
    "WI", "YU", "EU", "YI", "I"]

def tails : List String :=
  ["", "G", "GG", "GS", "N", "NJ", "NH", "D", "L", "LG", "LM", "LB", "LS", "LT", "LP", "LH", "M",
    "B", "BS", "S", "SS", "NG", "J", "C", "K", "T", "P", "H"]

/-- The longest spelling in front of a text: its number and what follows it. -/
def longest? (spellings : List String) (cs : List Char) : Option (Nat × List Char) :=
  spellings.zipIdx.foldl (fun best (spelling, n) =>
    match spelling.toList.isPrefixOf? cs with
    | none => best
    | some rest =>
      if best.all fun (_, other) => rest.length < other.length then some (n, rest) else best) none

def syllable? (cs : List Char) : Option Nat := do
  let (lead, cs) ← longest? leads cs
  let (vowel, cs) ← longest? vowels cs
  let (tail, cs) ← longest? tails cs
  if cs = [] then some (Hangul.syllable lead vowel tail).toNat else none

/-- The number of the character that goes by a name. Small letters are as good as capitals, except
in the names of syllables and of unified ideographs. -/
def code? (name : List Char) : Option Nat :=
  match "HANGUL SYLLABLE ".toList.isPrefixOf? name with
  | some spelling => syllable? spelling
  | none =>
    match "CJK UNIFIED IDEOGRAPH-".toList.isPrefixOf? name with
    | some digits => ideograph? digits
    | none =>
      let name := name.map Char.toUpper
      runs.findSome? (·.findSome? (·.code? name)) <|> numbered? name <|>
        others.lookup (String.ofList name)

end Stencil.Text.Name

namespace Stencil.Text

def named? (name : List Char) : Option Char := (Name.code? name).map Char.ofNat

end Stencil.Text
