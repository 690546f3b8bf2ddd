import Stencil.Text.Encoding.Intake
import Stencil.Text.Name

/-! Texts in which a backslash begins an escape and any other byte stands for the character of its
number. In the raw form there are no escapes but those that give a number in hexadecimal. -/
namespace Stencil.Text.Escaped

def hexDigit? (b : UInt8) : Option Nat :=
  if 0x30 ≤ b ∧ b ≤ 0x39 then some (b - 0x30).toNat
  else if 0x41 ≤ b ∧ b ≤ 0x46 then some ((b - 0x41).toNat + 10)
  else if 0x61 ≤ b ∧ b ≤ 0x66 then some ((b - 0x61).toNat + 10)
  else none

/-- The hexadecimal digits in front of bytes, `count` at most. -/
def hexDigits : (count : Nat) → List UInt8 → List Nat
  | count + 1, b :: bytes =>
    match hexDigit? b with
    | some d => d :: hexDigits count bytes
    | none => []
  | _, _ => []

/-- The kinds of escapes that give a number, by the letter behind the backslash. -/
inductive Width
  | x
  | u
  | wide
deriving DecidableEq, Repr

namespace Width

def digits : Width → Nat
  | x => 2
  | u => 4
  | wide => 8

def pattern : Width → String
  | x => "\\xXX"
  | u => "\\uXXXX"
  | wide => "\\UXXXXXXXX"

end Width

/-- Takes an escape, behind the letter of which the bytes are. -/
def takeNumber (width : Width) (tooLarge : String) (bytes : List UInt8) : Intake Unit :=
  let ds := hexDigits width.digits bytes
  let code := ds.foldl (16 * · + ·) 0
  if ds.length < width.digits then .fault (2 + ds.length) s!"truncated {width.pattern} escape"
  else if 0x10ffff < code then .fault (2 + ds.length) tooLarge
  else .text (2 + ds.length) [.ofCode code] ()

/-- A letter or a mark that stands for one character behind a backslash. -/
def single? (b : UInt8) : Option Char :=
  ([('\\', '\\'), ('\x27', '\x27'), ('"', '"'), ('a', '\x07'), ('b', '\x08'), ('t', '\t'),
    ('n', '\n'), ('v', '\x0b'), ('f', '\x0c'), ('r', '\r')]).lookup (Char.ofNat b.toNat)

def isOctal (b : UInt8) : Bool := 0x30 ≤ b && b ≤ 0x37

/-- Takes the name of a character in braces. -/
def takeName (bytes : List UInt8) : Intake Unit :=
  let malformed (size : Nat) : Intake Unit := .fault size "malformed \\N character escape"
  match bytes with
  | [] => malformed 2
  | b :: rest =>
    if b ≠ 0x7b then malformed 2
    else
      let name := rest.takeWhile (· ≠ 0x7d)
      if name.length = rest.length then malformed (3 + rest.length)
      else if name = [] then malformed 3
      else
        match named? (name.map fun b => Char.ofNat b.toNat) with
        | some c => .text (4 + name.length) [c] ()
        | none => .fault (4 + name.length) "unknown Unicode character name"

/-- Takes a byte or an escape. A backslash at the end of a line takes the end away, and one that
begins no escape stays. -/
def take (_ : Unit) (bytes : List UInt8) : Intake Unit :=
  let tooLarge := "illegal Unicode character"
  match bytes with
  | [] => .noRule
  | 0x5c :: [] => .fault 1 "\\ at end of string"
  | 0x5c :: b :: rest =>
    if b = 0x0a then .text 2 [] ()
    else if isOctal b then
      let ds := b :: (rest.take 2).takeWhile isOctal
      .text (1 + ds.length) [Char.ofNat (ds.foldl (fun n d => 8 * n + (d - 0x30).toNat) 0)] ()
    else if b = 0x78 then takeNumber .x tooLarge rest
    else if b = 0x75 then takeNumber .u tooLarge rest
    else if b = 0x55 then takeNumber .wide tooLarge rest
    else if b = 0x4e then takeName rest
    else
      match single? b with
      | some c => .text 2 [c] ()
      | none => .text 2 ['\\', Char.ofNat b.toNat] ()
  | b :: _ => .text 1 [Char.ofNat b.toNat] ()

/-- Takes a byte or an escape. Any byte behind a backslash goes with it. -/
def takeRaw (_ : Unit) (bytes : List UInt8) : Intake Unit :=
  let tooLarge := "\\Uxxxxxxxx out of range"
  match bytes with
  | [] => .noRule
  | 0x5c :: b :: rest =>
    if b = 0x75 then takeNumber .u tooLarge rest
    else if b = 0x55 then takeNumber .wide tooLarge rest
    else .text 2 ['\\', Char.ofNat b.toNat] ()
  | b :: _ => .text 1 [Char.ofNat b.toNat] ()

def decode : List UInt8 → Except DecodeFault Text :=
  Intake.decode "unicodeescape" take () 0

def decodeRaw : List UInt8 → Except DecodeFault Text :=
  Intake.decode "rawunicodeescape" takeRaw () 0

end Stencil.Text.Escaped
