import Stencil.Text.Encoding.Intake
import Stencil.Text.Encoding.Wide

/-! UTF-7, which writes characters outside of ASCII as units of sixteen bits in runs of digits of
six bits each. A plus sign begins a run and the first byte that is no digit ends it. -/
namespace Stencil.Text.Utf7

/-- The value of a digit: letters of both cases, the ten digits, the plus sign and the slash. -/
def digit? (b : UInt8) : Option Nat :=
  if 0x41 ≤ b ∧ b ≤ 0x5a then some (b - 0x41).toNat
  else if 0x61 ≤ b ∧ b ≤ 0x7a then some ((b - 0x61).toNat + 26)
  else if 0x30 ≤ b ∧ b ≤ 0x39 then some ((b - 0x30).toNat + 52)
  else if b = 0x2b then some 62
  else if b = 0x2f then some 63
  else none

/-- The digits in front of bytes. -/
def run : List UInt8 → List Nat
  | [] => []
  | b :: bytes =>
    match digit? b with
    | some d => d :: run bytes
    | none => []

/-- The units that digits make up, and how many bits are left over with what they are, there being
`size` bits of the number `bits` already. -/
def units : (size bits : Nat) → List Nat → List Nat × Nat × Nat
  | size, bits, [] => ([], size, bits)
  | size, bits, d :: ds =>
    let bits := bits * 64 + d
    if 10 ≤ size then
      let rest := Nat.pow 2 (size - 10)
      let (us, left) := units (size - 10) (bits % rest) ds
      (bits / rest :: us, left)
    else units (size + 6) bits ds

/-- The text of units. A high and a low surrogate after it are one character together. -/
def textOf : List Nat → Text
  | [] => []
  | [u] => [.ofCode u]
  | u :: v :: us =>
    if isHighSurrogate u && isLowSurrogate v then joinSurrogates u v :: textOf us
    else .ofCode u :: textOf (v :: us)

/-- Takes a run of at least one digit after a plus sign. What is left over of its bits, less than a
digit, is zero, and a hyphen after it belongs to it. -/
def takeRun (bytes : List UInt8) : Intake Unit :=
  let digits := run bytes
  let size := digits.length + 1
  let (us, left, rest) := units 0 0 digits
  let halved := us.getLast?.any isHighSurrogate
  match bytes.drop digits.length with
  | [] =>
    if halved ∨ 6 ≤ left ∨ rest ≠ 0 then .fault size "unterminated shift sequence"
    else .text size (textOf us) ()
  | b :: _ =>
    if 6 ≤ left then .fault (size + 1) "partial character in shift sequence"
    else if rest ≠ 0 then .fault (size + 1) "non-zero padding bits in shift sequence"
    else .text (if b = 0x2d then size + 1 else size) (textOf us) ()

def take (_ : Unit) (bytes : List UInt8) : Intake Unit :=
  match bytes with
  | [] => .noRule
  | a :: rest =>
    if a = 0x2b then
      match rest with
      | [] => .text 1 [] ()
      | b :: _ =>
        if b = 0x2d then .text 2 ['+'] ()
        else if (digit? b).isNone then .fault 2 "ill-formed sequence"
        else takeRun rest
    else if a < 0x80 then .text 1 [Char.ofNat a.toNat] ()
    else .fault 1 "unexpected special character"

def decode : List UInt8 → Except DecodeFault Text := Intake.decode "utf7" take () 0

end Stencil.Text.Utf7
