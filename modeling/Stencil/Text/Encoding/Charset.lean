import Stencil.Text.Encoding.Fault

/-! Character sets of at most 256 characters, of which each byte stands for one. -/
namespace Stencil.Text

/-- A character set with the names it goes by. The last bytes stand for the characters of `upper`,
in order, and the bytes in front of these for the characters of the same number. -/
structure Charset where
  name : String
  others : List String
  upper : String
deriving DecidableEq, Repr

namespace Charset

/-- Stands in a character set where a byte has no character. -/
def hole : Char := '\ufffd'

def charAt (upper : Array Char) (b : UInt8) : Char :=
  let first := 256 - upper.size
  if b.toNat < first then Char.ofNat b.toNat else upper.getD (b.toNat - first) hole

/-- Decodes bytes with `offset` more in front of them. -/
def decodeFrom (upper : Array Char) (offset : Nat) : List UInt8 → Except DecodeFault (List Char)
  | [] => .ok []
  | b :: rest =>
    if charAt upper b = hole then
      .error (.bytes "charmap" offset (offset + 1) b "character maps to <undefined>")
    else (decodeFrom upper (offset + 1) rest).map (charAt upper b :: ·)

def decode (s : Charset) (bytes : List UInt8) : Except DecodeFault (List Char) :=
  decodeFrom s.upper.toList.toArray 0 bytes

end Charset

def decodeAscii (offset : Nat) : List UInt8 → Except DecodeFault (List Char)
  | [] => .ok []
  | b :: rest =>
    if b < 0x80 then (decodeAscii (offset + 1) rest).map (Char.ofNat b.toNat :: ·)
    else .error (.bytes "ascii" offset (offset + 1) b "ordinal not in range(128)")

end Stencil.Text
