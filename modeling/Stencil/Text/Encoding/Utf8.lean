import Stencil.Text.Encoding.Fault

/-! UTF-8: a lead byte says how many bytes make up its character, and the bytes after it carry six
bits each. -/
namespace Stencil.Text

def isContinuation (b : UInt8) : Bool := 0x80 ≤ b && b < 0xc0

/-- The least and the greatest byte that may follow a lead byte of more than two bytes, so that no
character has a longer form than it needs, none is a surrogate, and none is past the last one. -/
def secondRange (lead : UInt8) : UInt8 × UInt8 :=
  if lead = 0xe0 then (0xa0, 0xbf)
  else if lead = 0xed then (0x80, 0x9f)
  else if lead = 0xf0 then (0x90, 0xbf)
  else if lead = 0xf4 then (0x80, 0x8f)
  else (0x80, 0xbf)

def isSecond (lead b : UInt8) : Bool := (secondRange lead).1 ≤ b && b ≤ (secondRange lead).2

/-- How many bytes a lead byte announces, itself included. -/
def announced? (lead : UInt8) : Option Nat :=
  if lead < 0x80 then some 1
  else if lead < 0xc2 then none
  else if lead < 0xe0 then some 2
  else if lead < 0xf0 then some 3
  else if lead < 0xf5 then some 4
  else none

/-- How many of the bytes after a lead byte carry on its character. -/
def carried (lead : UInt8) (size : Nat) (rest : List UInt8) : Nat :=
  match rest with
  | [] => 0
  | b :: rest =>
    if isSecond lead b then 1 + ((rest.take (size - 2)).takeWhile isContinuation).length else 0

/-- The character that well-formed bytes stand for: seven, five, four or three bits of the lead byte
and six of each other. -/
def charOfBytes (lead : UInt8) (size : Nat) (rest : List UInt8) : Char :=
  let bits := if size = 1 then lead.toNat else lead.toNat % Nat.pow 2 (7 - size)
  Char.ofNat ((rest.take (size - 1)).foldl (fun n b => n * 64 + b.toNat % 64) bits)

/-- Decodes UTF-8, `offset` being the number of bytes before these and `skip` the number of bytes at
their front that belong to the character read last. -/
def decodeUtf8 (offset : Nat) : (skip : Nat) → List UInt8 → Except DecodeFault (List Char)
  | _, [] => .ok []
  | skip + 1, _ :: rest => decodeUtf8 (offset + 1) skip rest
  | 0, lead :: rest =>
    match announced? lead with
    | none => .error (.bytes "utf-8" offset (offset + 1) lead "invalid start byte")
    | some size =>
      let found := if size = 1 then 0 else carried lead size rest
      if found + 1 = size then
        (decodeUtf8 (offset + 1) (size - 1) rest).map (charOfBytes lead size rest :: ·)
      else if found = rest.length then
        .error (.bytes "utf-8" offset (offset + 1 + found) lead "unexpected end of data")
      else .error (.bytes "utf-8" offset (offset + 1 + found) lead "invalid continuation byte")

end Stencil.Text
