import Stencil.Text.Encoding.Fault

/-! UTF-16 and UTF-32: units of two and of four bytes in either order. A character past the first
65536 takes two units of UTF-16, a high and a low surrogate; no other unit may be a surrogate. -/
namespace Stencil.Text

inductive ByteOrder
  | little
  | big
deriving DecidableEq, Repr

namespace ByteOrder

def number (order : ByteOrder) (bytes : List UInt8) : Nat :=
  let bytes := match order with
    | little => bytes.reverse
    | big => bytes
  bytes.foldl (fun n b => 256 * n + b.toNat) 0

def suffix : ByteOrder → String
  | little => "le"
  | big => "be"

end ByteOrder

def isHighSurrogate (unit : Nat) : Bool := 0xd800 ≤ unit && unit < 0xdc00

def isLowSurrogate (unit : Nat) : Bool := 0xdc00 ≤ unit && unit < 0xe000

/-- The character of a high and a low surrogate, which give ten bits each. -/
def joinSurrogates (high low : Nat) : Char :=
  Char.ofNat (0x10000 + (high - 0xd800) * 0x400 + (low - 0xdc00))

/-- Decodes UTF-16, `offset` being the number of bytes before these. -/
def decodeUtf16 (order : ByteOrder) (offset : Nat) (bytes : List UInt8) :
    Except DecodeFault (List Char) :=
  let fault past first reason := .error (.bytes s!"utf-16-{order.suffix}" offset past first reason)
  match bytes with
  | [] => .ok []
  | [a] => fault (offset + 1) a "truncated data"
  | a :: b :: rest =>
    let unit := order.number [a, b]
    if isHighSurrogate unit then
      match rest with
      | c :: d :: rest =>
        let low := order.number [c, d]
        if isLowSurrogate low then
          (decodeUtf16 order (offset + 4) rest).map (joinSurrogates unit low :: ·)
        else fault (offset + 2) a "illegal UTF-16 surrogate"
      | rest => fault (offset + 2 + rest.length) a "unexpected end of data"
    else if isLowSurrogate unit then fault (offset + 2) a "illegal encoding"
    else (decodeUtf16 order (offset + 2) rest).map (Char.ofNat unit :: ·)
termination_by bytes.length

/-- Decodes UTF-32, `offset` being the number of bytes before these. -/
def decodeUtf32 (order : ByteOrder) (offset : Nat) (bytes : List UInt8) :
    Except DecodeFault (List Char) :=
  let fault past first reason := .error (.bytes s!"utf-32-{order.suffix}" offset past first reason)
  match bytes with
  | [] => .ok []
  | a :: b :: c :: d :: rest =>
    let code := order.number [a, b, c, d]
    if 0x110000 ≤ code then fault (offset + 4) a "code point not in range(0x110000)"
    else if isHighSurrogate code || isLowSurrogate code then
      fault (offset + 4) a "code point in surrogate code point range(0xd800, 0xe000)"
    else (decodeUtf32 order (offset + 4) rest).map (Char.ofNat code :: ·)
  | a :: rest => fault (offset + 1 + rest.length) a "truncated data"

end Stencil.Text
