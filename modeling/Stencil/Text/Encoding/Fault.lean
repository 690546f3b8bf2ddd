import Stencil.Text.Quoted

/-! Faults of encoded texts: what is reported about bytes that do not decode. -/
namespace Stencil.Text

/-- Why a text is not in Punycode. -/
inductive PunycodeFault
  | incomplete
  | noDigit (c : Char)
  /-- A number is past the last one of a character. -/
  | pastLast (code : Nat)
deriving DecidableEq, Repr

/-- Why a label of a host name does not stand for a text. -/
inductive LabelFault
  | punycode (fault : PunycodeFault)
  /-- The text has no letter, or its written form has more than 63. -/
  | size
  /-- The text begins like the written form of another one. -/
  | marked
  | prohibited (c : CodePoint)
  /-- The text has characters that are written from the left and from the right. -/
  | mixed
  /-- A text that is written from the right has another character at one of its ends. -/
  | unbalanced
  /-- The text is written in another way. -/
  | rewritten (label again : List Char)
deriving DecidableEq, Repr

inductive DecodeFault
  /-- The first bytes that the encoding does not admit, from `first` up to but not including `past`,
  and the one that they begin with. -/
  | bytes (encoding : String) (first past : Nat) (byte : UInt8) (reason : String)
  /-- No byte order mark stands in front of a text of a form that asks for one. -/
  | unmarked (form : String)
  | punycode (fault : PunycodeFault)
  | label (fault : LabelFault)
  /-- The encoding admits no text. -/
  | noText
  /-- The encoding does not say what the bytes stand for. -/
  | noRule
deriving DecidableEq, Repr

namespace PunycodeFault

def message : PunycodeFault → Text
  | incomplete => "incomplete punicode string"
  | noDigit c => s!"Invalid extended code point '{c}'"
  | pastLast code => s!"Invalid character U+{String.ofList (Nat.toDigits 16 code)}"

end PunycodeFault

namespace LabelFault

def message : LabelFault → Text
  | punycode fault =>
    "decoding with 'punycode' codec failed (UnicodeError: " ++ fault.message ++ ")"
  | size => "label empty or too long"
  | marked => "Label starts with ACE prefix"
  | prohibited c => "Invalid character " ++ quoted [c]
  | mixed => "Violation of BIDI requirement 2"
  | unbalanced => "Violation of BIDI requirement 3"
  | rewritten label again =>
    let shown (cs : List Char) := quotedBytes (cs.map fun c => UInt8.ofNat c.toNat)
    "('IDNA does not round-trip', " ++ shown label ++ ", " ++ shown again ++ ")"

end LabelFault

namespace DecodeFault

def message : DecodeFault → Text
  | bytes encoding first past byte reason =>
    let place :=
      if past = first + 1 then
        s!"byte 0x{String.ofList (hex 2 byte.toNat)} in position {first}"
      else s!"bytes in position {first}-{past - 1}"
    s!"'{encoding}' codec can't decode {place}: {reason}"
  | unmarked form => s!"{form} stream does not start with BOM"
  | punycode fault => fault.message
  | label fault => fault.message
  | noText => "undefined encoding"
  | noRule => "internal codec error"

end DecodeFault

end Stencil.Text
