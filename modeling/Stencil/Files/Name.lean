import Stencil.Text
import Stencil.Text.Encoding.Utf8

/-! Names of files. On disk a name is a row of bytes, and a text gives them in UTF-8. A byte that is
no part of a character is written as one of the last 128 surrogates; the other surrogates are in no
name. -/
namespace Stencil

abbrev FileName := List UInt8

namespace FileName

/-- The name of the directory above. -/
def up : FileName := [0x2e, 0x2e]

/-- By how much the surrogate that stands for a byte is greater than the byte. -/
def strayOffset : Nat := 0xdc00

def bytesOf? : CodePoint → Option (List UInt8)
  | .char c => some (String.utf8EncodeChar c)
  | .surrogate place =>
    let n := (CodePoint.surrogate place).code - strayOffset
    if 0x80 ≤ n ∧ n < 0x100 then some [UInt8.ofNat n] else none

/-- The bytes that a text gives. -/
def ofText? (t : Text) : Option FileName := (t.mapM bytesOf?).map List.flatten

/-- The text of bytes, the first `skip` of which belong to the character read last. -/
def textFrom : (skip : Nat) → List UInt8 → Text
  | _, [] => []
  | skip + 1, _ :: rest => textFrom skip rest
  | 0, lead :: rest =>
    let size := (Text.announced? lead).filter fun size =>
      size = 1 || Text.carried lead size rest + 1 = size
    match size with
    | some size => .char (Text.charOfBytes lead size rest) :: textFrom (size - 1) rest
    | none => .ofCode (strayOffset + lead.toNat) :: textFrom 0 rest

def toText (name : FileName) : Text := textFrom 0 name

end FileName

end Stencil
