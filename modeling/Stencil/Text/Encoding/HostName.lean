import Stencil.Text.Direction
import Stencil.Text.Encoding.Punycode
import Stencil.Text.Fold
import Stencil.Text.Normal

/-! Names of hosts in all scripts. A label of such a name is written in ASCII: behind a mark comes
Punycode of it. The text that a label stands for is one that is written as this label again. -/
namespace Stencil.Text.HostName

/-- Characters that have no effect on how a label is written. -/
def droppedRanges : List (Nat × Nat) := [
  (0xad, 0xad), (0x34f, 0x34f), (0x1806, 0x1806), (0x180b, 0x180d), (0x200b, 0x200d),
  (0x2060, 0x2060), (0xfe00, 0xfe0f), (0xfeff, 0xfeff)]

/-- Code points that are in no label: blanks, controls, surrogates, private ones and the like. -/
def prohibitedRanges : List (Nat × Nat) := [
  (0x80, 0xa0), (0x340, 0x341), (0x6dd, 0x6dd), (0x70f, 0x70f), (0x1680, 0x1680), (0x180e, 0x180e),
  (0x2000, 0x200f), (0x2028, 0x202f), (0x205f, 0x2063), (0x206a, 0x206f), (0x2ff0, 0x2ffb),
  (0x3000, 0x3000), (0xd800, 0xf8ff), (0xfdd0, 0xfdef), (0xfeff, 0xfeff), (0xfff9, 0xffff),
  (0x1d173, 0x1d17a), (0x1fffe, 0x1ffff), (0x2fffe, 0x2ffff), (0x3fffe, 0x3ffff),
  (0x4fffe, 0x4ffff), (0x5fffe, 0x5ffff), (0x6fffe, 0x6ffff), (0x7fffe, 0x7ffff),
  (0x8fffe, 0x8ffff), (0x9fffe, 0x9ffff), (0xafffe, 0xaffff), (0xbfffe, 0xbffff),
  (0xcfffe, 0xcffff), (0xdfffe, 0xdffff), (0xe0001, 0xe0001), (0xe0020, 0xe007f),
  (0xefffe, 0x10ffff)]

/-- The form of a label that is written. A surrogate keeps the characters on its sides apart. -/
def prepared (text : Text) : Except LabelFault (List Char) :=
  let text := text.mapRuns fun cs =>
    normal ((cs.filter fun c => !covers droppedRanges c.toNat).flatMap fold)
  match text.find? fun c => covers prohibitedRanges c.code with
  | some c => .error (.prohibited c)
  | none =>
    let cs := text.filterMap CodePoint.char?
    if !cs.any isLeftward then .ok cs
    else if cs.any isRightward then .error .mixed
    else if cs.head?.all isLeftward && cs.getLast?.all isLeftward then .ok cs
    else .error .unbalanced

def isAscii (cs : List Char) : Bool := cs.all (·.toNat < 0x80)

/-- What is in front of Punycode. -/
def mark : List Char := "xn--".toList

/-- A written label has from 1 to 63 characters. -/
def sized (label : List Char) : Except LabelFault (List Char) :=
  if 0 < label.length ∧ label.length < 64 then .ok label else .error .size

/-- The label of a text. -/
def write (text : Text) : Except LabelFault (List Char) :=
  match text.chars?.filter isAscii with
  | some cs => sized cs
  | none => do
    let cs ← prepared text
    if isAscii cs then sized cs
    else if mark.isPrefixOf cs then .error .marked
    else sized (mark ++ Punycode.write cs)

/-- The text of a label. -/
def read (label : List Char) : Except LabelFault Text :=
  match mark.isPrefixOf? label with
  | none => .ok (.ofChars label)
  | some rest => do
    let text ← (Punycode.read rest).mapError .punycode
    let again ← write text
    if label.map Char.toLower = again then .ok text
    else .error (.rewritten label again)

/-- Decodes labels with dots in between. -/
def decode (bytes : List UInt8) : Except DecodeFault Text := do
  let cs ← decodeAscii 0 bytes
  let texts ← ((cs.splitOn '.').mapM read).mapError .label
  return ("." : Text).intercalate texts

end Stencil.Text.HostName
