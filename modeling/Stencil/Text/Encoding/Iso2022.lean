import Stencil.Text.Encoding.Grid.Gb2312
import Stencil.Text.Encoding.Grid.KsX1001
import Stencil.Text.Encoding.Japanese

/-! ISO 2022: escapes designate character sets, of which the bytes that follow name the characters.
The variants of it differ in the sets that may be designated and in how these are called in. -/
namespace Stencil.Text.Iso2022

inductive CodeSet
  | ascii
  | jisRoman
  | jisKatakana
  | jisX0208
  | jisX0212
  | jisFirst (late : Bool)
  | jisSecond
  | gb2312
  | ksX1001
  | latin
  | greek
deriving DecidableEq, Repr

/-- How a set is designated: by the last byte of the escape, and by a dollar sign in it for a set of
pairs. -/
structure Designation where
  pairs : Bool
  final : Char
deriving DecidableEq, Repr

inductive Variant
  | jp
  | jp1
  | jp2
  | jp3
  | jp2004
  | jpExt
  | kr
deriving DecidableEq, Repr

namespace Variant

def name : Variant → String
  | jp => "iso2022_jp"
  | jp1 => "iso2022_jp_1"
  | jp2 => "iso2022_jp_2"
  | jp3 => "iso2022_jp_3"
  | jp2004 => "iso2022_jp_2004"
  | jpExt => "iso2022_jp_ext"
  | kr => "iso2022_kr"

/-- JIS X 0208 is designated as it was first issued, too. -/
def x0208 : List (Designation × CodeSet) := [(⟨true, 'B'⟩, .jisX0208), (⟨true, '@'⟩, .jisX0208)]
def x0212 : Designation × CodeSet := (⟨true, 'D'⟩, .jisX0212)
def roman : Designation × CodeSet := (⟨false, 'J'⟩, .jisRoman)
def ks : Designation × CodeSet := (⟨true, 'C'⟩, .ksX1001)
def plane2 : Designation × CodeSet := (⟨true, 'P'⟩, .jisSecond)

/-- The sets that may be designated apart from ASCII. -/
def sets : Variant → List (Designation × CodeSet)
  | jp => roman :: x0208
  | jp1 => x0212 :: roman :: x0208
  | jp2 =>
    [x0212, roman, ks, (⟨true, 'A'⟩, .gb2312), (⟨false, 'A'⟩, .latin), (⟨false, 'F'⟩, .greek)] ++
      x0208
  | jp3 => [(⟨true, 'B'⟩, .jisX0208), (⟨true, 'O'⟩, .jisFirst false), plane2]
  | jp2004 => [(⟨true, 'B'⟩, .jisX0208), (⟨true, 'Q'⟩, .jisFirst true), plane2]
  | jpExt => x0212 :: roman :: (⟨false, 'I'⟩, .jisKatakana) :: x0208
  | kr => [ks]

/-- Whether two control characters switch between the first set and the second one. -/
def shifts (v : Variant) : Bool := v = kr

/-- Whether there is a third set, from which single characters are called. -/
def hasThird (v : Variant) : Bool := v = jp2

/-- Whether the escape that announces a revised set goes before the one that designates it. -/
def revises (v : Variant) : Bool := v ≠ kr

def set? (v : Variant) (d : Designation) : Option CodeSet :=
  if d = ⟨false, 'B'⟩ then some .ascii else v.sets.lookup d

end Variant

structure State where
  first : CodeSet
  second : CodeSet
  third : CodeSet
  /-- Characters are of the second set. -/
  shifted : Bool
  /-- An escape that designates nothing goes on, and its bytes stand for themselves. -/
  through : Bool
deriving DecidableEq, Repr

def start : State := ⟨.ascii, .ascii, .ascii, false, false⟩

def escape : UInt8 := 0x1b

/-- Whether a byte ends an escape. -/
def isFinal (b : UInt8) : Bool := b = 0x40 || (0x41 ≤ b && b ≤ 0x5a)

/-- The length of the escape in front of bytes. -/
inductive Extent
  | size (n : Nat)
  /-- The bytes end within the escape. -/
  | short
  /-- It has no end within sixteen bytes. -/
  | long

/-- Finds the end of an escape from a place in it on. The mark of a revised set is passed over. -/
def extent (revises : Bool) (bytes : List UInt8) (place : Nat) : Extent :=
  if 16 ≤ place then .long
  else
    match bytes[place]? with
    | none => .short
    | some b =>
      if isFinal b then .size (place + 1)
      else if revises ∧ b = 0x26 ∧ bytes[place + 1]? = some 0x40 then
        extent revises bytes (place + 3)
      else extent revises bytes (place + 1)
termination_by 16 - place

inductive Slot
  | first
  | second
  | third
deriving DecidableEq, Repr

/-- What the bytes of an escape designate, behind its first one. Two bytes may go before a second
escape, which designates JIS X 0208. -/
def designated? (v : Variant) : List UInt8 → Option (Slot × Designation)
  | [0x24, final] => some (.first, ⟨true, Char.ofNat final.toNat⟩)
  | [0x28, final] => some (.first, ⟨false, Char.ofNat final.toNat⟩)
  | [0x29, final] => some (.second, ⟨false, Char.ofNat final.toNat⟩)
  | [0x2e, final] => if v.hasThird then some (.third, ⟨false, Char.ofNat final.toNat⟩) else none
  | [0x24, 0x28, final] => some (.first, ⟨true, Char.ofNat final.toNat⟩)
  | [0x24, 0x29, final] => some (.second, ⟨true, Char.ofNat final.toNat⟩)
  | [_, _, 0x1b, 0x24, 0x42] => if v.revises then some (.first, ⟨true, 'B'⟩) else none
  | _ => none

def State.designate (s : State) (slot : Slot) (set : CodeSet) : State :=
  match slot with
  | .first => { s with first := set }
  | .second => { s with second := set }
  | .third => { s with third := set }

/-- Takes an escape that designates a set. -/
def takeDesignation (v : Variant) (s : State) (bytes : List UInt8) : Intake State :=
  match extent v.revises bytes 1 with
  | .short => .incomplete bytes
  | .long => .illegal 1
  | .size n =>
    match designated? v ((bytes.take n).drop 1) with
    | none => .illegal n
    | some (slot, d) =>
      match v.set? d with
      | some set => .text n [] (s.designate slot set)
      | none => .illegal n

/-- The Greek set: what it has in common with Latin, then quotes and a bar, then the letters. -/
def greek? (b : UInt8) : Option Char :=
  let common : List UInt8 := [0xa0, 0xa3, 0xa6, 0xa7, 0xa8, 0xa9, 0xab, 0xac, 0xad, 0xb0, 0xb1,
    0xb2, 0xb3, 0xb7, 0xbb, 0xbd]
  if b < 0xa0 ∨ common.contains b then some (Char.ofNat b.toNat)
  else if b = 0xa1 then some '‘'
  else if b = 0xa2 then some '’'
  else if b = 0xaf then some '―'
  else if 0xb4 ≤ b ∧ b ≤ 0xfe ∧ b ≠ 0xd2 then some (Char.ofNat (0x2d0 + b.toNat))
  else none

/-- Takes a character of the third set, the byte for which has the upper bit cleared. -/
def takeThird (s : State) (bytes : List UInt8) : Intake State :=
  match bytes with
  | _ :: _ :: b :: _ =>
    let found := match s.third with
      | .latin => some (if b < 0x80 then some (Char.ofNat (b.toNat + 0x80)) else none)
      | .greek => some (greek? (b ^^^ 0x80))
      | .ascii => some (if b < 0x80 then some (Char.ofNat b.toNat) else none)
      | _ => none
    match found with
    | none => .noRule
    | some none => .illegal 3
    | some (some c) => .text 3 [c] s
  | _ => .incomplete bytes

/-- The characters for a pair of a set, or for a single byte. -/
def CodeSet.pair? (set : CodeSet) (a b : UInt8) : Option (List Char) := do
  let (row, column) ← Grid.cell? 0x21 a b
  let one (g : Grid) : Option (List Char) := (g.char? row column).map ([·])
  match set with
  | jisX0208 => one Grid.jisX0208
  | jisX0212 => one Grid.jisX0212
  | jisFirst late => (JisEdition.x0213 late).first? row column
  | jisSecond => one Grid.jisX0213Second
  | gb2312 => one Grid.gb2312
  | ksX1001 => one Grid.ksX1001
  | _ => none

def CodeSet.single? (set : CodeSet) (b : UInt8) : Option Char :=
  match set with
  | ascii => some (Char.ofNat b.toNat)
  | jisRoman => some (Japanese.roman b)
  | jisKatakana => Japanese.katakana? (b ^^^ 0x80)
  | _ => none

def CodeSet.isOfPairs : CodeSet → Bool
  | jisX0208 | jisX0212 | jisFirst _ | jisSecond | gb2312 | ksX1001 => true
  | _ => false

/-- Takes a character of a set. -/
def takeChar (set : CodeSet) (s : State) (bytes : List UInt8) : Intake State :=
  match bytes with
  | [] => .noRule
  | a :: rest =>
    if set.isOfPairs then
      match rest with
      | [] => .incomplete bytes
      | b :: _ =>
        match set.pair? a b with
        | some cs => .text 2 (.ofChars cs) s
        | none => .illegal 2
    else
      match set.single? a with
      | some c => .text 1 [c] s
      | none => .illegal 1

/-- The second byte of an escape that is taken for a designation. -/
def designates (b : UInt8) : Bool := [0x28, 0x29, 0x24, 0x2e, 0x26].contains b

def take (v : Variant) (s : State) (bytes : List UInt8) : Intake State :=
  match bytes with
  | [] => .noRule
  | a :: rest =>
    let itself : Text := [Char.ofNat a.toNat]
    if s.through then .text 1 itself { s with through := !isFinal a }
    else if a = escape then
      match rest with
      | [] => .incomplete bytes
      | b :: _ =>
        if designates b then takeDesignation v s bytes
        else if v.hasThird ∧ b = 0x4e then takeThird s bytes
        else .text 1 itself { s with through := true }
    else if v.shifts ∧ a = 0x0f then .text 1 [] { s with shifted := false }
    else if v.shifts ∧ a = 0x0e then .text 1 [] { s with shifted := true }
    else if a = 0x0a then .text 1 itself { s with shifted := false }
    else if a < 0x20 then .text 1 itself s
    else if 0x80 ≤ a then .illegal 1
    else takeChar (if s.shifted then s.second else s.first) s bytes

end Stencil.Text.Iso2022
