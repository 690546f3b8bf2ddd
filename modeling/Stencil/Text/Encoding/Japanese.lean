import Stencil.Text.Encoding.Grid.JisX0208
import Stencil.Text.Encoding.Grid.JisX0212
import Stencil.Text.Encoding.Grid.JisX0213
import Stencil.Text.Encoding.Grid.WindowsJapanese
import Stencil.Text.Encoding.Intake

/-! Japanese encodings of the JIS character sets: Shift JIS, which shifts two rows of 94 columns
into one, the extended Unix code, and code page 932. -/
namespace Stencil.Text

/-- The standard that says what is in the rows of 94 columns. -/
inductive JisEdition
  | x0208
  /-- JIS X 0213, with or without what the edition of 2004 brought. -/
  | x0213 (late : Bool)
deriving DecidableEq, Repr

namespace JisEdition

/-- Whether only a later edition has a cell of the first plane. -/
def lacks (e : JisEdition) (row column : Nat) : Bool :=
  e = x0213 false && Grid.jisX0213Late.contains (row, column)

/-- How many of two bytes, which name a cell, are at fault if there is no character for them. -/
def faultyAt (e : JisEdition) (cell? : UInt8 → UInt8 → Option (Nat × Nat)) (a b : UInt8) : Nat :=
  if (cell? a b).any fun (row, column) => e.lacks row column then 2 else 1

def first? (e : JisEdition) (row column : Nat) : Option (List Char) :=
  match e with
  | x0208 => (Grid.jisX0208.char? row column).map ([·])
  | x0213 _ =>
    if e.lacks row column then none
    else
      ((Grid.jisX0208.char? row column <|> Grid.jisX0213Added.char? row column).map ([·])) <|>
        Grid.jisX0213Marked.lookup (row, column)

/-- One cell of the second plane was changed by the edition of 2004. -/
def second? (e : JisEdition) (row column : Nat) : Option (List Char) :=
  match e with
  | x0208 => none
  | x0213 late =>
    if !late && (row, column) = (93, 26) then some ['鬝']
    else (Grid.jisX0213Second.char? row column).map ([·])

end JisEdition

namespace Japanese

/-- A katakana of half width. -/
def katakana? (b : UInt8) : Option Char :=
  if 0xa1 ≤ b ∧ b ≤ 0xdf then some (Char.ofNat (0xff61 + (b - 0xa1).toNat)) else none

/-- The cell of a pair of Shift JIS. A first byte has two rows, and second bytes leave out 127. -/
def shiftedCell? (a b : UInt8) : Option (Nat × Nat) :=
  if b < 0x40 ∨ b = 0x7f ∨ 0xfc < b then none
  else
    let double := if a < 0xe0 then (a - 0x81).toNat else (a - 0xc1).toNat
    let column := if b < 0x80 then (b - 0x40).toNat else (b - 0x41).toNat
    some (2 * double + column / 94 + 1, column % 94)

/-- The rows of the second plane that the rows behind the first plane stand for. -/
def secondPlaneRows : List Nat := [1, 8, 3, 4, 5, 12, 13, 14, 15] ++ List.range' 78 17

/-- Shift JIS of JIS X 0213 has a backslash of common width in one cell. -/
def shiftedPair? (e : JisEdition) (a b : UInt8) : Option (List Char) := do
  let (row, column) ← shiftedCell? a b
  if e ≠ .x0208 ∧ (row, column) = (1, 31) then some ['\\']
  else if row ≤ 94 then e.first? row column else e.second? (← secondPlaneRows[row - 95]?) column

/-- JIS X 0201 has a yen sign and an overline among the characters of ASCII. -/
def roman (b : UInt8) : Char :=
  if b = 0x5c then '¥' else if b = 0x7e then '‾' else Char.ofNat b.toNat

def shiftedFirst (e : JisEdition) (b : UInt8) : Intake.First :=
  if b < 0x80 then .alone (if e = .x0208 then Char.ofNat b.toNat else roman b)
  else
    match katakana? b with
    | some c => .alone c
    | none =>
      let last := if e = .x0208 then 0xea else 0xfc
      if b = 0x80 ∨ b = 0xa0 ∨ last < b then .stray else .ofPair

def takeShifted (e : JisEdition) : Unit → List UInt8 → Intake Unit :=
  Intake.takePair (shiftedFirst e) (e.faultyAt shiftedCell?) (shiftedPair? e)

/-- Code page 932 has characters for the bytes that Shift JIS does not use. -/
def windowsFirst (b : UInt8) : Intake.First :=
  if b ≤ 0x80 then .alone (Char.ofNat b.toNat)
  else if b = 0xa0 then .alone '\uf8f0'
  else if 0xfd ≤ b then .alone (Char.ofNat (0xf8f1 + (b - 0xfd).toNat))
  else
    match katakana? b with
    | some c => .alone c
    | none => .ofPair

/-- The rows 95 to 114 hold characters for private use. -/
def windowsPair? (a b : UInt8) : Option (List Char) := do
  let (row, column) ← shiftedCell? a b
  if 95 ≤ row ∧ row ≤ 114 then some [Char.ofNat (0xe000 + (row - 95) * 94 + column)]
  else
    let c ← Grid.windowsJapanese.char? row column <|> Grid.jisX0208.char? row column
    some [c]

def takeWindows : Unit → List UInt8 → Intake Unit :=
  Intake.takePair windowsFirst (fun _ _ => 1) windowsPair?

/-- The extended Unix code writes one cell of JIS X 0213 in another way. -/
def unixFirst? (e : JisEdition) (row column : Nat) : Option (List Char) :=
  if e ≠ .x0208 ∧ (row, column) = (2, 17) then some ['～'] else e.first? row column

/-- Takes a byte, or a pair, or a mark and what it announces: a katakana of half width, or a pair of
the second plane or of the supplementary set. -/
def takeUnix (e : JisEdition) (_ : Unit) (bytes : List UInt8) : Intake Unit :=
  match bytes with
  | [] => .noRule
  | a :: rest =>
    if a < 0x80 then .text 1 [Char.ofNat a.toNat] ()
    else if a = 0x8f then
      match rest with
      | b :: c :: _ =>
        let found := (Grid.cell? 0xa1 b c).bind fun (row, column) =>
          e.second? row column <|> (Grid.jisX0212.char? row column).map ([·])
        match found with
        | some cs => .text 3 (.ofChars cs) ()
        | none => .illegal 1
      | _ => .incomplete bytes
    else
      match rest with
      | [] => .incomplete bytes
      | b :: _ =>
        let found :=
          if a = 0x8e then (katakana? b).map ([·])
          else (Grid.cell? 0xa1 a b).bind fun (row, column) => unixFirst? e row column
        match found with
        | some cs => .text 2 (.ofChars cs) ()
        | none => .illegal (e.faultyAt (Grid.cell? 0xa1) a b)

end Japanese

end Stencil.Text
