import Stencil.Text.Encoding.Fault
import Std.Data.HashSet

/-! Character sets of more than 256 characters: a grid, in which a character stands for the numbers
of its row and its column. A grid is given by the runs of cells that hold a character. -/
namespace Stencil.Text

/-- Neighbouring cells of a row, from a column on. -/
structure Grid.Run where
  row : Nat
  column : Nat
  cells : String
deriving DecidableEq, Repr

abbrev Grid := List Grid.Run

namespace Grid

/-- The character of a run in a cell of the grid. -/
def Run.char? (run : Run) (row column : Nat) : Option Char :=
  if run.row = row ∧ run.column ≤ column then run.cells.toList[column - run.column]? else none

def char? (g : Grid) (row column : Nat) : Option Char := g.findSome? (·.char? row column)

/-- The cell that two bytes name in a grid of 94 rows and columns, of which `least` is the first.
Rows are counted from one and columns from zero. -/
def cell? (least a b : UInt8) : Option (Nat × Nat) :=
  if least ≤ a ∧ a < least + 94 ∧ least ≤ b ∧ b < least + 94 then
    some ((a - least).toNat + 1, (b - least).toNat)
  else none

/-- The character that two bytes name in a grid of 94 rows and columns. -/
def pair? (g : Grid) (least a b : UInt8) : Option Char := do
  let (row, column) ← cell? least a b
  g.char? row column

def chars (g : Grid) : List Char := g.flatMap (·.cells.toList)

/-- The characters with the numbers from `first` on, `count` in all, that a grid does not have. -/
def lacking (g : Grid) (first count : Nat) : Array Char :=
  let present := Std.HashSet.ofList (g.chars.map Char.toNat)
  (((List.range' first count).filter (!present.contains ·)).map Char.ofNat).toArray

end Grid

end Stencil.Text
