import Stencil.Text

/-! Positions in a source: lines are counted from one and columns from zero. Only the line feed
begins a new line. Nodes that were not read from a source may claim any position, also one in front
of every source. -/
namespace Stencil

structure Position where
  line : Int
  column : Int
deriving DecidableEq, Repr

namespace Position

def start : Position := ⟨1, 0⟩

def step (p : Position) (c : CodePoint) : Position :=
  if c = '\n' then ⟨p.line + 1, 0⟩ else ⟨p.line, p.column + 1⟩

/-- The position reached after reading `cs` from `p` on. -/
def advance (p : Position) (cs : Text) : Position := cs.foldl step p

theorem advance_append (p : Position) (cs ds : Text) :
    p.advance (cs ++ ds) = (p.advance cs).advance ds := List.foldl_append

end Position

end Stencil
