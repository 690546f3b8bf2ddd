import Stencil.Files.Name

/-! Paths by their parts. Empty parts and single dots say nothing and are left out; two dots lead to
the directory above and are kept, because the directory they follow has to exist. -/
namespace Stencil

/-- Where a path begins: at the current directory, at the root, or at the root that two slashes and
no more are written for. -/
inductive Path.Origin
  | here
  | root
  | doubleRoot
deriving DecidableEq, Repr

structure Path where
  origin : Path.Origin
  parts : List Text
deriving DecidableEq, Repr

namespace Path

def originOf : Text → Origin
  | .char '/' :: .char '/' :: .char '/' :: _ => .root
  | .char '/' :: .char '/' :: _ => .doubleRoot
  | .char '/' :: _ => .root
  | _ => .here

/-- The parts of a written path. -/
def partsOf (t : Text) : List Text :=
  (t.splitOn (.char '/')).filter fun part => part ≠ [] ∧ part ≠ "."

def ofText (t : Text) : Path := ⟨originOf t, partsOf t⟩

/-- The path `name` as seen from `base`; one that begins at the root stands for itself. -/
def join (base name : Path) : Path :=
  if name.origin = .here then ⟨base.origin, base.parts ++ name.parts⟩ else name

/-- The path to a name in the directory at `p`. -/
def child (p : Path) (name : Text) : Path := ⟨p.origin, p.parts ++ [name]⟩

def Origin.text : Origin → Text
  | here => ""
  | root => "/"
  | doubleRoot => "//"

def text (p : Path) : Text :=
  if p.origin = .here ∧ p.parts = [] then "." else p.origin.text ++ ("/" : Text).intercalate p.parts

/-- The names on the path, if all of its parts are names. -/
def names? (p : Path) : Option (List FileName) := p.parts.mapM FileName.ofText?

end Path

end Stencil
