import Stencil.Directive
import Stencil.Position

/-! Templates: what a source says once its directives are paired up. The tree is shallow as long as
it comes from a source, where a loop holds texts and slots and a block holds these and loops, but a
body built by hand may hold anything. -/
namespace Stencil

inductive Node
  | text (position : Position) (value : Text)
  /-- A value to insert; `raw` is the slot as written. -/
  | slot (position : Position) (reference : Reference) (raw : Text)
  /-- A body to repeat for each record; `raw` is the opening tag as written. -/
  | loop (position : Position) (item collection raw : Text) (body : List Node)
  /-- A named body, for which a template that names this one as its parent may give another. -/
  | block (position : Position) (name : Text) (body : List Node)
deriving Repr

namespace Node

mutual

/-- Nodes are compared part by part. -/
def decEq : (node node' : Node) → Decidable (node = node')
  | text .., text .. => decidable_of_iff _ (iff_of_eq (text.injEq ..).symm)
  | slot .., slot .. => decidable_of_iff _ (iff_of_eq (slot.injEq ..).symm)
  | loop _ _ _ _ body, loop _ _ _ _ body' =>
    have := decEqAll body body'
    decidable_of_iff _ (iff_of_eq (loop.injEq ..).symm)
  | block _ _ body, block _ _ body' =>
    have := decEqAll body body'
    decidable_of_iff _ (iff_of_eq (block.injEq ..).symm)
  | text .., slot .. | text .., loop .. | text .., block .. => isFalse nofun
  | slot .., text .. | slot .., loop .. | slot .., block .. => isFalse nofun
  | loop .., text .. | loop .., slot .. | loop .., block .. => isFalse nofun
  | block .., text .. | block .., slot .. | block .., loop .. => isFalse nofun

def decEqAll : (nodes nodes' : List Node) → Decidable (nodes = nodes')
  | [], [] => isTrue rfl
  | node :: nodes, node' :: nodes' =>
    have := decEq node node'
    have := decEqAll nodes nodes'
    decidable_of_iff _ (iff_of_eq (List.cons.injEq ..).symm)
  | [], _ :: _ | _ :: _, [] => isFalse nofun

end

instance : DecidableEq Node := decEq

end Node

/-- The tag that names the template to be filled in. -/
structure Parent where
  position : Position
  base : Text
  raw : Text
deriving DecidableEq, Repr

/-- The tag that names the parent is no part of the body. -/
structure Template where
  parent : Option Parent
  body : List Node
deriving DecidableEq, Repr

namespace Template

def baseName (t : Template) : Option Text := t.parent.map Parent.base

/-- The names of the blocks, in the order of the source; a name may occur again. -/
def blockNames (t : Template) : List Text :=
  t.body.filterMap fun
    | .block _ name _ => some name
    | _ => none

end Template

/-- The tag as the text it was written with. -/
def Parent.asText (p : Parent) : Node := .text p.position p.raw

end Stencil
