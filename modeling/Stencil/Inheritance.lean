import Stencil.Table
import Stencil.Template

/-! Inheritance in a single step. A template that names a parent gives its blocks and nothing else:
they take the place of the parent's blocks of the same names, trimmed of white space at their ends,
and a block of the parent that is not given is left out. A template on its own shows its blocks as
they are. Both ways lead to a list of nodes without blocks at the top. -/
namespace Stencil

namespace Node

/-- Drops white space from the front of a body: whole texts first, then the front of the text that
is not all white space. -/
def trimStart : List Node → List Node
  | .text position value :: nodes =>
    match value.trimStart with
    | [] => trimStart nodes
    | value => .text position value :: nodes
  | nodes => nodes

/-- The same for a body that is listed from its end. -/
def trimReversed : List Node → List Node
  | .text position value :: nodes =>
    match value.trimEnd with
    | [] => trimReversed nodes
    | value => .text position value :: nodes
  | nodes => nodes

def trimEnd (nodes : List Node) : List Node := (trimReversed nodes.reverse).reverse

def trim (nodes : List Node) : List Node := trimEnd (trimStart nodes)

end Node

/-- Bodies for the blocks of a parent. -/
abbrev Fillings := Table Text (List Node)

namespace Template

/-- The trimmed bodies of the blocks of a template. Of two blocks of one name the last counts, and
the first gives the place. -/
def fillings (t : Template) : Fillings :=
  Table.ofList (t.body.filterMap fun
    | .block _ name body => some (name, Node.trim body)
    | _ => none)

/-- The nodes of a parent with its blocks filled in. The parent's own parent tag is not followed and
comes first, as text. -/
def fill (t : Template) (fillings : Fillings) : List Node :=
  t.parent.toList.map Parent.asText ++ t.body.flatMap fun
    | .block _ name _ => (fillings.get? name).getD []
    | node => [node]

/-- The nodes of a template with its own blocks opened up. -/
def flatten (t : Template) : List Node :=
  t.body.flatMap fun
    | .block _ _ body => body
    | node => [node]

/-- The nodes of a template that is shown without its parent, whose tag comes first, as text. -/
def flattenAlone (t : Template) : List Node :=
  t.parent.toList.map Parent.asText ++ t.flatten

end Template

end Stencil
