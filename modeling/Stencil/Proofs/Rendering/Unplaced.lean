import Stencil.Proofs.Rendering.Meaning

/-! What does not depend on places. Where the nodes of a template stand in its source, and what the
template is called, shows up in the errors of rendering and nowhere else. So nodes that are the same
but for their positions mean the same text, or errors with the same fault. -/
namespace Stencil

namespace Node

mutual

/-- The node with its position, and those of the nodes in it, forgotten. -/
def unplaced : Node → Node
  | text _ value => text .start value
  | slot _ reference raw => slot .start reference raw
  | loop _ item collection raw body => loop .start item collection raw (unplacedAll body)
  | block _ name body => block .start name (unplacedAll body)

def unplacedAll : List Node → List Node
  | [] => []
  | node :: nodes => unplaced node :: unplacedAll nodes

end

theorem unplacedAll_eq_map (nodes : List Node) : unplacedAll nodes = nodes.map unplaced := by
  induction nodes with
  | nil => rfl
  | cons node nodes ih => rw [unplacedAll, ih, List.map_cons]

end Node

/-- The error without its place. -/
def RenderError.bare (e : RenderError) : RenderError := ⟨e.fault, none, none⟩

namespace Meaning

def bare : Meaning → Meaning
  | text t => text t
  | unresolved e => unresolved e.bare
  | unrepeatable e => unrepeatable e.bare

theorem bare_followedBy (m m' : Meaning) :
    (m.followedBy m').bare = m.bare.followedBy m'.bare := by
  cases m <;> cases m' <;> rfl

theorem bare_all (meanings : List Meaning) : (all meanings).bare = all (meanings.map bare) := by
  induction meanings with
  | nil => rfl
  | cons m meanings ih =>
    show (m.followedBy (all meanings)).bare = m.bare.followedBy (all (meanings.map bare))
    rw [bare_followedBy, ih]

end Meaning

namespace Scene

/-- The scene of a template without a name. -/
def bare (s : Scene) : Scene := { s with template := none }

variable (s : Scene)

theorem bare_slot (current? : Option (Text × Record)) (position : Position)
    (reference : Reference) (raw : Text) : (s.slot current? position reference raw).bare =
      (s.bare.slot current? .start reference raw).bare := by
  have hunbound : (s.unbound position reference raw).bare =
      (s.bare.unbound .start reference raw).bare := by
    have hstrict : s.bare.strict = s.strict := rfl
    rw [unbound, unbound, hstrict]
    split <;> rfl
  have hbinding : s.bare.binding? = s.binding? := rfl
  unfold slot
  rw [hbinding]
  split
  · split
    · rfl
    · exact hunbound
  · exact hunbound
  · split
    · rfl
    · exact hunbound

mutual

theorem bare_node (current? : Option (Text × Record)) : (node : Node) →
    (s.node current? node).bare = (s.bare.node current? node.unplaced).bare
  | .text _ _ => rfl
  | .slot position reference raw => s.bare_slot current? position reference raw
  | .block _ _ body => bare_nodes current? body
  | .loop position item collection raw body => by
    have hbinding : s.bare.binding? = s.binding? := rfl
    rw [Node.unplaced, node, node, hbinding]
    split
    · rename_i records _
      rw [Meaning.bare_all, Meaning.bare_all, List.map_map, List.map_map]
      refine congrArg Meaning.all (List.map_congr_left fun record _ => ?_)
      exact bare_nodes (some (item, record)) body
    · rfl
    · rfl

theorem bare_nodes (current? : Option (Text × Record)) : (nodes : List Node) →
    (s.nodes current? nodes).bare = (s.bare.nodes current? (Node.unplacedAll nodes)).bare
  | [] => rfl
  | first :: rest => by
    rw [Node.unplacedAll, nodes, nodes, Meaning.bare_followedBy, Meaning.bare_followedBy,
      bare_node current? first, bare_nodes current? rest]

end

/-- Nodes that are the same but for their positions, in scenes that are the same but for the name of
the template. -/
theorem bare_nodes_congr {s s' : Scene} (hs : s.bare = s'.bare) {nodes nodes' : List Node}
    (h : nodes.map Node.unplaced = nodes'.map Node.unplaced)
    (current? : Option (Text × Record)) :
    (s.nodes current? nodes).bare = (s'.nodes current? nodes').bare := by
  rw [bare_nodes s, bare_nodes s', Node.unplacedAll_eq_map, Node.unplacedAll_eq_map, hs, h]

end Scene

end Stencil
