import Stencil.Proofs.Directive.Standing
import Stencil.Template
import Stencil.Token

/-! Drafts: templates together with all that their spelling leaves open. The words of a tag may
stand any gap apart and any margin away from its delimiters, and a block may be named again where it
ends. What may not be written, such as an opener within a text or two texts in a row, cannot be
drafted. A draft is written down piece by piece, and the template that it is a draft of knows for
each node where the writing of it begins, and for slots, loops and the parent the tag as it is
written. -/
namespace Stencil

open Directive

namespace Draft

structure Word where
  text : Text
  isWord : Text.isWord text = true

/-- White space between two words. -/
structure Gap where
  text : Text
  isGap : Text.IsGap text

/-- White space next to a delimiter, which may be none at all. -/
structure Margin where
  text : Text
  isSpace : ∀ c ∈ text, Text.isSpace c = true

/-- A text without openers. Closers may occur in it, and it may end in the middle of an opener. -/
structure Prose where
  text : Text
  ne_nil : text ≠ []
  no_slot : ¬ slotOpener <:+: text
  no_tag : ¬ tagOpener <:+: text

/-- A name that fits between the quotation marks of a parent tag. -/
structure BaseName where
  text : Text
  ne_nil : text ≠ []
  no_quote : .char '"' ∉ text
  no_closer : ¬ tagCloser <:+: text

/-- A tag with what is written between its delimiters. -/
def tag (d : Directive) (left : Margin) (inner : Text) (right : Margin) : Piece :=
  .directive d (tagOpener ++ (left.text ++ inner ++ right.text ++ tagCloser))

def slot (left : Margin) (name : Word) (attr : Option Word) (right : Margin) : Piece :=
  let path := match attr with
    | none => name.text
    | some attr => name.text ++ "." ++ attr.text
  .directive (.slot ⟨name.text, attr.map Word.text⟩)
    (slotOpener ++ (left.text ++ path ++ right.text ++ slotCloser))

/-- The tag that names the parent, in its one spelling. -/
def parentTag (base : BaseName) : Piece :=
  .directive (.parent base.text) (tagOpener ++ (parentOpener ++ (base.text ++ parentCloser)))

/-- No two texts follow each other. -/
def Apart {α : Type} (isProse : α → Bool) (parts : List α) : Prop :=
  parts.IsChain fun a b => ¬ (isProse a = true ∧ isProse b = true)

/-- What pieces make when they are written one after the other. -/
def written (pieces : List Piece) : Text := pieces.flatMap Piece.raw

theorem written_cons (piece : Piece) (pieces : List Piece) :
    written (piece :: pieces) = piece.raw ++ written pieces := List.flatMap_cons

/-- The nodes of parts that are written one after the other from a position on. -/
def nodesFrom {α : Type} (pieces : α → List Piece) (node : Position → α → Node) :
    Position → List α → List Node
  | _, [] => []
  | position, a :: parts =>
    node position a :: nodesFrom pieces node (position.advance (written (pieces a))) parts

/-! What a loop holds. -/

inductive Leaf
  | prose (p : Prose)
  | slot (left : Margin) (name : Word) (attr : Option Word) (right : Margin)

namespace Leaf

def isProse : Leaf → Bool
  | prose _ => true
  | slot .. => false

def piece : Leaf → Piece
  | prose p => .text p.text
  | slot left name attr right => Draft.slot left name attr right

def pieces (l : Leaf) : List Piece := [l.piece]

def node (position : Position) (l : Leaf) : Node :=
  match l with
  | prose p => .text position p.text
  | slot _ name attr _ => .slot position ⟨name.text, attr.map Word.text⟩ l.piece.raw

end Leaf

structure Loop where
  left : Margin
  beforeItem : Gap
  item : Word
  beforeIn : Gap
  afterIn : Gap
  collection : Word
  right : Margin
  body : List Leaf
  apart : Apart Leaf.isProse body
  closerLeft : Margin
  closerRight : Margin

namespace Loop

def opener (l : Loop) : Piece :=
  tag (.openLoop l.item.text l.collection.text) l.left
    ("for" ++ l.beforeItem.text ++
      (l.item.text ++ l.beforeIn.text ++ ("in" ++ l.afterIn.text ++ l.collection.text))) l.right

def closer (l : Loop) : Piece := tag .closeLoop l.closerLeft "endfor" l.closerRight

def pieces (l : Loop) : List Piece := l.opener :: (l.body.flatMap Leaf.pieces ++ [l.closer])

def node (position : Position) (l : Loop) : Node :=
  .loop position l.item.text l.collection.text l.opener.raw
    (nodesFrom Leaf.pieces Leaf.node (position.advance l.opener.raw) l.body)

end Loop

/-! What a block holds. -/

inductive Item
  | leaf (l : Leaf)
  | loop (l : Loop)

namespace Item

def isProse : Item → Bool
  | leaf l => l.isProse
  | loop _ => false

def pieces : Item → List Piece
  | leaf l => l.pieces
  | loop l => l.pieces

def node (position : Position) : Item → Node
  | leaf l => l.node position
  | loop l => l.node position

end Item

structure Block where
  left : Margin
  beforeName : Gap
  name : Word
  right : Margin
  body : List Item
  apart : Apart Item.isProse body
  closerLeft : Margin
  /-- A word behind the keyword of the closing tag; the name of the block is one. -/
  again : Option (Gap × Word)
  closerRight : Margin

namespace Block

def opener (b : Block) : Piece :=
  tag (.openBlock b.name.text) b.left ("block" ++ b.beforeName.text ++ b.name.text) b.right

def closer (b : Block) : Piece :=
  let inner := match b.again with
    | none => ("endblock" : Text)
    | some (gap, name) => "endblock" ++ gap.text ++ name.text
  tag .closeBlock b.closerLeft inner b.closerRight

def pieces (b : Block) : List Piece := b.opener :: (b.body.flatMap Item.pieces ++ [b.closer])

def node (position : Position) (b : Block) : Node :=
  .block position b.name.text
    (nodesFrom Item.pieces Item.node (position.advance b.opener.raw) b.body)

end Block

/-! What a template holds. -/

inductive Part
  | item (i : Item)
  | block (b : Block)

namespace Part

def isProse : Part → Bool
  | item i => i.isProse
  | block _ => false

def pieces : Part → List Piece
  | item i => i.pieces
  | block b => b.pieces

def node (position : Position) : Part → Node
  | item i => i.node position
  | block b => b.node position

end Part

end Draft

open Draft in
structure Draft where
  base : Option BaseName
  parts : List Part
  apart : Apart Part.isProse parts

namespace Draft

def parentPieces (d : Draft) : List Piece := d.base.toList.map parentTag

def pieces (d : Draft) : List Piece := d.parentPieces ++ d.parts.flatMap Part.pieces

/-- The draft as it is written. -/
def source (d : Draft) : Text := written d.pieces

/-- The template that is drafted. -/
def template (d : Draft) : Template where
  parent := d.base.map fun base => ⟨Position.start, base.text, (parentTag base).raw⟩
  body := nodesFrom Part.pieces Part.node (Position.start.advance (written d.parentPieces)) d.parts

end Draft

end Stencil
