import Stencil.Proofs.Template.Draft
import Stencil.Proofs.Template.Grammar
import Stencil.Proofs.Token.Coordinates

/-! A draft that is written down and read again gives the template it is a draft of. Its pieces are
found again: a directive is read wherever it stands, and within a text nothing can be read, even
where its last brace and the tag behind it look like an opener. From the tokens of each part, loop
or block the parser then makes one node, whatever has been read before it. -/
namespace Stencil

open Directive

namespace Draft

/-! Finding the pieces again. -/

/-- The pieces of a part are found again, and texts are at its ends only if it is a text. -/
structure Sound (isProse : Bool) (pieces : List Piece) : Prop where
  proper : ∀ piece ∈ pieces, piece.Proper
  parted : pieces.IsChain Piece.Parted
  ne_nil : pieces ≠ []
  of_head? : ∀ piece ∈ pieces.head?, piece.isText = true → isProse = true
  of_getLast? : ∀ piece ∈ pieces.getLast?, piece.isText = true → isProse = true

theorem proper_tag {d : Directive} {inner : Text} (h : TagForm inner d) (left right : Margin) :
    (tag d left inner right).Proper := fun rest => read?_tag left.isSpace right.isSpace h rest

theorem proper_slot (left : Margin) (name : Word) (attr : Option Word) (right : Margin) :
    (slot left name attr right).Proper := by
  intro rest
  cases attr with
  | none => exact read?_slot left.isSpace right.isSpace (.name name.isWord) rest
  | some attr => exact read?_slot left.isSpace right.isSpace (.attr name.isWord attr.isWord) rest

theorem proper_parentTag (base : BaseName) : (parentTag base).Proper := fun rest =>
  read?_parent base.ne_nil base.no_quote base.no_closer rest

theorem sound_singleton (piece : Piece) (h : piece.Proper) : Sound piece.isText [piece] where
  proper := by simpa using h
  parted := .singleton piece
  ne_nil := List.cons_ne_nil piece []
  of_head? := by simp
  of_getLast? := by simp

/-- Parts that may follow each other. -/
theorem Sound.body {α : Type} {isProse : α → Bool} {pieces : α → List Piece} {parts : List α}
    (h : ∀ a, Sound (isProse a) (pieces a)) (hapart : Apart isProse parts) :
    (∀ piece ∈ parts.flatMap pieces, piece.Proper) ∧
      (parts.flatMap pieces).IsChain Piece.Parted := by
  constructor
  · intro piece hpiece
    obtain ⟨a, -, hmem⟩ := List.mem_flatMap.mp hpiece
    exact (h a).proper piece hmem
  · have hne : [] ∉ parts.map pieces := by
      intro hnil
      obtain ⟨a, -, ha⟩ := List.mem_map.mp hnil
      exact (h a).ne_nil ha
    rw [List.flatMap_def, List.isChain_flatten hne, List.isChain_map]
    constructor
    · intro part hpart
      obtain ⟨a, -, rfl⟩ := List.mem_map.mp hpart
      exact (h a).parted
    · refine hapart.imp fun a b hab x hx y hy hxy => hab ⟨?_, ?_⟩
      · exact (h a).of_getLast? x hx hxy.1
      · exact (h b).of_head? y hy hxy.2

/-- Tags around a body. -/
theorem Sound.enclosed {d d' : Directive} {raw raw' : Text} {body : List Piece}
    (hopener : (Piece.directive d raw).Proper) (hcloser : (Piece.directive d' raw').Proper)
    (hbody : (∀ piece ∈ body, piece.Proper) ∧ body.IsChain Piece.Parted) :
    Sound false (.directive d raw :: (body ++ [.directive d' raw'])) where
  proper := by
    intro piece hpiece
    obtain rfl | hpiece := List.mem_cons.mp hpiece
    · exact hopener
    · obtain hpiece | hpiece := List.mem_append.mp hpiece
      · exact hbody.1 piece hpiece
      · exact List.mem_singleton.mp hpiece ▸ hcloser
  parted := by
    rw [List.isChain_cons, List.isChain_append]
    refine ⟨?_, hbody.2, .singleton _, ?_⟩
    · intro piece _ hboth
      cases hboth.1
    · intro piece _ piece' hpiece' hboth
      obtain rfl := Option.some.inj hpiece'
      cases hboth.2
  ne_nil := List.cons_ne_nil _ _
  of_head? := by
    intro piece hpiece htext
    obtain rfl := Option.some.inj hpiece
    exact htext
  of_getLast? := by
    intro piece hpiece htext
    rw [← List.cons_append, List.getLast?_append_of_ne_nil _ (List.cons_ne_nil _ _)] at hpiece
    obtain rfl := Option.some.inj hpiece
    exact htext

theorem Leaf.sound (l : Leaf) : Sound l.isProse l.pieces := by
  cases l with
  | prose p => exact sound_singleton (.text p.text) ⟨p.ne_nil, p.no_slot, p.no_tag⟩
  | slot left name attr right => exact sound_singleton _ (proper_slot left name attr right)

theorem Loop.sound (l : Loop) : Sound false l.pieces := by
  refine .enclosed (proper_tag ?_ _ _) (proper_tag .closeLoop _ _) (Sound.body Leaf.sound l.apart)
  exact .openLoop l.beforeItem.isGap l.item.isWord l.beforeIn.isGap l.afterIn.isGap
    l.collection.isWord

theorem Item.sound (i : Item) : Sound i.isProse i.pieces := by
  cases i with
  | leaf l => exact l.sound
  | loop l => exact l.sound

theorem Block.sound (b : Block) : Sound false b.pieces := by
  refine .enclosed (proper_tag (.openBlock b.beforeName.isGap b.name.isWord) _ _)
    (proper_tag ?_ _ _) (Sound.body Item.sound b.apart)
  cases b.again with
  | none => exact .closeBlock
  | some again => exact .closeNamed again.1.isGap again.2.isWord

theorem Part.sound (p : Part) : Sound p.isProse p.pieces := by
  cases p with
  | item i => exact i.sound
  | block b => exact b.sound

/-- The pieces of a draft are the pieces of what is written. -/
theorem ofText_source (d : Draft) : Piece.ofText d.source = d.pieces := by
  obtain ⟨hproper, hparted⟩ := Sound.body Part.sound d.apart
  refine Piece.ofText_eq_of_tiles (tiles_of_proper ?_ ?_)
  · intro piece hpiece
    obtain hpiece | hpiece := List.mem_append.mp hpiece
    · obtain ⟨base, -, rfl⟩ := List.mem_map.mp hpiece
      exact proper_parentTag base
    · exact hproper piece hpiece
  · rw [pieces, parentPieces]
    cases d.base with
    | none => exact hparted
    | some base =>
      refine List.isChain_cons.mpr ⟨?_, hparted⟩
      intro piece _ hboth
      cases hboth.1

end Draft

/-! Making nodes of the tokens. -/
namespace Token

theorem placed_append (position : Position) (pieces pieces' : List Piece) :
    placed position (pieces ++ pieces') =
      placed position pieces ++ placed (position.advance (Draft.written pieces)) pieces' := by
  induction pieces generalizing position with
  | nil => rfl
  | cons piece pieces ih =>
    rw [List.cons_append, placed, placed, ih, List.cons_append, Draft.written_cons,
      Position.advance_append]

theorem exists_place_eq_placed (position : Position) (pieces : List Piece) :
    ∃ last, place position pieces = placed position pieces ++ [last] ∧
      last.kind = .endOfSource := ⟨_, place_eq_placed position pieces, rfl⟩

end Token

namespace Template.Progress

/-- Reading the tokens of pieces makes one progress of another. -/
def Reads (p : Progress) (position : Position) (pieces : List Piece) (q : Progress) : Prop :=
  (Token.placed position pieces).foldlM read p = .ok q

/-- Adds nodes in order. -/
def pushAll (p : Progress) (nodes : List Node) : Progress :=
  { p with nodes := nodes.reverse ++ p.nodes }

variable {p q r : Progress} {position : Position} {pieces pieces' : List Piece}

theorem Reads.append (h : p.Reads position pieces q)
    (h' : q.Reads (position.advance (Draft.written pieces)) pieces' r) :
    p.Reads position (pieces ++ pieces') r := by
  rw [Reads, Token.placed_append, foldlM_read_append h]
  exact h'

theorem reads_singleton (position : Position) (piece : Piece)
    (h : p.Step (Token.ofPiece position piece) q) : p.Reads position [piece] q :=
  foldlM_read_of_step h

/-- What is read of each part within some open tags is read of all parts within them. -/
theorem reads_flatMap {α : Type} {pieces : α → List Piece} {node : Position → α → Node}
    {tags : List OpenTag} (h : ∀ a position (p : Progress), p.openTags = tags →
      p.Reads position (pieces a) (p.push (node position a)))
    (hp : p.openTags = tags) (position : Position) (parts : List α) :
    p.Reads position (parts.flatMap pieces)
      (p.pushAll (Draft.nodesFrom pieces node position parts)) := by
  induction parts generalizing p position with
  | nil => rfl
  | cons a parts ih =>
    have hrest := ih (p := p.push (node position a)) hp
      (position.advance (Draft.written (pieces a)))
    have hnodes : (p.push (node position a)).pushAll
          (Draft.nodesFrom pieces node (position.advance (Draft.written (pieces a))) parts) =
        p.pushAll (Draft.nodesFrom pieces node position (a :: parts)) := by
      simp [pushAll, push, Draft.nodesFrom]
    rw [List.flatMap_cons, ← hnodes]
    exact (h a position p hp).append hrest

/-- An opening tag that is admitted, a body, and the closing tag make one node. -/
theorem reads_enclosed (opening : Opening) {raw raw' : Text} {body : List Piece}
    {nodes : List Node} (hadmits : Admits p.openTags opening)
    (hbody : ∀ q : Progress,
      q.openTags = ⟨⟨.directive opening.opener, position, raw⟩, opening, p.nodes⟩ :: p.openTags →
      q.Reads (position.advance raw) body (q.pushAll nodes)) :
    p.Reads position
      (.directive opening.opener raw :: (body ++ [.directive opening.closer raw']))
      (p.push (OpenTag.close ⟨⟨.directive opening.opener, position, raw⟩, opening, p.nodes⟩
        nodes)) := by
  let within : Progress := p.descend ⟨.directive opening.opener, position, raw⟩ opening
  have hopen : p.Reads position [.directive opening.opener raw] within :=
    reads_singleton position _ (.descend rfl hadmits)
  have hinside : within.Reads (position.advance raw) body (within.pushAll nodes) := hbody within rfl
  have hclose := reads_singleton ((position.advance raw).advance (Draft.written body))
    (.directive opening.closer raw') (.ascend (p := within.pushAll nodes) rfl rfl)
  have hraw : position.advance (Draft.written [.directive opening.opener raw]) =
      position.advance raw := by simp [Draft.written, Piece.raw]
  have hall := hopen.append (hraw.symm ▸ hinside.append hclose)
  have hnodes : (within.pushAll nodes).nodes.reverse = nodes := by simp [within, pushAll, descend]
  rw [ascend, hnodes] at hall
  exact hall

end Template.Progress

namespace Draft

open Template Template.Progress

theorem Leaf.reads (l : Leaf) (position : Position) (p : Progress) :
    p.Reads position l.pieces (p.push (l.node position)) := by
  cases l with
  | prose q => exact reads_singleton position (.text q.text) (.text rfl)
  | slot left name attr right =>
    exact reads_singleton position (Draft.slot left name attr right) (.slot rfl)

theorem Loop.reads (l : Loop) (position : Position) {p : Progress}
    (h : ∀ tag ∈ p.openTags, tag.isLoop = false) :
    p.Reads position l.pieces (p.push (l.node position)) :=
  reads_enclosed (.loop l.item.text l.collection.text) h fun _ hq =>
    reads_flatMap (fun a position p _ => a.reads position p) hq _ l.body

theorem Item.reads (i : Item) (position : Position) {p : Progress}
    (h : ∀ tag ∈ p.openTags, tag.isLoop = false) :
    p.Reads position i.pieces (p.push (i.node position)) := by
  cases i with
  | leaf l => exact l.reads position p
  | loop l => exact l.reads position h

theorem Block.reads (b : Block) (position : Position) {p : Progress} (h : p.openTags = []) :
    p.Reads position b.pieces (p.push (b.node position)) := by
  refine reads_enclosed (.block b.name.text) h fun q hq =>
    reads_flatMap (fun i position p hp => i.reads position ?_) hq _ b.body
  intro tag htag
  rw [hp, h, List.mem_singleton] at htag
  rw [htag]
  rfl

theorem Part.reads (a : Part) (position : Position) {p : Progress} (h : p.openTags = []) :
    p.Reads position a.pieces (p.push (a.node position)) := by
  cases a with
  | item i => exact i.reads position (by simp [h])
  | block b => exact b.reads position h

/-- Reading all pieces of a draft leaves no tag open. -/
theorem reads_pieces (d : Draft) : Progress.start.Reads Position.start d.pieces
    ⟨d.template.parent, [], d.template.body.reverse⟩ := by
  have hparts : ∀ parent position, Progress.Reads ⟨parent, [], []⟩ position
      (d.parts.flatMap Part.pieces)
      ⟨parent, [], (nodesFrom Part.pieces Part.node position d.parts).reverse⟩ := by
    intro parent position
    have h := reads_flatMap (p := ⟨parent, [], []⟩)
      (fun (a : Part) position p hp => a.reads position hp) rfl position d.parts
    rwa [pushAll, List.append_nil] at h
  rw [pieces, template, parentPieces]
  cases d.base with
  | none => exact hparts none Position.start
  | some base =>
    have hparent : Progress.start.Reads Position.start [parentTag base]
        ⟨some ⟨Position.start, base.text, (parentTag base).raw⟩, [], []⟩ :=
      reads_singleton Position.start (parentTag base) (.parent rfl rfl rfl)
    exact hparent.append (hparts _ _)

/-- Reading what is written gives back what was drafted. -/
theorem ofSource_source (d : Draft) : Template.ofSource d.source = .ok d.template := by
  obtain ⟨last, hplace, hlast⟩ := Token.exists_place_eq_placed Position.start d.pieces
  have hread : (Token.placed Position.start d.pieces).foldlM read Progress.start = _ :=
    d.reads_pieces
  rw [Template.ofSource, Token.ofSource, ofText_source, hplace, ofTokens_append_last hlast, hread]
  show Except.ok (Template.mk d.template.parent d.template.body.reverse.reverse) = _
  rw [List.reverse_reverse]

def noMargin : Margin := ⟨[], by decide⟩

def blank : Gap := ⟨" ", by decide, by decide +kernel⟩

def entryLoop : Loop where
  left := ⟨" ", by decide +kernel⟩
  beforeItem := blank
  item := ⟨"x", by decide +kernel⟩
  beforeIn := blank
  afterIn := blank
  collection := ⟨"xs", by decide +kernel⟩
  right := noMargin
  body := [.slot noMargin ⟨"x", by decide +kernel⟩ (some ⟨"y", by decide +kernel⟩) noMargin]
  apart := .singleton _
  closerLeft := noMargin
  closerRight := noMargin

def entryBlock : Block where
  left := noMargin
  beforeName := blank
  name := ⟨"b", by decide +kernel⟩
  right := noMargin
  body := [.loop entryLoop]
  apart := .singleton _
  closerLeft := noMargin
  again := some (blank, ⟨"b", by decide +kernel⟩)
  closerRight := noMargin

/-- The brace at the end of the text and the two characters behind it are no opener of a slot. -/
def bracedDraft : Draft where
  base := some ⟨"base", by decide, by decide +kernel, by decide +kernel⟩
  parts := [.item (.leaf (.prose ⟨"a\x7b", by decide, by decide +kernel, by decide +kernel⟩)),
    .block entryBlock]
  apart := .cons_cons (by simp [Part.isProse]) (.singleton _)

example : bracedDraft.source = "\x7b% extends \"base\" %\x7da\x7b\x7b%block b%\x7d" ++
    "\x7b% for x in xs%\x7d\x7b\x7bx.y\x7d\x7d\x7b%endfor%\x7d\x7b%endblock b%\x7d" := by
  decide +kernel

example : Template.ofSource bracedDraft.source = .ok bracedDraft.template := by decide +kernel

end Draft

end Stencil
