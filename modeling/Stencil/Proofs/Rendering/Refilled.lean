import Stencil.Proofs.Rendering.Discarded
import Stencil.Proofs.Rendering.Ends
import Stencil.Proofs.Template.Behind

/-! A template that is filled with its own blocks. Each block then holds what the last block of its
name holds, trimmed, so if no name occurs twice the blocks are opened up as they are, but trimmed.
Where nothing is trimmed either, the source of the template behind a tag that names the template
as its parent is rendered as the template itself. -/
namespace Stencil

namespace Node

/-- No block is in the node or is the node. -/
def NoBlock (node : Node) : Prop := ∀ position name, .openBlock position name ∉ node.entries

theorem NoBlock.of_isLeaf {node : Node} (h : node.IsLeaf) : node.NoBlock := by
  cases node with
  | text position value => simp [NoBlock, entries]
  | slot position reference raw => simp [NoBlock, entries]
  | loop | block => cases h

theorem NoBlock.of_fitsBlock {node : Node} (h : node.FitsBlock) : node.NoBlock := by
  cases node with
  | text | slot => exact .of_isLeaf h
  | block => cases h
  | loop position item collection raw body =>
    obtain ⟨-, hbody⟩ := h
    intro position' name hmem
    have hinside : Entry.openBlock position' name ∈ entriesOf body := by
      simpa [entries] using hmem
    obtain ⟨node, hnode, hentry⟩ := exists_mem_of_mem_entriesOf hinside
    exact NoBlock.of_isLeaf (hbody node hnode) position' name hentry

/-- A body that neither starts nor ends with white space. -/
structure SolidEnds (body : List Node) : Prop where
  first : ∀ position value, .text position value ∈ body.head? →
    ∀ c ∈ value.head?, Text.isSpace c = false
  last : ∀ position value, .text position value ∈ body.getLast? →
    ∀ c ∈ value.getLast?, Text.isSpace c = false

theorem SolidEnds.trim_eq {body : List Node} (h : SolidEnds body)
    (hne : ∀ position value, .text position value ∈ body → value ≠ []) : trim body = body := by
  apply trim_of_tight
  · intro position value hvalue
    have hsome := hne position value (List.mem_of_mem_head? hvalue)
    exact ⟨_, List.head_mem_head? hsome,
      h.first position value hvalue _ (List.head_mem_head? hsome)⟩
  · intro position value hvalue
    have hsome := hne position value (List.mem_of_mem_getLast? hvalue)
    exact ⟨_, List.getLast_mem_getLast? hsome,
      h.last position value hvalue _ (List.getLast_mem_getLast? hsome)⟩

end Node

namespace Template

/-- The template with other bodies for its blocks. -/
def mapBlocks (f : Text → List Node → List Node) (t : Template) : Template :=
  { t with body := t.body.map fun
    | .block position name body => .block position name (f name body)
    | node => node }

/-- The template with each block trimmed. -/
def trimmed (t : Template) : Template := t.mapBlocks fun _ body => Node.trim body

/-- The template where each block holds what the last block of its name holds, trimmed. -/
def lastTrimmed (t : Template) : Template :=
  t.mapBlocks fun name body => Node.trim ((t.lastBlock? name).getD body)

variable {t : Template} {position : Position} {name : Text} {body : List Node}

theorem mapBlocks_congr {f g : Text → List Node → List Node}
    (h : ∀ position name body, .block position name body ∈ t.body → f name body = g name body) :
    t.mapBlocks f = t.mapBlocks g := by
  have hbody : (t.mapBlocks f).body = (t.mapBlocks g).body := by
    apply List.map_congr_left
    intro node hnode
    cases node with
    | text | slot | loop => rfl
    | block position name body => simp [h position name body hnode]
  simp only [mapBlocks] at hbody ⊢
  rw [hbody]

theorem mapBlocks_id : t.mapBlocks (fun _ body => body) = t := by
  have hbody : t.body.map (fun
      | .block position name body => .block position name body
      | node => node) = t.body := by
    apply List.map_id''
    intro node
    cases node <;> rfl
  rw [mapBlocks, hbody]

theorem flatten_mapBlocks (f : Text → List Node → List Node) (t : Template) :
    (t.mapBlocks f).flatten = t.body.flatMap fun
      | .block _ name body => f name body
      | node => [node] := by
  rw [flatten, mapBlocks, List.flatMap_map]
  apply List.flatMap_congr
  intro node _
  cases node <;> rfl

/-- A block is there for each name that a block has. -/
theorem exists_lastBlock? (h : .block position name body ∈ t.body) :
    ∃ last, t.lastBlock? name = some last := by
  cases hlast : t.lastBlock? name with
  | some last => exact ⟨last, rfl⟩
  | none =>
    have hnone := List.findSome?_eq_none_iff.mp hlast _ (List.mem_reverse.mpr h)
    simp at hnone

theorem mem_body_of_lastBlock? {last : List Node} (h : t.lastBlock? name = some last) :
    ∃ position, .block position name last ∈ t.body := by
  obtain ⟨node, hnode, hfound⟩ := List.exists_of_findSome?_eq_some h
  cases node with
  | text | slot | loop => cases hfound
  | block position name' body =>
    dsimp only at hfound
    split at hfound
    · rename_i hname
      cases hfound
      exact ⟨position, hname ▸ List.mem_reverse.mp hnode⟩
    · cases hfound

/-- A name that occurs once is that of one block. -/
theorem lastBlock?_of_nodup (hnodup : t.blockNames.Nodup)
    (h : .block position name body ∈ t.body) : t.lastBlock? name = some body := by
  obtain ⟨last, hlast⟩ := exists_lastBlock? h
  obtain ⟨position', hmem⟩ := mem_body_of_lastBlock? hlast
  rw [blockNames, List.Nodup, List.pairwise_filterMap] at hnodup
  by_cases hsame : Node.block position name body = .block position' name last
  · rw [hlast, (Node.block.inj hsame).2.2]
  · have hdistinct := @List.Pairwise.forall _ _ _ ⟨fun _ _ hab x hx y hy => (hab y hy x hx).symm⟩
      hnodup _ h _ hmem hsame
    exact absurd rfl (hdistinct name rfl name rfl)

/-- A template that is filled with its own blocks. -/
theorem fill_fillings (hnone : t.parent = none) : t.fill t.fillings = t.lastTrimmed.flatten := by
  rw [fill, hnone, lastTrimmed, flatten_mapBlocks]
  apply List.flatMap_congr
  intro node hnode
  cases node with
  | text | slot | loop => rfl
  | block position name body =>
    obtain ⟨last, hlast⟩ := exists_lastBlock? hnode
    simp [get?_fillings, hlast]

theorem lastTrimmed_of_nodup (hnodup : t.blockNames.Nodup) : t.lastTrimmed = t.trimmed := by
  apply mapBlocks_congr
  intro position name body hblock
  simp [lastBlock?_of_nodup hnodup hblock]

/-- Each block has solid ends. -/
def Solid (t : Template) : Prop :=
  ∀ position name body, .block position name body ∈ t.body → Node.SolidEnds body

/-- A text that was read is not empty. -/
theorem ne_nil_of_mem_flatten {source value : Text} (h : ofSource source = .ok t)
    (hmem : .text position value ∈ t.flatten) : value ≠ [] := by
  have hentry : Entry.text position value ∈ t.linearise :=
    mem_linearise_of_mem_flatten h _ hmem _ List.mem_cons_self
  obtain ⟨token, htoken, counts, hshown⟩ := exists_token_of_mem_linearise h hentry
  rw [Token.raw_of_mem_shown? hshown rfl]
  apply Token.raw_ne_nil_of_mem_ofSource htoken
  intro hend
  simp [Token.shown?, hend] at hshown

theorem Solid.trimmed_eq {source : Text} (h : ofSource source = .ok t) (hsolid : t.Solid) :
    t.trimmed = t := by
  have hbodies : t.trimmed = t.mapBlocks fun _ body => body := by
    apply mapBlocks_congr
    intro position name body hblock
    apply (hsolid position name body hblock).trim_eq
    intro position' value hmem
    have hflat : Node.text position' value ∈ t.flatten := List.mem_flatMap.mpr ⟨_, hblock, hmem⟩
    exact ne_nil_of_mem_flatten h hflat
  rw [hbodies, mapBlocks_id]

theorem lastBlock?_shift (parent : Option Parent) (origin : Position) (nodes : List Node) :
    (Template.mk parent (nodes.map (Node.shift origin))).lastBlock? name =
      ((Template.mk none nodes).lastBlock? name).map (List.map (Node.shift origin)) := by
  rw [lastBlock?, lastBlock?, ← List.map_reverse, List.findSome?_map, List.map_findSome?]
  congr 1
  funext node
  cases node with
  | text | slot | loop => rfl
  | block position name' body =>
    simp only [Function.comp_apply, Node.shift, Node.shiftAll_eq_map]
    split <;> rfl

/-- Moving a template makes no difference to what it gives a parent. -/
theorem giveAlike_shift (base : Template) (parent : Option Parent) (origin : Position) :
    base.GiveAlike ⟨parent, t.body.map (Node.shift origin)⟩ t := by
  intro name _
  rw [lastBlock?_shift]
  have hsame : (Template.mk none t.body).lastBlock? name = t.lastBlock? name := rfl
  rw [hsame]
  cases t.lastBlock? name with
  | none => exact .none
  | some last => exact .some (.unplaced (Node.map_unplaced_shift origin last))

theorem sameFrame_refl (base : Template) : base.SameFrame base := ⟨rfl, rfl⟩

theorem noBlock_of_mem_trimmed {source : Text} (h : ofSource source = .ok t) :
    ∀ node ∈ t.trimmed.flatten, node.NoBlock := by
  intro node hnode
  rw [trimmed, flatten_mapBlocks] at hnode
  obtain ⟨top, htop, hnode⟩ := List.mem_flatMap.mp hnode
  have hfits := fitsTop_of_mem_body h top htop
  cases top with
  | block position name body =>
    have hbody : ∀ node ∈ Node.trim body, node.FitsBlock := Node.fitsBlock_of_mem_trim hfits
    exact .of_fitsBlock (hbody node hnode)
  | text | slot | loop =>
    obtain rfl := List.mem_singleton.mp hnode
    exact .of_fitsBlock hfits

end Template

namespace Engine

variable {e : Engine} {p : Page} {base : Template} {w : Workspace}

/-- Pages with the same nodes but for positions, one of them filled into its parent. -/
theorem Extends.sameOutcome (h : e.Extends w p base) {page : Page} {w' : Workspace}
    (hnone : page.template.parent = none) (hfits : ∀ node ∈ page.template.flatten, node.FitsBlock)
    (hnodes : (base.fill p.template.fillings).map Node.unplaced =
      page.template.flatten.map Node.unplaced) (a : Arguments) :
    SameOutcome (e.renderPage p a w).1 (e.renderPage page a w').1 := by
  obtain ⟨v, hfilled⟩ := h.exists_nodes
  exact sameOutcome_of_nodes hfilled (nodes_of_none hnone) h.fitsBlock hfits rfl hnodes a

end Engine

namespace Template

/-- How filling and opening up the blocks of a template, which was read from the source, agree. -/
structure Refills (source : Text) (t : Template) : Prop where
  /-- Of several blocks of a name the last one counts. -/
  last : t.fill t.fillings = t.lastTrimmed.flatten
  own : t.blockNames.Nodup → t.fill t.fillings = t.trimmed.flatten
  noBlock : ∀ node ∈ t.fill t.fillings, node.NoBlock
  noBlock_flatten : ∀ node ∈ t.flatten ++ t.trimmed.flatten, node.NoBlock
  /-- The source behind a tag that names it is rendered as the source. -/
  rendered : t.blockNames.Nodup → t.Solid → ∀ (e : Engine) (w w' : Workspace)
    (base : Draft.BaseName) (name name' : Option Text) (a : Arguments),
    (e.load base.text w).1 = .ok source → ∃ child page,
      Page.ofSource ((Draft.parentTag base).raw ++ source) name = .ok child ∧
      Page.ofSource source name' = .ok page ∧
      SameOutcome (e.renderPage child a w).1 (e.renderPage page a w').1

/-- Whatever template is read, if it names no parent, its blocks are filled with themselves as they
are opened up. -/
theorem refills_of_ofSource {source : Text} {t : Template} (h : ofSource source = .ok t)
    (hnone : t.parent = none) : Refills source t where
  last := fill_fillings hnone
  own := by
    intro hnodup
    rw [fill_fillings hnone, lastTrimmed_of_nodup hnodup]
  noBlock := by
    intro node hnode
    exact .of_fitsBlock (fitsBlock_of_mem_fill h h node hnode)
  noBlock_flatten := by
    intro node hnode
    rcases List.mem_append.mp hnode with hflat | htrimmed
    · exact .of_fitsBlock (fitsBlock_of_mem_flatten h node hflat)
    · exact noBlock_of_mem_trimmed h node htrimmed
  rendered := by
    intro hnodup hsolid e w w' base name name' a hload
    have hchild := Page.ofSource_eq_ok (ofSource_behind base h hnone) name
    have hpage := Page.ofSource_eq_ok h name'
    refine ⟨_, _, hchild, hpage, ?_⟩
    have hextends : e.Extends w _ t := ⟨⟨_, name, hchild⟩, _, source, rfl, hload, h⟩
    apply hextends.sameOutcome hnone (fitsBlock_of_mem_flatten h)
    rw [unplaced_fill_congr t.sameFrame_refl (giveAlike_shift t _ _), fill_fillings hnone,
      lastTrimmed_of_nodup hnodup, hsolid.trimmed_eq h]

/-- A source with two blocks, in one of which stands a loop. -/
def blocksSource : Text :=
  "<\x7b% block a %\x7d\x7b\x7bn\x7d\x7d,\x7b% endblock %\x7d\n" ++
  "\x7b% block b %\x7d\x7b% for r in rs %\x7d \x7b\x7br.a\x7d\x7d\x7b% endfor %\x7d" ++
  "\x7b% endblock %\x7d>"

/-- The template of this source. -/
def blocksTemplate : Template :=
  ⟨none, [.text ⟨1, 0⟩ "<",
    .block ⟨1, 1⟩ "a" [.slot ⟨1, 14⟩ ⟨"n", none⟩ "\x7b\x7bn\x7d\x7d", .text ⟨1, 19⟩ ","],
    .text ⟨1, 34⟩ "\n",
    .block ⟨2, 0⟩ "b" [.loop ⟨2, 13⟩ "r" "rs" "\x7b% for r in rs %\x7d"
      [.text ⟨2, 30⟩ " ", .slot ⟨2, 31⟩ ⟨"r", some "a"⟩ "\x7b\x7br.a\x7d\x7d"]],
    .text ⟨2, 64⟩ ">"]⟩

theorem solid_blocksTemplate : blocksTemplate.Solid := by
  intro position name body hblock
  have hbody : body = [.slot ⟨1, 14⟩ ⟨"n", none⟩ "\x7b\x7bn\x7d\x7d", .text ⟨1, 19⟩ ","] ∨
      body = [.loop ⟨2, 13⟩ "r" "rs" "\x7b% for r in rs %\x7d"
        [.text ⟨2, 30⟩ " ", .slot ⟨2, 31⟩ ⟨"r", some "a"⟩ "\x7b\x7br.a\x7d\x7d"]] := by
    simp only [blocksTemplate, List.mem_cons, List.not_mem_nil, or_false, reduceCtorEq,
      Node.block.injEq, false_or] at hblock
    rcases hblock with ⟨-, -, hbody⟩ | ⟨-, -, hbody⟩
    · exact .inl hbody
    · exact .inr hbody
  have hcomma : ∀ c ∈ (",": Text).getLast?, Text.isSpace c = false := by decide +kernel
  rcases hbody with rfl | rfl
  · refine ⟨by simp, ?_⟩
    intro position' value hlast
    obtain ⟨-, rfl⟩ : _ ∧ "," = value := by simpa using hlast
    exact hcomma
  · constructor <;> simp

/-- What is rendered behind the tag of the template and what is rendered without it. -/
theorem refills_blocksTemplate :
    ofSource blocksSource = .ok blocksTemplate ∧ blocksTemplate.parent = none ∧
    Refills blocksSource blocksTemplate ∧ blocksTemplate.blockNames.Nodup ∧ blocksTemplate.Solid ∧
    ((Engine.mk (some (.mapping "store")) true Engine.defaultFallback).load "b"
      (Engine.workspaceWith blocksSource)).1 = .ok blocksSource := by
  have hread : ofSource blocksSource = .ok blocksTemplate := by decide +kernel
  exact ⟨hread, rfl, refills_of_ofSource hread rfl, by decide +kernel, solid_blocksTemplate,
    by decide +kernel⟩

end Template

end Stencil
