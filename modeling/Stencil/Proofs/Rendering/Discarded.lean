import Stencil.Proofs.Rendering.Blame
import Stencil.Proofs.Rendering.Pages
import Stencil.Proofs.Rendering.Trim
import Stencil.Proofs.Rendering.Unplaced

/-! What is discarded when a template is filled into its parent. Of the template only the last block
of each name counts that the parent declares, and its body without the white space at the ends. Of
the parent all counts but what stands in its blocks. Whatever the rest holds, the text is the same,
or the fault of the error, and no loop or slot of the rest is to blame for an error. -/
namespace Stencil

theorem Text.trimStart_of_isSpace {gap : Text} (h : ∀ c ∈ gap, isSpace c = true) :
    gap.trimStart = [] := List.dropWhile_eq_nil_iff.mpr h

theorem Text.trimEnd_of_isSpace {gap : Text} (h : ∀ c ∈ gap, isSpace c = true) :
    gap.trimEnd = [] := by
  rw [trimEnd, List.reverse_eq_nil_iff, List.dropWhile_eq_nil_iff]
  exact fun c hc => h c (List.mem_reverse.mp hc)

namespace Node

/-- Bodies that differ in nothing but positions and the white space at their two ends. -/
inductive EndsAlike : List Node → List Node → Prop
  | unplaced {body body' : List Node} (h : body.map Node.unplaced = body'.map Node.unplaced) :
      EndsAlike body body'
  /-- White space in front of the first text. -/
  | front (position : Position) {gap : Text} (hgap : ∀ c ∈ gap, Text.isSpace c = true)
      (value : Text) (body : List Node) :
      EndsAlike (.text position (gap ++ value) :: body) (.text position value :: body)
  /-- A first text of white space. -/
  | frontText (position : Position) {gap : Text} (hgap : ∀ c ∈ gap, Text.isSpace c = true)
      (body : List Node) : EndsAlike (.text position gap :: body) body
  /-- White space behind the last text. -/
  | back (position : Position) {gap : Text} (hgap : ∀ c ∈ gap, Text.isSpace c = true)
      (value : Text) (body : List Node) :
      EndsAlike (body ++ [.text position (value ++ gap)]) (body ++ [.text position value])
  /-- A last text of white space. -/
  | backText (position : Position) {gap : Text} (hgap : ∀ c ∈ gap, Text.isSpace c = true)
      (body : List Node) : EndsAlike (body ++ [.text position gap]) body
  | symm {body body' : List Node} (h : EndsAlike body body') : EndsAlike body' body
  | trans {body body' body'' : List Node} (h : EndsAlike body body') (h' : EndsAlike body' body'') :
      EndsAlike body body''

/-! Trimming. -/

variable {position : Position} {gap value : Text} {body body' : List Node}

theorem trimStart_front (hgap : ∀ c ∈ gap, Text.isSpace c = true) :
    trimStart (.text position (gap ++ value) :: body) =
      trimStart (.text position value :: body) := by
  rw [trimStart_text, trimStart_text, Text.trimStart_append,
    if_pos (Text.trimStart_of_isSpace hgap)]

theorem trimEnd_back (body : List Node) (hgap : ∀ c ∈ gap, Text.isSpace c = true) :
    trimEnd (body ++ [.text position (value ++ gap)]) =
      trimEnd (body ++ [.text position value]) := by
  rw [trimEnd_snoc_text, trimEnd_snoc_text, Text.trimEnd_append,
    if_pos (Text.trimEnd_of_isSpace hgap)]

theorem trimEnd_backText (hgap : ∀ c ∈ gap, Text.isSpace c = true) :
    trimEnd (body ++ [.text position gap]) = trimEnd body := by
  rw [trimEnd_snoc_text, if_pos (Text.trimEnd_of_isSpace hgap)]

/-- What is trimmed from the front may be all there is before the last text. -/
theorem trim_back (hgap : ∀ c ∈ gap, Text.isSpace c = true) :
    trim (body ++ [.text position (value ++ gap)]) = trim (body ++ [.text position value]) := by
  rw [trim, trim, trimStart_append, trimStart_append]
  by_cases hbody : trimStart body = []
  · rw [if_pos hbody, if_pos hbody, trimStart_text, trimStart_text, Text.trimStart_append,
      Text.trimStart_of_isSpace hgap]
    by_cases hvalue : value.trimStart = []
    · rw [if_pos hvalue, if_pos hvalue]
      rfl
    · have hne : value.trimStart ++ gap ≠ [] := List.append_ne_nil_of_left_ne_nil hvalue gap
      rw [if_neg hvalue, if_neg hne, if_neg hvalue]
      exact trimEnd_back [] hgap
  · rw [if_neg hbody, if_neg hbody]
    exact trimEnd_back _ hgap

theorem trim_backText (hgap : ∀ c ∈ gap, Text.isSpace c = true) :
    trim (body ++ [.text position gap]) = trim body := by
  rw [trim, trim, trimStart_append]
  by_cases hbody : trimStart body = []
  · rw [if_pos hbody, hbody, trimStart_text, if_pos (Text.trimStart_of_isSpace hgap)]
    rfl
  · rw [if_neg hbody]
    exact trimEnd_backText hgap

theorem cutFront_unplaced (cut : Text → Text) (nodes : List Node) :
    cutFront cut (nodes.map unplaced) = (cutFront cut nodes).map unplaced := by
  induction nodes with
  | nil => rfl
  | cons node nodes ih =>
    cases node with
    | slot | loop | block => rfl
    | text position value =>
      rw [List.map_cons, unplaced, cutFront_text, cutFront_text, ih]
      split <;> rfl

theorem trim_unplaced (nodes : List Node) :
    trim (nodes.map unplaced) = (trim nodes).map unplaced := by
  rw [trim, trim, trimEnd_eq, trimEnd_eq, trimStart_eq, trimStart_eq, cutFront_unplaced,
    ← List.map_reverse, cutFront_unplaced, List.map_reverse]

/-- Trimming leaves no difference but positions. -/
theorem EndsAlike.unplaced_trim (h : EndsAlike body body') :
    (trim body).map Node.unplaced = (trim body').map Node.unplaced := by
  induction h with
  | unplaced h => rw [← trim_unplaced, ← trim_unplaced, h]
  | front position hgap value body => rw [trim, trim, trimStart_front hgap]
  | frontText position hgap body =>
    rw [trim, trim, trimStart_text, if_pos (Text.trimStart_of_isSpace hgap)]
  | back position hgap value body => rw [trim_back hgap]
  | backText position hgap body => rw [trim_backText hgap]
  | symm _ ih => exact ih.symm
  | trans _ _ ih ih' => exact ih.trans ih'

theorem EndsAlike.unplaced_getD {last? last'? : Option (List Node)}
    (h : Option.Rel EndsAlike last? last'?) : ((last?.map trim).getD []).map Node.unplaced =
      ((last'?.map trim).getD []).map Node.unplaced := by
  cases h with
  | none => rfl
  | some h => exact h.unplaced_trim

/-- The node with its position forgotten, and without what it holds if it is a block. -/
def hollow : Node → Node
  | .block _ name _ => .block .start name []
  | node => node.unplaced

end Node

namespace Template

/-- Parents that differ in nothing but positions and what stands in their blocks. -/
structure SameFrame (base base' : Template) : Prop where
  parent : base.parent.map Parent.raw = base'.parent.map Parent.raw
  body : base.body.map Node.hollow = base'.body.map Node.hollow

/-- Templates that give `base` the same blocks, up to positions and the white space at the ends of
blocks. What stands outside blocks, blocks that `base` does not declare, all blocks of a name but
the last and the order of blocks with different names may differ. -/
def GiveAlike (base t t' : Template) : Prop :=
  ∀ name ∈ base.blockNames, Option.Rel Node.EndsAlike (t.lastBlock? name) (t'.lastBlock? name)

/-- A node that is not discarded when `t` fills in `base`. -/
inductive Retains (base t : Template) : Node → Prop
  | outside {node : Node} (hnode : node ∈ base.body)
      (hother : ∀ position name body, node ≠ .block position name body) : Retains base t node
  | inside {name : Text} {body : List Node} {node : Node} (hname : name ∈ base.blockNames)
      (hlast : t.lastBlock? name = some body) (hnode : node ∈ body) : Retains base t node

variable {base base' t t' : Template}

/-- What takes the place of a node of the parent, with positions forgotten. -/
def placed (t : Template) : Node → List Node
  | .block _ name _ => (((t.lastBlock? name).map Node.trim).getD []).map Node.unplaced
  | node => [node]

theorem mem_blockNames {position : Position} {name : Text} {body : List Node}
    (h : .block position name body ∈ base.body) : name ∈ base.blockNames :=
  List.mem_filterMap.mpr ⟨_, h, rfl⟩

theorem unplaced_fill (base t : Template) : (base.fill t.fillings).map Node.unplaced =
    (base.parent.map Parent.raw).toList.map (.text .start) ++
      (base.body.map Node.hollow).flatMap t.placed := by
  rw [fill, List.map_append, List.map_flatMap, List.flatMap_map]
  congr 1
  · cases base.parent <;> rfl
  · refine List.flatMap_congr fun node _ => ?_
    cases node with
    | text | slot | loop => rfl
    | block position name body =>
      dsimp only
      rw [get?_fillings]
      rfl

theorem unplaced_fill_congr (hbase : SameFrame base base') (h : GiveAlike base t t') :
    (base.fill t.fillings).map Node.unplaced = (base'.fill t'.fillings).map Node.unplaced := by
  rw [unplaced_fill, unplaced_fill, ← hbase.parent, ← hbase.body, List.flatMap_map,
    List.flatMap_map]
  congr 1
  refine List.flatMap_congr fun node hnode => ?_
  cases node with
  | text | slot | loop => rfl
  | block position name body => exact Node.EndsAlike.unplaced_getD (h name (mem_blockNames hnode))

/-- The loops and slots of a node are those of nodes that are kept. -/
def RetainsEntries (base t : Template) (node : Node) : Prop := ∀ entry ∈ node.entries,
  entry.directive?.isSome → ∃ kept, base.Retains t kept ∧ entry ∈ kept.entries

theorem retainsEntries_text (position : Position) (value : Text) :
    base.RetainsEntries t (.text position value) := by
  intro entry hentry hsome
  rw [List.mem_singleton.mp hentry] at hsome
  cases hsome

theorem retainsEntries_of_mem_fill : ∀ node ∈ base.fill t.fillings, base.RetainsEntries t node := by
  intro node hnode
  obtain hnode | hnode := List.mem_append.mp hnode
  · obtain ⟨parent, -, rfl⟩ := List.mem_map.mp hnode
    exact retainsEntries_text parent.position parent.raw
  · obtain ⟨top, htop, hnode⟩ := List.mem_flatMap.mp hnode
    cases top with
    | text | slot | loop =>
      obtain rfl := List.mem_singleton.mp hnode
      exact fun entry hentry _ => ⟨_, .outside htop nofun, hentry⟩
    | block position name body =>
      dsimp only at hnode
      rw [get?_fillings] at hnode
      cases hlast : t.lastBlock? name with
      | none =>
        rw [hlast] at hnode
        cases hnode
      | some last =>
        rw [hlast] at hnode
        refine Node.forall_mem_trim (P := base.RetainsEntries t)
          (fun _ _ => retainsEntries_text _ _) (fun node hnode entry hentry _ => ?_) node hnode
        exact ⟨node, .inside (mem_blockNames htop) hlast hnode, hentry⟩

end Template

/-- The same text, or errors of one kind about the same variable or collection. -/
inductive SameOutcome : Except Failure Text → Except Failure Text → Prop
  | text (t : Text) : SameOutcome (.ok t) (.ok t)
  | fault {error error' : RenderError} (h : error.fault = error'.fault) :
      SameOutcome (.error (.template (.rendering error))) (.error (.template (.rendering error')))
  /-- What is passed cannot be passed or has no text. -/
  | arguments {f : Failure} (h : ∀ error, f ≠ .template error) : SameOutcome (.error f) (.error f)

theorem Meaning.sameOutcome_of_bare {m m' : Meaning} (h : m.bare = m'.bare) :
    SameOutcome m.result m'.result := by
  cases m with
  | text t =>
    cases m' with
    | text t' => exact text.inj h ▸ .text t
    | unresolved _ | unrepeatable _ => cases h
  | unresolved error =>
    cases m' with
    | unresolved error' => exact .fault (RenderError.mk.inj (unresolved.inj h)).1
    | text _ | unrepeatable _ => cases h
  | unrepeatable error =>
    cases m' with
    | unrepeatable error' => exact .fault (RenderError.mk.inj (unrepeatable.inj h)).1
    | text _ | unresolved _ => cases h

namespace Engine

/-- An engine finds the parent of a page, and both were read from sources. -/
structure Extends (e : Engine) (w : Workspace) (p : Page) (base : Template) : Prop where
  page : ∃ source name, Page.ofSource source name = .ok p
  base : ∃ parent source, p.template.parent = some parent ∧
    (e.load parent.base w).1 = .ok source ∧ Template.ofSource source = .ok base

variable {e e' : Engine} {p p' : Page} {base base' : Template} {w w' : Workspace}

namespace Extends

theorem fitsBlock (h : e.Extends w p base) :
    ∀ node ∈ base.fill p.template.fillings, node.FitsBlock := by
  obtain ⟨⟨source, name, hpage⟩, parent, baseSource, -, -, hbase⟩ := h
  exact Template.fitsBlock_of_mem_fill (Page.template_of_ofSource hpage).1 hbase

theorem exists_nodes (h : e.Extends w p base) :
    ∃ w', e.nodes p w = (.ok (base.fill p.template.fillings), w') := by
  obtain ⟨-, parent, source, hparent, hload, hbase⟩ := h
  obtain ⟨w', hpage⟩ := exists_page hload (Page.ofSource_eq_ok hbase (some parent.base))
  exact ⟨w', Engine.exists_nodes hparent hpage⟩

/-- What an error of rendering tells of is kept. -/
theorem exists_retains (h : e.Extends w p base) {a : Arguments} {error : RenderError}
    (herror : (e.renderPage p a w).1 = .error (.template (.rendering error))) :
    ∃ kept, base.Retains p.template kept ∧ ∃ entry ∈ kept.entries, error.Blames entry := by
  obtain ⟨w', hnodes⟩ := h.exists_nodes
  rw [renderPage_eq (namesSelf_of_renderPage herror), bind_eq hnodes] at herror
  obtain ⟨-, node, hnode, entry, hentry, hblames⟩ := exists_blames_of_finish h.fitsBlock herror
  obtain ⟨kept, hkept, hmem⟩ :=
    Template.retainsEntries_of_mem_fill node hnode entry hentry hblames.isSome_directive?
  exact ⟨kept, hkept, entry, hmem, hblames⟩

end Extends

/-- Pages of which the same nodes are rendered, but for positions. -/
theorem sameOutcome_of_nodes {nodes nodes' : List Node} {v v' : Workspace}
    (h : e.nodes p w = (.ok nodes, v)) (h' : e'.nodes p' w' = (.ok nodes', v'))
    (hfits : ∀ node ∈ nodes, node.FitsBlock) (hfits' : ∀ node ∈ nodes', node.FitsBlock)
    (hstrict : e.strict = e'.strict)
    (hsame : nodes.map Node.unplaced = nodes'.map Node.unplaced) (a : Arguments) :
    SameOutcome (e.renderPage p a w).1 (e'.renderPage p' a w').1 := by
  cases hself : a.namesSelf with
  | true =>
    rw [renderPage_of_namesSelf hself, renderPage_of_namesSelf hself]
    exact .arguments fun _ => Failure.noConfusion
  | false =>
    rw [renderPage_eq hself, renderPage_eq hself, bind_eq h, bind_eq h']
    cases hbindings : a.bindings with
    | error f =>
      rw [finish_eq_error hbindings, finish_eq_error hbindings]
      exact .arguments (Arguments.bindings_ne_template hbindings)
    | ok b =>
      rw [finish_fst hbindings, finish_fst hbindings, (Node.renders_nodes hfits).render_eq,
        (Node.renders_nodes hfits').render_eq]
      have hscene : (Scene.among b e.strict p.name).bare =
          (Scene.among b e'.strict p'.name).bare := by
        rw [hstrict]
        rfl
      exact Meaning.sameOutcome_of_bare (Scene.bare_nodes_congr hscene hsame none)

/-- What is discarded has no effect: pages that fill in alike what their parents have in common are
rendered alike, and no error tells of anything else. -/
theorem sameOutcome_of_giveAlike (h : e.Extends w p base) (h' : e'.Extends w' p' base')
    (hstrict : e.strict = e'.strict) (hbase : base.SameFrame base')
    (hgive : base.GiveAlike p.template p'.template) (a : Arguments) :
    SameOutcome (e.renderPage p a w).1 (e'.renderPage p' a w').1 ∧
      ∀ error, (e.renderPage p a w).1 = .error (.template (.rendering error)) →
        ∃ kept, base.Retains p.template kept ∧ ∃ entry ∈ kept.entries, error.Blames entry := by
  refine ⟨?_, fun error => h.exists_retains⟩
  obtain ⟨v, hnodes⟩ := h.exists_nodes
  obtain ⟨v', hnodes'⟩ := h'.exists_nodes
  exact sameOutcome_of_nodes hnodes hnodes' h.fitsBlock h'.fitsBlock hstrict
    (Template.unplaced_fill_congr hbase hgive) a

/-- A child that gives its parent the block `x` twice, a block that the parent does not declare, and
a slot and a loop outside of blocks. -/
def wastefulSource : Text :=
  "\x7b% extends \"b\" %\x7d\x7b\x7b lost \x7d\x7d\x7b% for r in gone %\x7d\x7b% endfor %\x7d" ++
  "\x7b% block x %\x7d\x7b\x7b old \x7d\x7d\x7b% endblock %\x7d" ++
  "\x7b% block y %\x7d\x7b\x7b lost \x7d\x7d\x7b% endblock %\x7d" ++
  "\x7b% block x %\x7d \x7b\x7b n \x7d\x7d\n\x7b% endblock %\x7d"

/-- A child with nothing to discard. -/
def frugalSource : Text :=
  "\x7b% extends \"b\" %\x7d\x7b% block x %\x7d\x7b\x7b n \x7d\x7d\x7b% endblock %\x7d"

/-- A parent whose block holds a slot. -/
def heldSource : Text := "<\x7b% block x %\x7d\x7b\x7b lost \x7d\x7d\x7b% endblock %\x7d>"

def hollowSource : Text := "<\x7b% block x %\x7d\x7b% endblock %\x7d>"

/-- The template of a source that is well-formed. -/
def templateOf (source : Text) : Template := (Template.ofSource source).toOption.getD ⟨none, []⟩

theorem ofSource_eq_ok_templateOf (source : Text) (h : (Template.ofSource source).isOk = true) :
    Template.ofSource source = .ok (templateOf source) := by
  rw [templateOf]
  cases hread : Template.ofSource source with
  | error fault =>
    rw [hread] at h
    cases h
  | ok t => rfl

/-- A workspace with one template in its store. -/
def workspaceWith (baseSource : Text) : Workspace :=
  ⟨⟨default, Table.ofList [("store", Table.ofList [("b", baseSource)])], Table.empty⟩, Cache.empty,
    []⟩

theorem extends_workspaceWith {source baseSource : Text}
    (hread : Template.ofSource source = .ok (templateOf source))
    (hbase : Template.ofSource baseSource = .ok (templateOf baseSource))
    (hname : (templateOf source).baseName = some "b") (strict : Bool) :
    Extends ⟨some (.mapping "store"), strict, defaultFallback⟩ (workspaceWith baseSource)
      ⟨none, source, templateOf source⟩ (templateOf baseSource) := by
  obtain ⟨parent, hparent, hb⟩ := Option.map_eq_some_iff.mp hname
  refine ⟨⟨source, none, Page.ofSource_eq_ok hread none⟩, parent, baseSource, hparent, ?_, hbase⟩
  rw [hb]
  rfl

/-- What is lost and gone is discarded, also where rendering is strict. -/
theorem sameOutcome_wastefulSource :
    let e : Engine := ⟨some (.mapping "store"), true, defaultFallback⟩
    let a : Arguments := ⟨[], [("n", .text "1")]⟩
    ∃ p p', Page.ofSource wastefulSource none = .ok p ∧ Page.ofSource frugalSource none = .ok p' ∧
      SameOutcome (e.renderPage p a (workspaceWith heldSource)).1
        (e.renderPage p' a (workspaceWith hollowSource)).1 ∧
      (e.renderPage p a (workspaceWith heldSource)).1 = .ok "<1>" := by
  intro e a
  have hread := ofSource_eq_ok_templateOf wastefulSource (by decide +kernel)
  have hread' := ofSource_eq_ok_templateOf frugalSource (by decide +kernel)
  have hends : Option.Rel Node.EndsAlike ((templateOf wastefulSource).lastBlock? "x")
      ((templateOf frugalSource).lastBlock? "x") := by
    have hlast : (templateOf wastefulSource).lastBlock? "x" = some ([.text ⟨1, 144⟩ " "] ++
        [.slot ⟨1, 145⟩ ⟨"n", none⟩ "\x7b\x7b n \x7d\x7d"] ++ [.text ⟨1, 152⟩ "\n"]) := by
      decide +kernel
    have hlast' : (templateOf frugalSource).lastBlock? "x" = some
        [.slot ⟨1, 30⟩ ⟨"n", none⟩ "\x7b\x7b n \x7d\x7d"] := by
      decide +kernel
    rw [hlast, hlast']
    have hspace : ∀ c ∈ (" " : Text), Text.isSpace c = true := by decide +kernel
    have hfeed : ∀ c ∈ ("\n" : Text), Text.isSpace c = true := by decide +kernel
    exact .some (((Node.EndsAlike.backText _ hfeed _).trans (.frontText _ hspace _)).trans
      (.unplaced rfl))
  have hgive : (templateOf heldSource).GiveAlike (templateOf wastefulSource)
      (templateOf frugalSource) := by
    intro name hname
    have hnames : (templateOf heldSource).blockNames = [("x" : Text)] := by decide +kernel
    rw [hnames, List.mem_singleton] at hname
    exact hname ▸ hends
  have hbase := ofSource_eq_ok_templateOf heldSource (by decide +kernel)
  have hbase' := ofSource_eq_ok_templateOf hollowSource (by decide +kernel)
  have hextends := extends_workspaceWith hread hbase (by decide +kernel) true
  have hextends' := extends_workspaceWith hread' hbase' (by decide +kernel) true
  exact ⟨_, _, Page.ofSource_eq_ok hread none, Page.ofSource_eq_ok hread' none,
    (sameOutcome_of_giveAlike hextends hextends' rfl ⟨by decide +kernel, by decide +kernel⟩ hgive
      a).1, by decide +kernel⟩

end Engine

end Stencil
