import Stencil.Proofs.Inheritance
import Stencil.Proofs.Rendering.Meaning
import Stencil.Proofs.Results
import Stencil.Proofs.Table
import Stencil.Proofs.Template.Linearisation

/-! Rendering in steps gives what the page means. The steps keep apart what fails when loops are
repeated and what fails when nodes are written; a meaning tells the two apart as well, so nodes can
be followed through both steps one after the other. -/
namespace Stencil

/-- What the two steps of rendering make of nodes that mean this. -/
def Meaning.staged : Meaning → Except TemplateError (Except Failure Text)
  | text t => .ok (.ok t)
  | unresolved e => .ok (.error (.template (.rendering e)))
  | unrepeatable e => .error (.rendering e)

/-- What is said of no nodes and kept when nodes are put together is said of any number of them. -/
theorem Meaning.all_of_forall {α : Type} {P : List Node → Meaning → Prop} (nil : P [] (.text []))
    (append : ∀ {nodes nodes' m m'}, P nodes m → P nodes' m' →
      P (nodes ++ nodes') (m.followedBy m'))
    {f : α → List Node} {meaning : α → Meaning} {as : List α}
    (h : ∀ a ∈ as, P (f a) (meaning a)) : P (as.flatMap f) (.all (as.map meaning)) := by
  induction as with
  | nil => exact nil
  | cons a as ih =>
    rw [List.flatMap_cons]
    exact append (h a List.mem_cons_self) (ih fun b hb => h b (List.mem_cons_of_mem a hb))

/-- The scene that bindings make. -/
def Scene.among (bindings : Bindings) (strict : Bool) (template : Option Text) : Scene :=
  ⟨template, strict, bindings.get?, bindings.keys⟩

theorem Scene.binding?_among (bindings : Bindings) (strict : Bool) (template : Option Text) :
    (among bindings strict template).binding? = bindings.get? := rfl

namespace Node

variable {bindings : Bindings} {strict : Bool} {template : Option Text}
variable {node : Node} {nodes nodes' : List Node} {m m' : Meaning}

theorem unrollAll_append : unrollAll bindings template (nodes ++ nodes') = (do
    let unrolled ← unrollAll bindings template nodes
    let unrolled' ← unrollAll bindings template nodes'
    return unrolled ++ unrolled') := flatten_mapM_append _ nodes nodes'

theorem unrollAll_singleton : unrollAll bindings template [node] = unroll bindings template node :=
  flatten_mapM_singleton _ node

theorem writeAll_append : writeAll bindings strict template (nodes ++ nodes') = (do
    let t ← writeAll bindings strict template nodes
    let t' ← writeAll bindings strict template nodes'
    return t ++ t') := flatten_mapM_append _ nodes nodes'

theorem writeAll_singleton :
    writeAll bindings strict template [node] = write bindings strict template node :=
  flatten_mapM_singleton _ node

variable (bindings strict template)

/-- Nodes with all loops repeated are written as a meaning says. -/
def Writes (nodes : List Node) (m : Meaning) : Prop :=
  m.staged = .ok (writeAll bindings strict template nodes)

/-- Nodes are rendered as a meaning says. -/
def Renders (nodes : List Node) (m : Meaning) : Prop :=
  m.staged = (unrollAll bindings template nodes).map (writeAll bindings strict template)

variable {bindings strict template}

theorem writes_nil : Writes bindings strict template [] (.text []) := rfl

theorem Writes.append (h : Writes bindings strict template nodes m)
    (h' : Writes bindings strict template nodes' m') :
    Writes bindings strict template (nodes ++ nodes') (m.followedBy m') := by
  rw [Writes] at h h' ⊢
  rw [writeAll_append]
  cases m with
  | unrepeatable e => cases h
  | text t =>
    rw [← Except.ok.inj h]
    cases m' with
    | unrepeatable e => cases h'
    | text t' | unresolved e => rw [← Except.ok.inj h']; rfl
  | unresolved e =>
    rw [← Except.ok.inj h]
    cases m' with
    | unrepeatable e => cases h'
    | text t' | unresolved e => rfl

theorem Writes.renders (h : Writes bindings strict template nodes' m)
    (hunrolled : unrollAll bindings template nodes = .ok nodes') :
    Renders bindings strict template nodes m := by
  rw [Renders, hunrolled]
  exact h

theorem renders_nil : Renders bindings strict template [] (.text []) := rfl

theorem Renders.append (h : Renders bindings strict template nodes m)
    (h' : Renders bindings strict template nodes' m') :
    Renders bindings strict template (nodes ++ nodes') (m.followedBy m') := by
  rw [Renders] at h h' ⊢
  rw [unrollAll_append]
  cases hunrolled : unrollAll bindings template nodes with
  | error e =>
    rw [hunrolled] at h
    cases m with
    | text t | unresolved e' => cases h
    | unrepeatable e' => exact h
  | ok unrolled =>
    rw [hunrolled] at h
    cases hunrolled' : unrollAll bindings template nodes' with
    | error e =>
      rw [hunrolled'] at h'
      cases m' with
      | text t | unresolved e' => cases h'
      | unrepeatable e' =>
        cases m with
        | unrepeatable e'' => cases h
        | text t | unresolved e'' => exact h'
    | ok unrolled' =>
      rw [hunrolled'] at h'
      exact Writes.append h h'

/-- Both steps of rendering together. -/
theorem Renders.render_eq (h : Renders bindings strict template nodes m) :
    render bindings strict template nodes = m.result := by
  rw [Renders] at h
  rw [render]
  cases hunrolled : unrollAll bindings template nodes with
  | error e =>
    rw [hunrolled] at h
    cases m with
    | text t | unresolved e' => cases h
    | unrepeatable e' =>
      cases h
      rfl
  | ok unrolled =>
    rw [hunrolled] at h
    replace h : m.staged = .ok (writeAll bindings strict template unrolled) := h
    show writeAll bindings strict template unrolled = m.result
    cases m with
    | unrepeatable e => cases h
    | text t | unresolved e => exact (Except.ok.inj h).symm

theorem nodes_eq_all (s : Scene) (current? : Option (Text × Record)) (nodes : List Node) :
    s.nodes current? nodes = .all (nodes.map (s.node current?)) := by
  induction nodes with
  | nil => rfl
  | cons node nodes ih =>
    rw [Scene.nodes, ih]
    rfl

theorem writes_text (position : Position) (value : Text) :
    Writes bindings strict template [.text position value] (.text value) := by
  rw [Writes, writeAll_singleton]
  rfl

theorem writes_unbound {position : Position} {reference : Reference} {raw : Text}
    (h : ∀ value, reference.attr = none → bindings.get? reference.name ≠ some (.scalar value)) :
    Writes bindings strict template [.slot position reference raw]
      ((Scene.among bindings strict template).unbound position reference raw) := by
  rw [Writes, writeAll_singleton, write]
  split
  · rename_i value hattr hvalue
    exact absurd hvalue (h value hattr)
  · cases strict <;> rfl

theorem writes_slot (position : Position) (reference : Reference) (raw : Text) :
    Writes bindings strict template [.slot position reference raw]
      ((Scene.among bindings strict template).slot none position reference raw) := by
  obtain ⟨name, attr?⟩ := reference
  cases attr? with
  | some attr => exact writes_unbound nofun
  | none =>
    unfold Scene.slot
    rw [Scene.binding?_among]
    cases hvalue : bindings.get? name with
    | none =>
      refine writes_unbound fun value _ hscalar => ?_
      cases hvalue.symm.trans hscalar
    | some b =>
      cases b with
      | records rs =>
        refine writes_unbound fun value _ hscalar => ?_
        cases hvalue.symm.trans hscalar
      | scalar value =>
        rw [Writes, writeAll_singleton, write, hvalue]
        rfl

/-- Within a loop a leaf is written with the current record. -/
theorem writes_bindRecord (h : node.IsLeaf) (item : Text) (record : Record) :
    Writes bindings strict template [bindRecord item record node]
      ((Scene.among bindings strict template).node (some (item, record)) node) := by
  cases node with
  | text position value => exact writes_text position value
  | loop | block => cases h
  | slot position reference raw =>
    obtain ⟨name, attr?⟩ := reference
    have houtside : Writes bindings strict template [.slot position ⟨name, attr?⟩ raw]
        ((Scene.among bindings strict template).slot none position ⟨name, attr?⟩ raw) :=
      writes_slot position ⟨name, attr?⟩ raw
    cases attr? with
    | none => exact houtside
    | some attr =>
      have hattr : nonempty? (some attr) = some attr := by
        have hne : attr ≠ [] := fun heq => h (congrArg some heq)
        exact Option.filter_eq_some_iff.mpr ⟨rfl, decide_eq_true hne⟩
      simp only [bindRecord, hattr, Scene.node, Scene.slot]
      by_cases hitem : name = item
      · rw [if_pos hitem, if_pos hitem]
        exact writes_text position _
      · rw [if_neg hitem, if_neg hitem]
        exact houtside

/-- One of the nodes that are left when blocks are opened up. -/
theorem renders_node (h : node.FitsBlock) : Renders bindings strict template [node]
    ((Scene.among bindings strict template).node none node) := by
  cases node with
  | text position value => exact (writes_text position value).renders unrollAll_singleton
  | slot position reference raw =>
    exact (writes_slot position reference raw).renders unrollAll_singleton
  | block => cases h
  | loop position item collection raw body =>
    obtain ⟨hraw, hbody⟩ := h
    rw [Renders, unrollAll_singleton, unroll, loopExpression, if_neg hraw, Scene.node,
      Scene.binding?_among]
    cases bindings.get? collection with
    | none => rfl
    | some b =>
      cases b with
      | scalar value => rfl
      | records rs =>
        refine Meaning.all_of_forall (P := Writes bindings strict template) writes_nil
          Writes.append fun record _ => ?_
        rw [List.map_eq_flatMap, nodes_eq_all]
        exact Meaning.all_of_forall writes_nil Writes.append fun node hnode =>
          writes_bindRecord (hbody node hnode) item record

theorem renders_nodes (h : ∀ node ∈ nodes, node.FitsBlock) :
    Renders bindings strict template nodes
      ((Scene.among bindings strict template).nodes none nodes) := by
  rw [nodes_eq_all]
  have hall := Meaning.all_of_forall (P := Renders bindings strict template)
    (f := fun node => [node]) renders_nil Renders.append fun node hnode =>
      renders_node (h node hnode)
  rwa [List.flatMap_singleton'] at hall

theorem fitsBlock_of_mem_trim (h : ∀ node ∈ nodes, node.FitsBlock) :
    ∀ node ∈ trim nodes, node.FitsBlock := forall_mem_trim (fun _ _ => trivial) h

end Node

namespace Template

open Node

variable {bindings : Bindings} {strict : Bool} {template : Option Text} {t base : Template}

/-- Of two blocks of one name the last fills in the parent. -/
theorem get?_fillings (t : Template) (name : Text) :
    t.fillings.get? name = (t.lastBlock? name).map Node.trim := by
  rw [fillings, Table.get?_ofList, lastBlock?, ← List.filterMap_reverse]
  induction t.body.reverse with
  | nil => rfl
  | cons node nodes ih =>
    rw [List.filterMap_cons, List.findSome?_cons]
    cases node with
    | text | slot | loop => exact ih
    | block position name' body =>
      dsimp only
      rw [List.lookup_cons, ih]
      by_cases hname : name = name'
      · rw [if_pos hname, beq_iff_eq.mpr hname]
        rfl
      · rw [if_neg hname, beq_eq_false_iff_ne.mpr hname]

theorem fitsBlock_of_mem_lastBlock? (h : ∀ node ∈ t.body, node.FitsTop) {name : Text}
    {body : List Node} (hbody : t.lastBlock? name = some body) : ∀ node ∈ body, node.FitsBlock := by
  obtain ⟨node, hnode, hfound⟩ := List.exists_of_findSome?_eq_some hbody
  have hfits := h node (List.mem_reverse.mp hnode)
  cases node with
  | text | slot | loop => cases hfound
  | block position name' body' =>
    dsimp only at hfound
    split at hfound
    · cases hfound
      exact hfits
    · cases hfound

/-- A template on its own. -/
theorem renders_flatten (h : ∀ node ∈ t.body, node.FitsTop) :
    Renders bindings strict template t.flatten
      ((Scene.among bindings strict template).nodes none t.body) := by
  rw [flatten, nodes_eq_all]
  refine Meaning.all_of_forall renders_nil Renders.append fun node hnode => ?_
  have hfits := h node hnode
  cases node with
  | text | slot | loop => exact renders_node hfits
  | block position name body => exact renders_nodes hfits

/-- A parent with its blocks filled in. -/
theorem renders_fill (ht : ∀ node ∈ t.body, node.FitsTop) (hbase : ∀ node ∈ base.body, node.FitsTop)
    (hparent : t.parent ≠ none) (hnone : base.parent = none) :
    Renders bindings strict template (base.fill t.fillings)
      (t.meaning base (Scene.among bindings strict template)) := by
  obtain ⟨parent, hsome⟩ := Option.ne_none_iff_exists'.mp hparent
  rw [fill, hnone, meaning, hsome]
  refine Meaning.all_of_forall renders_nil Renders.append fun node hnode => ?_
  have hfits := hbase node hnode
  cases node with
  | text | slot | loop => exact renders_node hfits
  | block position name body =>
    dsimp only
    rw [get?_fillings]
    refine renders_nodes fun node hnode => ?_
    cases hlast : t.lastBlock? name with
    | none =>
      rw [hlast] at hnode
      cases hnode
    | some last =>
      rw [hlast] at hnode
      exact fitsBlock_of_mem_trim (fitsBlock_of_mem_lastBlock? ht hlast) node hnode

end Template

end Stencil
