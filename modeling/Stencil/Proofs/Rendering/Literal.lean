import Stencil.Proofs.Engine.Work
import Stencil.Proofs.Rendering.Pages
import Stencil.Proofs.Rendering.Trim

/-! Rendering where nothing is put in. If rendering is not strict, no slot has a value and there are
no loops, a page is shown as its source without the tags of blocks, and a parent as its source with
each block replaced by what the child gives. The tag of the parent that counts is shown too, but not
at its own place: it is moved in front of all that is written. -/
namespace Stencil

def Binding.isScalar : Binding → Bool
  | scalar _ => true
  | records _ => false

/-- No tag of a loop, and no slot that has a value. Outside loops no dotted slot has one. -/
def Token.isLiteral (binding? : Text → Option Binding) (t : Token) : Bool :=
  match t.kind with
  | .directive (.openLoop _ _) | .directive .closeLoop => false
  | .directive (.slot reference) =>
    reference.attr.isSome || !(binding? reference.name).any Binding.isScalar
  | _ => true

def Entry.isLiteral (binding? : Text → Option Binding) : Entry → Bool
  | openLoop .. | closeLoop => false
  | slot _ reference _ => reference.attr.isSome || !(binding? reference.name).any Binding.isScalar
  | _ => true

namespace Token

variable {binding? : Text → Option Binding} {t : Token}

theorem isLoopTag_of_isLiteral (h : t.isLiteral binding? = true) : t.isLoopTag = false := by
  rw [isLiteral] at h
  rw [isLoopTag]
  split at h
  · cases h
  · cases h
  · rename_i hkind
    rw [hkind]
  · rename_i hopen hclose _
    split
    · rename_i item collection hkind
      exact absurd hkind (hopen item collection)
    · rename_i hkind
      exact absurd hkind hclose
    · rfl

theorem isLiteral_of_mem_shown? (h : t.isLiteral binding? = true) {counts : Bool} {e : Entry}
    (he : e ∈ t.shown? counts) : e.isLiteral binding? = true := by
  rw [isLiteral] at h
  rw [shown?] at he
  split at he <;> cases he
  case h_3 => cases counts <;> rfl
  all_goals first | rfl | (rename_i hkind; rw [hkind] at h; exact h)

end Token

namespace Scene

variable {s : Scene}

theorem unbound_of_lenient (hstrict : s.strict = false) (position : Position)
    (reference : Reference) (raw : Text) : s.unbound position reference raw = .text raw := by
  rw [unbound, hstrict, if_neg Bool.false_ne_true]

theorem slot_of_isLiteral (hstrict : s.strict = false) {position : Position}
    {reference : Reference} {raw : Text}
    (h : (Entry.slot position reference raw).isLiteral s.binding? = true) :
    s.slot none position reference raw = .text raw := by
  have hunbound := unbound_of_lenient hstrict position reference raw
  obtain ⟨name, attr⟩ := reference
  cases attr with
  | some attr => exact hunbound
  | none =>
    unfold slot
    rw [Entry.isLiteral] at h
    dsimp only at h ⊢
    cases hfound : s.binding? name with
    | none => exact hunbound
    | some b =>
      cases b with
      | scalar value =>
        rw [hfound] at h
        cases h
      | records rs => exact hunbound

mutual

/-- A node is shown by its entries. -/
theorem node_of_isLiteral (hstrict : s.strict = false) : (node : Node) →
    (∀ e ∈ node.entries, e.isLiteral s.binding? = true) →
      s.node none node = .text (Entry.shown node.entries)
  | .text position value, _ => congrArg Meaning.text (List.append_nil value).symm
  | .slot position reference raw, h => by
    rw [Scene.node, slot_of_isLiteral hstrict (h _ List.mem_cons_self)]
    exact congrArg Meaning.text (List.append_nil raw).symm
  | .loop position item collection raw body, h => by
    cases h _ List.mem_cons_self
  | .block position name body, h => by
    have hbody : s.nodes none body = .text (Entry.shown (Node.entriesOf body)) :=
      nodes_of_isLiteral hstrict body fun e he =>
        h e (List.mem_cons_of_mem _ (List.mem_append_left _ he))
    rw [Scene.node, hbody, Node.shown_block]

theorem nodes_of_isLiteral (hstrict : s.strict = false) : (nodes : List Node) →
    (∀ e ∈ Node.entriesOf nodes, e.isLiteral s.binding? = true) →
      s.nodes none nodes = .text (Entry.shown (Node.entriesOf nodes))
  | [], _ => rfl
  | node :: nodes, h => by
    have hfirst := node_of_isLiteral hstrict node fun e he => h e (List.mem_append_left _ he)
    have hrest := nodes_of_isLiteral hstrict nodes fun e he => h e (List.mem_append_right _ he)
    rw [Scene.nodes, hfirst, hrest, Node.entriesOf, Entry.shown_append]
    rfl

end

end Scene

namespace Template

open Node

variable {t base : Template} {source : Text} {binding? : Text → Option Binding}

theorem isLiteral_of_mem_flatten (h : ofSource source = .ok t)
    (hliteral : ∀ token ∈ Token.ofSource source, token.isLiteral binding? = true) :
    ∀ node ∈ t.flatten, ∀ e ∈ node.entries, e.isLiteral binding? = true := by
  intro node hnode e he
  obtain ⟨token, htoken, counts, hshown⟩ :=
    exists_token_of_mem_linearise h (mem_linearise_of_mem_flatten h node hnode e he)
  exact Token.isLiteral_of_mem_shown? (hliteral token htoken) hshown

theorem isLiteral_asText (parent : Parent) :
    ∀ e ∈ parent.asText.entries, e.isLiteral binding? = true := by
  intro e he
  rw [List.mem_singleton.mp he]
  rfl

theorem isLiteral_of_mem_fill {baseSource : Text} (h : ofSource source = .ok t)
    (hbase : ofSource baseSource = .ok base)
    (hliteral : ∀ token ∈ Token.ofSource source, token.isLiteral binding? = true)
    (hliteral' : ∀ token ∈ Token.ofSource baseSource, token.isLiteral binding? = true) :
    ∀ node ∈ base.fill t.fillings, ∀ e ∈ node.entries, e.isLiteral binding? = true := by
  refine forall_mem_fill (fun parent _ => isLiteral_asText parent)
    (isLiteral_of_mem_flatten hbase hliteral') fun body hbody => ?_
  refine forall_mem_trim (fun _ _ e he => ?_) fun node hnode =>
    isLiteral_of_mem_flatten h hliteral node (hbody node hnode)
  rw [List.mem_singleton.mp he]
  rfl

theorem shown_flatMap (f : Node → List Node) (nodes : List Node) :
    Entry.shown (entriesOf (nodes.flatMap f)) =
      nodes.flatMap fun node => Entry.shown (entriesOf (f node)) := by
  induction nodes with
  | nil => rfl
  | cons node nodes ih =>
    rw [List.flatMap_cons, entriesOf_append, Entry.shown_append, ih, List.flatMap_cons]

theorem shown_asText (parent? : Option Parent) :
    Entry.shown (entriesOf (parent?.toList.map Parent.asText)) =
      (parent?.map Parent.raw).getD [] := by
  cases parent? with
  | none => rfl
  | some parent => exact List.append_nil parent.raw

/-- No text is lost when the blocks are opened up. -/
theorem shown_flatten (t : Template) :
    Entry.shown (entriesOf t.flatten) = Entry.shown (entriesOf t.body) := by
  rw [flatten, shown_flatMap]
  induction t.body with
  | nil => rfl
  | cons node nodes ih =>
    rw [List.flatMap_cons, ih, shown_cons]
    cases node with
    | block position name body => rw [shown_block]
    | _ => rw [entriesOf_singleton]

/-- A template on its own shows its parent tag and then all that is written in it. -/
theorem shown_flattenAlone (h : ofSource source = .ok t)
    (hloop : ∀ token ∈ Token.ofSource source, token.isLoopTag = false) :
    Entry.shown (entriesOf t.flattenAlone) =
      Mark.shown (Token.marks (Token.parentFirst (Token.ofSource source))) := by
  rw [flattenAlone, entriesOf_append, Entry.shown_append, shown_asText, shown_flatten,
    marks_parentFirst h hloop, Mark.shown_append]
  cases t.parent with
  | none => rfl
  | some parent => exact congrArg (· ++ _) (List.append_nil parent.raw).symm

/-- A filled parent shows its own parent tag and then what is left of it. -/
theorem shown_fill {baseSource : Text} (h : ofSource source = .ok t)
    (hbase : ofSource baseSource = .ok base)
    (hloop : ∀ token ∈ Token.ofSource source, token.isLoopTag = false)
    (hloop' : ∀ token ∈ Token.ofSource baseSource, token.isLoopTag = false) :
    Entry.shown (entriesOf (base.fill t.fillings)) =
      Mark.replaced (Mark.given (Token.marks (Token.ofSource source))) false
        (Token.marks (Token.parentFirst (Token.ofSource baseSource))) := by
  have hgiven : ∀ name, Entry.shown (entriesOf ((t.fillings.get? name).getD [])) =
      Mark.given (Token.marks (Token.ofSource source)) name := by
    intro name
    rw [given_marks h hloop, get?_fillings]
    cases hlast : t.lastBlock? name with
    | none => rfl
    | some body =>
      exact shown_trim fun node hnode =>
        isBraced_of_mem_flatten h hloop node (mem_flatten_of_lastBlock? hlast hnode)
  have hbody := Mark.replaced_entriesOf (Mark.given (Token.marks (Token.ofSource source)))
    (fitsTop_of_mem_body hbase) (noLoop_of_mem_body hbase hloop')
  have hparent (marks : List Mark) (given : Text → Text) :
      Mark.replaced given false
        ((base.parent.toList.map fun parent => .written parent.raw) ++ marks) =
        (base.parent.map Parent.raw).getD [] ++ Mark.replaced given false marks := by
    cases base.parent <;> rfl
  rw [fill, entriesOf_append, Entry.shown_append, shown_asText, shown_flatMap,
    marks_parentFirst hbase hloop', hparent, hbody]
  refine congrArg (_ ++ ·) (List.flatMap_congr fun node _ => ?_)
  cases node with
  | block position name body => exact hgiven name
  | _ => rw [entriesOf_singleton]

end Template

namespace Engine

variable {e : Engine} {p : Page} {a : Arguments} {w : Workspace}

/-- Nodes in which nothing is put are shown as they are written. -/
theorem finish_of_isLiteral (hstrict : e.strict = false) {b : Bindings} (ha : a.bindings = .ok b)
    {nodes : List Node} (hfits : ∀ node ∈ nodes, node.FitsBlock)
    (h : ∀ node ∈ nodes, ∀ entry ∈ node.entries, entry.isLiteral a.binding? = true) :
    (e.finish p nodes a w).1 = .ok (Entry.shown (Node.entriesOf nodes)) := by
  have hshown : (Scene.of e p a).nodes none nodes =
      .text (Entry.shown (Node.entriesOf nodes)) := by
    refine Scene.nodes_of_isLiteral hstrict nodes fun entry hentry => ?_
    obtain ⟨node, hnode, hmem⟩ := Node.exists_mem_of_mem_entriesOf hentry
    exact h node hnode entry hmem
  rw [finish_fst ha, (Node.renders_nodes hfits).render_eq, Arguments.among_of_bindings ha, hshown]
  rfl

theorem renderPageAlone_of_isLiteral (hstrict : e.strict = false) (ha : a.Suits)
    {source : Text} {name : Option Text} (hp : Page.ofSource source name = .ok p)
    (h : ∀ t ∈ Token.ofSource source, t.isLiteral a.binding? = true) :
    (e.renderPageAlone p a w).1 =
      .ok (Mark.shown (Token.marks (Token.parentFirst (Token.ofSource source)))) := by
  obtain ⟨hread, -, -⟩ := Page.template_of_ofSource hp
  obtain ⟨b, hself, hbindings⟩ := ha
  have hloop := fun t ht => Token.isLoopTag_of_isLiteral (h t ht)
  rw [← Template.shown_flattenAlone hread hloop, renderPageAlone_eq hself]
  refine finish_of_isLiteral hstrict hbindings (Template.fitsBlock_of_mem_flattenAlone hread) ?_
  exact Template.forall_mem_flattenAlone (fun parent _ => Template.isLiteral_asText parent)
    (Template.isLiteral_of_mem_flatten hread h)

theorem renderPage_of_isLiteral (hstrict : e.strict = false) (ha : a.Suits)
    {source : Text} {name : Option Text} (hp : Page.ofSource source name = .ok p)
    {parent : Parent} (hparent : p.template.parent = some parent) {baseSource : Text}
    (hload : (e.load parent.base w).1 = .ok baseSource) {base : Template}
    (hbase : Template.ofSource baseSource = .ok base)
    (h : ∀ t ∈ Token.ofSource source, t.isLiteral a.binding? = true)
    (h' : ∀ t ∈ Token.ofSource baseSource, t.isLiteral a.binding? = true) :
    (e.renderPage p a w).1 =
      .ok (Mark.replaced (Mark.given (Token.marks (Token.ofSource source))) false
        (Token.marks (Token.parentFirst (Token.ofSource baseSource)))) := by
  obtain ⟨hread, -, -⟩ := Page.template_of_ofSource hp
  obtain ⟨b, hself, hbindings⟩ := ha
  obtain ⟨w', hpage⟩ := exists_page hload (Page.ofSource_eq_ok hbase (some parent.base))
  have hloop := fun t ht => Token.isLoopTag_of_isLiteral (h t ht)
  have hloop' := fun t ht => Token.isLoopTag_of_isLiteral (h' t ht)
  rw [renderPage_eq hself, bind_eq (exists_nodes hparent hpage),
    ← Template.shown_fill hread hbase hloop hloop']
  exact finish_of_isLiteral hstrict hbindings (Template.fitsBlock_of_mem_fill hread hbase)
    (Template.isLiteral_of_mem_fill hread hbase h h')

/-- What is shown where nothing is put in. -/
structure ShowsLiterally (e : Engine) (a : Arguments) (w : Workspace) : Prop where
  /-- A page on its own: all but the tags of blocks, with the parent tag in front. -/
  alone : ∀ source name p, Page.ofSource source name = .ok p →
    (∀ t ∈ Token.ofSource source, t.isLiteral a.binding? = true) → (e.renderPageAlone p a w).1 =
      .ok (Mark.shown (Token.marks (Token.parentFirst (Token.ofSource source))))
  /-- A page in its parent: what the parent has outside its blocks, with its own parent tag in
  front, and in place of each block what the page gives. -/
  filled : ∀ source name p parent baseSource base, Page.ofSource source name = .ok p →
    p.template.parent = some parent → (e.load parent.base w).1 = .ok baseSource →
    Template.ofSource baseSource = .ok base →
    (∀ t ∈ Token.ofSource source, t.isLiteral a.binding? = true) →
    (∀ t ∈ Token.ofSource baseSource, t.isLiteral a.binding? = true) → (e.renderPage p a w).1 =
      .ok (Mark.replaced (Mark.given (Token.marks (Token.ofSource source))) false
        (Token.marks (Token.parentFirst (Token.ofSource baseSource))))
  /-- The parent tag is at its own place if it comes first. -/
  unmoved : ∀ source, (∀ t, Token.outerParent? (Token.ofSource source) = some t →
    (Token.ofSource source).head? = some t) →
      Token.parentFirst (Token.ofSource source) = Token.ofSource source

theorem showsLiterally_of_lenient (hstrict : e.strict = false) (ha : a.Suits) (w : Workspace) :
    e.ShowsLiterally a w where
  alone _ _ _ hp h := renderPageAlone_of_isLiteral hstrict ha hp h
  filled _ _ _ _ _ _ hp hparent hload hbase h h' :=
    renderPage_of_isLiteral hstrict ha hp hparent hload hbase h h'
  unmoved _ h := Token.parentFirst_ofSource h

/-- A text and the tag of a parent behind it. -/
def lateParent : Text := "Hi \x7b% extends \"b\" %\x7d"

/-- A block for a parent that begins with a text. -/
def spacedChild : Text :=
  "\x7b% extends \"late\" %\x7d\x7b% block x %\x7d \x7b\x7b y \x7d\x7d \x7b% endblock %\x7d"

def lateBase : Text := lateParent ++ "<\x7b% block x %\x7dold\x7b% endblock %\x7d>"

def lateStores : Stores :=
  ⟨default, Table.ofList [("store", Table.ofList [("late", lateBase)])], Table.empty⟩

/-- The parent's own parent tag comes first, then its text, and then the trimmed block. -/
theorem showsLiterally_lateStores :
    let e : Engine := ⟨some (.mapping "store"), false, defaultFallback⟩
    let a : Arguments := ⟨[], []⟩
    let w : Workspace := ⟨lateStores, Cache.empty, []⟩
    e.strict = false ∧ a.Suits ∧ e.ShowsLiterally a w ∧
      ∃ p, Page.ofSource spacedChild none = .ok p ∧
        (e.renderPage p a w).1 = .ok "\x7b% extends \"b\" %\x7dHi <\x7b\x7b y \x7d\x7d>" := by
  intro e a w
  have ha : a.Suits := ⟨Table.empty, rfl, rfl⟩
  have hshows : e.ShowsLiterally a w := showsLiterally_of_lenient rfl ha w
  refine ⟨rfl, ha, hshows, ?_⟩
  have hchild : (Page.ofSource spacedChild none).map (·.template.parent) =
      .ok (some ⟨⟨1, 0⟩, "late", "\x7b% extends \"late\" %\x7d"⟩) := by decide +kernel
  have hbase : (Template.ofSource lateBase).isOk = true := by decide +kernel
  cases hp : Page.ofSource spacedChild none with
  | error error =>
    rw [hp] at hchild
    cases hchild
  | ok p =>
    rw [hp] at hchild
    have hparent : p.template.parent = some _ := Except.ok.inj hchild
    cases hread : Template.ofSource lateBase with
    | error fault =>
      rw [hread] at hbase
      cases hbase
    | ok base =>
      refine ⟨p, rfl, (hshows.filled spacedChild none p _ lateBase base hp hparent ?_ hread
        ?_ ?_).trans ?_⟩
      all_goals decide +kernel

/-- The tag is shown in front of the text that stands before it. -/
theorem renderPageAlone_lateParent : ∃ p, Page.ofSource lateParent none = .ok p ∧
    (∀ t ∈ Token.ofSource lateParent, t.isLiteral (Arguments.binding? ⟨[], []⟩) = true) ∧
    (renderPageAlone ⟨none, false, defaultFallback⟩ p ⟨[], []⟩ ⟨default, Cache.empty, []⟩).1 =
      .ok "\x7b% extends \"b\" %\x7dHi " ∧
    (renderPageAlone ⟨none, false, defaultFallback⟩ p ⟨[], []⟩ ⟨default, Cache.empty, []⟩).1 ≠
      .ok (Mark.shown (Token.marks (Token.ofSource lateParent))) := by
  have hresult : ((Page.ofSource lateParent none).toOption.map fun p =>
        (renderPageAlone ⟨none, false, defaultFallback⟩ p ⟨[], []⟩
          ⟨default, Cache.empty, []⟩).1) = some (.ok "\x7b% extends \"b\" %\x7dHi ") := by
    decide +kernel
  have hwritten : Mark.shown (Token.marks (Token.ofSource lateParent)) = lateParent := by
    decide +kernel
  cases hp : Page.ofSource lateParent none with
  | error error =>
    rw [hp] at hresult
    cases hresult
  | ok p =>
    rw [hp] at hresult
    replace hresult := Option.some.inj hresult
    refine ⟨p, rfl, by decide +kernel, hresult, fun hsame => ?_⟩
    rw [hwritten] at hsame
    exact absurd (Except.ok.inj (hresult.symm.trans hsame)) (by decide +kernel)

end Engine

end Stencil
