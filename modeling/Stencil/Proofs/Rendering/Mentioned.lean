import Stencil.Proofs.Engine.Work
import Stencil.Proofs.Failure.Showing
import Stencil.Proofs.Text.Similar
import Mathlib.Data.List.Basic

/-! What rendering reads of a context: the values of the names that the nodes mention, as the
collection of a loop or by a slot for no property, and nothing about the order of the entries. Other
entries can show in one place alone. The error of a slot without a value proposes a name that is
close to the slot's, and any name that is bound may be proposed. A value that cannot be rendered
binds nothing and is as good as absent. All of this goes for arguments that can be sorted out: every
value is asked for its text, be it mentioned or not, and one that has none ends the rendering. -/
namespace Stencil

namespace Value

/-- Things with fields, of which each may be a record. -/
inductive HasFields : Value → Prop
  | mapping (entries : List (Value × Value)) : HasFields (mapping entries)
  | withDictionary {o : Object Value} (h : o.dictionary ≠ Option.none) : HasFields (object o)
  | withSlots {o : Object Value} (h : o.slots ≠ []) : HasFields (object o)
  | scalar (s : Text) : HasFields (scalar s)
  | records (rs : List Record) : HasFields (records rs)

/-- Values that are neither shown as a text nor repeated for. -/
inductive Unrenderable : Value → Prop
  | none : Unrenderable none
  | bytes (bs : List UInt8) : Unrenderable (bytes bs)
  | mapping (entries : List (Value × Value)) : Unrenderable (mapping entries)
  | object (o : Object Value) : Unrenderable (object o)
  | list {items : List Value} {item : Value} (h : item ∈ items) (hplain : ¬ item.HasFields) :
      Unrenderable (list items)
  | tuple {items : List Value} {item : Value} (h : item ∈ items) (hplain : ¬ item.HasFields) :
      Unrenderable (tuple items)

theorem fields?_eq_none_iff {item : Value} : item.fields? = Option.none ↔ ¬ item.HasFields := by
  cases item with
  | mapping entries => exact iff_of_false (Option.some_ne_none _) (not_not_intro (.mapping entries))
  | scalar s => exact iff_of_false (Option.some_ne_none _) (not_not_intro (.scalar s))
  | records rs => exact iff_of_false (Option.some_ne_none _) (not_not_intro (.records rs))
  | object o =>
    rw [fields?, Option.map_eq_none_iff, Object.attributes?]
    cases hdictionary : o.dictionary with
    | some attributes =>
      refine iff_of_false (Option.some_ne_none _) (not_not_intro (.withDictionary ?_))
      rw [hdictionary]
      exact Option.some_ne_none _
    | none =>
      cases hslots : o.slots with
      | cons names others =>
        refine iff_of_false (Option.some_ne_none _) (not_not_intro (.withSlots ?_))
        rw [hslots]
        exact List.cons_ne_nil _ _
      | nil =>
        refine iff_of_true rfl fun h => ?_
        cases h with
        | withDictionary h => exact h hdictionary
        | withSlots h => exact h hslots
  | none | truth | integer | double | text | bytes | list | tuple =>
    refine iff_of_true rfl fun h => ?_
    cases h

theorem toRecord?_eq_none_iff {item : Value} :
    item.toRecord? = .ok Option.none ↔ ¬ item.HasFields := by
  rw [← fields?_eq_none_iff, toRecord?]
  cases item.fields? with
  | none => exact iff_of_true rfl rfl
  | some fields =>
    refine iff_of_false (fun h => ?_) (Option.some_ne_none _)
    obtain ⟨record, -, hnone⟩ := exists_of_map_eq_ok (x := Record.ofFields fields) h
    cases hnone

/-- One item without fields is enough for a list to make no records. -/
theorem toRecords?_eq_none_iff {items : List Value} {rs? : Option (List Record)}
    (h : toRecords? items = .ok rs?) : rs? = Option.none ↔ ∃ item ∈ items, ¬ item.HasFields := by
  obtain ⟨records, hrecords, rfl⟩ := exists_of_map_eq_ok h
  clear h
  induction items generalizing records with
  | nil =>
    cases hrecords
    exact iff_of_false (Option.some_ne_none _) (by simp)
  | cons item items ih =>
    obtain ⟨record?, rest, hfirst, hrest, rfl⟩ := mapM_cons_eq_ok hrecords
    rw [List.exists_mem_cons_iff, ← toRecord?_eq_none_iff, ← ih rest hrest, hfirst, List.mapM_cons]
    cases record? with
    | none => exact iff_of_true rfl (.inl rfl)
    | some record =>
      have hsome : (.ok (some record) : Except ShowFailure (Option Record)) ≠ .ok Option.none := by
        simp
      rw [or_iff_right hsome]
      cases rest.mapM id with
      | none => exact iff_of_true rfl rfl
      | some records => exact iff_of_false (Option.some_ne_none _) (Option.some_ne_none _)

theorem bound?_eq_none_iff {value : Value} (h : value.failure? = Option.none) :
    value.bound? = Option.none ↔ value.Unrenderable := by
  have hbinding := binding?_eq_ok h
  cases value with
  | none => exact iff_of_true rfl .none
  | bytes bs => exact iff_of_true rfl (.bytes bs)
  | mapping entries => exact iff_of_true rfl (.mapping entries)
  | object o => exact iff_of_true rfl (.object o)
  | list items =>
    obtain ⟨rs?, hrs, hbound⟩ := exists_of_map_eq_ok hbinding
    rw [hbound, Option.map_eq_none_iff, toRecords?_eq_none_iff hrs]
    refine ⟨fun ⟨item, hitem, hplain⟩ => .list hitem hplain, fun h => ?_⟩
    cases h with
    | list hitem hplain => exact ⟨_, hitem, hplain⟩
  | tuple items =>
    obtain ⟨rs?, hrs, hbound⟩ := exists_of_map_eq_ok hbinding
    rw [hbound, Option.map_eq_none_iff, toRecords?_eq_none_iff hrs]
    refine ⟨fun ⟨item, hitem, hplain⟩ => .tuple hitem hplain, fun h => ?_⟩
    cases h with
    | tuple hitem hplain => exact ⟨_, hitem, hplain⟩
  | integer n =>
    obtain ⟨s, -, hbound⟩ := exists_of_map_eq_ok (x := shownInteger n) hbinding
    rw [hbound]
    refine iff_of_false (Option.some_ne_none _) fun h => ?_
    cases h
  | text | double | truth | scalar | records =>
    refine iff_of_false (Option.some_ne_none _) fun h => ?_
    cases h

end Value

namespace Context

theorem get?_bound (c : Context) (name : Text) :
    c.bound.get? name = (c.get? name).bind Value.bound? :=
  Table.get?_filterMap Value.bound? c name

theorem failure?_of_get? {c : Context} (h : c.failure? = none) {name : Text} {value : Value}
    (hvalue : c.get? name = some value) : value.failure? = none :=
  List.findSome?_eq_none_iff.mp h (name, value) (Table.mem_entries_of_get? hvalue)

/-- Without a value that cannot be rendered the same is bound. -/
theorem get?_bound_erase {c : Context} (hfailure : c.failure? = none) {key : Text} {value : Value}
    (h : c.get? key = some value) (hvalue : value.Unrenderable) (name : Text) :
    (bound (c.erase key)).get? name = c.bound.get? name := by
  rw [get?_bound, get?_bound, Table.get?_erase]
  split
  · rename_i hname
    have hnone := (Value.bound?_eq_none_iff (failure?_of_get? hfailure h)).mpr hvalue
    rw [hname, h, Option.bind_some, hnone, Option.bind_none]
  · rfl

end Context

/-- The failure without the name that it proposes in place of one without a value. -/
def Failure.withoutGuess : Failure → Failure
  | .template (.rendering ⟨.undefined path _, name, line⟩) =>
    .template (.rendering ⟨.undefined path none, name, line⟩)
  | failure => failure

namespace Node

/-- The name that a slot for no property refers to. -/
def bareName : Node → List Text
  | slot _ ⟨name, none⟩ _ => [name]
  | _ => []

/-- The names whose values a node may be rendered with. -/
def mentioned : Node → List Text
  | loop _ _ collection _ body => collection :: body.flatMap bareName
  | node => node.bareName

variable {bindings bindings' : Bindings} {strict : Bool} {template : Option Text} {node : Node}
  {nodes : List Node}

theorem unroll_congr (h : ∀ name ∈ node.mentioned, bindings.get? name = bindings'.get? name) :
    unroll bindings template node = unroll bindings' template node := by
  cases node with
  | text | slot | block => rfl
  | loop position item collection raw body =>
    have hcollection : bindings.get? collection = bindings'.get? collection :=
      h collection List.mem_cons_self
    rw [unroll, unroll, hcollection]

theorem unrollAll_congr
    (h : ∀ name ∈ nodes.flatMap mentioned, bindings.get? name = bindings'.get? name) :
    unrollAll bindings template nodes = unrollAll bindings' template nodes := by
  have hnodes := mapM_congr (f := unroll bindings template) (g := unroll bindings' template)
    fun node hnode => unroll_congr fun name hname =>
      h name (List.mem_flatMap.mpr ⟨node, hnode, hname⟩)
  rw [unrollAll, unrollAll, hnodes]

theorem bareName_bindRecord_subset (item : Text) (record : Record) (node : Node) :
    (bindRecord item record node).bareName ⊆ node.bareName := by
  cases node with
  | text | loop | block => exact List.Subset.refl _
  | slot position reference raw =>
    rw [bindRecord]
    split
    · split
      · exact List.nil_subset _
      · exact List.Subset.refl _
    · exact List.Subset.refl _

/-- Repeating a body for its records adds no names to those it mentions. -/
theorem bareName_subset_of_mem_unroll {unrolled : List Node}
    (h : unroll bindings template node = .ok unrolled) {node' : Node} (hnode' : node' ∈ unrolled) :
    node'.bareName ⊆ node.mentioned := by
  cases node with
  | text | slot | block =>
    obtain rfl := Except.ok.inj h
    rw [List.mem_singleton.mp hnode']
    exact List.Subset.refl _
  | loop position item collection raw body =>
    rw [unroll] at h
    split at h
    · cases h
    · cases h
    · obtain rfl := Except.ok.inj h
      obtain ⟨record, -, hbody⟩ := List.mem_flatMap.mp hnode'
      obtain ⟨inner, hinner, rfl⟩ := List.mem_map.mp hbody
      intro name hname
      have hbare := bareName_bindRecord_subset item record inner hname
      exact List.mem_cons_of_mem _ (List.mem_flatMap.mpr ⟨inner, hinner, hbare⟩)

theorem bareName_subset_of_mem_unrollAll {unrolled : List Node}
    (h : unrollAll bindings template nodes = .ok unrolled) {node' : Node}
    (hnode' : node' ∈ unrolled) : node'.bareName ⊆ nodes.flatMap mentioned := by
  rw [unrollAll] at h
  cases hbodies : nodes.mapM (unroll bindings template) with
  | error e =>
    rw [hbodies] at h
    cases h
  | ok bodies =>
    rw [hbodies] at h
    obtain rfl := Except.ok.inj h
    obtain ⟨body, hbody, hmem⟩ := List.mem_flatten.mp hnode'
    obtain ⟨node, hnode, hunroll⟩ := exists_of_mem_mapM hbodies hbody
    intro name hname
    have hmentioned := bareName_subset_of_mem_unroll hunroll hmem hname
    exact List.mem_flatMap.mpr ⟨node, hnode, hmentioned⟩

/-- A slot reads the value of its name. Among what names the guess is made shows in the error. -/
theorem write_congr (h : ∀ name ∈ node.bareName, bindings.get? name = bindings'.get? name) :
    (write bindings strict template node).mapError Failure.withoutGuess =
      (write bindings' strict template node).mapError Failure.withoutGuess := by
  cases node with
  | text | loop | block => rfl
  | slot position reference raw =>
    obtain ⟨name, attr?⟩ := reference
    cases attr? with
    | some attr =>
      rw [write, write]
      cases strict <;> rfl
    | none =>
      have hname : bindings.get? name = bindings'.get? name := h name (List.mem_singleton.mpr rfl)
      rw [write, write]
      dsimp only
      rw [hname]
      split
      · rfl
      · cases strict <;> rfl

theorem writeAll_congr
    (h : ∀ node ∈ nodes, ∀ name ∈ node.bareName, bindings.get? name = bindings'.get? name) :
    (writeAll bindings strict template nodes).mapError Failure.withoutGuess =
      (writeAll bindings' strict template nodes).mapError Failure.withoutGuess := by
  have hnodes : (nodes.mapM (write bindings strict template)).mapError Failure.withoutGuess =
      (nodes.mapM (write bindings' strict template)).mapError Failure.withoutGuess := by
    rw [mapError_mapM, mapError_mapM]
    exact mapM_congr fun node hnode => write_congr (h node hnode)
  have hflatten (b : Bindings) :
      (writeAll b strict template nodes).mapError Failure.withoutGuess =
        ((nodes.mapM (write b strict template)).mapError Failure.withoutGuess).map
          List.flatten := by
    rw [writeAll]
    cases nodes.mapM (write b strict template) <;> rfl
  rw [hflatten, hflatten, hnodes]

/-- Nodes are rendered alike where the names they mention stand for the same. -/
theorem render_congr
    (h : ∀ name ∈ nodes.flatMap mentioned, bindings.get? name = bindings'.get? name) :
    (render bindings strict template nodes).mapError Failure.withoutGuess =
      (render bindings' strict template nodes).mapError Failure.withoutGuess := by
  rw [render, render, unrollAll_congr h]
  cases hunrolled : unrollAll bindings' template nodes with
  | error e => rfl
  | ok unrolled =>
    exact writeAll_congr fun node hnode name hname =>
      h name (bareName_subset_of_mem_unrollAll hunrolled hnode hname)

/-- Where every name stands for the same, the guess is the same too. -/
theorem render_congr_all (h : ∀ name, bindings.get? name = bindings'.get? name) :
    render bindings strict template nodes = render bindings' strict template nodes := by
  have hunroll : unroll bindings template = unroll bindings' template :=
    funext fun node => unroll_congr fun name _ => h name
  have hguess (path : Text) : path.closest? bindings.keys = path.closest? bindings'.keys := by
    refine Text.closest?_congr fun key => ?_
    rw [Table.mem_keys_iff, Table.mem_keys_iff, h]
  have hwrite : write bindings strict template = write bindings' strict template := by
    funext node
    cases node with
    | text | loop | block => rfl
    | slot position reference raw =>
      rw [write, write, h, RenderFault.undefinedAmong, RenderFault.undefinedAmong, hguess]
  simp only [render, unrollAll, writeAll, hunroll, hwrite]

end Node

/-- What a rendering takes from a context are the entries of these names, as long as the arguments
are admitted. -/
structure RestsOn (names : List Text) (admits : Arguments → Prop)
    (rendering : Arguments → Except Failure Text) : Prop where
  /-- The entries may be in any order. -/
  order {a a' : Arguments} (hadmits : admits a) (hadmits' : admits a') {c c' : Context}
    (ha : a.context = .ok c) (ha' : a'.context = .ok c') (h : c.entries.Perm c'.entries) :
    rendering a = rendering a'
  /-- Entries of other names show at most in the name that an error proposes. -/
  others {a a' : Arguments} (hadmits : admits a) (hadmits' : admits a') {c c' : Context}
    (ha : a.context = .ok c) (ha' : a'.context = .ok c')
    (h : ∀ name ∈ names, c.get? name = c'.get? name) :
    (rendering a).mapError Failure.withoutGuess = (rendering a').mapError Failure.withoutGuess
  /-- An entry that cannot be rendered may as well be left out. -/
  unrenderable {a a' : Arguments} (hadmits : admits a) (hadmits' : admits a') {c : Context}
    {key : Text} {value : Value} (ha : a.context = .ok c) (ha' : a'.context = .ok (c.erase key))
    (h : c.get? key = some value) (hvalue : value.Unrenderable) : rendering a = rendering a'

theorem restsOn_const (names : List Text) (admits : Arguments → Prop)
    (result : Except Failure Text) : RestsOn names admits fun _ => result where
  order _ _ _ _ _ _ _ := rfl
  others _ _ _ _ _ _ _ := rfl
  unrenderable _ _ _ _ _ _ _ _ _ := rfl

theorem RestsOn.congr {names : List Text} {admits : Arguments → Prop}
    {rendering rendering' : Arguments → Except Failure Text} (h : RestsOn names admits rendering)
    (hsame : ∀ a, admits a → rendering' a = rendering a) : RestsOn names admits rendering' where
  order hadmits hadmits' _ _ ha ha' hperm := by
    rw [hsame _ hadmits, hsame _ hadmits']
    exact h.order hadmits hadmits' ha ha' hperm
  others hadmits hadmits' _ _ ha ha' hget := by
    rw [hsame _ hadmits, hsame _ hadmits']
    exact h.others hadmits hadmits' ha ha' hget
  unrenderable hadmits hadmits' _ _ _ ha ha' hvalue hunrenderable := by
    rw [hsame _ hadmits, hsame _ hadmits']
    exact h.unrenderable hadmits hadmits' ha ha' hvalue hunrenderable

theorem Arguments.Suits.bindings_of_context {a : Arguments} (h : a.Suits) {c : Context}
    (hcontext : a.context = .ok c) : a.bindings = .ok c.bound ∧ c.failure? = none := by
  obtain ⟨b, -, hbindings⟩ := h
  obtain ⟨c', hcontext', hsorted⟩ := exists_context_of_bindings hbindings
  obtain rfl := Except.ok.inj (hcontext.symm.trans hcontext')
  obtain rfl := Context.bound_of_bindings hsorted
  exact ⟨hbindings, Context.failure?_of_bindings hsorted⟩

namespace Engine

variable {e : Engine} {p : Page} {w : Workspace}

theorem restsOn_finish (nodes : List Node) :
    RestsOn (nodes.flatMap Node.mentioned) Arguments.Suits fun a => (e.finish p nodes a w).1 where
  order hsuits hsuits' _ _ ha ha' h := by
    rw [finish_fst (hsuits.bindings_of_context ha).1,
      finish_fst (hsuits'.bindings_of_context ha').1]
    refine Node.render_congr_all fun name => ?_
    rw [Context.get?_bound, Context.get?_bound, Table.get?_of_perm h]
  others hsuits hsuits' _ _ ha ha' h := by
    rw [finish_fst (hsuits.bindings_of_context ha).1,
      finish_fst (hsuits'.bindings_of_context ha').1]
    refine Node.render_congr fun name hname => ?_
    rw [Context.get?_bound, Context.get?_bound, h name hname]
  unrenderable hsuits hsuits' _ _ _ ha ha' h hvalue := by
    obtain ⟨hbindings, hfailure⟩ := hsuits.bindings_of_context ha
    rw [finish_fst hbindings, finish_fst (hsuits'.bindings_of_context ha').1]
    exact Node.render_congr_all fun name => (Context.get?_bound_erase hfailure h hvalue name).symm

/-- The names that the nodes of a page mention. -/
def mentioned (e : Engine) (p : Page) (w : Workspace) : List Text :=
  match (e.nodes p w).1 with
  | .ok nodes => nodes.flatMap Node.mentioned
  | .error _ => []

theorem restsOn_renderPage (e : Engine) (p : Page) (w : Workspace) :
    RestsOn (e.mentioned p w) Arguments.Suits fun a => (e.renderPage p a w).1 := by
  rcases hnodes : e.nodes p w with ⟨f | nodes, w'⟩
  · refine (restsOn_const _ _ (.error f)).congr fun a ⟨b, hself, _⟩ => ?_
    rw [renderPage_eq hself, bind_eq_error hnodes]
  · rw [mentioned, hnodes]
    refine (restsOn_finish (e := e) (p := p) (w := w') nodes).congr fun a ⟨b, hself, _⟩ => ?_
    rw [renderPage_eq hself, bind_eq hnodes]

theorem restsOn_renderPageAlone (e : Engine) (p : Page) (w : Workspace) :
    RestsOn (p.template.flattenAlone.flatMap Node.mentioned) Arguments.Suits
      fun a => (e.renderPageAlone p a w).1 := by
  refine (restsOn_finish (e := e) (p := p) (w := w) _).congr fun a ⟨b, hself, _⟩ => ?_
  rw [renderPageAlone_eq hself]

/-- A page rests on the names that its nodes mention, with its parent as well as without it. With
other arguments than those that suit, it always fails. -/
theorem restsOn_mentioned (e : Engine) (p : Page) (w : Workspace) :
    RestsOn (e.mentioned p w) Arguments.Suits (fun a => (e.renderPage p a w).1) ∧
      RestsOn (p.template.flattenAlone.flatMap Node.mentioned) Arguments.Suits
        (fun a => (e.renderPageAlone p a w).1) ∧
      ∀ a : Arguments, a.Suits ∨ (∃ f, (e.renderPage p a w).1 = .error f) ∧
        ∃ f, (e.renderPageAlone p a w).1 = .error f := by
  refine ⟨restsOn_renderPage e p w, restsOn_renderPageAlone e p w, fun a => ?_⟩
  cases hself : a.namesSelf with
  | true =>
    rw [renderPage_of_namesSelf hself, renderPageAlone_of_namesSelf hself]
    exact .inr ⟨⟨_, rfl⟩, _, rfl⟩
  | false =>
    cases hbindings : a.bindings with
    | ok b => exact .inl ⟨b, hself, hbindings⟩
    | error f =>
      rw [renderPage_eq hself, renderPageAlone_eq hself]
      refine .inr ⟨?_, f, finish_eq_error hbindings _⟩
      rcases hnodes : e.nodes p w with ⟨f' | nodes, w'⟩
      · rw [bind_eq_error hnodes]
        exact ⟨f', rfl⟩
      · rw [bind_eq hnodes]
        exact ⟨f, finish_eq_error hbindings nodes⟩

/-- A page that mentions no name. -/
def plainPage : Page := ⟨none, "x", ⟨none, [.text Position.start "x"]⟩⟩

/-- An integer with one digit more than are written out. -/
def longInteger : Value := .integer (Int.ofNat (Nat.pow 10 ShowFailure.digitLimit))

/-- A record with an integer that has no text, and a thing that is no record. -/
def mixedItems : Value := .list [.mapping [(.text "a", longInteger)], .none]

/-- A value that is not mentioned fails all the same if it has no text, and so does one that cannot
be rendered, and one by the name of the page itself. -/
theorem not_restsOn_plainPage :
    let e : Engine := ⟨none, false, defaultFallback⟩
    let w : Workspace := ⟨default, Cache.empty, []⟩
    Page.ofSource "x" none = .ok plainPage ∧ e.mentioned plainPage w = [] ∧
    (e.renderPage plainPage ⟨[], []⟩ w).1 = .ok "x" ∧
    (e.renderPage plainPage ⟨[], [("unused", longInteger)]⟩ w).1 =
      .error (.showing .tooManyDigits) ∧
    mixedItems.Unrenderable ∧
    (e.renderPage plainPage ⟨[], [("unused", mixedItems)]⟩ w).1 =
      .error (.showing .tooManyDigits) ∧
    (e.renderPage plainPage ⟨[], [("self", .text "y")]⟩ w).1 = .error (.secondSelf "render") ∧
    ¬ RestsOn (e.mentioned plainPage w) (fun _ => True)
      fun a => (e.renderPage plainPage a w).1 := by
  intro e w
  have hnone : (e.renderPage plainPage ⟨[], []⟩ w).1 = .ok "x" := by decide +kernel
  have hlong : (e.renderPage plainPage ⟨[], [("unused", longInteger)]⟩ w).1 =
      .error (.showing .tooManyDigits) := by decide +kernel
  have hplain : ¬ Value.none.HasFields := by
    intro h
    cases h
  have hread : Page.ofSource "x" none = .ok plainPage :=
    Page.ofSource_eq_ok (by decide +kernel) none
  refine ⟨hread, by decide +kernel, hnone, hlong, .list (by simp) hplain,
    by decide +kernel, by decide +kernel, fun h => ?_⟩
  have hsame := @RestsOn.others _ _ _ h ⟨[], []⟩ ⟨[], [("unused", longInteger)]⟩ trivial trivial
    _ _ rfl rfl fun name hname => by cases hname
  rw [hnone, hlong] at hsame
  cases hsame

end Engine

end Stencil
