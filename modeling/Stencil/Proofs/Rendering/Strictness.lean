import Stencil.Proofs.Engine.Steady
import Stencil.Proofs.Rendering.Segments

/-! What strict rendering changes. A page emits literals, properties of records and values of slots,
one after the other, and which ones does not depend on strictness. A lenient rendering shows them
all, a slot without a value as it is written. A strict rendering gives the same text if each slot
has a value, and the error of the first slot without one if not. A loop that cannot be repeated, and
whatever goes wrong before the page is rendered, is the same failure in both. -/
namespace Stencil

/-- What a node adds to the text. -/
inductive Emission
  | literal (t : Text)
  /-- A property of the current record, if the record has it. -/
  | property (value? : Option Text)
  /-- A slot for no property, with the scalar that it refers to, if there is one. -/
  | scalar (position : Position) (reference : Reference) (raw : Text) (value? : Option Text)
deriving DecidableEq, Repr

def Binding.scalar? : Binding → Option Text
  | scalar t => some t
  | records _ => none

namespace Emission

def shown : Emission → Text
  | literal t => t
  | property value? => value?.getD []
  | scalar _ _ raw value? => value?.getD raw

/-- A reference that is bound to no scalar. A property that is missing is none. -/
def isUnresolved : Emission → Bool
  | scalar _ _ _ none => true
  | _ => false

/-- A slot, within a loop over `item` where `record` is the current record of `item`. -/
def ofSlot (binding? : Text → Option Binding) (current? : Option (Text × Record))
    (position : Position) (reference : Reference) (raw : Text) : Emission :=
  match reference.attr, current? with
  | some attr, some (item, record) =>
    if reference.name = item then property (record.get? attr)
    else scalar position reference raw none
  | some _, none => scalar position reference raw none
  | none, _ => scalar position reference raw ((binding? reference.name).bind Binding.scalar?)

mutual

/-- A loop emits its body once per record. -/
def ofNode (binding? : Text → Option Binding) (current? : Option (Text × Record)) :
    Node → List Emission
  | .text _ value => [literal value]
  | .slot position reference raw => [ofSlot binding? current? position reference raw]
  | .loop _ item collection _ body =>
    match binding? collection with
    | some (.records records) =>
      records.flatMap fun record => ofNodes binding? (some (item, record)) body
    | _ => []
  | .block _ _ body => ofNodes binding? current? body

def ofNodes (binding? : Text → Option Binding) (current? : Option (Text × Record)) :
    List Node → List Emission
  | [] => []
  | first :: rest => ofNode binding? current? first ++ ofNodes binding? current? rest

end

/-- The first reference among emissions that is unresolved, and where its slot is. -/
def First (emissions : List Emission) (position : Position) (reference : Reference) : Prop :=
  ∃ before raw after, emissions = before ++ scalar position reference raw none :: after ∧
    ∀ emission ∈ before, emission.isUnresolved = false

variable {emissions emissions' : List Emission} {position : Position} {reference : Reference}

theorem First.append_right (h : First emissions position reference) (emissions' : List Emission) :
    First (emissions ++ emissions') position reference := by
  obtain ⟨before, raw, after, rfl, hbefore⟩ := h
  exact ⟨before, raw, after ++ emissions', by rw [List.append_assoc, List.cons_append], hbefore⟩

theorem First.append_left (h : First emissions' position reference)
    (hresolved : ∀ emission ∈ emissions, emission.isUnresolved = false) :
    First (emissions ++ emissions') position reference := by
  obtain ⟨before, raw, after, rfl, hbefore⟩ := h
  exact ⟨emissions ++ before, raw, after, by rw [List.append_assoc],
    List.forall_mem_append.mpr ⟨hresolved, hbefore⟩⟩

theorem First.exists_isUnresolved (h : First emissions position reference) :
    ∃ emission ∈ emissions, emission.isUnresolved = true := by
  obtain ⟨before, raw, after, rfl, -⟩ := h
  exact ⟨_, List.mem_append_right _ List.mem_cons_self, rfl⟩

end Emission

namespace Scene

def lenient (s : Scene) : Scene := { s with strict := false }

def strictly (s : Scene) : Scene := { s with strict := true }

end Scene

namespace Meaning

open Emission (First)

/-- A lenient and a strict meaning of nodes that emit this. -/
inductive Compares (s : Scene) (emissions : List Emission) : Meaning → Meaning → Prop
  | shown (hresolved : ∀ emission ∈ emissions, emission.isUnresolved = false) :
      Compares s emissions (text (emissions.flatMap Emission.shown))
        (text (emissions.flatMap Emission.shown))
  | undefined {position : Position} {reference : Reference}
      (hfirst : First emissions position reference) :
      Compares s emissions (text (emissions.flatMap Emission.shown))
        (unresolved (s.errorAt position (.undefinedAmong reference.path s.boundNames)))
  | unrepeatable {error : RenderError}
      (hdefined : ∀ path guess, error.fault ≠ .undefined path guess) :
      Compares s emissions (unrepeatable error) (unrepeatable error)

variable {s : Scene} {emissions emissions' : List Emission} {m m' n n' : Meaning}

theorem compares_nil (s : Scene) : Compares s [] (text []) (text []) :=
  .shown fun _ hemission => absurd hemission List.not_mem_nil

theorem Compares.append (h : Compares s emissions m n) (h' : Compares s emissions' m' n') :
    Compares s (emissions ++ emissions') (m.followedBy m') (n.followedBy n') := by
  cases h with
  | unrepeatable hdefined => exact .unrepeatable hdefined
  | shown hresolved =>
    cases h' with
    | unrepeatable hdefined => exact .unrepeatable hdefined
    | shown hresolved' =>
      have h := Compares.shown (s := s) (List.forall_mem_append.mpr ⟨hresolved, hresolved'⟩)
      rwa [List.flatMap_append] at h
    | undefined hfirst =>
      have h := Compares.undefined (s := s) (hfirst.append_left hresolved)
      rwa [List.flatMap_append] at h
  | undefined hfirst =>
    cases h' with
    | unrepeatable hdefined => exact .unrepeatable hdefined
    | shown | undefined =>
      have h := Compares.undefined (s := s) (hfirst.append_right emissions')
      rwa [List.flatMap_append] at h

theorem compares_all {α : Type} {emitted : α → List Emission} {lenient strict : α → Meaning}
    (h : ∀ a, Compares s (emitted a) (lenient a) (strict a)) (as : List α) :
    Compares s (as.flatMap emitted) (.all (as.map lenient)) (.all (as.map strict)) := by
  induction as with
  | nil => exact compares_nil s
  | cons a as ih => exact (h a).append ih

theorem compares_resolved (s : Scene) {emission : Emission}
    (h : emission.isUnresolved = false) :
    Compares s [emission] (text emission.shown) (text emission.shown) := by
  have hshown : [emission].flatMap Emission.shown = emission.shown := List.append_nil _
  have hcompares := Compares.shown (s := s) (List.forall_mem_singleton.mpr h)
  rwa [hshown] at hcompares

/-- A slot without a value is the one place where the two differ. -/
theorem compares_unbound (s : Scene) (position : Position) (reference : Reference) (raw : Text) :
    Compares s [.scalar position reference raw none]
      (s.lenient.unbound position reference raw) (s.strictly.unbound position reference raw) := by
  have hshown : [Emission.scalar position reference raw none].flatMap Emission.shown = raw :=
    List.append_nil raw
  have hfirst : First [.scalar position reference raw none] position reference :=
    ⟨[], raw, [], rfl, fun _ hemission => absurd hemission List.not_mem_nil⟩
  have hcompares := Compares.undefined (s := s) hfirst
  rwa [hshown] at hcompares

end Meaning

namespace Scene

open Meaning (Compares)

variable (s : Scene)

theorem compares_slot (current? : Option (Text × Record)) (position : Position)
    (reference : Reference) (raw : Text) :
    Compares s [Emission.ofSlot s.binding? current? position reference raw]
      (s.lenient.slot current? position reference raw)
      (s.strictly.slot current? position reference raw) := by
  have hunbound := Meaning.compares_unbound s position reference raw
  obtain ⟨name, attr?⟩ := reference
  cases attr? with
  | some attr =>
    cases current? with
    | none => exact hunbound
    | some current =>
      obtain ⟨item, record⟩ := current
      simp only [Emission.ofSlot, slot]
      split
      · exact Meaning.compares_resolved s rfl
      · exact hunbound
  | none =>
    have hbinding : s.lenient.binding? = s.binding? ∧ s.strictly.binding? = s.binding? := ⟨rfl, rfl⟩
    simp only [Emission.ofSlot, slot, hbinding]
    cases s.binding? name with
    | none => exact hunbound
    | some binding =>
      cases binding with
      | records _ => exact hunbound
      | scalar value => exact Meaning.compares_resolved s rfl

mutual

theorem compares_node (current? : Option (Text × Record)) : (node : Node) →
    Compares s (Emission.ofNode s.binding? current? node) (s.lenient.node current? node)
      (s.strictly.node current? node)
  | .text _ value =>
    have hresolved : (Emission.literal value).isUnresolved = false := rfl
    Meaning.compares_resolved s hresolved
  | .slot position reference raw => s.compares_slot current? position reference raw
  | .block _ _ body => compares_nodes current? body
  | .loop position item collection raw body => by
    have hbinding : s.lenient.binding? = s.binding? ∧ s.strictly.binding? = s.binding? := ⟨rfl, rfl⟩
    simp only [Emission.ofNode, node, hbinding]
    cases s.binding? collection with
    | none => exact .unrepeatable nofun
    | some binding =>
      cases binding with
      | scalar _ => exact .unrepeatable nofun
      | records records =>
        exact Meaning.compares_all (fun record => compares_nodes (some (item, record)) body) records

theorem compares_nodes (current? : Option (Text × Record)) : (nodes : List Node) →
    Compares s (Emission.ofNodes s.binding? current? nodes) (s.lenient.nodes current? nodes)
      (s.strictly.nodes current? nodes)
  | [] => Meaning.compares_nil s
  | first :: rest => (compares_node current? first).append (compares_nodes current? rest)

end

end Scene

namespace Engine

open Emission (First)

/-- The path and the line of the slot without a value that makes a rendering fail. -/
def undefinedSlot? : Except Failure Text → Option (Text × Option Int)
  | .error (.template (.rendering ⟨.undefined path _, _, line⟩)) => some (path, line)
  | _ => none

/-- A lenient and a strict rendering of a page that emits this. -/
structure Compares (emissions : List Emission) (lenient strict : Except Failure Text) : Prop where
  /-- What is rendered strictly is rendered leniently too. -/
  ok : ∀ t, strict = .ok t → lenient = .ok t
  /-- What fails leniently fails strictly too. -/
  error : ∀ f, lenient = .error f → strict = .error f
  shown : ∀ t, lenient = .ok t → t = emissions.flatMap Emission.shown
  undefined_iff : (∃ slot, undefinedSlot? strict = some slot) ↔
    (∃ t, lenient = .ok t) ∧ ∃ emission ∈ emissions, emission.isUnresolved = true
  /-- The slot is the first one that is emitted without a value. -/
  first : ∀ slot, undefinedSlot? strict = some slot → ∃ position reference,
    First emissions position reference ∧ slot = (reference.path, some position.line)

/-- What a page emits: its nodes, with the blocks filled into its parent if it has one. -/
def emissions (e : Engine) (p : Page) (a : Arguments) (w : Workspace) : List Emission :=
  match (e.nodes p w).1 with
  | .ok nodes => Emission.ofNodes a.binding? none nodes
  | .error _ => []

variable {e : Engine} {p : Page} {a : Arguments} {w : Workspace} {emissions : List Emission}

/-- Neither gives a text nor tells of a slot. -/
theorem compares_error {f : Failure}
    (hother : ∀ path guess name line,
      f ≠ .template (.rendering ⟨.undefined path guess, name, line⟩)) :
    Compares emissions (.error f) (.error f) := by
  have hnone : undefinedSlot? (.error f) = none := by
    rw [undefinedSlot?]
    intro path guess name line herror
    exact hother path guess name line (Except.error.inj herror)
  refine ⟨nofun, fun _ herror => herror, nofun, ?_, ?_⟩ <;> rw [hnone]
  · exact iff_of_false nofun (fun ⟨⟨_, hok⟩, _⟩ => nomatch hok)
  · exact nofun

theorem compares_of_meaning {s : Scene} {m n : Meaning} (h : m.Compares s emissions n) :
    Compares emissions m.result n.result := by
  cases h with
  | unrepeatable hdefined =>
    refine compares_error fun path guess name line herror => ?_
    cases herror
    exact hdefined path guess rfl
  | shown hresolved =>
    refine ⟨fun _ hok => hok, nofun, fun _ hok => (Except.ok.inj hok).symm, ?_, nofun⟩
    refine iff_of_false nofun ?_
    rintro ⟨-, emission, hmem, hunresolved⟩
    exact Bool.false_ne_true ((hresolved emission hmem).symm.trans hunresolved)
  | undefined hfirst =>
    refine ⟨nofun, nofun, fun _ hok => (Except.ok.inj hok).symm, ?_, ?_⟩
    · exact iff_of_true ⟨_, rfl⟩ ⟨⟨_, rfl⟩, hfirst.exists_isUnresolved⟩
    · rintro slot hslot
      cases hslot
      exact ⟨_, _, hfirst, rfl⟩

theorem compares_finish {nodes : List Node} (hfits : ∀ node ∈ nodes, node.FitsBlock) :
    Compares (Emission.ofNodes a.binding? none nodes)
      (finish { e with strict := false } p nodes a w).1
      (finish { e with strict := true } p nodes a w).1 := by
  cases hbindings : a.bindings with
  | error f =>
    rw [finish_eq_error hbindings, finish_eq_error hbindings]
    exact compares_error fun _ _ _ _ => Arguments.bindings_ne_template hbindings _
  | ok b =>
    have hbinding : (Scene.among b e.strict p.name).binding? = a.binding? := by
      rw [Arguments.among_of_bindings hbindings e p]
      rfl
    rw [finish_fst hbindings, finish_fst hbindings, (Node.renders_nodes hfits).render_eq,
      (Node.renders_nodes hfits).render_eq, ← hbinding]
    exact compares_of_meaning (Scene.compares_nodes _ none nodes)

theorem load_ne_rendering {name : Text} {f : Failure} (h : (e.load name w).1 = .error f)
    (error : RenderError) : f ≠ .template (.rendering error) := by
  rw [load] at h
  split at h
  · cases h
  · split at h
    · cases h
      intro heq
      cases heq
    · rename_i loader _
      dsimp only at h
      rcases hread : loader.read name _ with ⟨f' | source, stores⟩ <;> rw [hread] at h <;> cases h
      have hother := loader.read_ne_rendering error (congrArg Prod.fst hread)
      cases f' with
      | reading f' =>
        intro heq
        rw [absence] at heq
        split at heq <;> cases heq
      | _ => exact hother

/-- What keeps the nodes of a page from being known is no error of rendering. -/
theorem nodes_ne_rendering {f : Failure} (h : (e.nodes p w).1 = .error f) (error : RenderError) :
    f ≠ .template (.rendering error) := by
  cases hparent : p.template.parent with
  | none =>
    rw [nodes_of_none hparent] at h
    cases h
  | some parent =>
    rcases hload : e.load parent.base w with ⟨f' | source, w'⟩
    · rw [nodes_eq_error hparent (page_of_load_error hload)] at h
      cases h
      exact load_ne_rendering (congrArg Prod.fst hload) error
    · have hpage := page_of_load hload
      obtain ⟨base, hread⟩ | ⟨m, hread⟩ := Page.ofSource_cases source (some parent.base) <;>
        rw [hread] at hpage
      · rw [exists_nodes hparent hpage] at h
        cases h
      · rw [nodes_eq_error hparent hpage] at h
        cases h
        exact nofun

/-- Strictness turns slots without a value into errors and changes nothing else, for every page,
with whatever a caller passes, and with any engine in any workspace. -/
theorem compares_renderPage {source : Text} {name : Option Text}
    (hp : Page.ofSource source name = .ok p) (a : Arguments) (w : Workspace) :
    Compares (e.emissions p a w) (renderPage { e with strict := false } p a w).1
      (renderPage { e with strict := true } p a w).1 := by
  have hlenient : nodes { e with strict := false } p = e.nodes p := nodes_congr rfl p
  have hstrict : nodes { e with strict := true } p = e.nodes p := nodes_congr rfl p
  cases hself : a.namesSelf with
  | true =>
    rw [renderPage_of_namesSelf hself, renderPage_of_namesSelf hself]
    exact compares_error fun _ _ _ _ => Failure.noConfusion
  | false =>
    rw [renderPage_eq hself, renderPage_eq hself, hlenient, hstrict, Engine.emissions]
    rcases hnodes : e.nodes p w with ⟨f | nodes, w'⟩
    · rw [bind_eq_error hnodes, bind_eq_error hnodes]
      exact compares_error fun _ _ _ _ => nodes_ne_rendering (congrArg Prod.fst hnodes) _
    · rw [bind_eq hnodes, bind_eq hnodes]
      exact compares_finish fun node hnode => (fits_and_quotes_of_nodes hp hnodes node hnode).1

/-- In the child with its parent the item of the loop is undefined. The property that no record has
is blank in both renderings. -/
theorem compares_childSource :
    let e : Engine := ⟨some (.mapping "store"), true, defaultFallback⟩
    let w : Workspace :=
      ⟨⟨default, Table.ofList [("store", Table.ofList [("b", parentSource)])], Table.empty⟩,
        Cache.empty, []⟩
    ∃ p, Page.ofSource childSource none = .ok p ∧
    Compares (e.emissions p childArguments w)
      (renderPage { e with strict := false } p childArguments w).1
      (renderPage { e with strict := true } p childArguments w).1 ∧
    (renderPage { e with strict := false } p childArguments w).1 =
      .ok "<new,2\x7b\x7br\x7d\x7d,3\x7b\x7br\x7d\x7d>" ∧
    undefinedSlot? (renderPage { e with strict := true } p childArguments w).1 =
      some (("r" : Text), some 1) := by
  intro e w
  have hresult : ((Page.ofSource childSource none).toOption.map fun p =>
        ((renderPage { e with strict := false } p childArguments w).1,
          undefinedSlot? (renderPage { e with strict := true } p childArguments w).1)) =
      some (.ok "<new,2\x7b\x7br\x7d\x7d,3\x7b\x7br\x7d\x7d>", some (("r" : Text), some 1)) := by
    decide +kernel
  cases hp : Page.ofSource childSource none with
  | error error =>
    rw [hp] at hresult
    cases hresult
  | ok p =>
    rw [hp] at hresult
    obtain ⟨hlenient, hstrict⟩ := Prod.mk.inj (Option.some.inj hresult)
    exact ⟨p, rfl, compares_renderPage hp childArguments w, hlenient, hstrict⟩

/-- The same for a page that is rendered without its parent. -/
theorem compares_renderPageAlone {source : Text} {name : Option Text}
    (hp : Page.ofSource source name = .ok p) (a : Arguments) (w : Workspace) :
    Compares (Emission.ofNodes a.binding? none p.template.flattenAlone)
      (renderPageAlone { e with strict := false } p a w).1
      (renderPageAlone { e with strict := true } p a w).1 := by
  cases hself : a.namesSelf with
  | true =>
    rw [renderPageAlone_of_namesSelf hself, renderPageAlone_of_namesSelf hself]
    exact compares_error fun _ _ _ _ => Failure.noConfusion
  | false =>
    rw [renderPageAlone_eq hself, renderPageAlone_eq hself]
    exact compares_finish
      (Template.fitsBlock_of_mem_flattenAlone (Page.template_of_ofSource hp).1)

end Engine

end Stencil
