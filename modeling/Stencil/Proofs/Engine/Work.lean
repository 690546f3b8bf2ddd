import Stencil.Engine

/-! The work of an engine, taken apart. Work that goes on after other work ends with the failure of
the first, if that fails, and the workspace is handed on either way. So what a job gives and what it
leaves behind is known from the one or two loads it begins with. -/
namespace Stencil

/-- A value of a context binds nothing. -/
def Event.IsSkip (event : Event) : Prop := ∃ name typeName, event = .skipping name typeName

theorem Workspace.note_nil (w : Workspace) : w.note [] = w := by
  rw [note, List.append_nil]

theorem Workspace.note_note (w : Workspace) (events events' : List Event) :
    (w.note events).note events' = w.note (events ++ events') := by
  rw [note, note, note, List.append_assoc]

namespace Page

theorem ofSource_eq_ok {source : Text} {t : Template} (h : Template.ofSource source = .ok t)
    (name : Option Text) : ofSource source name = .ok ⟨name, source, t⟩ := by
  rw [ofSource, h]

/-- A page has the template, the name and the source it was read with. -/
theorem template_of_ofSource {source : Text} {name : Option Text} {p : Page}
    (h : ofSource source name = .ok p) :
    Template.ofSource source = .ok p.template ∧ p.name = name ∧ p.source = source := by
  rw [ofSource] at h
  cases htemplate : Template.ofSource source with
  | error fault =>
    rw [htemplate] at h
    cases h
  | ok t =>
    rw [htemplate] at h
    cases h
    exact ⟨rfl, rfl, rfl⟩

/-- A page is read, or its source is malformed. -/
theorem ofSource_cases (source : Text) (name : Option Text) :
    (∃ p, ofSource source name = .ok p) ∨ ∃ m, ofSource source name = .error (.malformed m) := by
  rw [ofSource]
  cases Template.ofSource source with
  | ok t => exact .inl ⟨_, rfl⟩
  | error fault => exact .inr ⟨_, rfl⟩

end Page

namespace Arguments

variable {a : Arguments}

theorem context_eq_error {f : Failure} (h : a.context = .error f) :
    f = .tooManyArguments a.positional.length := by
  rw [context] at h
  split at h <;> cases h
  rfl

theorem length_le_one_of_context {c : Context} (h : a.context = .ok c) :
    a.positional.length ≤ 1 := by
  rw [context] at h
  split at h
  case h_1 hnil => rw [hnil]; exact Nat.zero_le 1
  case h_2 hnone => rw [hnone]; exact Nat.le_refl 1
  case h_3 hsome => rw [hsome]; exact Nat.le_refl 1
  case h_4 => cases h

/-- What the arguments bind, as far as they can be sorted out. -/
def bindings (a : Arguments) : Except Failure Bindings := do
  let c ← a.context
  c.bindings.mapError .showing

/-- Nothing keeps a call from rendering, and this is what its arguments bind. -/
def Binds (a : Arguments) (b : Bindings) : Prop := a.namesSelf = false ∧ a.bindings = .ok b

/-- A call can be made with the arguments, and all that are asked for their texts have them. -/
def Suits (a : Arguments) : Prop := ∃ b, a.Binds b

theorem bindings_of_context {c : Context} (h : a.context = .ok c) :
    a.bindings = c.bindings.mapError .showing := by
  rw [bindings, h]
  rfl

theorem exists_context_of_bindings {b : Bindings} (h : a.bindings = .ok b) :
    ∃ c, a.context = .ok c ∧ c.bindings = .ok b := by
  cases hcontext : a.context with
  | error f =>
    rw [bindings, hcontext] at h
    cases h
  | ok c =>
    rw [bindings_of_context hcontext] at h
    cases hbindings : c.bindings with
    | error f =>
      rw [hbindings] at h
      cases h
    | ok b' =>
      rw [hbindings] at h
      exact ⟨c, rfl, hbindings.trans (congrArg Except.ok (Except.ok.inj h))⟩

/-- What keeps arguments from being sorted out is no template error. -/
theorem bindings_ne_template {f : Failure} (h : a.bindings = .error f) (error : TemplateError) :
    f ≠ .template error := by
  cases hcontext : a.context with
  | error f' =>
    rw [bindings, hcontext] at h
    obtain rfl := Except.error.inj h
    rw [context_eq_error hcontext]
    exact Failure.noConfusion
  | ok c =>
    rw [bindings_of_context hcontext] at h
    cases hbindings : c.bindings with
    | error f' =>
      rw [hbindings] at h
      obtain rfl := Except.error.inj h
      exact Failure.noConfusion
    | ok b =>
      rw [hbindings] at h
      cases h

end Arguments

namespace Engine

variable {e : Engine} {p : Page} {a : Arguments} {w w' : Workspace}

/-- Work that goes on after work that gives something. -/
theorem bind_eq {α β : Type} {first : Work α} {rest : α → Work β} {x : α}
    (h : first w = (.ok x, w')) : (first >>= rest) w = rest x w' := by
  show (match first w with
    | (result, w') => ExceptT.bindCont rest result w') = _
  rw [h]
  rfl

/-- Work that would go on after work that fails. -/
theorem bind_eq_error {α β : Type} {first : Work α} {rest : α → Work β} {f : Failure}
    (h : first w = (.error f, w')) : (first >>= rest) w = (.error f, w') := by
  show (match first w with
    | (result, w') => ExceptT.bindCont rest result w') = _
  rw [h]
  rfl

theorem liftExcept_bind {α β : Type} (x : α) (rest : α → Work β) :
    (liftExcept (.ok x) >>= rest) = rest x := rfl

theorem liftExcept_bind_error {α β : Type} (f : Failure) (rest : α → Work β) :
    (liftExcept (.error f) >>= rest) w = (.error f, w) := rfl

/-- A page is read from a source that was loaded. -/
theorem page_of_load {name source : Text} (h : e.load name w = (.ok source, w')) :
    e.page name w = ((Page.ofSource source (some name)).mapError .template, w') := by
  rw [page, bind_eq h]
  cases Page.ofSource source (some name) <;> rfl

theorem page_of_load_error {name : Text} {f : Failure} (h : e.load name w = (.error f, w')) :
    e.page name w = (.error f, w') := by
  rw [page, bind_eq_error h]

theorem exists_page {name source : Text} {p : Page} (hload : (e.load name w).1 = .ok source)
    (hpage : Page.ofSource source (some name) = .ok p) : ∃ w', e.page name w = (.ok p, w') := by
  refine ⟨(e.load name w).2, ?_⟩
  rw [page_of_load (Prod.ext hload rfl), hpage]
  rfl

theorem source_of_page {name : Text} {p : Page} (h : e.page name w = (.ok p, w')) :
    ∃ source, e.load name w = (.ok source, w') ∧ Page.ofSource source (some name) = .ok p := by
  cases hload : e.load name w with | mk result w''
  cases result with
  | error f =>
    rw [page_of_load_error hload] at h
    cases h
  | ok source =>
    rw [page_of_load hload] at h
    obtain ⟨hpage, rfl⟩ := Prod.mk.inj h
    refine ⟨source, rfl, ?_⟩
    cases hread : Page.ofSource source (some name) with
    | error error =>
      rw [hread] at hpage
      cases hpage
    | ok p' =>
      rw [hread] at hpage
      cases hpage
      rfl

/-- The nodes of a page that names no parent. -/
theorem nodes_of_none (h : p.template.parent = none) :
    e.nodes p w = (.ok p.template.flatten, w) := by
  rw [nodes, h]
  rfl

/-- The nodes of a page that is filled into its parent. -/
theorem exists_nodes {parent : Parent} {base : Page} (h : p.template.parent = some parent)
    {w' : Workspace} (hbase : e.page parent.base w = (.ok base, w')) :
    e.nodes p w = (.ok (base.template.fill p.template.fillings), w') := by
  rw [nodes, h]
  exact bind_eq hbase

theorem nodes_eq_error {parent : Parent} {f : Failure} (h : p.template.parent = some parent)
    (hbase : e.page parent.base w = (.error f, w')) : e.nodes p w = (.error f, w') := by
  rw [nodes, h]
  exact bind_eq_error hbase

theorem finish_eq {c : Context} (h : a.context = .ok c) (nodes : List Node) :
    e.finish p nodes a w = (a.bindings.bind fun b => Node.render b e.strict p.name nodes,
      w.note (c.skipped.map fun (name, typeName) => .skipping name typeName)) := by
  have hnote (rest : Work Text) (w : Workspace) (events : List Event) :
      (do modify fun w : Workspace => w.note events; rest) w = rest (w.note events) := rfl
  rw [finish, Arguments.bindings_of_context h, h, liftExcept_bind, hnote]
  cases c.bindings.mapError Failure.showing <;> rfl

/-- The nodes are rendered as what the arguments bind. -/
theorem finish_fst {b : Bindings} (h : a.bindings = .ok b) (nodes : List Node) :
    (e.finish p nodes a w).1 = Node.render b e.strict p.name nodes := by
  obtain ⟨c, hcontext, -⟩ := Arguments.exists_context_of_bindings h
  rw [finish_eq hcontext, h]
  rfl

theorem finish_eq_error {f : Failure} (h : a.bindings = .error f) (nodes : List Node) :
    (e.finish p nodes a w).1 = .error f := by
  cases hcontext : a.context with
  | error f' =>
    rw [Arguments.bindings, hcontext] at h
    obtain rfl := Except.error.inj h
    rw [finish, hcontext, liftExcept_bind_error]
  | ok c => rw [finish_eq hcontext, h]; rfl

/-- The nodes are rendered alike in all workspaces, and only values that bind nothing are noted. -/
theorem exists_finish (e : Engine) (p : Page) (nodes : List Node) (a : Arguments) :
    ∃ result events, (∀ event ∈ events, event.IsSkip) ∧
      ∀ w, e.finish p nodes a w = (result, w.note events) := by
  cases hcontext : a.context with
  | error f =>
    refine ⟨.error f, [], by simp, fun w => ?_⟩
    rw [finish, hcontext, liftExcept_bind_error, w.note_nil]
  | ok c =>
    refine ⟨_, _, fun event hevent => ?_, fun w => finish_eq hcontext nodes⟩
    obtain ⟨⟨name, typeName⟩, -, rfl⟩ := List.mem_map.mp hevent
    exact ⟨name, typeName, rfl⟩

/-! Calls that render a page, up to the question whether they can be made at all. -/

theorem renderPage_of_namesSelf (h : a.namesSelf = true) :
    e.renderPage p a w = (.error (.secondSelf "render"), w) := by
  rw [renderPage, Arguments.check, if_pos h]
  rfl

theorem renderPage_eq (h : a.namesSelf = false) (e : Engine) (p : Page) :
    e.renderPage p a = (e.nodes p >>= fun nodes => e.finish p nodes a) := by
  rw [renderPage, Arguments.check, if_neg (by simp [h])]
  rfl

/-- A call that cannot be made fails with what is no template error. -/
theorem namesSelf_of_renderPage {error : TemplateError}
    (h : (e.renderPage p a w).1 = .error (.template error)) : a.namesSelf = false := by
  refine Bool.eq_false_iff.mpr fun hself => ?_
  rw [renderPage_of_namesSelf hself] at h
  cases h

theorem renderPageAlone_of_namesSelf (h : a.namesSelf = true) :
    e.renderPageAlone p a w = (.error (.secondSelf "render_direct"), w) := by
  rw [renderPageAlone, Arguments.check, if_pos h]
  rfl

theorem namesSelf_of_renderPageAlone {error : TemplateError}
    (h : (e.renderPageAlone p a w).1 = .error (.template error)) : a.namesSelf = false := by
  refine Bool.eq_false_iff.mpr fun hself => ?_
  rw [renderPageAlone_of_namesSelf hself] at h
  cases h

theorem renderPageAlone_eq (h : a.namesSelf = false) (e : Engine) (p : Page) :
    e.renderPageAlone p a = e.finish p p.template.flattenAlone a := by
  rw [renderPageAlone, Arguments.check, if_neg (by simp [h])]
  rfl

/-! What jobs leave behind. -/

/-- The workspace after some names were loaded one after the other. -/
def loadAll (e : Engine) (names : List Text) (w : Workspace) : Workspace :=
  names.foldl (fun w name => (e.load name w).2) w

theorem page_snd (e : Engine) (name : Text) (w : Workspace) :
    (e.page name w).2 = (e.load name w).2 := by
  rcases hload : e.load name w with ⟨f | source, w'⟩
  · rw [page_of_load_error hload]
  · rw [page_of_load hload]

/-- A page loads its parent and nothing else. -/
theorem nodes_snd (e : Engine) (p : Page) (w : Workspace) :
    (e.nodes p w).2 = e.loadAll p.template.baseName.toList w := by
  rw [Template.baseName]
  cases hparent : p.template.parent with
  | none => rw [nodes_of_none hparent]; rfl
  | some parent =>
    have hsnd := page_snd e parent.base w
    rcases hpage : e.page parent.base w with ⟨f | base, w'⟩
    · rw [nodes_eq_error hparent hpage]
      rwa [hpage] at hsnd
    · rw [exists_nodes hparent hpage]
      rwa [hpage] at hsnd

/-- The names that are loaded on behalf of a page that is rendered: its parent's, unless the call
cannot be made. -/
def namesOf (p : Page) (a : Arguments) : List Text :=
  if a.namesSelf then [] else p.template.baseName.toList

/-- A page that is rendered loads its parent, and then only values that bind nothing are noted. -/
theorem exists_renderPage_snd (e : Engine) (p : Page) (a : Arguments) (w : Workspace) :
    ∃ events, (∀ event ∈ events, event.IsSkip) ∧
      (e.renderPage p a w).2 = (e.loadAll (namesOf p a) w).note events := by
  rw [namesOf]
  cases hself : a.namesSelf with
  | true =>
    refine ⟨[], by simp, ?_⟩
    rw [renderPage_of_namesSelf hself, Workspace.note_nil]
    rfl
  | false =>
    have hsnd := e.nodes_snd p w
    rw [if_neg Bool.false_ne_true, renderPage_eq hself]
    rcases hnodes : e.nodes p w with ⟨f | nodes, w'⟩ <;> rw [hnodes] at hsnd <;> rw [← hsnd]
    · refine ⟨[], by simp, ?_⟩
      rw [bind_eq_error hnodes, Workspace.note_nil]
    · obtain ⟨result, events, hskip, hfinish⟩ := e.exists_finish p nodes a
      refine ⟨events, hskip, ?_⟩
      rw [bind_eq hnodes, hfinish]

theorem exists_renderPageAlone_snd (e : Engine) (p : Page) (a : Arguments) (w : Workspace) :
    ∃ events, (∀ event ∈ events, event.IsSkip) ∧
      (e.renderPageAlone p a w).2 = w.note events := by
  cases hself : a.namesSelf with
  | true =>
    refine ⟨[], by simp, ?_⟩
    rw [renderPageAlone_of_namesSelf hself, Workspace.note_nil]
  | false =>
    obtain ⟨result, events, hskip, hfinish⟩ := e.exists_finish p p.template.flattenAlone a
    refine ⟨events, hskip, ?_⟩
    rw [renderPageAlone_eq hself, hfinish]

/-- What rendering by name recovers from: it renders the page of a name, as far as that goes. -/
def attempt (e : Engine) (name : Text) (a : Arguments) : Work Text := do
  let page ← e.page name
  e.renderPage page a

/-- Renders the page of a name without its parent, as far as that goes. -/
def attemptAlone (e : Engine) (name : Text) (a : Arguments) : Work Text := do
  let page ← e.page name
  e.renderPageAlone page a

/-- The names that are loaded for a name with its parent. -/
def namesFor (e : Engine) (name : Text) (a : Arguments) (w : Workspace) : List Text :=
  name :: match (e.page name w).1 with
    | .ok page => namesOf page a
    | .error _ => []

theorem exists_attempt_snd (e : Engine) (name : Text) (a : Arguments) (w : Workspace) :
    ∃ events, (∀ event ∈ events, event.IsSkip) ∧
      (e.attempt name a w).2 = (e.loadAll (e.namesFor name a w) w).note events := by
  have hsnd := e.page_snd name w
  rw [namesFor, loadAll, List.foldl_cons, ← hsnd, attempt]
  rcases hpage : e.page name w with ⟨f | p, w'⟩
  · refine ⟨[], by simp, ?_⟩
    rw [bind_eq_error hpage, Workspace.note_nil]
    rfl
  · rw [bind_eq hpage]
    exact exists_renderPage_snd e p a w'

theorem exists_attemptAlone_snd (e : Engine) (name : Text) (a : Arguments) (w : Workspace) :
    ∃ events, (∀ event ∈ events, event.IsSkip) ∧
      (e.attemptAlone name a w).2 = (e.load name w).2.note events := by
  have hsnd := e.page_snd name w
  rw [← hsnd, attemptAlone]
  rcases hpage : e.page name w with ⟨f | p, w'⟩
  · refine ⟨[], by simp, ?_⟩
    rw [bind_eq_error hpage, Workspace.note_nil]
  · rw [bind_eq hpage]
    exact exists_renderPageAlone_snd e p a w'

end Engine

end Stencil
