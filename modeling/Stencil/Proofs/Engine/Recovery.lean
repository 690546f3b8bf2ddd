import Stencil.Proofs.Rendering.Opened
import Stencil.Proofs.Rendering.Pages
import Stencil.Proofs.Text.Replace

/-! Rendering by name is where failures end. Templates that come from a mapping are read, filled in
and rendered with template errors as the only failures, as no loop or block is ever left among the
nodes that are written. So rendering by name always answers: with the text, or with the fallback and
one line that tells of the error. -/
namespace Stencil

namespace Node

/-- Nodes that are left when blocks are opened up fail for want of a value, or not at all. -/
theorem render_error {bindings : Bindings} {strict : Bool} {template : Option Text}
    {nodes : List Node} (hfits : ∀ node ∈ nodes, node.FitsBlock) {f : Failure}
    (h : render bindings strict template nodes = .error f) :
    ∃ error, f = .template (.rendering error) := by
  rw [(renders_nodes hfits).render_eq] at h
  generalize (Scene.among bindings strict template).nodes none nodes = m at h
  cases m with
  | text t => cases h
  | unresolved error | unrepeatable error => exact ⟨error, (Except.error.inj h).symm⟩

end Node

namespace Engine

variable {e : Engine} {p : Page} {a : Arguments} {w w' : Workspace} {f : Failure}

/-- Loading fails with template errors alone. -/
def FindsTemplates (e : Engine) : Prop :=
  ∀ name w f, (e.load name w).1 = .error f → ∃ error, f = .template error

theorem findsTemplates_of_mapping {store : String} (h : e.loader = some (.mapping store)) :
    e.FindsTemplates := by
  intro name w f hload
  rw [load] at hload
  split at hload
  · cases hload
  · rw [h] at hload
    dsimp only [Loader.read] at hload
    rw [Loader.readMapping] at hload
    split at hload
    · cases hload
    · rename_i hread
      split at hread
      · cases hread
      · cases hread
        exact ⟨_, (Except.error.inj hload).symm⟩

theorem page_error (he : e.FindsTemplates) {name : Text} (h : e.page name w = (.error f, w')) :
    ∃ error, f = .template error := by
  rcases hload : e.load name w with ⟨f' | source, w''⟩
  · rw [page_of_load_error hload] at h
    cases h
    exact he name w f (congrArg Prod.fst hload)
  · rw [page_of_load hload] at h
    cases hread : Page.ofSource source (some name) with
    | ok p =>
      rw [hread] at h
      cases h
    | error error =>
      rw [hread] at h
      cases h
      exact ⟨error, rfl⟩

theorem finish_error {b : Bindings} (ha : a.bindings = .ok b) {nodes : List Node}
    (hfits : ∀ node ∈ nodes, node.FitsBlock) (h : e.finish p nodes a w = (.error f, w')) :
    ∃ error, f = .template error := by
  have hrender := congrArg Prod.fst h
  rw [finish_fst ha] at hrender
  obtain ⟨error, rfl⟩ := Node.render_error hfits hrender
  exact ⟨_, rfl⟩

/-- A page that was read renders with template errors as its only failures. -/
theorem renderPage_error (he : e.FindsTemplates) {source : Text} {name : Option Text}
    (hp : Page.ofSource source name = .ok p) (ha : a.Suits)
    (h : e.renderPage p a w = (.error f, w')) : ∃ error, f = .template error := by
  obtain ⟨b, hself, hbindings⟩ := ha
  rw [renderPage_eq hself] at h
  obtain ⟨hread, -, -⟩ := Page.template_of_ofSource hp
  cases hparent : p.template.parent with
  | none =>
    rw [bind_eq (nodes_of_none hparent)] at h
    exact finish_error hbindings (Template.fitsBlock_of_mem_flatten hread) h
  | some parent =>
    rcases hpage : e.page parent.base w with ⟨f' | base, w''⟩
    · rw [bind_eq_error (nodes_eq_error hparent hpage)] at h
      cases h
      exact page_error he hpage
    · rw [bind_eq (exists_nodes hparent hpage)] at h
      obtain ⟨baseSource, -, hbase⟩ := source_of_page hpage
      exact finish_error hbindings
        (Template.fitsBlock_of_mem_fill hread (Page.template_of_ofSource hbase).1) h

theorem renderPageAlone_error {source : Text} {name : Option Text}
    (hp : Page.ofSource source name = .ok p) (ha : a.Suits)
    (h : e.renderPageAlone p a w = (.error f, w')) : ∃ error, f = .template error := by
  obtain ⟨b, hself, hbindings⟩ := ha
  rw [renderPageAlone_eq hself] at h
  exact finish_error hbindings
    (Template.fitsBlock_of_mem_flattenAlone (Page.template_of_ofSource hp).1) h

/-- The page of a name cannot be had. -/
def Misses (e : Engine) (name : Text) (w : Workspace) : Prop := ∃ f, (e.page name w).1 = .error f

/-- What begins with the page of a name fails as the page does or as the rest does. -/
theorem bind_page_error (he : e.FindsTemplates) {name : Text} {rest : Page → Work Text}
    (hrest : ¬ e.Misses name w → ∀ {source p w}, Page.ofSource source (some name) = .ok p →
      rest p w = (.error f, w') → ∃ error, f = .template error)
    (h : (e.page name >>= rest) w = (.error f, w')) : ∃ error, f = .template error := by
  rcases hpage : e.page name w with ⟨f' | p, w''⟩
  · rw [bind_eq_error hpage] at h
    cases h
    exact page_error he hpage
  · rw [bind_eq hpage] at h
    obtain ⟨source, -, hp⟩ := source_of_page hpage
    refine hrest (fun ⟨f', hmisses⟩ => ?_) hp h
    rw [hpage] at hmisses
    cases hmisses

theorem attempt_error (he : e.FindsTemplates) {name : Text} (ha : a.Suits ∨ e.Misses name w)
    (h : e.attempt name a w = (.error f, w')) : ∃ error, f = .template error :=
  bind_page_error he (fun hfound _ _ _ hp h =>
    renderPage_error he hp (ha.resolve_right hfound) h) h

theorem attemptAlone_error (he : e.FindsTemplates) {name : Text} (ha : a.Suits ∨ e.Misses name w)
    (h : e.attemptAlone name a w = (.error f, w')) : ∃ error, f = .template error :=
  bind_page_error he (fun hfound _ _ _ hp h =>
    renderPageAlone_error hp (ha.resolve_right hfound) h) h

/-! A second value for the page itself is no template error. -/

theorem attempt_of_namesSelf (hself : a.namesSelf = true) {name : Text}
    (hpage : e.page name w = (.ok p, w')) :
    e.attempt name a w = (.error (.secondSelf "render"), w') := by
  rw [attempt, bind_eq hpage, renderPage_of_namesSelf hself]

theorem attemptAlone_of_namesSelf (hself : a.namesSelf = true) {name : Text}
    (hpage : e.page name w = (.ok p, w')) :
    e.attemptAlone name a w = (.error (.secondSelf "render_direct"), w') := by
  rw [attemptAlone, bind_eq hpage, renderPageAlone_of_namesSelf hself]

/-! What is logged. -/

/-- The lines of events that tell of an error. -/
def errorLines (events : List Event) : List Text :=
  (events.map Event.line).filter ("ERROR" : Text).isPrefixOf

theorem errorLines_append (events events' : List Event) :
    errorLines (events ++ events') = errorLines events ++ errorLines events' := by
  rw [errorLines, List.map_append, List.filter_append]
  rfl

theorem errorLines_loading (name : Text) : errorLines [.loading name] = [] := rfl

theorem errorLines_failed (name summary : Text) :
    errorLines [.failed name summary] = [(Event.failed name summary).line] := rfl

theorem errorLines_of_isSkip {events : List Event} (h : ∀ event ∈ events, event.IsSkip) :
    errorLines events = [] := by
  refine List.filter_eq_nil_iff.mpr fun line hline => ?_
  obtain ⟨event, hevent, rfl⟩ := List.mem_map.mp hline
  obtain ⟨name, typeName, rfl⟩ := h event hevent
  exact Bool.false_ne_true

/-- The log only grows, and not by an error. -/
def Quiet (w w' : Workspace) : Prop := ∃ events, w'.log = w.log ++ events ∧ errorLines events = []

theorem Quiet.refl (w : Workspace) : Quiet w w := ⟨[], (List.append_nil _).symm, rfl⟩

theorem Quiet.trans {w w' w'' : Workspace} (h : Quiet w w') (h' : Quiet w' w'') : Quiet w w'' := by
  obtain ⟨events, hlog, herrors⟩ := h
  obtain ⟨events', hlog', herrors'⟩ := h'
  refine ⟨events ++ events', by rw [hlog', hlog, List.append_assoc], ?_⟩
  rw [errorLines_append, herrors, herrors', List.append_nil]

theorem quiet_note {events : List Event} (h : ∀ event ∈ events, event.IsSkip) (w : Workspace) :
    Quiet w (w.note events) := ⟨events, rfl, errorLines_of_isSkip h⟩

theorem quiet_load (e : Engine) (name : Text) (w : Workspace) : Quiet w (e.load name w).2 := by
  rw [load]
  split
  · exact .refl w
  · split
    · exact .refl w
    · dsimp only
      split <;> exact ⟨[.loading name], rfl, errorLines_loading name⟩

theorem quiet_loadAll (e : Engine) (names : List Text) (w : Workspace) :
    Quiet w (e.loadAll names w) := by
  induction names generalizing w with
  | nil => exact .refl w
  | cons name names ih => exact (quiet_load e name w).trans (ih _)

theorem quiet_attempt (e : Engine) (name : Text) (a : Arguments) (w : Workspace) :
    Quiet w (e.attempt name a w).2 := by
  obtain ⟨events, hskip, hsnd⟩ := e.exists_attempt_snd name a w
  rw [hsnd]
  exact (quiet_loadAll e _ w).trans (quiet_note hskip _)

theorem quiet_attemptAlone (e : Engine) (name : Text) (a : Arguments) (w : Workspace) :
    Quiet w (e.attemptAlone name a w).2 := by
  obtain ⟨events, hskip, hsnd⟩ := e.exists_attemptAlone_snd name a w
  rw [hsnd]
  exact (quiet_load e name w).trans (quiet_note hskip _)

/-- What is answered for a name when an attempt comes to this: its text, with no line of an error,
or, if it fails with a template error, the fallback with the name for `{name}`, and one line of the
error. -/
def Recovers (e : Engine) (name : Text) (w : Workspace) (attempt : Except Failure Text)
    (answer : Except Failure Text × Workspace) : Prop :=
  ∃ t events, answer.1 = .ok t ∧ answer.2.log = w.log ++ events ∧
    ((attempt = .ok t ∧ errorLines events = []) ∨
      ∃ error, attempt = .error (.template error) ∧
        Text.Replaces "\x7bname\x7d" name e.fallback t ∧
        errorLines events =
          ["ERROR Error rendering template " ++ name.quoted ++ ": " ++ error.summary])

theorem recovers_recover {work : Work Text} {name : Text}
    (herror : ∀ f w', work w = (.error f, w') → ∃ error, f = .template error)
    (hquiet : Quiet w (work w).2) : e.Recovers name w (work w).1 (e.recover name work w) := by
  obtain ⟨events, hlog, herrors⟩ := hquiet
  rw [recover]
  rcases hwork : work w with ⟨f | t, w'⟩ <;> rw [hwork] at hlog
  · obtain ⟨error, rfl⟩ := herror f w' hwork
    refine ⟨_, events ++ [.failed name error.summary], rfl, ?_, .inr ⟨error, rfl, ?_, ?_⟩⟩
    · rw [← List.append_assoc, ← hlog]
      rfl
    · exact Text.replaces_replaceAll (by decide +kernel) e.fallback
    · rw [errorLines_append, herrors, errorLines_failed]
      rfl
  · exact ⟨t, events, rfl, hlog, .inl ⟨rfl, herrors⟩⟩

/-- What is not recovered from. -/
theorem recover_eq {work : Work Text} {name : Text} {f : Failure}
    (h : work w = (.error f, w')) (hf : ∀ error, f ≠ .template error) :
    e.recover name work w = (.error f, w') := by
  rw [recover, h]
  cases f with
  | template error => exact absurd rfl (hf error)
  | _ => rfl

/-- With templates from a mapping, whatever it and the cache hold, rendering by name always answers,
unless a value is passed by the name `self` and the page is there to be rendered, which is recovered
from in no way. Nothing but a template error is ever recovered from: a page that was read does not
fail in any other way. -/
theorem render_recovers {store : String} (he : e.loader = some (.mapping store))
    (hone : a.positional.length ≤ 1)
    (hshow : ∀ name value, a.value? name = some value → value.failure? = none) (w : Workspace) :
    (∀ name, (a.namesSelf = false ∨ e.Misses name w →
        e.Recovers name w (e.attempt name a w).1 (e.render name a w) ∧
        e.Recovers name w (e.attemptAlone name a w).1 (e.renderAlone name a w)) ∧
      (a.namesSelf = true → ¬ e.Misses name w →
        (e.render name a w).1 = .error (.secondSelf "render") ∧
        (e.renderAlone name a w).1 = .error (.secondSelf "render_direct"))) ∧
    (a.namesSelf = false → ∀ source name p f, Page.ofSource source name = .ok p →
      (e.renderPage p a w).1 = .error f ∨ (e.renderPageAlone p a w).1 = .error f →
      ∃ error, f = .template error) := by
  have hfinds := findsTemplates_of_mapping he
  obtain ⟨b, hbindings⟩ := Arguments.exists_bindings hone hshow
  refine ⟨fun name => ⟨fun h => ?_, fun hself hfound => ?_⟩, fun hself source name p f hp hf => ?_⟩
  · have hgoes : a.Suits ∨ e.Misses name w := h.imp_left fun hself => ⟨b, hself, hbindings⟩
    exact ⟨recovers_recover (fun f w' h => attempt_error hfinds hgoes h) (quiet_attempt e name a w),
      recovers_recover (fun f w' h => attemptAlone_error hfinds hgoes h)
        (quiet_attemptAlone e name a w)⟩
  · rcases hpage : e.page name w with ⟨f | p, w'⟩
    · exact absurd ⟨f, congrArg Prod.fst hpage⟩ hfound
    · have hsecond (method : String) (error : TemplateError) :
          Failure.secondSelf method ≠ .template error := Failure.noConfusion
      exact ⟨congrArg Prod.fst (recover_eq (attempt_of_namesSelf hself hpage) (hsecond _)),
        congrArg Prod.fst (recover_eq (attemptAlone_of_namesSelf hself hpage) (hsecond _))⟩
  · have hsuits : a.Suits := ⟨b, hself, hbindings⟩
    obtain hf | hf := hf
    · exact renderPage_error hfinds hp hsuits (Prod.ext hf rfl)
    · exact renderPageAlone_error hp hsuits (Prod.ext hf rfl)

/-- Templates that name themselves and each other as parents, and one that is broken. -/
def tangledStores : Stores :=
  ⟨default, Table.ofList [("store", Table.ofList [
    ("self", "\x7b% extends \"self\" %\x7dx"),
    ("child", "\x7b% extends \"broken\" %\x7d"),
    ("broken", "\x7b% block x %\x7d")])], Table.empty⟩

/-- The fallback shows the name that was asked for, also when its parent is the one that fails. -/
theorem render_recovers_tangledStores :
    let e : Engine := ⟨some (.mapping "store"), true, "<\x7bname\x7d\x7bname\x7d>"⟩
    let w : Workspace := ⟨tangledStores, Cache.empty, []⟩
    (e.render "self" ⟨[], []⟩ w).1 = .ok "\x7b% extends \"self\" %\x7dx" ∧
    (e.render "child" ⟨[], []⟩ w).1 = .ok "<childchild>" ∧
    e.Recovers "child" w (e.attempt "child" ⟨[], []⟩ w).1 (e.render "child" ⟨[], []⟩ w) := by
  refine ⟨by decide +kernel, by decide +kernel, ?_⟩
  exact (((render_recovers (a := ⟨[], []⟩) rfl (Nat.zero_le 1) (fun _ _ h => by cases h) _).1
    "child").1 (.inl rfl)).1

/-- A value by the name `self` fails with what is no template error, and nothing is answered. -/
theorem not_recovers_self :
    let e : Engine := ⟨some (.mapping "store"), false, defaultFallback⟩
    let w : Workspace :=
      ⟨⟨default, Table.ofList [("store", Table.ofList [("t", "x")])], Table.empty⟩, Cache.empty, []⟩
    let a : Arguments := ⟨[], [("self", .text "y")]⟩
    (∀ name value, a.value? name = some value → value.failure? = none) ∧
    (e.render "t" ⟨[], []⟩ w).1 = .ok "x" ∧
    (e.render "t" a w).1 = .error (.secondSelf "render") ∧
    (e.renderAlone "t" a w).1 = .error (.secondSelf "render_direct") ∧
    ¬ e.Recovers "t" w (e.attempt "t" a w).1 (e.render "t" a w) := by
  intro e w a
  have hrender : (e.render "t" a w).1 = .error (.secondSelf "render") := by decide +kernel
  refine ⟨fun name value h => ?_, by decide +kernel, hrender, by decide +kernel, ?_⟩
  · rw [Arguments.value?] at h
    simp only [a, Arguments.passed?, List.reverse_singleton, List.lookup_cons, List.lookup_nil,
      List.head?_nil, Option.join_none, Option.bind_none, Option.or_none] at h
    split at h
    · cases h
      rfl
    · cases h
  · rintro ⟨t, events, hanswer, -, -⟩
    rw [hrender] at hanswer
    cases hanswer

end Engine

end Stencil
