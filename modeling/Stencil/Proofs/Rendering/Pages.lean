import Stencil.Proofs.Engine.Work
import Stencil.Proofs.Rendering.Refinement

/-! Pages are rendered as they mean: the engine sorts out what a caller passes and finds the parent
of a page, and the walk over the nodes knows just as much. -/
namespace Stencil

namespace Arguments

/-- With one context at most, the values by name are stored over its values. -/
theorem exists_context {a : Arguments} (h : a.positional.length ≤ 1) : ∃ c, a.context = .ok c ∧
    c.get? = a.value? ∧ c.keys = a.names := by
  obtain ⟨positional, named⟩ := a
  match positional, h with
  | [], _ | [none], _ =>
    exact ⟨_, rfl, funext (Table.get?_putAll Table.empty named),
      Table.keys_putAll Table.empty named⟩
  | [some c], _ =>
    exact ⟨_, rfl, funext (Table.get?_putAll c named), Table.keys_putAll c named⟩

/-- What is bound has the names and the values of what is passed. -/
theorem among_of_bindings {a : Arguments} {b : Bindings} (h : a.bindings = .ok b) (e : Engine)
    (p : Page) : Scene.among b e.strict p.name = Scene.of e p a := by
  obtain ⟨c, hcontext, hbindings⟩ := exists_context_of_bindings h
  obtain ⟨c', hcontext', hget, hkeys⟩ := exists_context (length_le_one_of_context hcontext)
  obtain rfl := Except.ok.inj (hcontext.symm.trans hcontext')
  obtain rfl := Context.bound_of_bindings hbindings
  have hbinding : c.bound.get? = a.binding? := by
    funext name
    rw [Context.bound, Table.get?_filterMap, hget, binding?]
  have hnames : c.bound.keys = a.boundNames := by
    rw [Context.bound, Table.keys_filterMap, hkeys, hget]
    rfl
  rw [Scene.among, Scene.of, hbinding, hnames]

/-- What keeps arguments that can be passed from being sorted out. -/
theorem bindings_eq_error_iff {a : Arguments} (hself : a.namesSelf = false) {f : Failure}
    (method : String) : a.bindings = .error f ↔ a.failure? method = some f := by
  rw [failure?, if_neg (by simp [hself])]
  split
  · rename_i hmany
    have hcontext : a.context = .error (.tooManyArguments a.positional.length) := by
      cases hcontext : a.context with
      | error f => rw [context_eq_error hcontext]
      | ok c => exact absurd (length_le_one_of_context hcontext) (Nat.not_le_of_lt hmany)
    have hbindings : a.bindings = .error (.tooManyArguments a.positional.length) := by
      rw [bindings, hcontext]
      rfl
    rw [hbindings, Except.error.injEq, Option.some_inj]
  · rename_i hone
    obtain ⟨c, hcontext, hget, hkeys⟩ := exists_context (Nat.le_of_not_lt hone)
    have hfailure : c.failure? =
        a.names.findSome? fun name => (a.value? name).bind Value.failure? := by
      rw [Context.failure?, Table.findSome?_entries Value.failure?, hkeys, hget]
    rw [bindings_of_context hcontext, ← hfailure, Context.bindings_eq]
    cases c.failure? with
    | some f' => simp [Except.mapError]
    | none => simp [Except.mapError]

/-- With one context at most and texts for all that are asked for them, all is bound. -/
theorem exists_bindings {a : Arguments} (hone : a.positional.length ≤ 1)
    (hshow : ∀ name value, a.value? name = some value → value.failure? = none) :
    ∃ b, a.bindings = .ok b := by
  obtain ⟨c, hcontext, hget, -⟩ := exists_context hone
  have hfailure : c.failure? = none := by
    rw [Context.failure?, Table.findSome?_entries Value.failure?, hget]
    refine List.findSome?_eq_none_iff.mpr fun name _ => ?_
    cases hvalue : a.value? name with
    | none => rfl
    | some value => exact hshow name value hvalue
  rw [bindings_of_context hcontext, Context.bindings_eq, hfailure]
  exact ⟨c.bound, rfl⟩

theorem exists_binds {a : Arguments} {method : String} (h : a.failure? method = none) :
    ∃ b, a.Binds b := by
  cases hself : a.namesSelf with
  | true =>
    rw [failure?, if_pos hself] at h
    cases h
  | false =>
    cases hbindings : a.bindings with
    | error f =>
      rw [bindings_eq_error_iff hself method, h] at hbindings
      cases hbindings
    | ok b => exact ⟨b, hself, hbindings⟩

end Arguments

namespace Engine

variable {e : Engine} {p : Page} {a : Arguments} {w : Workspace}

/-- The nodes that are rendered mean what the page means. -/
theorem exists_renders {base : Template} {source : Text} {name : Option Text}
    (hp : Page.ofSource source name = .ok p)
    (hbase : ∀ b, p.template.baseName = some b → ∃ baseSource, (e.load b w).1 = .ok baseSource ∧
      Template.ofSource baseSource = .ok base ∧ base.parent = none) :
    ∃ nodes w', e.nodes p w = (.ok nodes, w') ∧ ∀ bindings strict template,
      Node.Renders bindings strict template nodes
        (p.template.meaning base (Scene.among bindings strict template)) := by
  have hfits := Template.fitsTop_of_mem_body (Page.template_of_ofSource hp).1
  cases hparent : p.template.parent with
  | none =>
    refine ⟨p.template.flatten, w, nodes_of_none hparent, fun bindings strict template => ?_⟩
    rw [Template.meaning, hparent]
    exact Template.renders_flatten hfits
  | some parent =>
    obtain ⟨baseSource, hload, hread, hnone⟩ :=
      hbase parent.base (by rw [Template.baseName, hparent]; rfl)
    obtain ⟨w', hpage⟩ := exists_page hload (Page.ofSource_eq_ok hread (some parent.base))
    refine ⟨_, w', exists_nodes hparent hpage, fun bindings strict template => ?_⟩
    exact Template.renders_fill hfits (Template.fitsTop_of_mem_body hread)
      (Option.ne_none_iff_exists'.mpr ⟨parent, hparent⟩) hnone

/-- A page is rendered as it means, unless something keeps the call from rendering. -/
theorem renderPage_eq_meaning {base : Template} {source : Text} {name : Option Text}
    (hp : Page.ofSource source name = .ok p)
    (hbase : ∀ b, p.template.baseName = some b → ∃ baseSource, (e.load b w).1 = .ok baseSource ∧
      Template.ofSource baseSource = .ok base ∧ base.parent = none) :
    (e.renderPage p a w).1 = match a.failure? "render" with
      | some f => .error f
      | none => (p.template.meaning base (Scene.of e p a)).result := by
  obtain ⟨nodes, w', hnodes, hrenders⟩ := exists_renders hp hbase
  cases hfailure : a.failure? "render" with
  | none =>
    obtain ⟨b, hself, hbindings⟩ := Arguments.exists_binds hfailure
    rw [renderPage_eq hself, bind_eq hnodes, finish_fst hbindings,
      (hrenders b e.strict p.name).render_eq, Arguments.among_of_bindings hbindings]
  | some f =>
    cases hself : a.namesSelf with
    | true =>
      rw [Arguments.failure?, if_pos hself] at hfailure
      cases hfailure
      rw [renderPage_of_namesSelf hself]
    | false =>
      rw [renderPage_eq hself, bind_eq hnodes,
        finish_eq_error ((Arguments.bindings_eq_error_iff hself "render").mpr hfailure)]

/-- A child that gives its parent the block `x` twice. -/
def childSource : Text :=
  "\x7b% extends \"b\" %\x7d\x7b% block x %\x7d1\x7b% endblock %\x7d" ++
  "\x7b% block x %\x7d \x7b\x7bn\x7d\x7d \x7b% endblock %\x7d"

/-- A parent with a block `x` and a loop behind it. -/
def parentSource : Text :=
  "<\x7b% block x %\x7d\x7b% endblock %\x7d" ++
  "\x7b% for r in rs %\x7d,\x7b\x7br.a\x7d\x7d\x7b\x7br.z\x7d\x7d" ++
  "\x7b\x7br\x7d\x7d\x7b% endfor %\x7d>"

/-- A name with a value and a context that has another value for it, and a name with records. -/
def childArguments : Arguments :=
  ⟨[some (Table.ofList [("n", .text "old"),
    ("rs", .records [Table.ofList [("a", "2")], Table.ofList [("a", "3")]])])],
    [("n", .text "new")]⟩

/-- The last block of a name is filled in without the spaces at its ends, the value by name goes
before that of the context, and a loop's item is no value of its own. -/
theorem renderPage_childSource : ∃ p, Page.ofSource childSource none = .ok p ∧
    (renderPage ⟨some (.mapping "store"), false, defaultFallback⟩ p childArguments
      ⟨⟨default, Table.ofList [("store", Table.ofList [("b", parentSource)])], Table.empty⟩,
        Cache.empty, []⟩).1 = .ok "<new,2\x7b\x7br\x7d\x7d,3\x7b\x7br\x7d\x7d>" := by
  have hread : (do
        let t ← Template.ofSource childSource
        let base ← Template.ofSource parentSource
        return (t.baseName, base.parent, t.meaning base
          ⟨none, false, childArguments.binding?, childArguments.boundNames⟩)) =
      .ok (some "b", none, .text "<new,2\x7b\x7br\x7d\x7d,3\x7b\x7br\x7d\x7d>") := by
    decide +kernel
  cases ht : Template.ofSource childSource with
  | error fault =>
    rw [ht] at hread
    cases hread
  | ok t =>
    cases hbase : Template.ofSource parentSource with
    | error fault =>
      rw [ht, hbase] at hread
      cases hread
    | ok base =>
      rw [ht, hbase] at hread
      obtain ⟨hname, hrest⟩ := Prod.mk.inj (Except.ok.inj hread)
      obtain ⟨hnone, hmeaning⟩ := Prod.mk.inj hrest
      have hp := Page.ofSource_eq_ok ht none
      have hpasses : childArguments.failure? "render" = none := by decide +kernel
      have hfound : ∀ b, t.baseName = some b → ∃ baseSource,
          (load ⟨some (.mapping "store"), false, defaultFallback⟩ b
            ⟨⟨default, Table.ofList [("store", Table.ofList [("b", parentSource)])], Table.empty⟩,
              Cache.empty, []⟩).1 = .ok baseSource ∧
          Template.ofSource baseSource = .ok base ∧ base.parent = none := by
        intro b hb
        cases hname.symm.trans hb
        exact ⟨parentSource, by decide +kernel, hbase, hnone⟩
      have hrender := renderPage_eq_meaning (a := childArguments) hp hfound
      rw [hpasses] at hrender
      exact ⟨_, hp, hrender.trans (congrArg Meaning.result hmeaning)⟩

end Engine

end Stencil
