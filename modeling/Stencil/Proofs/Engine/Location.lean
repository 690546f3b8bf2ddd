import Stencil.Proofs.Engine.Steady
import Stencil.Proofs.Rendering.Blame

/-! Where an error of rendering is. It has the name of the page that was rendered and the line of
the tag that failed. For a page without a parent this is the place of the tag. The nodes of a page
with a parent come from two sources, and the error has the name of the page for those of its parent
too, whose lines are other ones. -/
namespace Stencil

namespace Engine

variable {e : Engine} {p : Page} {a : Arguments} {w : Workspace} {stores : Stores} {store : String}
variable {error : RenderError}

/-- The page of a name is read from the text that a mapping has for it, and what keeps it from being
read is no error of rendering. -/
inductive Obtains (stores : Stores) (store : String) (name : Text) : Except Failure Page → Prop
  | read {source : Text} {p : Page} (hget : (stores.mapping store).get? name = some source)
      (hread : Page.ofSource source (some name) = .ok p) : Obtains stores store name (.ok p)
  | failed {f : Failure} (hother : ∀ error, f ≠ .template (.rendering error)) :
      Obtains stores store name (.error f)

theorem obtains_page (he : e.loader = some (.mapping store)) (hw : w.Mirrors e.loader stores)
    (name : Text) : Obtains stores store name (e.page name w).1 := by
  have hload := (load_of_mirrors hw name).1
  rw [found, he] at hload
  simp only [Loader.read, Loader.readMapping] at hload
  cases hget : (stores.mapping store).get? name with
  | none =>
    rw [hget] at hload
    rw [page_of_load_error (Prod.ext hload rfl)]
    exact .failed nofun
  | some source =>
    rw [hget] at hload
    rw [page_of_load (Prod.ext hload rfl)]
    obtain ⟨p, hread⟩ | ⟨m, hread⟩ := Page.ofSource_cases source (some name)
    · rw [hread]
      exact .read hget hread
    · rw [hread]
      exact .failed nofun

/-- What fails in a page stands in its source or in that of its parent. -/
theorem standsIn_of_renderPage (he : e.loader = some (.mapping store))
    (hw : w.Mirrors e.loader stores) {source : Text} {name : Option Text}
    (hp : Page.ofSource source name = .ok p)
    (h : (e.renderPage p a w).1 = .error (.template (.rendering error))) :
    error.template = name ∧ (error.StandsIn source ∨ ∃ parent baseSource,
      p.template.parent = some parent ∧ (stores.mapping store).get? parent.base = some baseSource ∧
        error.StandsIn baseSource) := by
  obtain ⟨hread, hname, -⟩ := Page.template_of_ofSource hp
  rw [← hname]
  rw [renderPage_eq (namesSelf_of_renderPage h)] at h
  cases hparent : p.template.parent with
  | none =>
    rw [bind_eq (nodes_of_none hparent)] at h
    obtain ⟨htemplate, node, hnode, entry, hentry, hblames⟩ :=
      exists_blames_of_finish (Template.fitsBlock_of_mem_flatten hread) h
    have hmem := Template.mem_linearise_of_mem_flatten hread node hnode entry hentry
    exact ⟨htemplate, .inl (Template.standsIn_of_mem_linearise hread hmem hblames)⟩
  | some parent =>
    have hobtains := obtains_page he hw parent.base
    rcases hpage : e.page parent.base w with ⟨f | base, w'⟩ <;> rw [hpage] at hobtains
    · rw [bind_eq_error (nodes_eq_error hparent hpage)] at h
      cases hobtains with
      | failed hother => exact absurd (Except.error.inj h) (hother error)
    · rw [bind_eq (exists_nodes hparent hpage)] at h
      cases hobtains with
      | @read baseSource _ hget hbase =>
        obtain ⟨hbaseRead, -, -⟩ := Page.template_of_ofSource hbase
        obtain ⟨htemplate, node, hnode, entry, hentry, hblames⟩ :=
          exists_blames_of_finish (Template.fitsBlock_of_mem_fill hread hbaseRead) h
        refine ⟨htemplate, ?_⟩
        obtain hmem | hmem := Template.mem_linearise_of_mem_fill hread hbaseRead node hnode entry
          hentry hblames.isSome_directive?
        · exact .inl (Template.standsIn_of_mem_linearise hread hmem hblames)
        · exact .inr ⟨parent, baseSource, rfl, hget,
            Template.standsIn_of_mem_linearise hbaseRead hmem hblames⟩

/-- With templates from a mapping, and whatever was read from it before, an error of rendering has
the name that was asked for, and the line on which a tag begins that it tells of. This tag stands in
the source of the name or in the source of the parent that is named there. -/
theorem standsIn_of_attempt (he : e.loader = some (.mapping store))
    (hw : w.Mirrors e.loader stores) {name : Text}
    (h : (e.attempt name a w).1 = .error (.template (.rendering error))) :
    error.template = some name ∧ ∃ source t, (stores.mapping store).get? name = some source ∧
      Template.ofSource source = .ok t ∧ (error.StandsIn source ∨ ∃ parent baseSource,
        t.parent = some parent ∧ (stores.mapping store).get? parent.base = some baseSource ∧
          error.StandsIn baseSource) := by
  have hobtains := obtains_page he hw name
  have hleft : (e.page name w).2.Mirrors e.loader stores := (steady_page rfl name w w hw hw).2
  rw [attempt] at h
  rcases hpage : e.page name w with ⟨f | p, w'⟩ <;> rw [hpage] at hobtains hleft
  · rw [bind_eq_error hpage] at h
    cases hobtains with
    | failed hother => exact absurd (Except.error.inj h) (hother error)
  · rw [bind_eq hpage] at h
    cases hobtains with
    | @read source _ hget hp =>
      obtain ⟨htemplate, hstands⟩ := standsIn_of_renderPage he hleft hp h
      exact ⟨htemplate, source, p.template, hget, (Page.template_of_ofSource hp).1, hstands⟩

/-- A child that has nothing but the tag of its parent. -/
def bareChild : Text := "\x7b% extends \"base\" %\x7d"

/-- The child with its parent, whose second line begins with a loop. -/
def loopStores : Stores :=
  ⟨default, Table.ofList [("store", Table.ofList [
    ("child", bareChild),
    ("base", "\n\x7b% for x in xs %\x7d\x7b% endfor %\x7d")])], Table.empty⟩

/-- The error of the parent's loop when the child is rendered. -/
def loopError : RenderError :=
  ⟨.missingCollection "xs" (some "\x7b% for x in xs %\x7d"), some "child", some 2⟩

theorem attempt_loopStores :
    (attempt ⟨some (.mapping "store"), false, defaultFallback⟩ "child" ⟨[], []⟩
      (Workspace.fresh loopStores)).1 = .error (.template (.rendering loopError)) := by
  decide +kernel

/-- The loop is found in the parent. -/
theorem standsIn_of_attempt_loopStores :
    (attempt ⟨some (.mapping "store"), false, defaultFallback⟩ "child" ⟨[], []⟩
      (Workspace.fresh loopStores)).1 = .error (.template (.rendering loopError)) ∧
    loopError.template = some "child" ∧ ∃ source t,
      (loopStores.mapping "store").get? "child" = some source ∧
      Template.ofSource source = .ok t ∧ (loopError.StandsIn source ∨ ∃ parent baseSource,
        t.parent = some parent ∧
          (loopStores.mapping "store").get? parent.base = some baseSource ∧
          loopError.StandsIn baseSource) :=
  ⟨attempt_loopStores,
    standsIn_of_attempt rfl (Workspace.mirrors_fresh _ loopStores) attempt_loopStores⟩

/-- The error names the child, but nothing stands on a second line of it, which it does not have. -/
theorem not_standsIn_child :
    (attempt ⟨some (.mapping "store"), false, defaultFallback⟩ "child" ⟨[], []⟩
      (Workspace.fresh loopStores)).1 = .error (.template (.rendering loopError)) ∧
    loopError.template = some "child" ∧
    (loopStores.mapping "store").get? "child" = some bareChild ∧
    ¬ loopError.StandsIn bareChild := by
  refine ⟨attempt_loopStores, rfl, by decide +kernel, ?_⟩
  rintro ⟨offset, d, raw, -, -, hline⟩
  have hnone : bareChild.count (.char '\n') = 0 := by decide
  have hcount := (List.take_sublist offset bareChild).count_le (.char '\n')
  have hlines := Option.some.inj hline
  rw [hnone] at hcount
  omega

end Engine

end Stencil
