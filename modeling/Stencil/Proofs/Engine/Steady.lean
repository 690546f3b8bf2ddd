import Stencil.Proofs.Engine.Work
import Stencil.Proofs.Loader.Contents
import Stencil.Proofs.Session.Load

/-! Jobs that give the same with any cache. A cache mirrors a loader if it holds nothing but what
the loader finds. A load gives the same whether the cache holds the name or not, and leaves a cache
that mirrors the loader again; everything else an engine does is put together from loads and from
work that looks at no cache. -/
namespace Stencil

/-- Every text that is stored is the one that the loader finds in these stores. -/
def Cache.Mirrors (c : Cache) (loader : Option Loader) (stores : Stores) : Prop :=
  ∀ name t, c.texts.get? name = some t → ∃ l source, loader = some l ∧
    (l.read name stores).1 = .ok source ∧ source.text = t

theorem Cache.mirrors_empty (loader : Option Loader) (stores : Stores) :
    Cache.empty.Mirrors loader stores := by
  intro name t h
  cases (Table.get?_empty name).symm.trans h

/-- The stores hold what they held, and the cache mirrors the loader. -/
structure Workspace.Mirrors (w : Workspace) (loader : Option Loader) (stores : Stores) : Prop where
  contents : w.stores.SameContents stores
  cache : w.cache.Mirrors loader stores

theorem Workspace.Mirrors.note {w : Workspace} {loader : Option Loader} {stores : Stores}
    (h : w.Mirrors loader stores) (events : List Event) : (w.note events).Mirrors loader stores :=
  ⟨h.contents, h.cache⟩

/-- A workspace in which nothing has been read yet. -/
def Workspace.fresh (stores : Stores) : Workspace := ⟨stores, Cache.empty, []⟩

theorem Workspace.mirrors_fresh (loader : Option Loader) (stores : Stores) :
    (fresh stores).Mirrors loader stores := ⟨.refl stores, Cache.mirrors_empty loader stores⟩

namespace Engine

variable {loader : Option Loader} {stores : Stores} {α β : Type}

/-- A job that gives the same in all workspaces that mirror a loader, and leaves them so. -/
def Steady (loader : Option Loader) (stores : Stores) (job : Work α) : Prop :=
  ∀ w w', w.Mirrors loader stores → w'.Mirrors loader stores →
    (job w).1 = (job w').1 ∧ (job w).2.Mirrors loader stores

/-- What a load comes to when the name is not stored. -/
def found (e : Engine) (stores : Stores) (name : Text) : Except Failure Text :=
  match e.loader with
  | none => .error (.template (.notFound (.noLoader name)))
  | some loader =>
    match (loader.read name stores).1 with
    | .ok source => .ok source.text
    | .error f => .error (absence name f)

theorem load_of_mirrors {e : Engine} {w : Workspace} (h : w.Mirrors e.loader stores) (name : Text) :
    (e.load name w).1 = e.found stores name ∧ (e.load name w).2.Mirrors e.loader stores := by
  have hcache := h.cache
  rw [load, found]
  cases hstored : w.cache.texts.get? name with
  | some t =>
    obtain ⟨loader, source, hloader, hread, htext⟩ := h.cache name t hstored
    rw [hloader] at hcache
    rw [Cache.lookup_of_some hstored, hloader]
    simp only [hread, htext]
    exact ⟨trivial, h.contents, hcache⟩
  | none =>
    rw [Cache.lookup_of_none hstored]
    cases hloader : e.loader with
    | none =>
      rw [hloader] at hcache
      exact ⟨rfl, h.contents, hcache⟩
    | some loader =>
      rw [hloader] at hcache
      obtain ⟨hresult, hleft⟩ := loader.read_congr name h.contents
      dsimp only [Workspace.note]
      rw [← hresult]
      rcases hread : loader.read name w.stores with ⟨f | source, stores'⟩ <;> rw [hread] at hleft
      · exact ⟨rfl, hleft.trans h.contents, hcache⟩
      · refine ⟨rfl, hleft.trans h.contents, fun name' t ht => ?_⟩
        replace ht : (w.cache.texts.put name source.text).get? name' = some t := ht
        rw [Table.get?_put] at ht
        split at ht
        · rename_i hname
          refine ⟨loader, source, rfl, ?_, Option.some.inj ht⟩
          rw [hname, ← hresult, hread]
        · exact hcache name' t ht

theorem steady_load {e : Engine} (h : e.loader = loader) (name : Text) :
    Steady loader stores (e.load name) := by
  subst h
  intro w w' hw hw'
  obtain ⟨hresult, hleft⟩ := load_of_mirrors hw name
  obtain ⟨hresult', -⟩ := load_of_mirrors hw' name
  exact ⟨hresult.trans hresult'.symm, hleft⟩

/-- Work that does not look at the workspace. -/
theorem steady_result (result : Except Failure α) :
    Steady loader stores (fun w => (result, w) : Work α) := fun _ _ hw _ => ⟨rfl, hw⟩

theorem steady_bind {first : Work α} {rest : α → Work β} (hfirst : Steady loader stores first)
    (hrest : ∀ x, Steady loader stores (rest x)) : Steady loader stores (first >>= rest) := by
  intro w w' hw hw'
  obtain ⟨hresult, hleft⟩ := hfirst w w' hw hw'
  obtain ⟨-, hleft'⟩ := hfirst w' w' hw' hw'
  rcases hdone : first w with ⟨f | x, v⟩ <;> rcases hdone' : first w' with ⟨f' | x', v'⟩ <;>
    rw [hdone] at hresult hleft <;> rw [hdone'] at hresult hleft'
  · obtain rfl : f = f' := Except.error.inj hresult
    rw [bind_eq_error hdone, bind_eq_error hdone']
    exact ⟨rfl, hleft⟩
  · cases hresult
  · cases hresult
  · obtain rfl : x = x' := Except.ok.inj hresult
    rw [bind_eq hdone, bind_eq hdone']
    exact hrest x v v' hleft hleft'

variable {e : Engine}

theorem steady_page (h : e.loader = loader) (name : Text) : Steady loader stores (e.page name) := by
  refine steady_bind (steady_load h name) fun source => ?_
  cases Page.ofSource source (some name) with
  | ok p => exact steady_result (.ok p)
  | error error => exact steady_result (.error (.template error))

theorem steady_nodes (h : e.loader = loader) (p : Page) : Steady loader stores (e.nodes p) := by
  rw [nodes]
  cases p.template.parent with
  | none => exact steady_result (.ok p.template.flatten)
  | some parent =>
    exact steady_bind (steady_page h parent.base) fun base =>
      steady_result (.ok (base.template.fill p.template.fillings))

theorem steady_finish (p : Page) (nodes : List Node) (a : Arguments) :
    Steady loader stores (e.finish p nodes a) := by
  intro w w' hw hw'
  obtain ⟨result, events, -, hfinish⟩ := e.exists_finish p nodes a
  rw [hfinish, hfinish]
  exact ⟨rfl, hw.note events⟩

theorem steady_renderPage (h : e.loader = loader) (p : Page) (a : Arguments) :
    Steady loader stores (e.renderPage p a) :=
  steady_bind (steady_result (a.check "render")) fun _ =>
    steady_bind (steady_nodes h p) fun nodes => steady_finish p nodes a

theorem steady_renderPageAlone (p : Page) (a : Arguments) :
    Steady loader stores (e.renderPageAlone p a) :=
  steady_bind (steady_result (a.check "render_direct")) fun _ =>
    steady_finish p p.template.flattenAlone a

/-- The fallback takes the place of a template error whatever the cache holds. -/
theorem steady_recover (name : Text) {work : Work Text} (h : Steady loader stores work) :
    Steady loader stores (e.recover name work) := by
  intro w w' hw hw'
  obtain ⟨hresult, hleft⟩ := h w w' hw hw'
  rw [recover, recover]
  rcases hdone : work w with ⟨result, v⟩
  rcases hdone' : work w' with ⟨result', v'⟩
  rw [hdone] at hresult hleft
  rw [hdone'] at hresult
  obtain rfl : result = result' := hresult
  cases result with
  | ok t => exact ⟨rfl, hleft⟩
  | error f =>
    cases f with
    | template error => exact ⟨rfl, hleft.note _⟩
    | _ => exact ⟨rfl, hleft⟩

theorem steady_render (h : e.loader = loader) (name : Text) (a : Arguments) :
    Steady loader stores (e.render name a) :=
  steady_recover name (steady_bind (steady_page h name) fun p => steady_renderPage h p a)

theorem steady_renderAlone (h : e.loader = loader) (name : Text) (a : Arguments) :
    Steady loader stores (e.renderAlone name a) :=
  steady_recover name (steady_bind (steady_page h name) fun p => steady_renderPageAlone p a)

/-- A page depends on the loader and on no other setting of the engine. -/
theorem page_congr {e' : Engine} (h : e.loader = e'.loader) (name : Text) :
    e.page name = e'.page name := by
  have hload : e.load name = e'.load name := by
    funext w
    rw [load, load, h]
  rw [page, page, hload]

theorem nodes_congr {e' : Engine} (h : e.loader = e'.loader) (p : Page) :
    e.nodes p = e'.nodes p := by
  rw [nodes, nodes]
  cases p.template.parent with
  | none => rfl
  | some parent =>
    dsimp only
    rw [page_congr h]

end Engine

end Stencil
