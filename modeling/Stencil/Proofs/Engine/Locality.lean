import Stencil.Proofs.Engine.Recovery
import Stencil.Proofs.Engine.Steady
import Stencil.Proofs.Session.History

/-! Inheritance in one hop. Where nothing has been read yet, rendering a name asks the loader for
the name, then, if its source names a parent, for that parent, unless it is the name itself, which
the cache holds by then, and for nothing else; a script that is asked writes down just these. So it
makes no difference what a mapping has for other names, even if parents name each other as parents
in a circle. -/
namespace Stencil

/-- The parent that a source names, if the source is a template. -/
def baseOf? (source : Text) : Option Text :=
  match Template.ofSource source with
  | .ok t => t.baseName
  | .error _ => none

theorem baseOf?_of_page {source : Text} {name : Option Text} {p : Page}
    (h : Page.ofSource source name = .ok p) : baseOf? source = p.template.baseName := by
  rw [baseOf?, (Page.template_of_ofSource h).1]

theorem baseOf?_of_malformed {source : Text} {name : Option Text} {error : TemplateError}
    (h : Page.ofSource source name = .error error) : baseOf? source = none := by
  rw [baseOf?]
  cases hread : Template.ofSource source with
  | ok t => cases (Page.ofSource_eq_ok hread name).symm.trans h
  | error fault => rfl

/-- The names that a loader is asked for on behalf of a name, `source?` being what it has for it. -/
def hops (name : Text) (source? : Option Text) : List Text :=
  name :: (source?.bind baseOf?).toList.filter (· ≠ name)

/-- A call that cannot be made comes to no parent. -/
def hopsWith (a : Arguments) (name : Text) (source? : Option Text) : List Text :=
  if a.namesSelf then [name] else hops name source?

theorem nodup_hops (name : Text) (source? : Option Text) : (hops name source?).Nodup := by
  rw [hops]
  cases source?.bind baseOf? with
  | none => simp
  | some base =>
    by_cases h : base = name
    · simp [h]
    · simp [h, Ne.symm h]

/-- The name that a loader is asked for. -/
def Event.asked? : Event → Option Text
  | .loading name => some name
  | _ => none

theorem Event.filterMap_asked? {events : List Event}
    (h : ∀ event ∈ events, event.isLoading = false) : events.filterMap Event.asked? = [] := by
  refine List.filterMap_eq_nil_iff.mpr fun event hevent => ?_
  have hother := h event hevent
  cases event with
  | loading name => cases hother
  | skipping | failed => rfl

namespace Workspace

/-- From one workspace to another a loader is asked for some names in their order, and nothing else
is done to the stores. -/
structure Asks (loader : Loader) (names : List Text) (w w' : Workspace) : Prop where
  log : w'.log.filterMap Event.asked? = w.log.filterMap Event.asked? ++ names
  stores : w'.stores = names.foldl (fun stores name => (loader.read name stores).2) w.stores

variable {loader : Loader} {names names' : List Text} {w w' w'' : Workspace}

theorem Asks.trans (h : w.Asks loader names w') (h' : w'.Asks loader names' w'') :
    w.Asks loader (names ++ names') w'' where
  log := by rw [h'.log, h.log, List.append_assoc]
  stores := by rw [h'.stores, h.stores, List.foldl_append]

theorem Asks.note (h : w.Asks loader names w') {events : List Event}
    (hevents : ∀ event ∈ events, event.isLoading = false) :
    w.Asks loader names (w'.note events) where
  log := by rw [Workspace.note, List.filterMap_append, h.log, Event.filterMap_asked? hevents,
    List.append_nil]
  stores := h.stores

/-- A script that is asked adds the name to those that it was asked for. -/
theorem Asks.asked (h : w.Asks loader names w') {store : String}
    (hscript : loader = .function store ∨ loader = .custom store) :
    (w'.stores.script store).asked = (w.stores.script store).asked ++ names := by
  have hread (name : Text) (stores : Stores) :
      ((loader.read name stores).2.script store).asked =
        (stores.script store).asked ++ [name] := by
    have hask : ((stores.ask store name).2.script store).asked =
        (stores.script store).asked ++ [name] := by
      rw [Stores.script_ask, if_pos rfl, Script.ask]
    obtain rfl | rfl := hscript
    · rwa [Loader.read]
    · rwa [Loader.read]
  have hreads (names : List Text) (stores : Stores) :
      ((names.foldl (fun stores name => (loader.read name stores).2) stores).script store).asked =
        (stores.script store).asked ++ names := by
    induction names generalizing stores with
    | nil => exact (List.append_nil _).symm
    | cons name names ih =>
      rw [List.foldl_cons, ih, hread, List.append_assoc, List.singleton_append]
  rw [h.stores, hreads]

end Workspace

namespace Engine

open Workspace (Asks)

variable {e : Engine} {loader : Loader} {name : Text} {w : Workspace} {stores : Stores}

/-- A load, through whichever cache. -/
def asLoad (e : Engine) (name : Text) (w : Workspace) : Load := ⟨e, .own "", name, w⟩

theorem asks_load_of_none (he : e.loader = some loader) (h : w.cache.texts.get? name = none) :
    w.Asks loader [name] (e.load name w).2 where
  log := by
    have hlog : (e.load name w).2.log = _ := (e.asLoad name w).log_after
    have hasks : (e.asLoad name w).asks = true := by
      simp [Load.asks, Load.isHit, Load.stored?, asLoad, h, he]
    rw [hlog, hasks, if_pos rfl, List.filterMap_append]
    rfl
  stores := Load.stores_after (l := e.asLoad name w) he h

theorem asks_load_of_some {t : Text} (h : w.cache.texts.get? name = some t) :
    w.Asks loader [] (e.load name w).2 := by
  have hhits : (e.load name w).2 = { w with cache := w.cache.hit } :=
    (Load.hits_of_stored (l := e.asLoad name w) h).2
  rw [hhits]
  exact ⟨(List.append_nil _).symm, rfl⟩

/-- After a first load its name alone may be stored. -/
theorem get?_load_fresh (e : Engine) (name : Text) (stores : Stores) (base : Text) :
    (e.load name (.fresh stores)).2.cache.texts.get? base =
      if base = name then (e.load name (.fresh stores)).1.toOption else none := by
  have hcache : (e.load name (.fresh stores)).2.cache = _ :=
    (e.asLoad name (.fresh stores)).cache_after
  have hstored : (e.asLoad name (.fresh stores)).stored? = none := Table.get?_empty name
  have hresult : (e.asLoad name (.fresh stores)).result = (e.load name (.fresh stores)).1 := rfl
  rw [hcache, hstored, hresult]
  cases (e.load name (.fresh stores)).1 with
  | ok t =>
    show (Table.empty.put name t).get? base = _
    rw [Table.get?_put, Table.get?_empty]
    rfl
  | error f =>
    refine (Table.get?_empty base).trans ?_
    split <;> rfl

theorem namesFor_of_namesSelf {a : Arguments} (hself : a.namesSelf = true) (e : Engine)
    (name : Text) (w : Workspace) : e.namesFor name a w = [name] := by
  rw [namesFor]
  cases (e.page name w).1 with
  | error f => rfl
  | ok p => simp only [namesOf, if_pos hself]

theorem namesFor_eq {a : Arguments} (hself : a.namesSelf = false) (e : Engine) (name : Text)
    (w : Workspace) :
    e.namesFor name a w = name :: ((e.load name w).1.toOption.bind baseOf?).toList := by
  have hnames (p : Page) : namesOf p a = p.template.baseName.toList := by
    rw [namesOf, if_neg (by simp [hself])]
  simp only [namesFor, hnames]
  rcases hload : e.load name w with ⟨f | source, w'⟩
  · rw [page_of_load_error hload]
    rfl
  · have hbind : (Except.ok source : Except Failure Text).toOption.bind baseOf? =
        baseOf? source := rfl
    rw [page_of_load hload, hbind]
    obtain ⟨p, hread⟩ | ⟨m, hread⟩ := Page.ofSource_cases source (some name) <;> rw [hread]
    · rw [baseOf?_of_page hread]
      rfl
    · rw [baseOf?_of_malformed hread]
      rfl

/-- The names that are loaded on behalf of a name are asked for, but not its own a second time. -/
theorem asks_loadAll (he : e.loader = some loader) (stores : Stores) (name : Text) (a : Arguments) :
    (Workspace.fresh stores).Asks loader
      (hopsWith a name (e.load name (.fresh stores)).1.toOption)
      (e.loadAll (e.namesFor name a (.fresh stores)) (.fresh stores)) := by
  have hfirst : (Workspace.fresh stores).Asks loader [name] (e.load name (.fresh stores)).2 :=
    asks_load_of_none he (Table.get?_empty name)
  have hstored := e.get?_load_fresh name stores
  cases hself : a.namesSelf with
  | true =>
    rw [namesFor_of_namesSelf hself, hopsWith, if_pos hself]
    exact hfirst
  | false =>
    rw [namesFor_eq hself, loadAll, List.foldl_cons, hopsWith, if_neg (by simp [hself]), hops]
    cases hbase : (e.load name (.fresh stores)).1.toOption.bind baseOf? with
    | none => exact hfirst
    | some base =>
      obtain ⟨source, hsource, -⟩ := Option.bind_eq_some_iff.mp hbase
      by_cases hname : base = name
      · have hnone : (some base).toList.filter (· ≠ name) = [] := by simp [hname]
        rw [hnone]
        refine hfirst.trans (asks_load_of_some (t := source) ?_)
        rw [hstored, if_pos hname, hsource]
      · have hone : (some base).toList.filter (· ≠ name) = [base] := by simp [hname]
        rw [hone]
        exact hfirst.trans (asks_load_of_none he (by rw [hstored, if_neg hname]))

theorem asks_render (he : e.loader = some loader) (stores : Stores) (name : Text) (a : Arguments) :
    (Workspace.fresh stores).Asks loader
      (hopsWith a name (e.load name (.fresh stores)).1.toOption)
      (e.render name a (.fresh stores)).2 := by
  obtain ⟨events, hevents, hsnd⟩ := loadsOnly_render name a e (.fresh stores)
  rw [hsnd]
  exact (asks_loadAll he stores name a).note hevents

theorem asks_renderAlone (he : e.loader = some loader) (stores : Stores) (name : Text)
    (a : Arguments) :
    (Workspace.fresh stores).Asks loader [name] (e.renderAlone name a (.fresh stores)).2 := by
  obtain ⟨events, hevents, hsnd⟩ := loadsOnly_renderAlone name a e (.fresh stores)
  rw [hsnd]
  exact (asks_load_of_none he (Table.get?_empty name)).note hevents

/-- A script has written down what it was asked for on behalf of a name. -/
theorem asked_render {store : String} (he : e.loader = some loader)
    (hscript : loader = .function store ∨ loader = .custom store) (stores : Stores) (name : Text)
    (a : Arguments) :
    ((e.render name a (.fresh stores)).2.stores.script store).asked = (stores.script store).asked ++
        hopsWith a name (e.load name (.fresh stores)).1.toOption ∧
      ((e.renderAlone name a (.fresh stores)).2.stores.script store).asked =
        (stores.script store).asked ++ [name] :=
  ⟨(asks_render he stores name a).asked hscript, (asks_renderAlone he stores name a).asked hscript⟩

/-! Two mappings. -/

/-- The same result, or two template errors, of which it is not said what they tell. -/
inductive Agrees {α : Type} : Except Failure α → Except Failure α → Prop
  | same (result : Except Failure α) : Agrees result result
  | errors (error error' : TemplateError) :
      Agrees (.error (.template error)) (.error (.template error'))

theorem Agrees.bind {α β : Type} {first : Work α} {rest : α → Work β} {w w' : Workspace}
    (h : Agrees (first w).1 (first w').1)
    (hrest : ∀ x, (first w).1 = .ok x → Agrees (rest x (first w).2).1 (rest x (first w').2).1) :
    Agrees ((first >>= rest) w).1 ((first >>= rest) w').1 := by
  rcases hdone : first w with ⟨result, v⟩
  rcases hdone' : first w' with ⟨result', v'⟩
  rw [hdone, hdone'] at h
  rw [hdone, hdone'] at hrest
  cases h with
  | errors error error' =>
    rw [bind_eq_error hdone, bind_eq_error hdone']
    exact .errors error error'
  | same =>
    cases result with
    | error f =>
      rw [bind_eq_error hdone, bind_eq_error hdone']
      exact .same _
    | ok x =>
      rw [bind_eq hdone, bind_eq hdone']
      exact hrest x rfl

/-- Errors are answered by the fallback, whatever they tell. -/
theorem recover_congr {work : Work Text} {w w' : Workspace} (h : Agrees (work w).1 (work w').1) :
    (e.recover name work w).1 = (e.recover name work w').1 := by
  rw [recover, recover]
  rcases hdone : work w with ⟨result, v⟩
  rcases hdone' : work w' with ⟨result', v'⟩
  rw [hdone, hdone'] at h
  cases h with
  | errors => rfl
  | same =>
    cases result with
    | ok t => rfl
    | error f => cases f <;> rfl

section

variable {store : String} {stores' : Stores} {w' : Workspace}

theorem load_of_mapping (he : e.loader = some (.mapping store)) (hw : w.Mirrors e.loader stores)
    (name : Text) : (e.load name w).1 = match (stores.mapping store).get? name with
      | some t => .ok t
      | none => .error (.template (.notFound
          (.unlisted name (Loader.sortNames (stores.mapping store).keys)))) := by
  rw [(load_of_mirrors hw name).1, found, he]
  simp only [Loader.read, Loader.readMapping]
  cases (stores.mapping store).get? name <;> rfl

theorem agrees_page (he : e.loader = some (.mapping store)) (hw : w.Mirrors e.loader stores)
    (hw' : w'.Mirrors e.loader stores')
    (hget : (stores.mapping store).get? name = (stores'.mapping store).get? name) :
    Agrees (e.page name w).1 (e.page name w').1 := by
  refine Agrees.bind ?_ fun source _ => ?_
  · rw [load_of_mapping he hw, load_of_mapping he hw', ← hget]
    cases (stores.mapping store).get? name with
    | none => exact .errors _ _
    | some t => exact .same _
  · cases Page.ofSource source (some name) with
    | ok p => exact .same _
    | error error => exact .same _

theorem agrees_nodes {p : Page} (he : e.loader = some (.mapping store))
    (hw : w.Mirrors e.loader stores) (hw' : w'.Mirrors e.loader stores')
    (hget : ∀ base, p.template.baseName = some base →
      (stores.mapping store).get? base = (stores'.mapping store).get? base) :
    Agrees (e.nodes p w).1 (e.nodes p w').1 := by
  cases hparent : p.template.parent with
  | none =>
    rw [nodes_of_none hparent, nodes_of_none hparent]
    exact .same _
  | some parent =>
    have hbase := hget parent.base (by rw [Template.baseName, hparent]; rfl)
    rw [nodes, hparent]
    exact (agrees_page he hw hw' hbase).bind fun _ _ => .same _

theorem agrees_finish (p : Page) (nodes : List Node) (a : Arguments) (w w' : Workspace) :
    Agrees (e.finish p nodes a w).1 (e.finish p nodes a w').1 := by
  obtain ⟨result, events, -, hfinish⟩ := e.exists_finish p nodes a
  rw [hfinish, hfinish]
  exact .same result

theorem agrees_renderPage {p : Page} {a : Arguments}
    (h : Agrees (e.nodes p w).1 (e.nodes p w').1) :
    Agrees (e.renderPage p a w).1 (e.renderPage p a w').1 := by
  cases hself : a.namesSelf with
  | true =>
    rw [renderPage_of_namesSelf hself, renderPage_of_namesSelf hself]
    exact .same _
  | false =>
    rw [renderPage_eq hself]
    exact h.bind fun nodes _ => agrees_finish p nodes a _ _

/-- Mappings that have the same for a name and for the parent of its source. -/
theorem agrees_attempt (he : e.loader = some (.mapping store)) (a : Arguments)
    (h : ∀ n ∈ hops name ((stores.mapping store).get? name),
      (stores.mapping store).get? n = (stores'.mapping store).get? n) :
    Agrees (e.attempt name a (.fresh stores)).1 (e.attempt name a (.fresh stores')).1 := by
  have hw := Workspace.mirrors_fresh e.loader stores
  have hw' := Workspace.mirrors_fresh e.loader stores'
  have hname := h name List.mem_cons_self
  refine (agrees_page he hw hw' hname).bind fun p hp => ?_
  have hleft := (steady_page rfl name _ _ hw hw).2
  have hleft' := (steady_page rfl name _ _ hw' hw').2
  refine agrees_renderPage (agrees_nodes he hleft hleft' fun base hbase => ?_)
  by_cases hself : base = name
  · rwa [hself]
  · refine h base (List.mem_cons_of_mem name (List.mem_filter.mpr ⟨?_, decide_eq_true hself⟩))
    obtain ⟨source, hload, hread⟩ := source_of_page (Prod.ext hp rfl)
    have hget : (stores.mapping store).get? name = some source := by
      have hfst := (load_of_mapping he hw name).symm.trans (congrArg Prod.fst hload)
      split at hfst
      · rename_i t hsome
        rw [hsome, Except.ok.inj hfst]
      · cases hfst
    rw [hget, Option.bind_some, baseOf?_of_page hread, hbase]
    exact List.mem_singleton_self base

/-- One hop: what is asked for and what matters when a name is rendered from a mapping of which
nothing has been read yet. -/
structure OneHop (e : Engine) (store : String) (stores : Stores) (name : Text) (a : Arguments) :
    Prop where
  /-- There is an answer, also where parents name each other in a circle. -/
  answers : a.Suits → ∃ t, (e.render name a (.fresh stores)).1 = .ok t
  nodup : (hops name ((stores.mapping store).get? name)).Nodup
  asks : (Workspace.fresh stores).Asks (.mapping store)
    (hopsWith a name ((stores.mapping store).get? name)) (e.render name a (.fresh stores)).2
  asksAlone : (Workspace.fresh stores).Asks (.mapping store) [name]
    (e.renderAlone name a (.fresh stores)).2
  /-- Another mapping that has the same for these names gives the same. -/
  congr : ∀ stores', (∀ n ∈ hops name ((stores.mapping store).get? name),
      (stores.mapping store).get? n = (stores'.mapping store).get? n) →
    (e.render name a (.fresh stores)).1 = (e.render name a (.fresh stores')).1

/-- Inheritance is one hop, whatever the mapping has for its names. -/
theorem oneHop_of_mapping (he : e.loader = some (.mapping store)) (stores : Stores) (name : Text)
    (a : Arguments) : e.OneHop store stores name a where
  answers := fun ha => by
    obtain ⟨t, -, ht, -⟩ := recovers_recover (fun f w' h => attempt_error
      (findsTemplates_of_mapping he) (.inl ha) h) (quiet_attempt e name a (.fresh stores))
    exact ⟨t, ht⟩
  nodup := nodup_hops name _
  asks := by
    have hsource : (e.load name (.fresh stores)).1.toOption = (stores.mapping store).get? name := by
      rw [load_of_mapping he (Workspace.mirrors_fresh e.loader stores)]
      cases (stores.mapping store).get? name <;> rfl
    have hasks := asks_render he stores name a
    rwa [hsource] at hasks
  asksAlone := asks_renderAlone he stores name a
  congr := fun _ h => recover_congr (agrees_attempt he a h)

end

/-- Two templates that name each other as parents, and one that names itself. -/
def circleStores : Stores :=
  ⟨default, Table.ofList [("store", Table.ofList [
    ("a", "\x7b% extends \"b\" %\x7d\x7b% block x %\x7d1\x7b% endblock %\x7d"),
    ("b", "\x7b% extends \"a\" %\x7d\x7b% block x %\x7d2\x7b% endblock %\x7d"),
    ("self", "\x7b% extends \"self\" %\x7d")])], Table.empty⟩

/-- Each of the two is filled into the other once, and the one that names itself is read once. -/
theorem oneHop_circleStores :
    let e : Engine := ⟨some (.mapping "store"), true, defaultFallback⟩
    let m := circleStores.mapping "store"
    e.loader = some (.mapping "store") ∧
    e.OneHop "store" circleStores "a" ⟨[], []⟩ ∧ hops "a" (m.get? "a") = ["a", "b"] ∧
    (e.render "a" ⟨[], []⟩ (.fresh circleStores)).1 = .ok "\x7b% extends \"a\" %\x7d1" ∧
    e.OneHop "store" circleStores "self" ⟨[], []⟩ ∧ hops "self" (m.get? "self") = ["self"] :=
  ⟨rfl, oneHop_of_mapping rfl circleStores "a" ⟨[], []⟩, by decide +kernel, by decide +kernel,
    oneHop_of_mapping rfl circleStores "self" ⟨[], []⟩, by decide +kernel⟩

end Engine

end Stencil
