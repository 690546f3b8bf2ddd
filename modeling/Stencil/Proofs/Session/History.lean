import Stencil.Proofs.Session.Load

/-! The loads of a session. Whatever is done with engines comes down to loads, and what else there
is to do, short of reaching into a cache past the engines, leaves the caches as they are. So each
cache is known from the loads that went through it, in their order, whichever engines made them and
however their settings and the contents of their loaders changed in between. -/
namespace Stencil

def Event.isLoading : Event → Bool
  | .loading _ => true
  | _ => false

theorem Event.IsSkip.isLoading {event : Event} (h : event.IsSkip) : event.isLoading = false := by
  obtain ⟨name, typeName, rfl⟩ := h
  rfl

namespace Load

/-- The lines that loads log when they ask their loaders. -/
def lines (loads : List Load) : List Event :=
  (loads.filter asks).map fun l => .loading l.name

end Load

namespace Engine

open Load (Linked lines)

/-- Loads of some names, one after the other. -/
def loadsOf (e : Engine) (id : CacheId) : List Text → Workspace → List Load
  | [], _ => []
  | name :: names, w => ⟨e, id, name, w⟩ :: loadsOf e id names (e.load name w).2

variable (e : Engine) (id : CacheId)

theorem linked_loadsOf (names : List Text) (w : Workspace) :
    Linked id w.cache (e.loadsOf id names w) (e.loadAll names w).cache := by
  induction names generalizing w with
  | nil => exact .nil _
  | cons name names ih => exact .here (l := ⟨e, id, name, w⟩) rfl (ih (e.load name w).2)

theorem linked_loadsOf_of_ne {id' : CacheId} (h : id ≠ id') (names : List Text) (w : Workspace)
    (c : Cache) : Linked id' c (e.loadsOf id names w) c := by
  induction names generalizing w with
  | nil => exact .nil c
  | cons name names ih => exact .elsewhere h (ih (e.load name w).2)

theorem log_loadAll (names : List Text) (w : Workspace) :
    (e.loadAll names w).log = w.log ++ lines (e.loadsOf id names w) := by
  induction names generalizing w with
  | nil => exact (List.append_nil _).symm
  | cons name names ih =>
    have hlog : (e.load name w).2.log = _ := Load.log_after ⟨e, id, name, w⟩
    have hrest : (e.loadAll (name :: names) w).log = _ := ih (e.load name w).2
    rw [hrest, hlog, List.append_assoc, loadsOf, lines, lines, List.filter_cons]
    split <;> rfl

/-- A job loads some names, one after the other, and logs nothing else that tells of loading. -/
def LoadsOnly {α : Type} (job : Engine → Work α) (names : Engine → Workspace → List Text) : Prop :=
  ∀ e w, ∃ events, (∀ event ∈ events, event.isLoading = false) ∧
    (job e w).2 = (e.loadAll (names e w) w).note events

theorem loadsOnly_load (name : Text) : LoadsOnly (fun e => e.load name) fun _ _ => [name] :=
  fun _ w => ⟨[], by simp, (Workspace.note_nil _).symm⟩

theorem loadsOnly_page (name : Text) : LoadsOnly (fun e => e.page name) fun _ _ => [name] :=
  fun e w => ⟨[], by simp, (e.page_snd name w).trans (Workspace.note_nil _).symm⟩

theorem loadsOnly_ofSource (source : Text) (name : Option Text) :
    LoadsOnly (fun _ => (match Page.ofSource source name with
      | .ok page => return page
      | .error error => throw (.template error) : Work Page)) fun _ _ => [] := by
  refine fun e w => ⟨[], by simp, ?_⟩
  cases Page.ofSource source name <;> exact (Workspace.note_nil w).symm

theorem loadsOnly_renderPage (p : Page) (a : Arguments) :
    LoadsOnly (fun e => e.renderPage p a) fun _ _ => namesOf p a := by
  intro e w
  obtain ⟨events, hskip, hsnd⟩ := e.exists_renderPage_snd p a w
  exact ⟨events, fun event hevent => (hskip event hevent).isLoading, hsnd⟩

theorem loadsOnly_renderPageAlone (p : Page) (a : Arguments) :
    LoadsOnly (fun e => e.renderPageAlone p a) fun _ _ => [] := by
  intro e w
  obtain ⟨events, hskip, hsnd⟩ := e.exists_renderPageAlone_snd p a w
  exact ⟨events, fun event hevent => (hskip event hevent).isLoading, hsnd⟩

/-- Recovering adds a line that tells of an error at most. -/
theorem LoadsOnly.recover (name : Text) (work : Engine → Work Text)
    {names : Engine → Workspace → List Text} (h : LoadsOnly work names) :
    LoadsOnly (fun e => e.recover name (work e)) names := by
  intro e w
  obtain ⟨events, hevents, hsnd⟩ := h e w
  dsimp only [Engine.recover]
  rcases hwork : work e w with ⟨f | t, w'⟩ <;> rw [hwork] at hsnd
  · cases f with
    | template error =>
      refine ⟨events ++ [.failed name error.summary], fun event hevent => ?_, ?_⟩
      · obtain hevent | hevent := List.mem_append.mp hevent
        · exact hevents event hevent
        · rw [List.mem_singleton.mp hevent]
          rfl
      · rw [← Workspace.note_note, ← hsnd]
    | _ => exact ⟨events, hevents, hsnd⟩
  · exact ⟨events, hevents, hsnd⟩

theorem loadsOnly_render (name : Text) (a : Arguments) :
    LoadsOnly (fun e => e.render name a) fun e w => e.namesFor name a w := by
  refine LoadsOnly.recover name (fun e => e.attempt name a) fun e w => ?_
  obtain ⟨events, hskip, hsnd⟩ := e.exists_attempt_snd name a w
  exact ⟨events, fun event hevent => (hskip event hevent).isLoading, hsnd⟩

theorem loadsOnly_renderAlone (name : Text) (a : Arguments) :
    LoadsOnly (fun e => e.renderAlone name a) fun _ _ => [name] := by
  refine LoadsOnly.recover name (fun e => e.attemptAlone name a) fun e w => ?_
  obtain ⟨events, hskip, hsnd⟩ := e.exists_attemptAlone_snd name a w
  exact ⟨events, fun event hevent => (hskip event hevent).isLoading, hsnd⟩

end Engine

namespace Step

/-- Whether a step looks something up in a cache or stores it there past the engines. -/
def isDirect : Step → Bool
  | .cacheLookup .. | .cacheStore .. => true
  | _ => false

end Step

namespace Session

open Load (Linked lines)

/-- The session after some steps. -/
def after (s : Session) (steps : List Step) : Session :=
  steps.foldl (fun s next => (s.step next).session) s

/-- The loads of some names through an engine. -/
def loadsThrough (s : Session) (engine : String) (names : Engine → Workspace → List Text) :
    List Load :=
  match s.engine engine with
  | .ok (e, id) => e.loadsOf id (names e ⟨s.stores, s.cache id, []⟩) ⟨s.stores, s.cache id, []⟩
  | .error _ => []

/-- The loads of a step. -/
def loads (s : Session) : Step → List Load
  | .render engine name a => s.loadsThrough engine fun e w => e.namesFor name a w
  | .renderAlone engine name _ | .load engine name | .keepPage engine name _ =>
    s.loadsThrough engine fun _ _ => [name]
  | .renderKept kept a =>
    match s.page kept with
    | .ok (engine, page) => s.loadsThrough engine fun _ _ => Engine.namesOf page a
    | .error _ => []
  | _ => []

/-- The loads of steps that are taken one after the other. -/
def history (s : Session) : List Step → List Load
  | [] => []
  | next :: steps => s.loads next ++ (s.step next).session.history steps

/-- An outcome in which some loads, and nothing else, changed the caches, and these alone tell of
loading in the log. -/
structure Accounts (s : Session) (o : Outcome) (loads : List Load) : Prop where
  linked : ∀ id, Linked id (s.cache id) loads (o.session.cache id)
  log : o.log.filter Event.isLoading = lines loads

variable {s : Session}

theorem accounts_quiet {o : Outcome} (hcaches : o.session.caches = s.caches) (hlog : o.log = []) :
    s.Accounts o [] := by
  refine ⟨fun id => ?_, by rw [hlog]; rfl⟩
  rw [cache, cache, hcaches]
  exact .nil _

theorem cache_of_put {s' : Session} {id : CacheId} {c : Cache}
    (h : s'.caches = s.caches.put id c) (id' : CacheId) :
    s'.cache id' = if id' = id then c else s.cache id' := by
  rw [cache, h, Table.get?_put]
  split <;> rfl

/-- What an engine did with its cache is handed on to the session. -/
theorem accounts_of_loadAll {e : Engine} {id : CacheId} {names : List Text} {events : List Event}
    (hevents : ∀ event ∈ events, event.isLoading = false) {o : Outcome}
    (hcaches : o.session.caches =
      s.caches.put id (e.loadAll names ⟨s.stores, s.cache id, []⟩).cache)
    (hlog : o.log = (e.loadAll names ⟨s.stores, s.cache id, []⟩).log ++ events) :
    s.Accounts o (e.loadsOf id names ⟨s.stores, s.cache id, []⟩) := by
  refine ⟨fun id' => ?_, ?_⟩
  · rw [cache_of_put hcaches]
    split
    · rename_i heq
      rw [heq]
      exact e.linked_loadsOf id names ⟨s.stores, s.cache id, []⟩
    · rename_i hne
      exact e.linked_loadsOf_of_ne id (Ne.symm hne) names _ _
  · have hquiet : events.filter Event.isLoading = [] :=
      List.filter_eq_nil_iff.mpr fun event hevent => by simp [hevents event hevent]
    have hlines : ∀ loads, (lines loads).filter Event.isLoading = lines loads := fun loads =>
      List.filter_eq_self.mpr fun event hevent => by
        obtain ⟨l, -, rfl⟩ := List.mem_map.mp hevent
        rfl
    rw [hlog, e.log_loadAll id, List.nil_append, List.filter_append, hlines, hquiet,
      List.append_nil]

theorem accounts_work {α : Type} {job : Engine → Work α} {names : Engine → Workspace → List Text}
    (h : Engine.LoadsOnly job names) (engine : String) {reply : α → Session → Reply × Session}
    (hreply : ∀ a s, (reply a s).2.caches = s.caches) :
    s.Accounts (s.work engine job reply) (s.loadsThrough engine names) := by
  rw [work, loadsThrough]
  cases s.engine engine with
  | error f => exact accounts_quiet rfl rfl
  | ok found =>
    obtain ⟨e, id⟩ := found
    obtain ⟨events, hevents, hsnd⟩ := h e ⟨s.stores, s.cache id, []⟩
    dsimp only [withFound]
    rcases hjob : job e ⟨s.stores, s.cache id, []⟩ with ⟨f | a, w⟩ <;> rw [hjob] at hsnd <;>
      obtain rfl := hsnd
    · exact accounts_of_loadAll hevents rfl rfl
    · exact accounts_of_loadAll hevents (hreply _ _) rfl

theorem accounts_work_of_none {α : Type} {job : Engine → Work α}
    (h : Engine.LoadsOnly job fun _ _ => []) (engine : String)
    {reply : α → Session → Reply × Session} (hreply : ∀ a s, (reply a s).2.caches = s.caches) :
    s.Accounts (s.work engine job reply) [] := by
  have hnone : s.loadsThrough engine (fun _ _ => []) = [] := by
    rw [loadsThrough]
    cases s.engine engine <;> rfl
  have haccounts := accounts_work (s := s) h engine hreply
  rwa [hnone] at haccounts

theorem accounts_withFound {α : Type} {found : Except Failure α} {use : α → Outcome}
    (h : ∀ a, s.Accounts (use a) []) : s.Accounts (s.withFound found use) [] := by
  cases found with
  | error f => exact accounts_quiet rfl rfl
  | ok a => exact h a

/-- Each step changes the caches by its loads alone. -/
theorem accounts_step {next : Step} (h : next.isDirect = false) :
    s.Accounts (s.step next) (s.loads next) := by
  have hreply : ∀ (a : Text) (s : Session), ((fun text s => (Reply.text text, s)) a s).2.caches =
      s.caches := fun _ _ => rfl
  cases next with
  | render engine name a => exact accounts_work (Engine.loadsOnly_render name a) engine hreply
  | renderAlone engine name a =>
    exact accounts_work (Engine.loadsOnly_renderAlone name a) engine hreply
  | load engine name => exact accounts_work (Engine.loadsOnly_load name) engine hreply
  | keepPage engine name keep =>
    rw [step, workPage]
    exact accounts_work (Engine.loadsOnly_page name) engine fun _ _ => rfl
  | keepSource engine source name keep =>
    rw [step, workPage]
    exact accounts_work_of_none (Engine.loadsOnly_ofSource source name) engine fun _ _ => rfl
  | renderKept kept a =>
    rw [step, loads]
    cases s.page kept with
    | error f => exact accounts_quiet rfl rfl
    | ok found => exact accounts_work (Engine.loadsOnly_renderPage found.2 a) found.1 hreply
  | renderKeptAlone kept a =>
    rw [step]
    cases s.page kept with
    | error f => exact accounts_quiet rfl rfl
    | ok found =>
      exact accounts_work_of_none (Engine.loadsOnly_renderPageAlone found.2 a) found.1 hreply
  | readSource loader name => exact accounts_withFound fun _ => accounts_quiet rfl rfl
  | listNames loader => exact accounts_withFound fun _ => accounts_quiet rfl rfl
  | put loader name answer => exact accounts_withFound fun _ => accounts_quiet rfl rfl
  | erase loader name => exact accounts_withFound fun _ => accounts_quiet rfl rfl
  | asked loader => exact accounts_withFound fun _ => accounts_quiet rfl rfl
  | change engine c =>
    exact accounts_withFound fun _ => accounts_withFound fun _ => accounts_quiet rfl rfl
  | describe engine => exact accounts_withFound fun _ => accounts_quiet rfl rfl
  | cacheInfo engine => exact accounts_withFound fun _ => accounts_quiet rfl rfl
  | cacheHolds cache name => exact accounts_withFound fun _ => accounts_quiet rfl rfl
  | cacheSize cache => exact accounts_withFound fun _ => accounts_quiet rfl rfl
  | cacheLookup cache name => cases h
  | cacheStore cache name text => cases h

theorem history_append (s : Session) (steps steps' : List Step) :
    s.history (steps ++ steps') = s.history steps ++ (s.after steps).history steps' := by
  induction steps generalizing s with
  | nil => rfl
  | cons next steps ih =>
    have hafter : s.after (next :: steps) = (s.step next).session.after steps := rfl
    rw [List.cons_append, history, history, ih, List.append_assoc, hafter]

theorem linked_history {steps : List Step} (h : ∀ next ∈ steps, next.isDirect = false)
    (id : CacheId) : Linked id (s.cache id) (s.history steps) ((s.after steps).cache id) := by
  induction steps generalizing s with
  | nil => exact .nil _
  | cons next steps ih =>
    obtain ⟨hnext, hrest⟩ := List.forall_mem_cons.mp h
    exact ((accounts_step hnext).linked id).append (ih hrest)

theorem log_history {steps : List Step} (h : ∀ next ∈ steps, next.isDirect = false) :
    ((s.run steps).flatMap Outcome.log).filter Event.isLoading = lines (s.history steps) := by
  induction steps generalizing s with
  | nil => rfl
  | cons next steps ih =>
    obtain ⟨hnext, hrest⟩ := List.forall_mem_cons.mp h
    have hlines : ∀ loads loads', lines (loads ++ loads') = lines loads ++ lines loads' := by
      intro loads loads'
      rw [lines, List.filter_append, List.map_append]
      rfl
    rw [run, List.flatMap_cons, List.filter_append, (accounts_step hnext).log, ih hrest, history,
      hlines]

/-- A step that loads a name makes one load and replies with what it gives. -/
theorem load_spec {e : Engine} {id : CacheId} {engine : String}
    (h : s.engine engine = .ok (e, id)) (name : Text) :
    s.loads (.load engine name) = [⟨e, id, name, ⟨s.stores, s.cache id, []⟩⟩] ∧
    (s.step (.load engine name)).result = (e.load name ⟨s.stores, s.cache id, []⟩).1.map .text := by
  constructor
  · rw [loads, loadsThrough, h]
    rfl
  · rw [step, workText, work, h]
    dsimp only [withFound]
    rcases e.load name ⟨s.stores, s.cache id, []⟩ with ⟨f | t, w⟩ <;> rfl

/-- The caches of a session are written once, and their counts add up. -/
structure Balanced (s : Session) (steps : List Step) : Prop where
  /-- What is stored at the start stays stored. -/
  kept : ∀ id name t, (s.cache id).texts.get? name = some t →
    Load.Kept id name t (s.history steps) ((s.after steps).cache id)
  /-- What is stored after a load stays stored. -/
  once : ∀ before l later, s.history steps = before ++ l :: later → ∀ name t,
    l.after.cache.texts.get? name = some t →
      Load.Kept l.cacheId name t later ((s.after steps).cache l.cacheId)
  missed : ∀ l ∈ s.history steps, l.stored? = none → l.Misses
  /-- A load of a name that is not stored asks a script once. -/
  asked : ∀ l ∈ s.history steps, l.stored? = none → ∀ store,
    l.engine.loader = some (.function store) ∨ l.engine.loader = some (.custom store) →
      (l.after.stores.script store).asked = (l.before.stores.script store).asked ++ [l.name]
  hits : ∀ id, ((s.after steps).cache id).hits = (s.cache id).hits +
    (s.history steps).countP fun l => l.cacheId = id ∧ l.isHit
  misses : ∀ id, ((s.after steps).cache id).misses = (s.cache id).misses +
    (s.history steps).countP fun l => l.cacheId = id ∧ !l.isHit
  size : ∀ id, ((s.after steps).cache id).size = (s.cache id).size +
    (s.history steps).countP fun l => l.cacheId = id ∧ l.stores
  /-- No loader is asked but by these loads. -/
  log : ((s.run steps).flatMap Outcome.log).filter Event.isLoading = lines (s.history steps)
  /-- A step that loads a name replies with what its load gives. -/
  loaded : ∀ before engine name later, steps = before ++ .load engine name :: later →
    ∀ e id, (s.after before).engine engine = .ok (e, id) →
      ∃ l ∈ s.history steps, l.engine = e ∧ l.cacheId = id ∧ l.name = name ∧
        ((s.after before).step (.load engine name)).result = l.result.map .text

/-- Whatever is done with any engines and loaders, short of reaching into a cache past the engines,
what a cache holds is written once, and the counts of each cache are those of the loads. -/
theorem balanced_of_forall (s : Session) {steps : List Step}
    (h : ∀ next ∈ steps, next.isDirect = false) : s.Balanced steps where
  kept id name t hget := (linked_history h id).keeps hget
  once before l later hsplit name t hget := by
    have hlinked := linked_history (s := s) h l.cacheId
    rw [hsplit] at hlinked
    obtain ⟨c, -, hrest⟩ := hlinked.exists_of_append
    cases hrest with
    | here hid tail => exact tail.keeps hget
    | elsewhere hid tail => exact absurd rfl hid
  missed l _ hnone := Load.misses_of_not_stored hnone
  asked l _ hnone store hloader := Load.asked_after hloader hnone
  hits id := (linked_history h id).count Cache.hits Load.isHit Load.hits_after
  misses id := by
    refine (linked_history h id).count Cache.misses (fun l => !l.isHit) fun l => ?_
    rw [Load.misses_after]
    cases l.isHit <;> rfl
  size id := (linked_history h id).count Cache.size Load.stores Load.size_after
  log := log_history h
  loaded before engine name later hsplit e id hengine := by
    obtain ⟨hloads, hresult⟩ := load_spec hengine name
    refine ⟨⟨e, id, name, _⟩, ?_, rfl, rfl, rfl, hresult⟩
    rw [hsplit, history_append, history, hloads]
    exact List.mem_append_right _ List.mem_cons_self

/-- Two engines with one cache, one of them with a script that knows `a` and must not read `b`. -/
def sharedSession : Session where
  stores := ⟨default, Table.empty, Table.ofList [("script",
    ⟨Table.ofList [("a", .text "1"), ("b", .failure (.denied "b"))], []⟩)]⟩
  loaders := Table.ofList [("script", .custom "script")]
  engines := Table.ofList [
    ("reader", (⟨some (.custom "script"), false, Engine.defaultFallback⟩, .shared "texts")),
    ("other", (⟨none, false, Engine.defaultFallback⟩, .shared "texts"))]
  caches := Table.empty
  pages := Table.empty

/-- Loads with and without the loader, before and after `a` is read and then changed. -/
def sharedSteps : List Step := [
  .load "other" "a", .render "reader" "a" ⟨[], []⟩, .put "script" "a" (.text "2"),
  .load "other" "a", .load "reader" "b", .load "reader" "a"]

/-- The text that was read first is given to both engines, and the counts show who found it. -/
theorem balanced_sharedSession : (∀ next ∈ sharedSteps, next.isDirect = false) ∧
    sharedSession.Balanced sharedSteps ∧
    (let c := (sharedSession.after sharedSteps).cache (.shared "texts")
    c.texts.get? "a" = some "1" ∧ c.hits = 2 ∧ c.misses = 3 ∧ c.size = 1) := by
  have hdirect : ∀ next ∈ sharedSteps, next.isDirect = false := by
    simp [sharedSteps, Step.isDirect]
  exact ⟨hdirect, balanced_of_forall sharedSession hdirect, by decide +kernel⟩

end Session

end Stencil
