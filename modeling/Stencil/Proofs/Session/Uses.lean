import Stencil.Proofs.Engine.Steady
import Stencil.Proofs.Session.History

/-! Uses of engines and of their kept pages, while nobody changes what their loader finds. A session
is settled if its caches hold what the loader finds and its kept pages are those of their names. In
such a session each use gives what its job gives in a workspace where nothing has been read, and
leaves a settled session in which only the settings and pages it names are different. -/
namespace Stencil

inductive Use
  | load (engine : String) (name : Text)
  | keep (engine : String) (name : Text) (kept : String)
  | render (engine : String) (name : Text) (a : Arguments)
  | renderAlone (engine : String) (name : Text) (a : Arguments)
  | renderKept (kept : String) (a : Arguments)
  | renderKeptAlone (kept : String) (a : Arguments)
  /-- Changes the settings that are given. -/
  | adjust (engine : String) (strict : Option Bool) (fallback : Option Text)

namespace Use

def step : Use → Step
  | load engine name => .load engine name
  | keep engine name kept => .keepPage engine name kept
  | render engine name a => .render engine name a
  | renderAlone engine name a => .renderAlone engine name a
  | renderKept kept a => .renderKept kept a
  | renderKeptAlone kept a => .renderKeptAlone kept a
  | adjust engine strict fallback => .change engine ⟨strict, fallback, none⟩

/-- The engine that is named. -/
def engine? : Use → Option String
  | load engine _ | keep engine _ _ | render engine _ _ | renderAlone engine _ _
  | adjust engine _ _ => some engine
  | renderKept _ _ | renderKeptAlone _ _ => none

/-- The kept page that is rendered. -/
def kept? : Use → Option String
  | renderKept kept _ | renderKeptAlone kept _ => some kept
  | _ => none

/-- The engine whose settings are changed. -/
def sets? : Use → Option String
  | adjust engine _ _ => some engine
  | _ => none

/-- The name under which a page is kept. -/
def keeps? : Use → Option String
  | keep _ _ kept => some kept
  | _ => none

/-- An engine with the settings that are given. -/
def adjusted (strict : Option Bool) (fallback : Option Text) (e : Engine) : Engine :=
  ⟨e.loader, strict.getD e.strict, fallback.getD e.fallback⟩

/-- What becomes of the engine of a name. -/
def newEngine (u : Use) (name : String) (found : Option (Engine × CacheId)) :
    Option (Engine × CacheId) :=
  match u with
  | adjust engine strict fallback =>
    if name = engine then found.map fun (e, id) => (adjusted strict fallback e, id) else found
  | _ => found

/-- What becomes of the page that is kept under a name. -/
def newPage (u : Use) (result : Except Failure Reply) (name : String)
    (found : Option (String × Page)) : Option (String × Page) :=
  match u, result with
  | keep engine _ kept, .ok (.page p) => if name = kept then some (engine, p) else found
  | _, _ => found

variable {u : Use} {name : String}

theorem newEngine_of_ne (h : u.sets? ≠ some name) (found : Option (Engine × CacheId)) :
    u.newEngine name found = found := by
  cases u with
  | adjust engine strict fallback =>
    have hne : name ≠ engine := fun heq => h (congrArg some heq.symm)
    rw [newEngine, if_neg hne]
  | _ => rfl

/-- A page is kept when it was made, and any other stays what it was. -/
theorem newPage_cases (u : Use) (result : Except Failure Reply) (name : String)
    (found : Option (String × Page)) : u.newPage result name found = found ∨
      ∃ engine name' p, u = .keep engine name' name ∧ result = .ok (.page p) ∧
        u.newPage result name found = some (engine, p) := by
  cases u with
  | keep engine name' kept =>
    rcases result with f | reply
    · exact .inl rfl
    · cases reply with
      | page p =>
        by_cases hname : name = kept
        · subst hname
          exact .inr ⟨engine, name', p, rfl, rfl, if_pos rfl⟩
        · exact .inl (if_neg hname)
      | _ => exact .inl rfl
  | _ => exact .inl rfl

theorem newPage_of_ne (h : u.keeps? ≠ some name) (result : Except Failure Reply)
    (found : Option (String × Page)) : u.newPage result name found = found := by
  obtain hsame | ⟨engine, name', p, rfl, -⟩ := u.newPage_cases result name found
  · exact hsame
  · exact absurd rfl h

/-- Only settings that a loader has no part in are changed. -/
theorem loader_newEngine (u : Use) {found : Option (Engine × CacheId)} {e : Engine} {id : CacheId}
    (h : u.newEngine name found = some (e, id)) : ∃ e', found = some (e', id) ∧
      e.loader = e'.loader := by
  by_cases hsets : u.sets? = some name
  · cases u with
    | adjust engine strict fallback =>
      obtain rfl : engine = name := Option.some.inj hsets
      rw [newEngine, if_pos rfl] at h
      obtain ⟨⟨e', id'⟩, hfound, heq⟩ := Option.map_eq_some_iff.mp h
      obtain ⟨rfl, rfl⟩ := Prod.mk.inj heq
      exact ⟨e', hfound, rfl⟩
    | _ => cases hsets
  · rw [newEngine_of_ne hsets] at h
    exact ⟨e, h, rfl⟩

/-- Engines stay, with their loaders and their caches. -/
theorem exists_newEngine (u : Use) (name : String) (e : Engine) (id : CacheId) :
    ∃ e', u.newEngine name (some (e, id)) = some (e', id) ∧ e'.loader = e.loader := by
  by_cases hsets : u.sets? = some name
  · cases u with
    | adjust engine strict fallback =>
      obtain rfl : engine = name := Option.some.inj hsets
      exact ⟨adjusted strict fallback e, if_pos rfl, rfl⟩
    | _ => cases hsets
  · exact ⟨e, newEngine_of_ne hsets _, rfl⟩

end Use

/-- A page has the name that it was asked for by. -/
theorem Engine.name_of_page {e : Engine} {name : Text} {w : Workspace} {p : Page}
    (h : (e.page name w).1 = .ok p) : p.name = some name := by
  obtain ⟨source, -, hread⟩ := Engine.source_of_page (Prod.ext h rfl)
  exact (Page.template_of_ofSource hread).2.1

namespace Session

open Engine (Steady)

/-- The work that a use comes to, if what it names is there. -/
def job (s : Session) : Use → Except Failure (Work Reply)
  | .load engine name => (s.engine engine).map fun (e, _) => .text <$> e.load name
  | .keep engine name _ => (s.engine engine).map fun (e, _) => .page <$> e.page name
  | .render engine name a => (s.engine engine).map fun (e, _) => .text <$> e.render name a
  | .renderAlone engine name a => (s.engine engine).map fun (e, _) => .text <$> e.renderAlone name a
  | .renderKept kept a => do
    let (engine, p) ← s.page kept
    (s.engine engine).map fun (e, _) => .text <$> e.renderPage p a
  | .renderKeptAlone kept a => do
    let (engine, p) ← s.page kept
    (s.engine engine).map fun (e, _) => .text <$> e.renderPageAlone p a
  | .adjust engine _ _ => (s.engine engine).map fun _ => pure .done

/-- What the work gives where nothing has been read. -/
def replyAlone (stores : Stores) (found : Except Failure (Work Reply)) : Except Failure Reply :=
  found.bind fun work => (work (Workspace.fresh stores)).1

/-- All engines have one loader, all caches mirror it, and all kept pages are those of their
names. -/
structure Settled (s : Session) (loader : Option Loader) (stores : Stores) : Prop where
  engines : ∀ {name e id}, s.engines.get? name = some (e, id) → e.loader = loader
  contents : s.stores.SameContents stores
  caches : ∀ id, (s.cache id).Mirrors loader stores
  pages : ∀ {kept engine p}, s.pages.get? kept = some (engine, p) → ∃ e id name,
    s.engines.get? engine = some (e, id) ∧ p.name = some name ∧
      (e.page name (Workspace.fresh stores)).1 = .ok p

variable {s s' : Session} {loader : Option Loader} {stores : Stores} {next : Use}

theorem engine_eq_ok_iff {name : String} {found : Engine × CacheId} :
    s.engine name = .ok found ↔ s.engines.get? name = some found := by
  rw [engine]
  cases s.engines.get? name with
  | none => exact ⟨nofun, nofun⟩
  | some found' => exact ⟨fun h => congrArg some (Except.ok.inj h),
      fun h => congrArg Except.ok (Option.some.inj h)⟩

/-- The job depends on the engine and on the page that the use names. A page may have been made with
any engine. -/
theorem job_congr
    (hengine : ∀ name, next.engine? = some name → s.engines.get? name = s'.engines.get? name)
    (hkept : ∀ kept, next.kept? = some kept → s.pages.get? kept = s'.pages.get? kept ∧
      ∀ name, s.engines.get? name = s'.engines.get? name) : s.job next = s'.job next := by
  have hnamed : ∀ name, next.engine? = some name → s.engine name = s'.engine name := by
    intro name hname
    rw [engine, engine, hengine name hname]
  have hpage : ∀ kept, next.kept? = some kept → s.page kept = s'.page kept ∧
      ∀ name, s.engine name = s'.engine name := by
    intro kept hname
    obtain ⟨hpages, hengines⟩ := hkept kept hname
    refine ⟨by rw [page, page, hpages], fun name => ?_⟩
    rw [engine, engine, hengines name]
  cases next with
  | renderKept kept a =>
    obtain ⟨hpages, hengines⟩ := hpage kept rfl
    simp only [job, hpages, hengines]
  | renderKeptAlone kept a =>
    obtain ⟨hpages, hengines⟩ := hpage kept rfl
    simp only [job, hpages, hengines]
  | _ => simp only [job, hnamed _ rfl]

theorem map_eq {α β : Type} (f : α → β) (work : Work α) (w : Workspace) :
    (f <$> work) w = ((work w).1.map f, (work w).2) := by
  rcases hdone : work w with ⟨f' | a, w'⟩
  · exact Engine.bind_eq_error hdone
  · exact Engine.bind_eq hdone

/-- An outcome that is what a job gives where nothing has been read. The engines are as before, and
the caches mirror the loader again. -/
structure Serves (s : Session) (o : Outcome) (loader : Option Loader) (stores : Stores)
    (found : Except Failure (Work Reply)) : Prop where
  result : o.result = replyAlone stores found
  engines : o.session.engines = s.engines
  contents : o.session.stores.SameContents stores
  caches : ∀ id, (o.session.cache id).Mirrors loader stores

theorem Settled.serves_quiet (hs : s.Settled loader stores) (f : Failure) :
    s.Serves (s.quiet (.error f)) loader stores (.error f) := ⟨rfl, rfl, hs.contents, hs.caches⟩

/-- What an engine does with its cache is done as if it were empty, and leaves it a mirror. -/
theorem Settled.serves_work {α : Type} (hs : s.Settled loader stores) (name : String)
    {work : Engine → Work α} (hwork : ∀ e, e.loader = loader → Steady loader stores (work e))
    {reply : α → Session → Reply × Session} (shown : α → Reply)
    (hreply : ∀ a t, (reply a t).1 = shown a ∧ (reply a t).2.engines = t.engines ∧
      (reply a t).2.stores = t.stores ∧ (reply a t).2.caches = t.caches) :
    s.Serves (s.work name work reply) loader stores
      ((s.engine name).map fun (e, _) => shown <$> work e) := by
  rw [Session.work]
  cases hfound : s.engine name with
  | error f => exact hs.serves_quiet f
  | ok found =>
    obtain ⟨e, id⟩ := found
    have hmirrors : Workspace.Mirrors ⟨s.stores, s.cache id, []⟩ loader stores :=
      ⟨hs.contents, hs.caches id⟩
    obtain ⟨hresult, hleft⟩ := hwork e (hs.engines (engine_eq_ok_iff.mp hfound))
      ⟨s.stores, s.cache id, []⟩ (Workspace.fresh stores) hmirrors
      (Workspace.mirrors_fresh loader stores)
    have hcaches : ∀ t : Session,
        t.caches = s.caches.put id (work e ⟨s.stores, s.cache id, []⟩).2.cache →
        ∀ id', (t.cache id').Mirrors loader stores := by
      intro t ht id'
      rw [cache_of_put ht]
      split
      · exact hleft.cache
      · exact hs.caches id'
    have halone : replyAlone stores (.ok (shown <$> work e)) =
        (work e ⟨s.stores, s.cache id, []⟩).1.map shown := by
      show ((shown <$> work e) (Workspace.fresh stores)).1 = _
      rw [map_eq, hresult]
    have hjob : (Except.ok (e, id)).map (fun (e, _) => shown <$> work e) =
        (.ok (shown <$> work e) : Except Failure (Work Reply)) := rfl
    rw [hjob]
    dsimp only [withFound]
    rcases hdone : work e ⟨s.stores, s.cache id, []⟩ with ⟨f | a, w⟩ <;>
      rw [hdone] at halone hleft hcaches
    · exact ⟨halone.symm, rfl, hleft.contents, hcaches _ rfl⟩
    · obtain ⟨hshown, hengines, hstores, hkept⟩ :=
        hreply a { s with stores := w.stores, caches := s.caches.put id w.cache }
      refine ⟨?_, hengines, ?_, hcaches _ hkept⟩
      · rw [halone]
        exact congrArg Except.ok hshown
      · rw [hstores]
        exact hleft.contents

theorem Settled.serves_workText (hs : s.Settled loader stores) (name : String)
    {work : Engine → Work Text} (hwork : ∀ e, e.loader = loader → Steady loader stores (work e)) :
    s.Serves (s.workText name work) loader stores
      ((s.engine name).map fun (e, _) => .text <$> work e) :=
  hs.serves_work name hwork Reply.text fun _ _ => ⟨rfl, rfl, rfl, rfl⟩

/-- A use that changes no settings. -/
theorem Settled.serves_step (hs : s.Settled loader stores) (h : next.sets? = none) :
    s.Serves (s.step next.step) loader stores (s.job next) := by
  cases next with
  | load engine name => exact hs.serves_workText engine fun e he => Engine.steady_load he name
  | keep engine name kept =>
    rw [Use.step, step, workPage]
    exact hs.serves_work engine (fun e he => Engine.steady_page he name) Reply.page
      fun _ _ => ⟨rfl, rfl, rfl, rfl⟩
  | render engine name a =>
    exact hs.serves_workText engine fun e he => Engine.steady_render he name a
  | renderAlone engine name a =>
    exact hs.serves_workText engine fun e he => Engine.steady_renderAlone he name a
  | renderKept kept a =>
    rw [Use.step, step, job]
    cases s.page kept with
    | error f => exact hs.serves_quiet f
    | ok found =>
      exact hs.serves_workText found.1 fun e he => Engine.steady_renderPage he found.2 a
  | renderKeptAlone kept a =>
    rw [Use.step, step, job]
    cases s.page kept with
    | error f => exact hs.serves_quiet f
    | ok found =>
      exact hs.serves_workText found.1 fun e _ => Engine.steady_renderPageAlone found.2 a
  | adjust engine strict fallback => cases h

/-- A change of settings puts the changed engine in its place. -/
theorem step_adjust (name : String) (strict : Option Bool) (fallback : Option Text) :
    s.step (Use.adjust name strict fallback).step =
      match s.engines.get? name with
      | none => s.quiet (.error (.unknownName name))
      | some (e, id) =>
        let engines := s.engines.put name (Use.adjusted strict fallback e, id)
        ⟨.ok .done, [], { s with engines := engines }⟩ := by
  rw [Use.step, step, engine]
  cases s.engines.get? name <;> rfl

/-! What becomes of the results, the engines and the pages. -/

theorem Settled.result_step (hs : s.Settled loader stores) (next : Use) :
    (s.step next.step).result = replyAlone stores (s.job next) := by
  cases next with
  | adjust engine strict fallback =>
    rw [step_adjust, job, Session.engine]
    cases s.engines.get? engine <;> rfl
  | _ => exact (hs.serves_step rfl).result

theorem Settled.engines_step (hs : s.Settled loader stores) (next : Use) (name : String) :
    (s.step next.step).session.engines.get? name = next.newEngine name (s.engines.get? name) := by
  cases next with
  | adjust engine strict fallback =>
    rw [step_adjust, Use.newEngine]
    by_cases hname : name = engine
    · rw [if_pos hname, hname]
      cases hfound : s.engines.get? engine with
      | none => exact hfound
      | some found => exact (Table.get?_put _ _ _ _).trans (if_pos rfl)
    · rw [if_neg hname]
      cases s.engines.get? engine with
      | none => rfl
      | some found => exact (Table.get?_put _ _ _ _).trans (if_neg hname)
  | _ => rw [(hs.serves_step rfl).engines]; rfl

theorem pages_workText (s : Session) (name : String) (work : Engine → Work Text) :
    (s.workText name work).session.pages = s.pages := by
  rw [workText, Session.work]
  cases s.engine name with
  | error f => rfl
  | ok found =>
    dsimp only [withFound]
    rcases work found.1 ⟨s.stores, s.cache found.2, []⟩ with ⟨f | a, w⟩ <;> rfl

theorem pages_step (s : Session) (next : Use) (name : String) :
    (s.step next.step).session.pages.get? name =
      next.newPage (s.step next.step).result name (s.pages.get? name) := by
  cases next with
  | keep engine name' kept =>
    rw [Use.step, step, workPage, Session.work]
    cases s.engine engine with
    | error f => rfl
    | ok found =>
      dsimp only [withFound]
      rcases found.1.page name' ⟨s.stores, s.cache found.2, []⟩ with ⟨f | p, w⟩
      · rfl
      · exact Table.get?_put s.pages kept name (engine, p)
  | adjust engine strict fallback =>
    rw [step_adjust]
    cases s.engines.get? engine <;> rfl
  | renderKept kept a =>
    rw [Use.step, step]
    cases s.page kept with
    | error f => rfl
    | ok found => exact congrArg (·.get? name) (s.pages_workText found.1 _)
  | renderKeptAlone kept a =>
    rw [Use.step, step]
    cases s.page kept with
    | error f => rfl
    | ok found => exact congrArg (·.get? name) (s.pages_workText found.1 _)
  | _ => exact congrArg (·.get? name) (s.pages_workText _ _)

/-- A page that is kept is the one of its name. -/
theorem Settled.page_of_step (hs : s.Settled loader stores) {engine kept : String} {name : Text}
    {p : Page} (h : (s.step (Use.keep engine name kept).step).result = .ok (.page p)) :
    ∃ e id, s.engines.get? engine = some (e, id) ∧ p.name = some name ∧
      (e.page name (Workspace.fresh stores)).1 = .ok p := by
  rw [hs.result_step, job] at h
  cases hfound : s.engine engine with
  | error f =>
    rw [hfound] at h
    cases h
  | ok found =>
    obtain ⟨e, id⟩ := found
    replace h : ((Reply.page <$> e.page name : Work Reply) (Workspace.fresh stores)).1 =
      .ok (.page p) := by rwa [hfound] at h
    rw [map_eq] at h
    rcases hpage : (e.page name (Workspace.fresh stores)).1 with f | p' <;> rw [hpage] at h
    · cases h
    · obtain rfl : p' = p := Reply.page.inj (Except.ok.inj h)
      exact ⟨e, id, engine_eq_ok_iff.mp hfound, Engine.name_of_page hpage, hpage⟩

theorem Settled.step (hs : s.Settled loader stores) (next : Use) :
    (s.step next.step).session.Settled loader stores := by
  have hkeep : (s.step next.step).session.stores.SameContents stores ∧
      ∀ id, ((s.step next.step).session.cache id).Mirrors loader stores := by
    cases next with
    | adjust engine strict fallback =>
      rw [step_adjust]
      cases s.engines.get? engine <;> exact ⟨hs.contents, hs.caches⟩
    | _ => exact ⟨(hs.serves_step rfl).contents, (hs.serves_step rfl).caches⟩
  -- an engine may be another now, but it makes the same pages
  have hmade : ∀ {engine e id name p}, s.engines.get? engine = some (e, id) →
      (e.page name (Workspace.fresh stores)).1 = .ok p → ∃ e' id,
        (s.step next.step).session.engines.get? engine = some (e', id) ∧
          (e'.page name (Workspace.fresh stores)).1 = .ok p := by
    intro engine e id name p hengine hpage
    obtain ⟨e', hnew, hloader⟩ := next.exists_newEngine engine e id
    refine ⟨e', id, ?_, ?_⟩
    · rw [hs.engines_step, hengine, hnew]
    · rwa [Engine.page_congr hloader]
  refine ⟨fun {name e id} h => ?_, hkeep.1, hkeep.2, fun {kept engine p} h => ?_⟩
  · rw [hs.engines_step] at h
    obtain ⟨e', hfound, hloader⟩ := next.loader_newEngine h
    exact hloader.trans (hs.engines hfound)
  · rw [pages_step] at h
    obtain hsame | ⟨engine', name, p', rfl, hresult, hnew⟩ :=
      next.newPage_cases (s.step next.step).result kept (s.pages.get? kept)
    · rw [hsame] at h
      obtain ⟨e, id, name, hengine, hname, hpage⟩ := hs.pages h
      obtain ⟨e', id', hengine', hpage'⟩ := hmade hengine hpage
      exact ⟨e', id', name, hengine', hname, hpage'⟩
    · rw [hnew] at h
      obtain ⟨rfl, rfl⟩ := Prod.mk.inj (Option.some.inj h)
      obtain ⟨e, id, hengine, hname, hpage⟩ := hs.page_of_step hresult
      obtain ⟨e', id', hengine', hpage'⟩ := hmade hengine hpage
      exact ⟨e', id', name, hengine', hname, hpage'⟩

/-- The session after some uses. -/
def used (s : Session) (uses : List Use) : Session := s.after (uses.map Use.step)

/-- The results of uses one after the other. -/
def results (s : Session) (uses : List Use) : List (Except Failure Reply) :=
  (s.run (uses.map Use.step)).map Outcome.result

theorem Settled.used (hs : s.Settled loader stores) (uses : List Use) :
    (s.used uses).Settled loader stores := by
  induction uses generalizing s with
  | nil => exact hs
  | cons next uses ih => exact ih (hs.step next)

theorem results_cons (s : Session) (next : Use) (uses : List Use) :
    s.results (next :: uses) =
      (s.step next.step).result :: (s.step next.step).session.results uses := rfl

theorem results_append (s : Session) (uses uses' : List Use) :
    s.results (uses ++ uses') = s.results uses ++ (s.used uses).results uses' := by
  induction uses generalizing s with
  | nil => rfl
  | cons next uses ih => exact congrArg ((s.step next.step).result :: ·) (ih _)

theorem length_results (s : Session) (uses : List Use) :
    (s.results uses).length = uses.length := by
  induction uses generalizing s with
  | nil => rfl
  | cons next uses ih => exact congrArg (· + 1) (ih _)

end Session

end Stencil
