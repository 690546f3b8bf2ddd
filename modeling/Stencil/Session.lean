import Stencil.Engine

/-! Sessions: loaders, engines, caches and kept pages by name, and the steps that use and change
them. Engines that go by one cache see each other's texts. A kept page is rendered by the engine it
was made with, as that engine is set up by then. -/
namespace Stencil

/-- A cache of one engine alone, or one that engines share by its name. -/
inductive CacheId
  | own (engine : String)
  | shared (name : String)
deriving DecidableEq, Repr

structure Session where
  stores : Stores
  loaders : Table String Loader
  engines : Table String (Engine × CacheId)
  caches : Table CacheId Cache
  /-- Pages with the names of their engines. -/
  pages : Table String (String × Page)

/-- New settings for an engine; what is not given stays. -/
structure Change where
  strict : Option Bool
  fallback : Option Text
  /-- The name of a loader, or none at all. -/
  loader : Option (Option String)

/-- The cache of an engine, or a cache by its own name. -/
inductive CacheName
  | ofEngine (engine : String)
  | shared (name : String)
deriving DecidableEq, Repr

inductive Step
  | render (engine : String) (name : Text) (a : Arguments)
  | renderAlone (engine : String) (name : Text) (a : Arguments)
  | load (engine : String) (name : Text)
  /-- Keeps the page of a name. -/
  | keepPage (engine : String) (name : Text) (keep : String)
  /-- Keeps the page of a source. -/
  | keepSource (engine : String) (source : Text) (name : Option Text) (keep : String)
  | renderKept (kept : String) (a : Arguments)
  | renderKeptAlone (kept : String) (a : Arguments)
  | readSource (loader : String) (name : Text)
  | listNames (loader : String)
  | put (loader : String) (name : Text) (answer : Answer)
  | erase (loader : String) (name : Text)
  /-- The names that a script was asked for. -/
  | asked (loader : String)
  | change (engine : String) (c : Change)
  | describe (engine : String)
  | cacheInfo (engine : String)
  | cacheLookup (cache : CacheName) (name : Text)
  | cacheStore (cache : CacheName) (name text : Text)
  | cacheHolds (cache : CacheName) (name : Text)
  | cacheSize (cache : CacheName)

inductive Reply
  | done
  | text (t : Text)
  | page (p : Page)
  | source (s : Source)
  | names (names : List Text)
  | found (text : Option Text)
  | truth (b : Bool)
  | size (n : Nat)
  | cache (c : Cache)

namespace Session

def cache (s : Session) (id : CacheId) : Cache := (s.caches.get? id).getD Cache.empty

def engine (s : Session) (name : String) : Except Failure (Engine × CacheId) :=
  match s.engines.get? name with
  | some engine => .ok engine
  | none => .error (.unknownName name)

def loader (s : Session) (name : String) : Except Failure Loader :=
  match s.loaders.get? name with
  | some loader => .ok loader
  | none => .error (.unknownName name)

def page (s : Session) (name : String) : Except Failure (String × Page) :=
  match s.pages.get? name with
  | some page => .ok page
  | none => .error (.unknownName name)

def cacheId (s : Session) : CacheName → Except Failure CacheId
  | .ofEngine engine => (s.engine engine).map Prod.snd
  | .shared name => .ok (.shared name)

/-- What a step comes to, what was noted meanwhile, and the session after it. -/
structure Outcome where
  result : Except Failure Reply
  log : List Event
  session : Session

/-- Nothing is noted and nothing changes. -/
def quiet (s : Session) (result : Except Failure Reply) : Outcome := ⟨result, [], s⟩

/-- The steps that look something up first fail if it is not there. -/
def withFound {α : Type} (s : Session) (found : Except Failure α) (use : α → Outcome) :
    Outcome :=
  match found with
  | .ok a => use a
  | .error f => s.quiet (.error f)

/-- Lets an engine work with its cache, and replies with what `reply` makes of the result. -/
def work {α : Type} (s : Session) (name : String) (job : Engine → Work α)
    (reply : α → Session → Reply × Session) : Outcome :=
  s.withFound (s.engine name) fun (engine, id) =>
    match job engine ⟨s.stores, s.cache id, []⟩ with
    | (result, w) =>
      let s := { s with stores := w.stores, caches := s.caches.put id w.cache }
      match result with
      | .ok a =>
        let (answer, s) := reply a s
        ⟨.ok answer, w.log, s⟩
      | .error f => ⟨.error f, w.log, s⟩

def workText (s : Session) (name : String) (job : Engine → Work Text) : Outcome :=
  s.work name job fun text s => (.text text, s)

/-- Keeps the page that an engine makes; if it makes none, what was kept stays. -/
def workPage (s : Session) (name keep : String) (job : Engine → Work Page) : Outcome :=
  s.work name job fun page s => (.page page, { s with pages := s.pages.put keep (name, page) })

/-- Changes what a loader finds under a name. Files and choices stay as they are. -/
def changeStore (s : Session) (changeMapping : Table Text Text → Table Text Text)
    (changeAnswers : Table Text Answer → Table Text Answer) (l : Loader) : Session :=
  let stores := s.stores
  let stores := match l with
    | .mapping store =>
      { stores with mappings := stores.mappings.put store (changeMapping (stores.mapping store)) }
    | .function store | .custom store =>
      let script := stores.script store
      let script := { script with answers := changeAnswers script.answers }
      { stores with scripts := stores.scripts.put store script }
    | .files _ _ _ | .choice _ => stores
  { s with stores := stores }

def putAnswer (name : Text) (answer : Answer) (m : Table Text Text) : Table Text Text :=
  match answer with
  | .text text => m.put name text
  | _ => m

def askedOf (s : Session) : Loader → List Text
  | .function store | .custom store => (s.stores.script store).asked
  | _ => []

def changeEngine (s : Session) (e : Engine) (c : Change) : Except Failure Engine := do
  let loader ← match c.loader with
    | none => pure e.loader
    | some none => pure none
    | some (some name) => (s.loader name).map some
  return { loader, strict := c.strict.getD e.strict, fallback := c.fallback.getD e.fallback }

def step (s : Session) : Step → Outcome
  | .render engine name a => s.workText engine fun e => e.render name a
  | .renderAlone engine name a => s.workText engine fun e => e.renderAlone name a
  | .load engine name => s.workText engine fun e => e.load name
  | .keepPage engine name keep => s.workPage engine keep fun e => e.page name
  | .keepSource engine source name keep =>
    s.workPage engine keep fun _ =>
      match Page.ofSource source name with
      | .ok page => return page
      | .error error => throw (.template error)
  | .renderKept kept a =>
    s.withFound (s.page kept) fun (engine, page) => s.workText engine fun e => e.renderPage page a
  | .renderKeptAlone kept a =>
    s.withFound (s.page kept) fun (engine, page) =>
      s.workText engine fun e => e.renderPageAlone page a
  | .readSource loader name =>
    s.withFound (s.loader loader) fun loader =>
      let (result, stores) := loader.read name s.stores
      ⟨result.map .source, [], { s with stores := stores }⟩
  | .listNames loader =>
    s.withFound (s.loader loader) fun loader => s.quiet ((loader.list s.stores).map .names)
  | .put loader name answer =>
    s.withFound (s.loader loader) fun loader =>
      ⟨.ok .done, [], s.changeStore (putAnswer name answer) (·.put name answer) loader⟩
  | .erase loader name =>
    s.withFound (s.loader loader) fun loader =>
      ⟨.ok .done, [], s.changeStore (·.erase name) (·.erase name) loader⟩
  | .asked loader =>
    s.withFound (s.loader loader) fun loader => s.quiet (.ok (.names (s.askedOf loader)))
  | .change name c =>
    s.withFound (s.engine name) fun (engine, id) =>
      s.withFound (s.changeEngine engine c) fun engine =>
        ⟨.ok .done, [], { s with engines := s.engines.put name (engine, id) }⟩
  | .describe name =>
    s.withFound (s.engine name) fun (engine, id) =>
      s.quiet (.ok (.text (engine.description (s.cache id).size)))
  | .cacheInfo name =>
    s.withFound (s.engine name) fun (_, id) => s.quiet (.ok (.cache (s.cache id)))
  | .cacheLookup cache name =>
    s.withFound (s.cacheId cache) fun id =>
      let (found, cache) := (s.cache id).lookup name
      ⟨.ok (.found found), [], { s with caches := s.caches.put id cache }⟩
  | .cacheStore cache name text =>
    s.withFound (s.cacheId cache) fun id =>
      let cache := (s.cache id).store name text
      ⟨.ok .done, [], { s with caches := s.caches.put id cache }⟩
  | .cacheHolds cache name =>
    s.withFound (s.cacheId cache) fun id =>
      s.quiet (.ok (.truth ((s.cache id).texts.contains name)))
  | .cacheSize cache =>
    s.withFound (s.cacheId cache) fun id => s.quiet (.ok (.size (s.cache id).size))

/-- The outcomes of steps that are taken one after the other, be they failures or not. -/
def run (s : Session) : List Step → List Outcome
  | [] => []
  | next :: steps =>
    let outcome := s.step next
    outcome :: outcome.session.run steps

end Session

end Stencil
