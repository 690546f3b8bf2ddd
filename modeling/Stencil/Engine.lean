import Stencil.Cache
import Stencil.Inheritance
import Stencil.Loader
import Stencil.Log
import Stencil.Rendering

/-! The engine: templates are found by name through a loader and a cache in front of it, read, and
rendered with what a caller passes. Rendering by name is where failures end: a template error is
noted and answered by a text that names the template. -/
namespace Stencil

/-- What rendering is set up with. -/
structure Engine where
  loader : Option Loader
  /-- Whether each slot must have a value. -/
  strict : Bool
  /-- The answer in place of a template that fails, with `{name}` for its name. -/
  fallback : Text

/-- What an engine works on. -/
structure Workspace where
  stores : Stores
  cache : Cache
  log : List Event

/-- Work that may fail; what it did to the workspace until then stays. -/
abbrev Work (α : Type) := ExceptT Failure (StateM Workspace) α

def Workspace.note (w : Workspace) (events : List Event) : Workspace :=
  { w with log := w.log ++ events }

/-- What a template is rendered with: positional contexts, of which there may be one, and values by
name, which take precedence. -/
structure Arguments where
  positional : List (Option Context)
  named : List (Text × Value)

namespace Arguments

/-- A method has the page itself under the name `self`, so a value cannot be passed by this name. -/
def namesSelf (a : Arguments) : Bool := a.named.any fun (name, _) => name = "self"

def check (a : Arguments) (method : String) : Except Failure Unit :=
  if a.namesSelf then .error (.secondSelf method) else .ok ()

def context (a : Arguments) : Except Failure Context :=
  match a.positional with
  | [] | [none] => .ok (Table.ofList a.named)
  | [some context] => .ok (context.putAll a.named)
  | contexts => .error (.tooManyArguments contexts.length)

end Arguments

/-- A template that was read from a source and can be rendered. -/
structure Page where
  name : Option Text
  source : Text
  template : Template

namespace Page

/-- Reads a page from its source. -/
def ofSource (source : Text) (name : Option Text) : Except TemplateError Page :=
  match Template.ofSource source with
  | .ok template => .ok ⟨name, source, template⟩
  | .error fault => .error (.malformed (fault.report name (some source)))

/-- A one-line description. -/
def description (p : Page) : Text :=
  "<Template " ++ (nonempty? p.name).getD "(string)" ++ ">"

end Page

namespace Engine

def defaultFallback : Text :=
  "<h1>Template Error</h1><p>Could not render template: \x7bname\x7d</p>"

instance : Inhabited Engine := ⟨⟨none, false, defaultFallback⟩⟩

/-- A failure to read is taken as the template's absence, with the failure as the cause. -/
def absence (name : Text) : Failure → Failure
  | .reading f =>
    if f.isUnreadable then .template (.notFound (.unreadable name f)) else .reading f
  | f => f

/-- The source of a template. A name is read through the loader until a source was found once. -/
def load (e : Engine) (name : Text) : Work Text := fun w =>
  match w.cache.lookup name with
  | (some text, cache) => (.ok text, { w with cache })
  | (none, cache) =>
    match e.loader with
    | none => (.error (.template (.notFound (.noLoader name))), { w with cache })
    | some loader =>
      let w := { w with cache }.note [.loading name]
      match loader.read name w.stores with
      | (.ok source, stores) =>
        (.ok source.text, { w with stores, cache := cache.store name source.text })
      | (.error f, stores) => (.error (absence name f), { w with stores })

/-- The page of a name. -/
def page (e : Engine) (name : Text) : Work Page := do
  let source ← e.load name
  match Page.ofSource source (some name) with
  | .ok page => return page
  | .error error => throw (.template error)

/-- The nodes of a page, filled into its parent if it has one. The parent is looked up anew. -/
def nodes (e : Engine) (p : Page) : Work (List Node) :=
  match p.template.parent with
  | none => return p.template.flatten
  | some parent => do
    let base ← e.page parent.base
    return base.template.fill p.template.fillings

def liftExcept {α : Type} (result : Except Failure α) : Work α := fun w => (result, w)

/-- Renders nodes on behalf of a page. -/
def finish (e : Engine) (p : Page) (nodes : List Node) (a : Arguments) : Work Text := do
  let context ← liftExcept a.context
  modify (·.note (context.skipped.map fun (name, typeName) => .skipping name typeName))
  let bindings ← liftExcept (context.bindings.mapError .showing)
  liftExcept (Node.render bindings e.strict p.name nodes)

def renderPage (e : Engine) (p : Page) (a : Arguments) : Work Text := do
  liftExcept (a.check "render")
  let nodes ← e.nodes p
  e.finish p nodes a

/-- Renders a page without its parent. -/
def renderPageAlone (e : Engine) (p : Page) (a : Arguments) : Work Text := do
  liftExcept (a.check "render_direct")
  e.finish p p.template.flattenAlone a

/-- The fallback for a name. -/
def fallbackFor (e : Engine) (name : Text) : Text :=
  Text.replaceAll "\x7bname\x7d" name e.fallback

/-- Notes a template error and answers it with the fallback. -/
def recover (e : Engine) (name : Text) (work : Work Text) : Work Text := fun w =>
  match work w with
  | (.error (.template error), w) =>
    (.ok (e.fallbackFor name), w.note [.failed name error.summary])
  | result => result

def render (e : Engine) (name : Text) (a : Arguments) : Work Text :=
  e.recover name do
    let page ← e.page name
    e.renderPage page a

/-- Renders the page of a name without its parent. -/
def renderAlone (e : Engine) (name : Text) (a : Arguments) : Work Text :=
  e.recover name do
    let page ← e.page name
    e.renderPageAlone page a

/-- A one-line description; `cached` is the number of sources in the cache. -/
def description (e : Engine) (cached : Nat) : String :=
  let loader := match e.loader with
    | none => "NoneType"
    | some loader => loader.typeName
  let strict := if e.strict then "True" else "False"
  s!"<Environment loader={loader} strict={strict} cached={cached}>"

end Engine

end Stencil
