import Stencil.Failure.NotFound
import Stencil.Failure.Rendering
import Stencil.Failure.Showing
import Stencil.Text.Replace

/-! Failures of the engine. Whatever is wrong with a template, from finding it to rendering it, is a
template error, and most of them have a code to look them up by. The other failures are those of a
loader that does not keep to reading, of a value that has no text, and of a caller who does not keep
to the rules of a call. -/
namespace Stencil

inductive TemplateError
  | general (message : Text)
  | notFound (n : NotFound)
  | malformed (m : Malformed)
  | rendering (e : RenderError)
deriving DecidableEq, Repr

namespace TemplateError

def text : TemplateError → Text
  | general message => message
  | notFound n => n.message
  | malformed m => m.text
  | rendering e => e.text

def code? : TemplateError → Option String
  | general _ => none
  | notFound _ => some "T-TPL-001"
  | malformed _ => some "T-TPL-002"
  | rendering e =>
    match e.fault with
    | .undefined _ _ => some "T-RUN-001"
    | .missingCollection _ _ => some "T-RUN-002"
    | .general _ _ _ | .notRecords _ _ => some "T-RUN-003"

/-- What the code is about: rendering, or the template itself. -/
def category? : TemplateError → Option String
  | general _ => none
  | notFound _ | malformed _ => some "template"
  | rendering _ => some "runtime"

/-- The text with the code in front, unless the text shows the code anyway. -/
def summary (e : TemplateError) : Text :=
  match e.code? with
  | none => e.text
  | some code =>
    if Text.occursIn code e.text then e.text else s!"{code}: " ++ e.text

end TemplateError

inductive Failure
  | template (e : TemplateError)
  | reading (f : ReadFailure)
  /-- A loop is left where all loops must have been repeated. -/
  | strayLoop
  /-- A block is left where all blocks must have been opened up. -/
  | strayBlock
  | tooManyArguments (given : Nat)
  /-- A value is passed by the name under which a method has the page itself. -/
  | secondSelf (method : String)
  | showing (f : ShowFailure)
  /-- The loader cannot list what it holds. -/
  | noListing
  /-- Nothing goes by this name. -/
  | unknownName (name : Text)
deriving DecidableEq, Repr

def Failure.text : Failure → Text
  | template e => e.text
  | reading f => f.message
  | strayLoop => "Unexpected For node after loop expansion"
  | strayBlock => "Unexpected Block node after loop expansion"
  | tooManyArguments given => s!"render() takes at most 1 positional argument ({given} given)"
  | secondSelf method => s!"Template.{method}() got multiple values for argument 'self'"
  | showing f => f.message
  | noListing => "'CustomLoader' object has no attribute 'list_templates'"
  | unknownName name => name.quoted

end Stencil
