import Stencil.Failure.Malformed
import Stencil.Text.Similar

/-! Failures of rendering: a loop without records to repeat its body for, or a slot without a value
where every slot must have one. -/
namespace Stencil

inductive RenderFault
  | general (message : Text) (expression suggestion : Option Text)
  /-- A loop over a scalar. -/
  | notRecords (collection expression : Text)
  /-- A loop over a name that is not bound. -/
  | missingCollection (collection : Text) (expression : Option Text)
  /-- A slot that has no value, and a known name that is close to its own. -/
  | undefined (path : Text) (guess : Option Text)
deriving DecidableEq, Repr

namespace RenderFault

/-- A slot without value, where `known` are the names that are bound. -/
def undefinedAmong (path : Text) (known : List Text) : RenderFault :=
  undefined path (path.closest? known)

def message : RenderFault → Text
  | general message _ _ => message
  | notRecords collection _ => "'" ++ collection ++ "' is not a sequence"
  | missingCollection collection _ =>
    "Loop collection '" ++ collection ++ "' is missing from the render context"
  | undefined path _ => "Undefined variable '" ++ path ++ "'"

/-- The part of the template that failed, as written or in the usual spelling. -/
def expression? : RenderFault → Option Text
  | general _ expression _ => expression
  | notRecords _ expression => some expression
  | missingCollection _ expression => expression
  | undefined path _ => some ("\x7b\x7b " ++ path ++ " \x7d\x7d")

def suggestion? : RenderFault → Option Text
  | general _ _ suggestion => suggestion
  | notRecords collection _ => some ("Pass a list of records for '" ++ collection ++ "'")
  | missingCollection collection _ => some ("Pass a list of records as '" ++ collection ++ "'")
  | undefined _ guess => guess.map fun guess => "Did you mean '" ++ guess ++ "'?"

end RenderFault

/-- A fault in a template, with the template's name and the line as far as they are known. -/
structure RenderError where
  fault : RenderFault
  template : Option Text
  line : Option Int
deriving DecidableEq, Repr

namespace RenderError

def location? (e : RenderError) : Option Text :=
  match nonempty? e.template, line? e.line with
  | none, none => none
  | _, some line => some (shownName e.template ++ s!":{line}")
  | some template, none => some template

def text (e : RenderError) : Text :=
  let labelled (label : Text) (content : Option Text) : List Text := content.toList.map (label ++ ·)
  ("\n" : Text).intercalate <|
    ("Runtime Error: " ++ e.fault.message) ::
      (labelled "  Location: " e.location? ++
        labelled "  Expression: " (nonempty? e.fault.expression?) ++
        labelled "  Suggestion: " (nonempty? e.fault.suggestion?))

end RenderError

end Stencil
