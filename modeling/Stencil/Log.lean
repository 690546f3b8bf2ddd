import Stencil.Text.Quoted

/-! What the engine notes down while it works. -/
namespace Stencil

inductive Event
  /-- A loader is about to be asked for a template. -/
  | loading (name : Text)
  /-- A value of the context binds nothing. -/
  | skipping (name : Text) (typeName : String)
  /-- A template was not rendered. -/
  | failed (name summary : Text)
deriving DecidableEq, Repr

/-- The line that shows an event, with its severity in front. -/
def Event.line : Event → Text
  | loading name => "DEBUG Loading template " ++ name.quoted
  | skipping name typeName =>
    "DEBUG Skipping context key " ++ name.quoted ++ s!": {typeName} is not renderable"
  | failed name summary => "ERROR Error rendering template " ++ name.quoted ++ ": " ++ summary

end Stencil
