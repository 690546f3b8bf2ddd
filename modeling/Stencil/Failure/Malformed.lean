import Stencil.Snippet
import Stencil.Template.Parser

/-! Sources that are no templates: the fault, the place where it is, and the line to look at. -/
namespace Stencil

/-- A text that is not empty. -/
def nonempty? (s : Option Text) : Option Text := s.filter (· ≠ [])

/-- A line number other than zero, which stands for no line. -/
def line? (n : Option Int) : Option Int := n.filter (· ≠ 0)

/-- The name of a template, or what is put in place of one. -/
def shownName (name : Option Text) : Text := (nonempty? name).getD "<template>"

structure Malformed where
  message : Text
  line : Option Int
  column : Option Int
  name : Option Text
  source : Option Text
deriving DecidableEq, Repr

namespace Malformed

def location (m : Malformed) : Text :=
  shownName m.name ++ match line? m.line, m.column with
    | some line, some column => s!":{line}:{column}"
    | some line, none => s!":{line}"
    | none, _ => ""

/-- The line in error alone, if the source is at hand. -/
def snippet? (m : Malformed) : Option Snippet := do
  let source ← nonempty? m.source
  let line ← line? m.line
  some (Snippet.around source line 0 m.column)

def text (m : Malformed) : Text :=
  "Syntax Error: " ++ m.message ++ "\n  --> " ++ m.location ++
    match m.snippet? with
    | some snippet => "\n" ++ snippet.format
    | none => ""

end Malformed

/-- Reports a fault where its token begins. -/
def SyntaxFault.report (f : SyntaxFault) (name source : Option Text) : Malformed where
  message := f.message
  line := some f.token.position.line
  column := some f.token.position.column
  name := name
  source := source

end Stencil
