import Stencil.Text.Quoted
import Stencil.Token

/-! Tokens in one line: what a token is, what it carries, and where it begins. -/
namespace Stencil.Token

def label (t : Token) : String :=
  match t.kind with
  | .text => "DATA"
  | .directive (.parent _) => "EXTENDS"
  | .directive (.openBlock _) => "BLOCK_BEGIN"
  | .directive .closeBlock => "BLOCK_END"
  | .directive (.openLoop _ _) => "FOR_BEGIN"
  | .directive .closeLoop => "FOR_END"
  | .directive (.slot _) => "VARIABLE"
  | .endOfSource => "EOF"

/-- What a token carries: nothing, one text, or a pair of which the second may be missing. -/
inductive Load
  | nothing
  | one (s : Text)
  | pair (s : Text) (t : Option Text)
deriving DecidableEq, Repr

def load (t : Token) : Load :=
  match t.kind with
  | .text => .one t.raw
  | .directive (.parent base) => .one base
  | .directive (.openBlock name) => .one name
  | .directive (.openLoop item collection) => .pair item (some collection)
  | .directive (.slot reference) => .pair reference.name reference.attr
  | .directive .closeBlock | .directive .closeLoop | .endOfSource => .nothing

def Load.shown : Load → Text
  | nothing => "None"
  | one s => s.quoted
  | pair s none => "(" ++ s.quoted ++ ", None)"
  | pair s (some t) => "(" ++ s.quoted ++ ", " ++ t.quoted ++ ")"

def description (t : Token) : Text :=
  s!"Token({t.label}, " ++ t.load.shown ++ s!", {t.position.line}:{t.position.column})"

end Stencil.Token
