import Stencil.Template
import Stencil.Token

/-! Parsing: the tokens of a source are read once, from the first to the last, with the tags that
are still open on a stack. A block may hold loops, a loop holds neither blocks nor loops, a block
holds no block, and each closing tag closes the innermost open one. The first parent tag outside all
blocks and loops counts; any other is text. A fault is found at the first token that no template can
have there, or, when the source ends too early, at the innermost tag still open. -/
namespace Stencil

/-- Why a source is no template, with the tokens to blame. -/
inductive SyntaxFault
  | unclosed (opener : Token)
  /-- A closing tag that does not fit the innermost open tag. -/
  | unexpected (token : Token)
  /-- A block inside an open tag. -/
  | misplaced (token opener : Token)
  | nestedLoop (token : Token)
deriving DecidableEq, Repr

namespace SyntaxFault

/-- The token the fault is reported at. -/
def token : SyntaxFault → Token
  | unclosed token | unexpected token | misplaced token _ | nestedLoop token => token

def message : SyntaxFault → Text
  | unclosed opener => "Unclosed '" ++ opener.raw ++ "'"
  | unexpected token => "Unexpected '" ++ token.raw ++ "'"
  | misplaced token opener => "'" ++ token.raw ++ "' cannot appear inside '" ++ opener.raw ++ "'"
  | nestedLoop token => "Nested loop '" ++ token.raw ++ "' is not supported"

end SyntaxFault

namespace Template

/-- What an opening tag opens. -/
inductive Opening
  | block (name : Text)
  | loop (item collection : Text)
deriving DecidableEq, Repr

/-- A tag that waits for its closing tag, and the nodes that stand before it in the body it belongs
to, the last one first. -/
structure OpenTag where
  token : Token
  opening : Opening
  before : List Node
deriving Repr

def OpenTag.isLoop (tag : OpenTag) : Bool :=
  match tag.opening with
  | .loop _ _ => true
  | .block _ => false

/-- The node that the tag and its closing tag put around a body. -/
def OpenTag.close (tag : OpenTag) (body : List Node) : Node :=
  match tag.opening with
  | .block name => .block tag.token.position name body
  | .loop item collection => .loop tag.token.position item collection tag.token.raw body

/-- What is known after some tokens: the parent, the open tags from the innermost outwards, and the
nodes of the body that is being read, the last one first. -/
structure Progress where
  parent : Option Parent
  openTags : List OpenTag
  nodes : List Node
deriving Repr

namespace Progress

def start : Progress := ⟨none, [], []⟩

def push (p : Progress) (node : Node) : Progress := { p with nodes := node :: p.nodes }

/-- Begins a body. -/
def descend (p : Progress) (token : Token) (opening : Opening) : Progress :=
  { p with openTags := ⟨token, opening, p.nodes⟩ :: p.openTags, nodes := [] }

/-- Ends the body of the innermost open tag, `outer` being the tags around it. -/
def ascend (p : Progress) (tag : OpenTag) (outer : List OpenTag) : Progress :=
  { p with openTags := outer, nodes := tag.close p.nodes.reverse :: tag.before }

def readDirective (p : Progress) (token : Token) : Directive → Except SyntaxFault Progress
  | .slot reference => .ok (p.push (.slot token.position reference token.raw))
  | .parent base =>
    if p.parent.isNone ∧ p.openTags.isEmpty then
      .ok { p with parent := some ⟨token.position, base, token.raw⟩ }
    else
      .ok (p.push (.text token.position token.raw))
  | .openBlock name =>
    match p.openTags with
    | [] => .ok (p.descend token (.block name))
    | tag :: _ => .error (.misplaced token tag.token)
  | .openLoop item collection =>
    if p.openTags.any OpenTag.isLoop then .error (.nestedLoop token)
    else .ok (p.descend token (.loop item collection))
  | .closeBlock =>
    match p.openTags with
    | tag :: outer => if tag.isLoop then .error (.unexpected token) else .ok (p.ascend tag outer)
    | [] => .error (.unexpected token)
  | .closeLoop =>
    match p.openTags with
    | tag :: outer => if tag.isLoop then .ok (p.ascend tag outer) else .error (.unexpected token)
    | [] => .error (.unexpected token)

def read (p : Progress) (token : Token) : Except SyntaxFault Progress :=
  match token.kind with
  | .text => .ok (p.push (.text token.position token.raw))
  | .directive d => p.readDirective token d
  | .endOfSource => .ok p

def finish (p : Progress) : Except SyntaxFault Template :=
  match p.openTags with
  | [] => .ok ⟨p.parent, p.nodes.reverse⟩
  | tag :: _ => .error (.unclosed tag.token)

end Progress

def ofTokens (tokens : List Token) : Except SyntaxFault Template :=
  tokens.foldlM Progress.read Progress.start >>= Progress.finish

def ofSource (source : Text) : Except SyntaxFault Template := ofTokens (Token.ofSource source)

end Template

end Stencil
