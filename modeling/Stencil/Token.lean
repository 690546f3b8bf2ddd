import Stencil.Directive
import Stencil.Position

/-! Tokens: a source divided, in order and without loss, into directives and the text between them,
each with the position where it begins. A directive is taken at the first place where one can be
read; everything before that is text. -/
namespace Stencil

/-- A part of a source by what is written there alone. -/
inductive Piece
  | text (raw : Text)
  | directive (d : Directive) (raw : Text)
deriving DecidableEq, Repr

namespace Piece

def raw : Piece → Text
  | text raw => raw
  | directive _ raw => raw

/-- Puts a code point of text in front of the pieces. -/
def consText (c : CodePoint) : List Piece → List Piece
  | text raw :: pieces => text (c :: raw) :: pieces
  | pieces => text [c] :: pieces

/-- A place where no directive can be read is text, and the search goes on at the next one. -/
def ofText (cs : Text) : List Piece :=
  match h : Directive.read? cs with
  | some r =>
    have := Directive.length_rest_lt h
    directive r.directive r.raw :: ofText r.rest
  | none =>
    match cs with
    | [] => []
    | c :: cs => consText c (ofText cs)
termination_by cs.length

theorem raw_consText (c : CodePoint) (pieces : List Piece) :
    (consText c pieces).flatMap raw = c :: pieces.flatMap raw := by
  rcases pieces with _ | ⟨_ | _, pieces⟩ <;> simp [consText, raw]

/-- The pieces of a text make it up. -/
theorem raw_ofText (cs : Text) : (ofText cs).flatMap raw = cs := by
  induction cs using ofText.induct with
  | case1 cs r h hlt ih =>
    rw [ofText.eq_def]
    split
    · rename_i r' h'
      obtain rfl := Option.some.inj (h.symm.trans h')
      rw [List.flatMap_cons, ih, raw, Directive.raw_append_rest h]
    · simp_all
  | case2 h => simp [ofText.eq_def, Directive.read?]
  | case3 h c cs ih =>
    rw [ofText.eq_def]
    split
    · simp_all
    · rw [raw_consText, ih]

end Piece

inductive Token.Kind
  | text
  | directive (d : Directive)
  | endOfSource
deriving DecidableEq, Repr

structure Token where
  kind : Token.Kind
  position : Position
  raw : Text
deriving DecidableEq, Repr

namespace Token

def ofPiece (position : Position) (piece : Piece) : Token where
  kind := match piece with
    | .text _ => .text
    | .directive d _ => .directive d
  position := position
  raw := piece.raw

/-- The tokens of pieces that follow each other from `position` on, and the end of the source. -/
def place (position : Position) : List Piece → List Token
  | [] => [⟨.endOfSource, position, []⟩]
  | piece :: pieces => ofPiece position piece :: place (position.advance piece.raw) pieces

def ofSource (source : Text) : List Token := place Position.start (Piece.ofText source)

end Token

end Stencil
