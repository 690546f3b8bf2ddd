import Stencil.Proofs.Text.Lines
import Stencil.Proofs.Token.Tiling
import Stencil.Token.Printer

/-! Where tokens begin. The tokens of a source are written one behind the other and make it up, and
the position of each is that of the place where it begins: its line is counted by the line feeds in
front of it, and its column from the last of them on. -/
namespace Stencil

namespace Position

theorem column_advance_start (cs : Text) :
    (start.advance cs).column = (Text.lastLine Text.isLineFeed cs).length := by
  induction cs using List.reverseRecOn with
  | nil => rfl
  | append_singleton cs c ih =>
    have hstep : start.advance (cs ++ [c]) = (start.advance cs).step c :=
      advance_append start cs [c]
    rw [hstep, step]
    cases hc : Text.isLineFeed c with
    | true =>
      rw [Text.lastLine_concat_of_pos hc, if_pos (Text.isLineFeed_iff.mp hc)]
      rfl
    | false =>
      have hne : c ≠ .char '\n' := fun h => by rw [Text.isLineFeed_iff.mpr h] at hc; cases hc
      rw [Text.lastLine_concat_of_neg hc, if_neg hne, ih, List.length_append]
      rfl

/-- The position of an offset in a source. -/
structure IsOf (p : Position) (source : Text) (offset : Nat) : Prop where
  line : p.line = 1 + (source.take offset).count (.char '\n')
  column : p.column = (Text.lastLine Text.isLineFeed (source.take offset)).length

theorem isOf_advance_start (before rest : Text) :
    (start.advance before).IsOf (before ++ rest) before.length where
  line := by
    rw [List.take_left, line_advance]
    rfl
  column := by rw [List.take_left, column_advance_start]

end Position

/-- Two texts are never next to each other. -/
theorem Tiles.parted {cs : Text} {pieces : List Piece} (h : Tiles cs pieces) :
    pieces.IsChain Piece.Parted := by
  induction h with
  | nil => exact .nil
  | directive hread tail ih =>
    refine List.isChain_cons.mpr ⟨fun piece _ hboth => ?_, ih⟩
    cases hboth.1
  | text hne hnone hlong tail ih =>
    refine List.isChain_cons.mpr ⟨fun piece hpiece hboth => ?_, ih⟩
    cases piece with
    | text raw => exact hlong raw hpiece
    | directive d raw => cases hboth.2

namespace Token

/-- The tokens of pieces that follow each other from a position, without the end of the source. -/
def placed (position : Position) : List Piece → List Token
  | [] => []
  | piece :: pieces => ofPiece position piece :: placed (position.advance piece.raw) pieces

theorem place_append (position : Position) (pieces pieces' : List Piece) :
    place position (pieces ++ pieces') =
      placed position pieces ++ place (position.advance (pieces.flatMap Piece.raw)) pieces' := by
  induction pieces generalizing position with
  | nil => rfl
  | cons piece pieces ih =>
    rw [List.cons_append, place, placed, ih, List.cons_append, List.flatMap_cons,
      Position.advance_append]

theorem place_eq_placed (position : Position) (pieces : List Piece) :
    place position pieces = placed position pieces ++
      [⟨.endOfSource, position.advance (pieces.flatMap Piece.raw), []⟩] := by
  have happend := place_append position pieces []
  rwa [List.append_nil] at happend

theorem raw_place (position : Position) (pieces : List Piece) :
    (place position pieces).flatMap raw = pieces.flatMap Piece.raw := by
  induction pieces generalizing position with
  | nil => rfl
  | cons piece pieces ih =>
    rw [place, List.flatMap_cons, ih, List.flatMap_cons]
    rfl

/-- A token begins where what stands before it ends. -/
theorem position_of_place {position : Position} {pieces : List Piece} {before after : List Token}
    {token : Token} (h : place position pieces = before ++ token :: after) :
    token.position = position.advance (before.flatMap raw) := by
  induction pieces generalizing position before with
  | nil =>
    obtain ⟨rfl, heq⟩ | ⟨before, -, heq⟩ := List.append_eq_cons_iff.mp h.symm
    · cases heq
      rfl
    · simp at heq
  | cons piece pieces ih =>
    obtain ⟨rfl, heq⟩ | ⟨before, rfl, heq⟩ := List.append_eq_cons_iff.mp h.symm
    · cases heq
      rfl
    · rw [ih heq, List.flatMap_cons, Position.advance_append]
      rfl

/-- Not two texts, which would be one. -/
def Parted (t t' : Token) : Prop := ¬ (t.kind = .text ∧ t'.kind = .text)

theorem isText_of_kind_ofPiece {position : Position} {piece : Piece}
    (h : (ofPiece position piece).kind = .text) : piece.isText = true := by
  cases piece with
  | text raw => rfl
  | directive d raw => cases h

theorem isChain_place (position : Position) {pieces : List Piece}
    (h : pieces.IsChain Piece.Parted) : (place position pieces).IsChain Parted := by
  induction pieces generalizing position with
  | nil => exact .singleton _
  | cons piece pieces ih =>
    obtain ⟨hfirst, hrest⟩ := List.isChain_cons.mp h
    refine List.isChain_cons.mpr ⟨fun t ht hboth => ?_, ih (position.advance piece.raw) hrest⟩
    cases pieces with
    | nil =>
      cases ht
      cases hboth.2
    | cons next pieces =>
      cases ht
      exact hfirst next rfl ⟨isText_of_kind_ofPiece hboth.1, isText_of_kind_ofPiece hboth.2⟩

/-- Tokens that make up a source. -/
structure Covers (tokens : List Token) (source : Text) : Prop where
  raw : tokens.flatMap Token.raw = source
  /-- The end of the source comes last and only there, and nothing is written for it. -/
  ends : ∃ before last, tokens = before ++ [last] ∧ last.kind = .endOfSource ∧ last.raw = [] ∧
    ∀ t ∈ before, t.kind ≠ .endOfSource
  /-- A text carries what is written for it, which is not nothing. -/
  text : ∀ t ∈ tokens, t.kind = .text → t.raw ≠ [] ∧ t.load = .one t.raw
  parted : tokens.IsChain Parted
  /-- Each token has the position of the offset where those before it end. -/
  position : ∀ before t after, tokens = before ++ t :: after →
    t.position.IsOf source (before.flatMap Token.raw).length

theorem raw_ofSource (source : Text) : (ofSource source).flatMap raw = source := by
  rw [ofSource, raw_place, Piece.raw_ofText]

theorem raw_ne_nil_of_mem_ofSource {source : Text} {t : Token} (ht : t ∈ ofSource source)
    (hkind : t.kind ≠ .endOfSource) : t.raw ≠ [] := by
  obtain ⟨p, piece, hpiece, rfl⟩ | ⟨p, rfl⟩ := eq_of_mem_place ht
  · exact (tiles_ofText source).raw_ne_nil hpiece
  · exact absurd rfl hkind

theorem raw_of_kind_endOfSource {source : Text} {t : Token} (ht : t ∈ ofSource source)
    (hkind : t.kind = .endOfSource) : t.raw = [] := by
  obtain ⟨p, piece, hpiece, rfl⟩ | ⟨p, rfl⟩ := eq_of_mem_place ht
  · exact absurd hkind (kind_ofPiece_ne p piece)
  · rfl

theorem covers_ofSource (source : Text) : Covers (ofSource source) source where
  raw := raw_ofSource source
  ends := by
    obtain ⟨before, last, htokens, hlast, hbefore⟩ := exists_ofSource_eq_append source
    have hmem : last ∈ ofSource source := htokens ▸ List.mem_append_right before List.mem_cons_self
    exact ⟨before, last, htokens, hlast, raw_of_kind_endOfSource hmem hlast, hbefore⟩
  text t ht hkind := by
    have hload : t.load = .one t.raw := by rw [load, hkind]
    exact ⟨raw_ne_nil_of_mem_ofSource ht (by rw [hkind]; exact nofun), hload⟩
  parted := isChain_place Position.start (tiles_ofText source).parted
  position before t after htokens := by
    have hsource : before.flatMap Token.raw ++ (t :: after).flatMap Token.raw = source := by
      rw [← List.flatMap_append, ← htokens, raw_ofSource]
    rw [position_of_place htokens]
    have hplace := Position.isOf_advance_start (before.flatMap Token.raw)
      ((t :: after).flatMap Token.raw)
    rwa [hsource] at hplace

end Token

end Stencil
