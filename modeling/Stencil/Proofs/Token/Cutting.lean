import Stencil.Proofs.Token.Coordinates

/-! Sources that are cut. What stands before a token has no bearing on what is read from there on.
Nor does what follows bear on what was read up to there: a directive ends with its first closer, and
where nothing can be read within a text, nothing can be read either if the source ends earlier. So
both parts of a source that is cut where a token begins have the tokens that they have in the whole,
those of the second part at positions that are counted from where it begins. -/
namespace Stencil

open Directive

namespace Position

/-- A position in a part of a source that begins at `origin`, as a position in the source. Columns
are moved on the first line of the part. -/
def shift (origin p : Position) : Position where
  line := origin.line + (p.line - 1)
  column := if p.line = 1 then origin.column + p.column else p.column

theorem shift_start (origin : Position) : origin.shift start = origin := by
  simp [shift, start]

/-- From the first line on, reading goes on alike in the part and in the source. -/
theorem step_shift (origin : Position) {p : Position} (h : 1 ≤ p.line) (c : CodePoint) :
    (origin.shift p).step c = origin.shift (p.step c) := by
  rw [step, step]
  by_cases hc : c = .char '\n'
  · have hline : origin.line + (p.line - 1) + 1 = origin.line + (p.line + 1 - 1) := by omega
    have hfirst : ¬ p.line + 1 = 1 := by omega
    rw [if_pos hc, if_pos hc]
    simp only [shift, hline, hfirst, if_false]
  · rw [if_neg hc, if_neg hc]
    simp only [shift]
    by_cases hfirst : p.line = 1
    · simp only [hfirst, if_true, Int.add_assoc]
    · simp only [hfirst, if_false]

theorem advance_shift (origin : Position) {p : Position} (h : 1 ≤ p.line) (cs : Text) :
    (origin.shift p).advance cs = origin.shift (p.advance cs) := by
  induction cs generalizing p with
  | nil => rfl
  | cons c cs ih =>
    have hnext : 1 ≤ (p.step c).line := by
      rw [step]
      split
      · exact Int.le_add_one h
      · exact h
    have hadvance : ∀ q : Position, q.advance (c :: cs) = (q.step c).advance cs := fun _ => rfl
    rw [hadvance, hadvance, step_shift origin h, ih hnext]

end Position

/-- Pieces that cover a text cover what they are written as, wherever they are cut in two. -/
theorem Tiles.split {cs : Text} {pieces pieces' : List Piece} (h : Tiles cs (pieces ++ pieces')) :
    Tiles (pieces.flatMap Piece.raw) pieces ∧ Tiles (pieces'.flatMap Piece.raw) pieces' := by
  induction pieces generalizing cs with
  | nil =>
    rw [List.nil_append] at h
    exact ⟨.nil, h.flatMap_raw.symm ▸ h⟩
  | cons piece pieces ih =>
    rw [List.cons_append] at h
    rw [List.flatMap_cons]
    cases h with
    | @directive _ r _ hread tail =>
      obtain ⟨hfirst, hrest⟩ := ih tail
      have hagain := read?_raw_append hread (pieces.flatMap Piece.raw)
      exact ⟨.directive (r := ⟨r.directive, r.raw, pieces.flatMap Piece.raw⟩) hagain hfirst, hrest⟩
    | @text raw cs _ hne hnone hlong tail =>
      obtain ⟨hfirst, hrest⟩ := ih tail
      have hcs := tail.flatMap_raw
      rw [List.flatMap_append] at hcs
      refine ⟨Tiles.text hne (fun q (hq : q < raw.length) => ?_)
        (fun raw' hhead => hlong raw' ?_) hfirst, hrest⟩
      · -- The text went on beyond the cut, and nothing could be read in it even so.
        have hwhole := hnone q hq
        have hwithin : q ≤ (raw ++ pieces.flatMap Piece.raw).length := by
          rw [List.length_append]
          omega
        rw [← hcs, ← List.append_assoc, List.drop_append_of_le_length hwithin] at hwhole
        exact read?_eq_none_of_append hwhole
      · rw [List.head?_append, hhead]
        rfl

/-- A piece is found again where it is written alone. -/
theorem Tiles.alone {cs : Text} {pieces : List Piece} (h : Tiles cs pieces) {piece : Piece}
    (hmem : piece ∈ pieces) : Tiles piece.raw [piece] := by
  obtain ⟨before, after, rfl⟩ := List.append_of_mem hmem
  have hfrom : Tiles _ ([piece] ++ after) := h.split.2
  have halone := hfrom.split.1
  rwa [List.flatMap_singleton] at halone

namespace Token

/-- The token at a position that is counted from where another part begins. -/
def shift (origin : Position) (t : Token) : Token := { t with position := origin.shift t.position }

theorem shift_ofPiece (origin position : Position) (piece : Piece) :
    (ofPiece position piece).shift origin = ofPiece (origin.shift position) piece := rfl

theorem place_shift (origin : Position) {position : Position} (h : 1 ≤ position.line)
    (pieces : List Piece) :
    (place position pieces).map (shift origin) = place (origin.shift position) pieces := by
  induction pieces generalizing position with
  | nil => rfl
  | cons piece pieces ih =>
    have hnext : 1 ≤ (position.advance piece.raw).line := by
      rw [Position.line_advance]
      omega
    rw [place, List.map_cons, ih hnext, place, shift_ofPiece, Position.advance_shift origin h]

theorem ofSource_shift (origin : Position) (source : Text) :
    (ofSource source).map (shift origin) = place origin (Piece.ofText source) := by
  rw [ofSource, place_shift origin (Int.le_refl 1), Position.shift_start]

/-- Tokens in front of another token are those of the first pieces. -/
theorem exists_of_place_eq_append {position : Position} {pieces : List Piece}
    {before after : List Token} {token : Token}
    (h : place position pieces = before ++ token :: after) : ∃ pieces' pieces'',
      pieces = pieces' ++ pieces'' ∧ before = placed position pieces' ∧
      token :: after = place (position.advance (pieces'.flatMap Piece.raw)) pieces'' := by
  induction before generalizing position pieces with
  | nil => exact ⟨[], pieces, rfl, rfl, h.symm⟩
  | cons first before ih =>
    cases pieces with
    | nil => simp [place] at h
    | cons piece pieces =>
      obtain ⟨rfl, hrest⟩ := List.cons.inj h
      obtain ⟨pieces', pieces'', rfl, rfl, hafter⟩ := ih hrest
      refine ⟨piece :: pieces', pieces'', rfl, rfl, ?_⟩
      rw [hafter, List.flatMap_cons, Position.advance_append]

theorem flatMap_raw_placed (position : Position) (pieces : List Piece) :
    (placed position pieces).flatMap raw = pieces.flatMap Piece.raw := by
  have hraw := raw_place position pieces
  rw [place_eq_placed, List.flatMap_append] at hraw
  simpa using hraw

/-- The tokens of both parts of a source that is cut where a token begins. -/
theorem ofSource_of_eq_append {source : Text} {before after : List Token} {token : Token}
    (h : ofSource source = before ++ token :: after) :
    ofSource (before.flatMap raw) = before ++ [⟨.endOfSource, token.position, []⟩] ∧
      (ofSource ((token :: after).flatMap raw)).map (shift token.position) = token :: after := by
  obtain ⟨pieces, pieces', hpieces, hbefore, hafter⟩ := exists_of_place_eq_append h
  have htiles := tiles_ofText source
  rw [hpieces] at htiles
  obtain ⟨hfirst, hrest⟩ := htiles.split
  have hposition : token.position = Position.start.advance (pieces.flatMap Piece.raw) := by
    rw [position_of_place h, hbefore, flatMap_raw_placed]
  constructor
  · rw [hbefore, flatMap_raw_placed, ofSource, Piece.ofText_eq_of_tiles hfirst, place_eq_placed,
      hposition]
  · rw [ofSource_shift, hafter, raw_place, Piece.ofText_eq_of_tiles hrest, hposition]

/-- An offset where a token of a source begins. -/
def IsBoundary (source : Text) (offset : Nat) : Prop :=
  ∃ before token after, ofSource source = before ++ token :: after ∧
    offset = (before.flatMap raw).length

/-- Cutting a source where a token begins cuts its tokens in two, and each token is found again
where it is written alone. -/
theorem ofSource_cut (source : Text) :
    (∀ offset, IsBoundary source offset → ofSource source =
      (ofSource (source.take offset)).dropLast ++ (ofSource (source.drop offset)).map
        (shift (Position.start.advance (source.take offset)))) ∧
    ∀ t ∈ ofSource source, t.kind ≠ .endOfSource → ofSource t.raw =
      [⟨t.kind, Position.start, t.raw⟩, ⟨.endOfSource, Position.start.advance t.raw, []⟩] := by
  constructor
  · rintro _ ⟨before, token, after, htokens, rfl⟩
    obtain ⟨hfirst, hrest⟩ := ofSource_of_eq_append htokens
    have hsource : before.flatMap raw ++ (token :: after).flatMap raw = source := by
      rw [← List.flatMap_append, ← htokens, raw_ofSource]
    have htake : source.take (before.flatMap raw).length = before.flatMap raw := by
      rw [← hsource, List.take_left]
    have hdrop : source.drop (before.flatMap raw).length = (token :: after).flatMap raw := by
      rw [← hsource, List.drop_left]
    rw [htake, hdrop, ← position_of_place htokens, hfirst, hrest, List.dropLast_concat]
    exact htokens
  · intro t ht hkind
    obtain ⟨p, piece, hpiece, rfl⟩ | ⟨p, rfl⟩ := eq_of_mem_place ht
    · have halone := (tiles_ofText source).alone hpiece
      have hraw : (ofPiece p piece).raw = piece.raw := rfl
      rw [hraw, ofSource, Piece.ofText_eq_of_tiles halone]
      rfl
    · exact absurd rfl hkind

end Token

end Stencil
