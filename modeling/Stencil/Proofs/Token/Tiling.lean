import Stencil.Proofs.Directive.Standing
import Stencil.Proofs.Position
import Stencil.Token
import Mathlib.Data.List.Chain

/-! How pieces and tokens cover a source. A piece of text is a longest stretch in which no directive
can be read, so it is not empty and no other text follows it; a piece with a directive is what is
read there. Tokens are pieces with their positions, each later than the one before, and the end of
the source comes last. -/
namespace Stencil

open Directive

/-- The pieces cover the text, each stretch of text being as long as can be. -/
inductive Tiles : Text → List Piece → Prop
  | nil : Tiles [] []
  | directive {cs : Text} {r : Reading} {pieces : List Piece} (hread : read? cs = some r)
      (tail : Tiles r.rest pieces) : Tiles cs (.directive r.directive r.raw :: pieces)
  | text {raw cs : Text} {pieces : List Piece} (hne : raw ≠ [])
      (hnone : ∀ q < raw.length, read? ((raw ++ cs).drop q) = none)
      (hlong : ∀ raw', pieces.head? ≠ some (.text raw')) (tail : Tiles cs pieces) :
      Tiles (raw ++ cs) (.text raw :: pieces)

/-- One more code point in front that begins no directive is one more of text. -/
theorem Tiles.consText {c : CodePoint} {cs : Text} {pieces : List Piece}
    (h : Tiles cs pieces) (hc : read? (c :: cs) = none) :
    Tiles (c :: cs) (Piece.consText c pieces) := by
  have hfirst : ∀ q < [c].length, read? (([c] ++ cs).drop q) = none := by
    rintro (_ | q) hq
    · exact hc
    · exact absurd hq (by simp)
  cases h with
  | nil => exact .text (List.cons_ne_nil c []) hfirst (by simp) .nil
  | directive hread tail =>
    exact .text (List.cons_ne_nil c []) hfirst (by simp) (.directive hread tail)
  | @text raw cs pieces hne hnone hlong tail =>
    refine @Tiles.text (c :: raw) cs pieces (List.cons_ne_nil c raw) ?_ hlong tail
    rintro (_ | q) hq
    · exact hc
    · exact hnone q (Nat.lt_of_succ_lt_succ hq)

theorem tiles_ofText (cs : Text) : Tiles cs (Piece.ofText cs) := by
  induction cs using Piece.ofText.induct with
  | case1 cs r h hlt ih =>
    rw [Piece.ofText.eq_def]
    split
    · rename_i r' h'
      obtain rfl := Option.some.inj (h.symm.trans h')
      exact .directive h ih
    · simp_all
  | case2 h =>
    rw [Piece.ofText.eq_def]
    split
    · simp_all
    · exact .nil
  | case3 c cs h ih =>
    rw [Piece.ofText.eq_def]
    split
    · simp_all
    · exact ih.consText h

theorem Tiles.raw_ne_nil {cs : Text} {pieces : List Piece} (h : Tiles cs pieces) {piece : Piece}
    (hmem : piece ∈ pieces) : piece.raw ≠ [] := by
  induction h with
  | nil => cases hmem
  | directive hread tail ih =>
    obtain rfl | hmem := List.mem_cons.mp hmem
    · exact Directive.raw_ne_nil hread
    · exact ih hmem
  | text hne hnone hlong tail ih =>
    obtain rfl | hmem := List.mem_cons.mp hmem
    · exact hne
    · exact ih hmem

/-- The pieces that cover a text make it up. -/
theorem Tiles.flatMap_raw {cs : Text} {pieces : List Piece} (h : Tiles cs pieces) :
    pieces.flatMap Piece.raw = cs := by
  induction h with
  | nil => rfl
  | directive hread tail ih => rw [List.flatMap_cons, ih, Piece.raw, raw_append_rest hread]
  | text hne hnone hlong tail ih => rw [List.flatMap_cons, ih, Piece.raw]

/-- A piece with a directive was read somewhere. -/
theorem Tiles.exists_reading {cs : Text} {pieces : List Piece} (h : Tiles cs pieces)
    {d : Directive} {raw : Text} (hmem : .directive d raw ∈ pieces) :
    ∃ ds rest, read? ds = some ⟨d, raw, rest⟩ := by
  induction h with
  | nil => cases hmem
  | @directive cs r pieces hread tail ih =>
    obtain heq | hmem := List.mem_cons.mp hmem
    · cases heq
      exact ⟨cs, r.rest, hread⟩
    · exact ih hmem
  | text hne hnone hlong tail ih =>
    obtain heq | hmem := List.mem_cons.mp hmem
    · cases heq
    · exact ih hmem

/-- A text is covered in one way only. -/
theorem Tiles.unique {cs : Text} {pieces pieces' : List Piece} (h : Tiles cs pieces)
    (h' : Tiles cs pieces') : pieces = pieces' := by
  -- Of two texts at one place the shorter one would end where a directive is read, which would
  -- then lie within the longer one.
  have hlongest : ∀ {raw raw' cs cs' : Text} {pieces : List Piece}, Tiles cs pieces →
      (∀ raw'', pieces.head? ≠ some (.text raw'')) → raw ++ cs = raw' ++ cs' →
      (∀ q < raw'.length, read? ((raw' ++ cs').drop q) = none) → raw'.length ≤ raw.length := by
    intro raw raw' cs cs' pieces tail hlong heq hnone
    by_contra hlt
    have hread := hnone raw.length (Nat.lt_of_not_le hlt)
    rw [← heq, List.drop_left] at hread
    cases tail with
    | nil =>
      have hlen := congrArg List.length heq
      simp only [List.length_append, List.length_nil] at hlen
      omega
    | directive hread' tail => cases hread.symm.trans hread'
    | text hne hnone' hlong' tail => exact hlong _ rfl
  induction h generalizing pieces' with
  | nil =>
    generalize hcs : ([] : Text) = cs at h'
    cases h' with
    | nil => rfl
    | directive hread tail =>
      subst hcs
      cases hread
    | text hne _ _ _ => exact absurd (List.append_eq_nil_iff.mp hcs.symm).1 hne
  | @directive cs r pieces hread tail ih =>
    cases h' with
    | nil => cases hread
    | @directive _ r' pieces' hread' tail' =>
      cases hread.symm.trans hread'
      rw [ih tail']
    | text hne hnone _ _ =>
      have hnothing := hnone 0 (List.length_pos_iff.mpr hne)
      cases hread.symm.trans hnothing
  | @text raw cs pieces hne hnone hlong tail ih =>
    generalize hcs : raw ++ cs = cs' at h'
    cases h' with
    | nil => exact absurd (List.append_eq_nil_iff.mp hcs).1 hne
    | directive hread' tail' =>
      have hnothing := hnone 0 (List.length_pos_iff.mpr hne)
      rw [hcs] at hnothing
      cases hnothing.symm.trans hread'
    | @text raw' cs' pieces' hne' hnone' hlong' tail' =>
      have hlen : raw.length = raw'.length :=
        Nat.le_antisymm (hlongest tail' hlong' hcs.symm hnone) (hlongest tail hlong hcs hnone')
      obtain ⟨rfl, rfl⟩ := List.append_inj hcs hlen
      rw [ih tail']

/-! Pieces that are found again where they are written. -/
namespace Piece

def isText : Piece → Bool
  | text _ => true
  | directive _ _ => false

/-- Not two texts, which would be one. -/
def Parted (a b : Piece) : Prop := ¬ (a.isText = true ∧ b.isText = true)

/-- A text holds no opener, and a directive is read wherever it stands. -/
def Proper : Piece → Prop
  | text raw => raw ≠ [] ∧ ¬ slotOpener <:+: raw ∧ ¬ tagOpener <:+: raw
  | directive d raw => ∀ rest, read? (raw ++ rest) = some ⟨d, raw, rest⟩

end Piece

theorem tiles_of_proper {pieces : List Piece} (h : ∀ piece ∈ pieces, piece.Proper)
    (hapart : pieces.IsChain Piece.Parted) :
    Tiles (pieces.flatMap Piece.raw) pieces := by
  induction pieces with
  | nil => exact .nil
  | cons piece pieces ih =>
    rw [List.isChain_cons] at hapart
    have hproper := h piece List.mem_cons_self
    have htail := ih (fun p hp => h p (List.mem_cons_of_mem piece hp)) hapart.2
    rw [List.flatMap_cons]
    cases piece with
    | directive d raw =>
      have hread : read? (raw ++ pieces.flatMap Piece.raw) = _ := hproper _
      exact .directive hread htail
    | text raw =>
      obtain ⟨hne, hslot, htag⟩ := hproper
      have hlong : ∀ raw', pieces.head? ≠ some (.text raw') := fun raw' hhead =>
        hapart.1 _ hhead ⟨rfl, rfl⟩
      refine .text hne (fun q hq => read?_append_eq_none hslot htag ?_ hq) hlong htail
      generalize pieces.flatMap Piece.raw = rest at htail
      cases htail with
      | nil => exact .inl rfl
      | directive hread tail => exact .inr (opener_prefix_of_read? hread)
      | text => exact absurd rfl (hlong _)

namespace Piece

theorem ofText_eq_of_tiles {cs : Text} {pieces : List Piece} (h : Tiles cs pieces) :
    ofText cs = pieces := (tiles_ofText cs).unique h

end Piece

namespace Token

theorem kind_ofPiece_ne (position : Position) (piece : Piece) :
    (ofPiece position piece).kind ≠ .endOfSource := by
  cases piece <;> exact Token.Kind.noConfusion

/-- The end of the source comes last and only there. -/
theorem exists_place_eq_append (position : Position) (pieces : List Piece) :
    ∃ tokens last, place position pieces = tokens ++ [last] ∧ last.kind = .endOfSource ∧
      ∀ t ∈ tokens, t.kind ≠ .endOfSource := by
  induction pieces generalizing position with
  | nil => exact ⟨[], ⟨.endOfSource, position, []⟩, rfl, rfl, by simp⟩
  | cons piece pieces ih =>
    obtain ⟨tokens, last, hplace, hlast, htokens⟩ := ih (position.advance piece.raw)
    refine ⟨ofPiece position piece :: tokens, last, ?_, hlast, ?_⟩
    · rw [place, hplace, List.cons_append]
    · rintro t (_ | ⟨_, ht⟩)
      · exact kind_ofPiece_ne position piece
      · exact htokens t ht

theorem exists_ofSource_eq_append (source : Text) :
    ∃ tokens last, ofSource source = tokens ++ [last] ∧ last.kind = .endOfSource ∧
      ∀ t ∈ tokens, t.kind ≠ .endOfSource :=
  exists_place_eq_append Position.start (Piece.ofText source)

theorem lt_position_of_mem_place {p position : Position} {pieces : List Piece}
    (hp : p < position) (hne : ∀ piece ∈ pieces, piece.raw ≠ []) {t : Token}
    (ht : t ∈ place position pieces) : p < t.position := by
  induction pieces generalizing position with
  | nil =>
    obtain rfl := List.mem_singleton.mp ht
    exact hp
  | cons piece pieces ih =>
    obtain rfl | ht := List.mem_cons.mp ht
    · exact hp
    · have hstep := Position.lt_advance position (hne piece List.mem_cons_self)
      exact ih (Position.lt_trans hp hstep) (fun q hq => hne q (List.mem_cons_of_mem piece hq)) ht

theorem pairwise_place (position : Position) {pieces : List Piece}
    (hne : ∀ piece ∈ pieces, piece.raw ≠ []) :
    (place position pieces).Pairwise (·.position < ·.position) := by
  induction pieces generalizing position with
  | nil => exact List.pairwise_singleton _ _
  | cons piece pieces ih =>
    have htail := fun q hq => hne q (List.mem_cons_of_mem piece hq)
    refine List.pairwise_cons.mpr ⟨fun t ht => ?_, ih (position.advance piece.raw) htail⟩
    exact lt_position_of_mem_place
      (Position.lt_advance position (hne piece List.mem_cons_self)) htail ht

/-- The tokens of a source come one after the other. -/
theorem pairwise_ofSource (source : Text) :
    (ofSource source).Pairwise (·.position < ·.position) :=
  pairwise_place Position.start fun _ => (tiles_ofText source).raw_ne_nil

/-- A token is that of a piece, or the end of the source, for which nothing is written. -/
theorem eq_of_mem_place {position : Position} {pieces : List Piece} {t : Token}
    (ht : t ∈ place position pieces) : (∃ p, ∃ piece ∈ pieces, t = ofPiece p piece) ∨
      ∃ p, t = ⟨.endOfSource, p, []⟩ := by
  induction pieces generalizing position with
  | nil => exact .inr ⟨position, List.mem_singleton.mp ht⟩
  | cons piece pieces ih =>
    obtain rfl | ht := List.mem_cons.mp ht
    · exact .inl ⟨position, piece, List.mem_cons_self, rfl⟩
    · obtain ⟨p, piece', hmem, heq⟩ | hend := ih ht
      · exact .inl ⟨p, piece', List.mem_cons_of_mem piece hmem, heq⟩
      · exact .inr hend

theorem exists_piece_of_mem_place {position : Position} {pieces : List Piece} {t : Token}
    (ht : t ∈ place position pieces) {d : Directive} (hkind : t.kind = .directive d) :
    .directive d t.raw ∈ pieces := by
  obtain ⟨p, piece, hmem, rfl⟩ | ⟨p, rfl⟩ := eq_of_mem_place ht
  · cases piece with
    | text raw => cases hkind
    | directive d' raw =>
      cases hkind
      exact hmem
  · cases hkind

/-- A token is written with a piece of the source. -/
theorem raw_infix_of_mem_ofSource {source : Text} {t : Token} (ht : t ∈ ofSource source) :
    t.raw <:+: source := by
  obtain ⟨p, piece, hmem, rfl⟩ | ⟨p, rfl⟩ := eq_of_mem_place ht
  · have hraw := List.infix_of_mem_flatten (List.mem_map_of_mem (f := Piece.raw) hmem)
    rwa [← List.flatMap_def, Piece.raw_ofText] at hraw
  · exact List.nil_infix

/-- A token with a directive was read somewhere. -/
theorem exists_reading_of_mem_ofSource {source : Text} {t : Token} (ht : t ∈ ofSource source)
    {d : Directive} (hkind : t.kind = .directive d) :
    ∃ ds rest, read? ds = some ⟨d, t.raw, rest⟩ :=
  (tiles_ofText source).exists_reading (exists_piece_of_mem_place ht hkind)

end Token

end Stencil
