import Stencil.Proofs.Directive.Standing
import Stencil.Proofs.Token.Tiling

/-! The directives of a source are found from the left: each is the first that stands at or after
the end of the one before it, whatever openers without a proper inside lie in between. The tokens
of a source that are directives are exactly these, and at no offset within a token of text does a
directive stand. -/
namespace Stencil

open Directive

/-- A directive with its raw text stands at an offset of a source. -/
def StandsAt (source : Text) (offset : Nat) (d : Directive) (raw : Text) : Prop :=
  Stands (source.drop offset) d raw

/-- The tokens of the directives from an offset on, each taken at the smallest offset where one
stands, and then again from its end on. -/
inductive Leftmost (source : Text) : Nat → List Token → Prop
  | done {start : Nat} (hnone : ∀ p ≥ start, ∀ d raw, ¬ StandsAt source p d raw) :
      Leftmost source start []
  | next {start p : Nat} {d : Directive} {raw : Text} {tokens : List Token} (hstart : start ≤ p)
      (hstands : StandsAt source p d raw)
      (hfirst : ∀ q, start ≤ q → q < p → ∀ d' raw', ¬ StandsAt source q d' raw')
      (tail : Leftmost source (p + raw.length) tokens) :
      Leftmost source start
        (⟨.directive d, Position.start.advance (source.take p), raw⟩ :: tokens)

def Token.isDirective (t : Token) : Bool :=
  match t.kind with
  | .directive _ => true
  | .text | .endOfSource => false

namespace Leftmost

/-- A stretch where nothing stands may be put in front. -/
theorem extend {source : Text} {start start' : Nat} {tokens : List Token}
    (h : Leftmost source start' tokens) (hle : start ≤ start')
    (hnone : ∀ q, start ≤ q → q < start' → ∀ d raw, ¬ StandsAt source q d raw) :
    Leftmost source start tokens := by
  cases h with
  | done hdone =>
    refine .done fun p hp => ?_
    by_cases hlt : p < start'
    · exact hnone p hp hlt
    · exact hdone p (Nat.le_of_not_lt hlt)
  | next hstart hstands hfirst tail =>
    refine .next (Nat.le_trans hle hstart) hstands (fun q hq hlt => ?_) tail
    by_cases hq' : q < start'
    · exact hnone q hq hq'
    · exact hfirst q (Nat.le_of_not_lt hq') hlt

theorem unique {source : Text} {start : Nat} {tokens tokens' : List Token}
    (h : Leftmost source start tokens) (h' : Leftmost source start tokens') :
    tokens = tokens' := by
  induction h generalizing tokens' with
  | done hnone =>
    cases h' with
    | done _ => rfl
    | next hstart hstands _ _ => exact absurd hstands (hnone _ hstart _ _)
  | @next start p d raw tokens hstart hstands hfirst tail ih =>
    cases h' with
    | done hnone => exact absurd hstands (hnone _ hstart _ _)
    | @next _ p' d' raw' tokens' hstart' hstands' hfirst' tail' =>
      obtain hlt | rfl | hlt := Nat.lt_trichotomy p p'
      · exact absurd hstands (hfirst' p hstart hlt d raw)
      · obtain ⟨rfl, rfl⟩ := hstands.unique hstands'
        rw [ih tail']
      · exact absurd hstands' (hfirst p' hstart' hlt d' raw')

/-- The directives among the tokens of pieces that cover the rest of a source. -/
theorem of_tiles {cs : Text} {pieces : List Piece} (h : Tiles cs pieces) (before : Text) :
    Leftmost (before ++ cs) before.length
      ((Token.place (Position.start.advance before) pieces).filter Token.isDirective) := by
  induction h generalizing before with
  | nil =>
    refine .done fun p hp d raw => ?_
    rw [StandsAt, List.append_nil, List.drop_eq_nil_of_le hp]
    exact not_stands_of_read?_eq_none rfl d raw
  | @directive cs r pieces hread tail ih =>
    have hstands : StandsAt (before ++ cs) before.length r.directive r.raw := by
      rw [StandsAt, List.drop_left]
      exact stands_of_read? hread
    have hrest := ih (before ++ r.raw)
    rw [List.append_assoc, raw_append_rest hread, Position.advance_append, List.length_append]
      at hrest
    have hnext := Leftmost.next (Nat.le_refl _) hstands (fun q hq hlt => by omega) hrest
    rw [List.take_left] at hnext
    exact hnext
  | @text raw cs pieces hne hnone hlong tail ih =>
    have hrest := ih (before ++ raw)
    rw [List.append_assoc, Position.advance_append, List.length_append] at hrest
    refine hrest.extend (Nat.le_add_right _ _) fun q hq hlt d raw' => ?_
    obtain ⟨q, rfl⟩ := Nat.exists_eq_add_of_le hq
    rw [StandsAt, List.drop_length_add_append]
    exact not_stands_of_read?_eq_none (hnone q (by omega)) d raw'

/-- Each of the tokens stands where its position says. -/
theorem exists_standsAt {source : Text} {start : Nat} {tokens : List Token}
    (h : Leftmost source start tokens) {t : Token} (ht : t ∈ tokens) {d : Directive}
    (hkind : t.kind = .directive d) : ∃ offset, StandsAt source offset d t.raw ∧
      t.position = Position.start.advance (source.take offset) := by
  induction h with
  | done => cases ht
  | @next start p d' raw tokens hstart hstands hfirst tail ih =>
    obtain rfl | ht := List.mem_cons.mp ht
    · obtain rfl : d' = d := Token.Kind.directive.inj hkind
      exact ⟨p, hstands, rfl⟩
    · exact ih ht

end Leftmost

namespace Token

/-- A token of a source that is a directive stands there, on the line that its position says. -/
theorem exists_standsAt_of_mem_ofSource {source : Text} {t : Token} (ht : t ∈ ofSource source)
    {d : Directive} (hkind : t.kind = .directive d) : ∃ offset, StandsAt source offset d t.raw ∧
      t.position.line = 1 + (source.take offset).count (.char '\n') := by
  have hleftmost : Leftmost source 0 ((ofSource source).filter isDirective) :=
    Leftmost.of_tiles (tiles_ofText source) []
  have hmem : t ∈ (ofSource source).filter isDirective :=
    List.mem_filter.mpr ⟨ht, by rw [isDirective, hkind]⟩
  obtain ⟨offset, hstands, hposition⟩ := hleftmost.exists_standsAt hmem hkind
  refine ⟨offset, hstands, ?_⟩
  rw [hposition, Position.line_advance]
  rfl

/-- Nothing can be read within a token of text. -/
theorem read?_eq_none_of_place {cs : Text} {pieces : List Piece} (h : Tiles cs pieces)
    {position : Position} {before after : List Token} {token : Token}
    (hplace : place position pieces = before ++ token :: after) (hkind : token.kind = .text)
    {q : Nat} (hq : q < token.raw.length) :
    read? (cs.drop ((before.flatMap raw).length + q)) = none := by
  induction h generalizing position before with
  | nil =>
    obtain ⟨-, heq⟩ | ⟨_, -, heq⟩ := List.append_eq_cons_iff.mp hplace.symm
    · cases heq
      cases hkind
    · simp at heq
  | @directive cs r pieces hread tail ih =>
    obtain ⟨rfl, heq⟩ | ⟨before, rfl, heq⟩ := List.append_eq_cons_iff.mp hplace.symm
    · cases heq
      cases hkind
    · rw [List.flatMap_cons, List.length_append, Nat.add_assoc, ← raw_append_rest hread]
      exact (congrArg read? (List.drop_length_add_append _)).trans (ih heq)
  | @text text cs pieces hne hnone hlong tail ih =>
    obtain ⟨rfl, heq⟩ | ⟨before, rfl, heq⟩ := List.append_eq_cons_iff.mp hplace.symm
    · cases heq
      rw [List.flatMap_nil, List.length_nil, Nat.zero_add]
      exact hnone q hq
    · rw [List.flatMap_cons, List.length_append, Nat.add_assoc]
      exact (congrArg read? (List.drop_length_add_append _)).trans (ih heq)

/-- The directives among the tokens of a source are those found from the left, and no token of text
has a directive standing anywhere in it. -/
theorem directives_ofSource (source : Text) :
    (∀ tokens, Leftmost source 0 tokens ↔ tokens = (ofSource source).filter isDirective) ∧
    ∀ before token after, ofSource source = before ++ token :: after → token.kind = .text →
      ∀ q < token.raw.length, ∀ d raw,
        ¬ StandsAt source ((before.flatMap Token.raw).length + q) d raw := by
  have htiles := tiles_ofText source
  have hleftmost : Leftmost source 0 ((ofSource source).filter isDirective) :=
    Leftmost.of_tiles htiles []
  refine ⟨fun tokens => ⟨fun h => h.unique hleftmost, fun h => h ▸ hleftmost⟩, ?_⟩
  intro before token after hsource hkind q hq d raw
  exact not_stands_of_read?_eq_none (read?_eq_none_of_place htiles hsource hkind hq) d raw

end Token

end Stencil
