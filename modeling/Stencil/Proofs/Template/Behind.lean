import Stencil.Proofs.Rendering.Unplaced
import Stencil.Proofs.Template.Roundtrip
import Stencil.Proofs.Token.Cutting

/-! A source behind a parent tag. The tokens of the source are the same as without the tag, but for
the place where they begin. If the source names no parent itself, then each step of parsing makes of
them what it makes without the tag: a known parent is looked at only where another parent tag stands
outside all blocks and loops. So the template behind the tag has the nodes of the source, moved, and
the tag names its parent. -/
namespace Stencil

namespace Node

mutual

/-- The node in a source that stands at `origin` in another one. -/
def shift (origin : Position) : Node → Node
  | text position value => text (origin.shift position) value
  | slot position reference raw => slot (origin.shift position) reference raw
  | loop position item collection raw body =>
    loop (origin.shift position) item collection raw (shiftAll origin body)
  | block position name body => block (origin.shift position) name (shiftAll origin body)

def shiftAll (origin : Position) : List Node → List Node
  | [] => []
  | node :: nodes => shift origin node :: shiftAll origin nodes

end

theorem shiftAll_eq_map (origin : Position) (nodes : List Node) :
    shiftAll origin nodes = nodes.map (shift origin) := by
  induction nodes with
  | nil => rfl
  | cons node nodes ih => simp [shiftAll, ih]

mutual

theorem unplaced_shift (origin : Position) : (node : Node) →
    (node.shift origin).unplaced = node.unplaced
  | text .. => rfl
  | slot .. => rfl
  | loop _ _ _ _ body => by simp [shift, unplaced, unplacedAll_shiftAll origin body]
  | block _ _ body => by simp [shift, unplaced, unplacedAll_shiftAll origin body]

theorem unplacedAll_shiftAll (origin : Position) : (nodes : List Node) →
    unplacedAll (shiftAll origin nodes) = unplacedAll nodes
  | [] => rfl
  | node :: nodes => by
    simp [shiftAll, unplacedAll, unplaced_shift origin node, unplacedAll_shiftAll origin nodes]

end

theorem map_unplaced_shift (origin : Position) (nodes : List Node) :
    (nodes.map (shift origin)).map unplaced = nodes.map unplaced := by
  simp [List.map_map, Function.comp_def, unplaced_shift]

end Node

namespace Template

def OpenTag.shift (origin : Position) (tag : OpenTag) : OpenTag :=
  ⟨tag.token.shift origin, tag.opening, tag.before.map (Node.shift origin)⟩

theorem OpenTag.close_shift (origin : Position) (tag : OpenTag) (body : List Node) :
    (tag.shift origin).close (body.map (Node.shift origin)) =
      (tag.close body).shift origin := by
  obtain ⟨token, opening, before⟩ := tag
  cases opening <;> simp [close, OpenTag.shift, Node.shift, Node.shiftAll_eq_map, Token.shift]

theorem Admits.shift {openTags : List OpenTag} {opening : Opening} (h : Admits openTags opening)
    (origin : Position) : Admits (openTags.map (OpenTag.shift origin)) opening := by
  cases opening with
  | block name =>
    have hnone : openTags = [] := h
    simp [Admits, hnone]
  | loop item collection =>
    intro tag htag
    obtain ⟨tag', htag', rfl⟩ := List.mem_map.mp htag
    exact h tag' htag'

namespace Progress

variable {p q : Progress} {token : Token} (parent : Parent) (origin : Position)

/-- The same progress in a source at `origin`, where the parent is known. -/
def behind (p : Progress) : Progress :=
  ⟨some parent, p.openTags.map (OpenTag.shift origin), p.nodes.map (Node.shift origin)⟩

theorem behind_push (p : Progress) (node : Node) :
    (p.push node).behind parent origin = (p.behind parent origin).push (node.shift origin) := rfl

theorem behind_descend (p : Progress) (token : Token) (opening : Opening) :
    (p.descend token opening).behind parent origin =
      (p.behind parent origin).descend (token.shift origin) opening := rfl

theorem behind_ascend (p : Progress) (tag : OpenTag) (outer : List OpenTag) :
    (p.ascend tag outer).behind parent origin =
      (p.behind parent origin).ascend (tag.shift origin) (outer.map (OpenTag.shift origin)) := by
  have hclose := tag.close_shift origin p.nodes.reverse
  simp only [behind, ascend, List.map_cons, ← hclose, List.map_reverse]
  rfl

/-- A parent that is known stays. -/
theorem Step.parent_eq_none (h : p.Step token q) (hq : q.parent = none) : p.parent = none := by
  cases h with
  | parent hkind hparent houter => exact hparent
  | text | slot | laterParent | descend | ascend | finish => exact hq

/-- A step that finds no parent is the same step behind a parent. -/
theorem Step.behind (h : p.Step token q) (hq : q.parent = none) :
    (p.behind parent origin).Step (token.shift origin) (q.behind parent origin) := by
  cases h with
  | text hkind =>
    rw [behind_push]
    exact .text hkind
  | slot hkind =>
    rw [behind_push]
    exact .slot hkind
  | parent hkind hparent houter => cases hq
  | laterParent hkind hlater =>
    rw [behind_push]
    refine .laterParent hkind ?_
    intro hnone
    cases hnone
  | descend hkind hadmits =>
    rw [behind_descend]
    exact .descend hkind (hadmits.shift origin)
  | @ascend tag outer hkind htags =>
    rw [behind_ascend]
    have htags' : (p.behind parent origin).openTags =
        tag.shift origin :: outer.map (OpenTag.shift origin) := by simp [Progress.behind, htags]
    exact .ascend hkind htags'
  | finish hkind => exact .finish hkind

/-- So are the steps that read any number of tokens. -/
theorem foldlM_read_behind {tokens : List Token} (h : tokens.foldlM read p = .ok q)
    (hq : q.parent = none) : p.parent = none ∧
    (tokens.map (Token.shift origin)).foldlM read (p.behind parent origin) =
      .ok (q.behind parent origin) := by
  induction tokens generalizing p with
  | nil =>
    cases h
    exact ⟨hq, rfl⟩
  | cons token tokens ih =>
    rw [List.foldlM_cons] at h
    cases hnext : p.read token with
    | error fault =>
      rw [hnext] at h
      cases h
    | ok next =>
      rw [hnext] at h
      have hstep := step_of_read hnext
      obtain ⟨hnone, hrest⟩ := ih h
      have hread := read_of_step (hstep.behind parent origin hnone)
      refine ⟨hstep.parent_eq_none hnone, ?_⟩
      rw [List.map_cons, List.foldlM_cons, hread]
      exact hrest

end Progress

/-- What is read behind a parent tag. -/
theorem ofSource_behind (base : Draft.BaseName) {source : Text} {t : Template}
    (h : ofSource source = .ok t) (hnone : t.parent = none) :
    ofSource ((Draft.parentTag base).raw ++ source) =
      .ok ⟨some ⟨Position.start, base.text, (Draft.parentTag base).raw⟩,
        t.body.map (Node.shift (Position.start.advance (Draft.parentTag base).raw))⟩ := by
  let parent : Parent := ⟨Position.start, base.text, (Draft.parentTag base).raw⟩
  let origin := Position.start.advance (Draft.parentTag base).raw
  have hpieces : Piece.ofText ((Draft.parentTag base).raw ++ source) =
      Draft.parentTag base :: Piece.ofText source :=
    Piece.ofText_eq_of_tiles (.directive (Draft.proper_parentTag base source) (tiles_ofText source))
  have htokens : Token.ofSource ((Draft.parentTag base).raw ++ source) =
      Token.ofPiece Position.start (Draft.parentTag base) ::
        (Token.ofSource source).map (Token.shift origin) := by
    rw [Token.ofSource_shift, Token.ofSource, hpieces]
    rfl
  have hfirst : Progress.start.read (Token.ofPiece Position.start (Draft.parentTag base)) =
      .ok (Progress.start.behind parent origin) :=
    Progress.read_of_step (.parent rfl rfl rfl)
  rw [ofSource, ofTokens] at h
  cases hread : (Token.ofSource source).foldlM Progress.read Progress.start with
  | error fault =>
    rw [hread] at h
    cases h
  | ok q =>
    rw [hread] at h
    replace h : q.finish = .ok t := h
    rw [Progress.finish] at h
    split at h
    · rename_i htags
      cases h
      obtain ⟨-, hbehind⟩ := Progress.foldlM_read_behind parent origin hread hnone
      have hempty : (q.behind parent origin).openTags = [] := by simp [Progress.behind, htags]
      have hfinish : (q.behind parent origin).finish =
          .ok ⟨some parent, (q.nodes.map (Node.shift origin)).reverse⟩ := by
        rw [Progress.finish, hempty]
        rfl
      rw [ofSource, ofTokens, htokens, List.foldlM_cons, hfirst]
      show ((Token.ofSource source).map (Token.shift origin)).foldlM Progress.read
        (Progress.start.behind parent origin) >>= Progress.finish = _
      rw [hbehind, List.map_reverse]
      exact hfinish
    · cases h

end Template

end Stencil
