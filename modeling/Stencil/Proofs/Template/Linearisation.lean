import Stencil.Proofs.Directive.Standing
import Stencil.Proofs.Template.Entries
import Stencil.Proofs.Template.Steps
import Stencil.Proofs.Token.Tiling

/-! A template that was read is written out as its tokens, so parsing loses nothing, adds nothing
and moves nothing. Each step of parsing keeps that what has been read is written out as the tokens
it was read from, the tags that are still open being written out where they were opened. -/
namespace Stencil

namespace Token

/-- What later phases rely on: directives have a raw text, and slots no empty attribute. -/
structure Written (t : Token) : Prop where
  raw_ne_nil : ∀ d, t.kind = .directive d → t.raw ≠ []
  attr_ne : ∀ reference, t.kind = .directive (.slot reference) → reference.attr ≠ some []

theorem written_of_mem_ofSource {source : Text} {t : Token} (h : t ∈ ofSource source) :
    t.Written where
  raw_ne_nil d hkind := by
    obtain ⟨ds, rest, hread⟩ := exists_reading_of_mem_ofSource h hkind
    exact Directive.raw_ne_nil hread
  attr_ne reference hkind := by
    obtain ⟨ds, rest, hread⟩ := exists_reading_of_mem_ofSource h hkind
    exact (Directive.stands_of_read? hread).attr_ne

end Token

namespace Template

/-- The entry of an opening tag. -/
def OpenTag.entry (tag : OpenTag) : Entry :=
  match tag.opening with
  | .block name => .openBlock tag.token.position name
  | .loop item collection => .openLoop tag.token.position item collection tag.token.raw

/-- The entry of a closing tag. -/
def Opening.closeEntry : Opening → Entry
  | .block _ => .closeBlock
  | .loop _ _ => .closeLoop

/-- Whether a node may stand in what is opened. -/
def Opening.Holds : Opening → Node → Prop
  | .block _, node => node.FitsBlock
  | .loop _ _, node => node.IsLeaf

/-- Whether a node may stand directly within the open tags. -/
def Fits : List OpenTag → Node → Prop
  | [], node => node.FitsTop
  | tag :: _, node => tag.opening.Holds node

/-- All nodes read so far stand where they may, and so do the open tags. -/
def Shaped : List OpenTag → List Node → Prop
  | [], nodes => ∀ node ∈ nodes, Fits [] node
  | tag :: outer, nodes => (∀ node ∈ nodes, Fits (tag :: outer) node) ∧ Admits outer tag.opening ∧
      tag.token.raw ≠ [] ∧ Shaped outer tag.before

theorem fits_of_isLeaf {node : Node} (h : node.IsLeaf) : ∀ tags, Fits tags node
  | [] => h.fitsBlock.fitsTop
  | tag :: _ => by
    rw [Fits]
    cases tag.opening with
    | block name => exact h.fitsBlock
    | loop item collection => exact h

theorem Shaped.push {tags : List OpenTag} {nodes : List Node} {node : Node}
    (h : Shaped tags nodes) (hnode : Fits tags node) : Shaped tags (node :: nodes) := by
  cases tags with
  | nil => exact List.forall_mem_cons.mpr ⟨hnode, h⟩
  | cons tag outer => exact ⟨List.forall_mem_cons.mpr ⟨hnode, h.1⟩, h.2⟩

/-- What a closed tag makes may stand where the tag was admitted. -/
theorem Shaped.close {tag : OpenTag} {outer : List OpenTag} {nodes : List Node}
    (h : Shaped (tag :: outer) nodes) : Shaped outer (tag.close nodes.reverse :: tag.before) := by
  obtain ⟨hnodes, hadmits, hraw, houter⟩ := h
  refine houter.push ?_
  rw [OpenTag.close]
  cases hopening : tag.opening with
  | block name =>
    rw [hopening] at hadmits
    have hempty : outer = [] := hadmits
    rw [hempty]
    intro node hnode
    have hholds := hnodes node (List.mem_reverse.mp hnode)
    rwa [Fits, hopening] at hholds
  | loop item collection =>
    have hbody : ∀ node ∈ nodes.reverse, node.IsLeaf := by
      intro node hnode
      have hholds := hnodes node (List.mem_reverse.mp hnode)
      rwa [Fits, hopening] at hholds
    rw [hopening] at hadmits
    cases outer with
    | nil => exact ⟨hraw, hbody⟩
    | cons tag' outer =>
      have hloop : tag'.isLoop = false := hadmits tag' List.mem_cons_self
      rw [OpenTag.isLoop] at hloop
      rw [Fits]
      cases hopening' : tag'.opening with
      | block name => exact ⟨hraw, hbody⟩
      | loop item collection =>
        rw [hopening'] at hloop
        cases hloop

/-- The entries of all that was read when some tags are open, the innermost first. -/
def entriesUnder (parent : Option Parent) : List OpenTag → List Node → List Entry
  | [], nodes => entriesOfTop parent nodes.reverse
  | tag :: outer, nodes =>
    entriesUnder parent outer tag.before ++ tag.entry :: Node.entriesOf nodes.reverse

theorem entriesUnder_push {parent : Option Parent} {tags : List OpenTag} {node : Node}
    (h : ∀ q ∈ parent, q.position < node.position) (nodes : List Node) :
    entriesUnder parent tags (node :: nodes) =
      entriesUnder parent tags nodes ++ node.entries := by
  cases tags with
  | nil =>
    rw [entriesUnder, entriesUnder, List.reverse_cons]
    cases parent with
    | none => rw [entriesOfTop, entriesOfTop, Node.entriesOf_append, Node.entriesOf_singleton]
    | some q => exact Node.entriesWith_append (h q rfl) nodes.reverse
  | cons tag outer =>
    rw [entriesUnder, entriesUnder, List.reverse_cons, Node.entriesOf_append,
      Node.entriesOf_singleton, List.append_assoc, List.cons_append]

theorem entries_close (tag : OpenTag) (body : List Node) : (tag.close body).entries =
    tag.entry :: (Node.entriesOf body ++ [tag.opening.closeEntry]) := by
  rw [OpenTag.close, OpenTag.entry]
  cases tag.opening <;> rfl

theorem position_close (tag : OpenTag) (body : List Node) :
    (tag.close body).position = tag.token.position := by
  rw [OpenTag.close]
  cases tag.opening <;> rfl

theorem entriesUnder_close {parent : Option Parent} {tag : OpenTag} {outer : List OpenTag}
    (h : ∀ q ∈ parent, q.position < tag.token.position) (nodes : List Node) :
    entriesUnder parent outer (tag.close nodes.reverse :: tag.before) =
      entriesUnder parent (tag :: outer) nodes ++ [tag.opening.closeEntry] := by
  rw [entriesUnder_push (by rwa [position_close]), entries_close, entriesUnder, List.append_assoc,
    List.cons_append]

/-! What each step of parsing keeps. -/

open Progress (Step)

/-- What has been read is written out as the tokens it was read from. -/
structure Faithful (p : Progress) (tokens : List Token) : Prop where
  depth : tokens.foldl Token.nesting 0 = p.openTags.length
  parent : p.parent = (Token.outerParent? tokens).bind Token.parent?
  entries : entriesUnder p.parent p.openTags p.nodes = Token.entries tokens
  behind : ∀ tag ∈ p.openTags, ∀ q ∈ p.parent, q.position < tag.token.position
  shaped : Shaped p.openTags p.nodes

namespace Faithful

variable {p q : Progress} {tokens : List Token} {token : Token}

theorem start : Faithful Progress.start [] where
  depth := rfl
  parent := rfl
  entries := rfl
  behind := by
    intro tag htag
    cases htag
  shaped := by
    intro node hnode
    cases hnode

/-- The parent tag that counts comes before all further tokens. -/
theorem position_lt (h : Faithful p tokens) (hlater : ∀ t ∈ tokens, t.position < token.position) :
    ∀ parent ∈ p.parent, parent.position < token.position := by
  intro parent hparent
  rw [h.parent, Option.mem_def, Option.bind_eq_some_iff] at hparent
  obtain ⟨t, ht, hparent⟩ := hparent
  have hposition : parent.position = t.position := by
    rw [Token.parent?] at hparent
    split at hparent <;> cases hparent
    rfl
  rw [hposition]
  exact hlater t (Token.mem_of_outerParent? ht)

theorem outerParent?_eq_none_iff (h : Faithful p tokens) :
    Token.outerParent? tokens = none ↔ p.parent = none := by
  rw [h.parent, Option.bind_eq_none_iff]
  constructor
  · intro hnone t ht
    rw [hnone] at ht
    cases ht
  · intro hnone
    refine Option.eq_none_iff_forall_ne_some.mpr fun t ht => ?_
    have hsome := Token.isSome_parent?_of_mem_outerParents (List.mem_of_head? ht)
    rw [hnone t ht] at hsome
    cases hsome

/-- A token that does not become the parent adds its entry, and the rest can be checked alone. -/
theorem of_entry (h : Faithful p tokens) (hlater : ∀ t ∈ tokens, t.position < token.position)
    (hcounts : p.openTags = [] → p.parent = none → token.parent? = none)
    (hparent : q.parent = p.parent) (hdepth : token.nesting p.openTags.length = q.openTags.length)
    (hentries : entriesUnder q.parent q.openTags q.nodes =
      entriesUnder p.parent p.openTags p.nodes ++ (token.shown? false).toList)
    (hbehind : ∀ tag ∈ q.openTags, ∀ parent ∈ p.parent, parent.position < tag.token.position)
    (hshaped : Shaped q.openTags q.nodes) : Faithful q (tokens ++ [token]) := by
  have hcounting : Token.outerParent? (tokens ++ [token]) = Token.outerParent? tokens := by
    rw [Token.outerParent?_snoc, h.depth]
    cases hfound : Token.outerParent? tokens with
    | some t => rfl
    | none =>
      refine if_neg fun ⟨htags, hsome⟩ => ?_
      rw [hcounts (List.length_eq_zero_iff.mp htags) (h.outerParent?_eq_none_iff.mp hfound)]
        at hsome
      cases hsome
  have hother : Token.outerParent? tokens ≠ some token := fun heq =>
    Position.lt_irrefl _ (hlater token (Token.mem_of_outerParent? heq))
  refine ⟨?_, ?_, ?_, hparent ▸ hbehind, hshaped⟩
  · rw [List.foldl_append, h.depth]
    exact hdepth
  · rw [hparent, hcounting, h.parent]
  · rw [hentries, h.entries, Token.entries, Token.entries, hcounting, Token.entriesCounting_snoc,
      decide_eq_false hother]

theorem push (h : Faithful p tokens) (hlater : ∀ t ∈ tokens, t.position < token.position)
    {node : Node} {e : Entry} (hcounts : p.openTags = [] → p.parent = none → token.parent? = none)
    (hdepth : token.nesting p.openTags.length = p.openTags.length)
    (hentry : token.shown? false = some e) (hentries : node.entries = [e])
    (hposition : node.position = token.position) (hleaf : node.IsLeaf) :
    Faithful (p.push node) (tokens ++ [token]) := by
  refine h.of_entry hlater hcounts rfl hdepth ?_ h.behind
    (h.shaped.push (fits_of_isLeaf hleaf p.openTags))
  rw [hentry, Option.toList_some, ← hentries]
  refine entriesUnder_push ?_ p.nodes
  rw [hposition]
  exact h.position_lt hlater

/-- The first parent tag outside blocks and loops comes behind all that was read before it. -/
theorem count (h : Faithful p tokens) (hlater : ∀ t ∈ tokens, t.position < token.position)
    {base : Text} (hkind : token.kind = .directive (.parent base)) (hparent : p.parent = none)
    (htags : p.openTags = []) : Faithful
      { p with parent := some ⟨token.position, base, token.raw⟩ } (tokens ++ [token]) := by
  have hnone := h.outerParent?_eq_none_iff.mpr hparent
  have hself : token.parent? = some ⟨token.position, base, token.raw⟩ := by
    rw [Token.parent?, hkind]
  have hcounting : Token.outerParent? (tokens ++ [token]) = some token := by
    rw [Token.outerParent?_snoc, hnone, h.depth, htags, hself]
    rfl
  have hmem : token ∉ tokens := fun hmem => Position.lt_irrefl _ (hlater token hmem)
  have hentries := h.entries
  rw [hparent, htags, Token.entries, hnone] at hentries
  refine ⟨?_, ?_, ?_, ?_, h.shaped⟩
  · rw [List.foldl_append, h.depth, List.foldl_cons, List.foldl_nil, Token.nesting, hkind]
  · rw [hcounting, Option.bind_some, hself]
  · have hbefore : ∀ node ∈ p.nodes.reverse, ¬ token.position < node.position := by
      intro node hnode
      obtain ⟨e, he, hposition⟩ := node.exists_entry
      have hread : e ∈ Token.entriesCounting none tokens :=
        hentries ▸ Node.mem_entriesOf hnode he
      obtain ⟨t, ht, heq⟩ := Token.exists_position_of_mem_entries hread hposition
      rw [← heq]
      exact Position.lt_asymm (hlater t ht)
    have hlast : token.shown? true = some (.parent token.position base token.raw) := by
      rw [Token.shown?, hkind]
      rfl
    rw [htags, Token.entries, hcounting, Token.entriesCounting_snoc,
      Token.entriesCounting_eq_none hmem, ← hentries, decide_eq_true rfl, hlast]
    exact Node.entriesWith_of_forall hbefore
  · rw [htags]
    intro tag htag
    cases htag

/-- An open tag keeps the nodes before it and begins a body. -/
theorem descend (h : Faithful p tokens) (hlater : ∀ t ∈ tokens, t.position < token.position)
    {opening : Opening} (hkind : token.kind = .directive opening.opener)
    (hadmits : Admits p.openTags opening) (hraw : token.raw ≠ []) :
    Faithful (p.descend token opening) (tokens ++ [token]) := by
  have hshaped : Shaped (p.descend token opening).openTags [] :=
    ⟨nofun, hadmits, hraw, h.shaped⟩
  have hbehind : ∀ tag ∈ (p.descend token opening).openTags, ∀ parent ∈ p.parent,
      parent.position < tag.token.position := by
    intro tag htag
    obtain rfl | htag := List.mem_cons.mp htag
    · exact h.position_lt hlater
    · exact h.behind tag htag
  cases opening with
  | block name =>
    refine h.of_entry hlater (fun _ _ => ?_) rfl ?_ ?_ hbehind hshaped
    · rw [Token.parent?, hkind]
      rfl
    · rw [Token.nesting, hkind]
      rfl
    · rw [Token.shown?, hkind]
      rfl
  | loop item collection =>
    refine h.of_entry hlater (fun _ _ => ?_) rfl ?_ ?_ hbehind hshaped
    · rw [Token.parent?, hkind]
      rfl
    · rw [Token.nesting, hkind]
      rfl
    · rw [Token.shown?, hkind]
      rfl

/-- A closing tag closes the innermost open tag around the nodes read since. -/
theorem ascend (h : Faithful p tokens) (hlater : ∀ t ∈ tokens, t.position < token.position)
    {tag : OpenTag} {outer : List OpenTag} (hkind : token.kind = .directive tag.opening.closer)
    (htags : p.openTags = tag :: outer) :
    Faithful (p.ascend tag outer) (tokens ++ [token]) := by
  have hbehind := h.behind
  have hshaped := h.shaped
  rw [htags] at hbehind hshaped
  have hentries : entriesUnder p.parent outer (tag.close p.nodes.reverse :: tag.before) =
      entriesUnder p.parent p.openTags p.nodes ++ [tag.opening.closeEntry] := by
    rw [htags]
    exact entriesUnder_close (hbehind tag List.mem_cons_self) p.nodes
  refine h.of_entry hlater (fun hempty => ?_) rfl ?_ (hentries.trans ?_)
    (fun t ht => hbehind t (List.mem_cons_of_mem tag ht)) hshaped.close
  · rw [htags] at hempty
    cases hempty
  · rw [htags, Token.nesting, hkind]
    cases tag.opening <;> rfl
  · rw [Token.shown?, hkind]
    cases tag.opening <;> rfl

theorem step (h : Faithful p tokens) (hlater : ∀ t ∈ tokens, t.position < token.position)
    (hwritten : token.Written) (hstep : p.Step token q) : Faithful q (tokens ++ [token]) := by
  cases hstep with
  | text hkind =>
    refine h.push hlater (fun _ _ => ?_) ?_ ?_ rfl rfl trivial
    · rw [Token.parent?, hkind]
    · rw [Token.nesting, hkind]
    · rw [Token.shown?, hkind]
  | slot hkind =>
    refine h.push hlater (fun _ _ => ?_) ?_ ?_ rfl rfl (hwritten.attr_ne _ hkind)
    · rw [Token.parent?, hkind]
    · rw [Token.nesting, hkind]
    · rw [Token.shown?, hkind]
  | parent hkind hparent houter => exact h.count hlater hkind hparent houter
  | laterParent hkind hcounted =>
    refine h.push hlater (fun htags hparent => absurd htags (hcounted hparent)) ?_ ?_ rfl rfl
      trivial
    · rw [Token.nesting, hkind]
    · rw [Token.shown?, hkind]
      rfl
  | descend hkind hadmits =>
    exact h.descend hlater hkind hadmits (hwritten.raw_ne_nil _ hkind)
  | ascend hkind htags => exact h.ascend hlater hkind htags
  | finish hkind =>
    refine h.of_entry hlater (fun _ _ => ?_) rfl ?_ ?_ h.behind h.shaped
    · rw [Token.parent?, hkind]
    · rw [Token.nesting, hkind]
    · rw [Token.shown?, hkind, Option.toList_none, List.append_nil]

end Faithful

/-- A template that was read comes from tokens that were all read, with no tag left open. -/
theorem exists_progress_of_ofSource {source : Text} {t : Template} (h : ofSource source = .ok t) :
    ∃ p, (Token.ofSource source).foldlM Progress.read Progress.start = .ok p ∧
      p.openTags = [] ∧ t = ⟨p.parent, p.nodes.reverse⟩ := by
  rw [ofSource, ofTokens] at h
  cases hread : (Token.ofSource source).foldlM Progress.read Progress.start with
  | error fault =>
    rw [hread] at h
    cases h
  | ok p =>
    rw [hread] at h
    replace h : p.finish = .ok t := h
    rw [Progress.finish] at h
    cases htags : p.openTags with
    | nil =>
      rw [htags] at h
      cases h
      exact ⟨p, rfl, htags, rfl⟩
    | cons tag outer =>
      rw [htags] at h
      cases h

theorem faithful_of_ofSource {source : Text} {p : Progress}
    (h : (Token.ofSource source).foldlM Progress.read Progress.start = .ok p) :
    Faithful p (Token.ofSource source) := by
  refine Progress.foldlM_read_induction Faithful.start ?_ h
  intro p before token after q htokens hp hstep
  have hordered := Token.pairwise_ofSource source
  rw [htokens] at hordered
  have hmem : token ∈ Token.ofSource source :=
    htokens ▸ List.mem_append_right before List.mem_cons_self
  exact hp.step (fun t ht => (List.pairwise_append.mp hordered).2.2 t ht token List.mem_cons_self)
    (Token.written_of_mem_ofSource hmem) hstep

/-- A template that was read holds no blocks within blocks or loops and no loops within loops. -/
theorem fitsTop_of_mem_body {source : Text} {t : Template} (h : ofSource source = .ok t) :
    ∀ node ∈ t.body, node.FitsTop := by
  obtain ⟨p, hread, htags, rfl⟩ := exists_progress_of_ofSource h
  have hshaped := (faithful_of_ofSource hread).shaped
  rw [htags] at hshaped
  exact fun node hnode => hshaped node (List.mem_reverse.mp hnode)

/-- Parsing loses nothing, adds nothing and moves nothing. -/
theorem linearise_of_ofSource {source : Text} {t : Template} (h : ofSource source = .ok t) :
    t.linearise = Token.entries (Token.ofSource source) ∧
    t.parent = (Token.outerParent? (Token.ofSource source)).bind Token.parent? ∧
    ∀ node ∈ t.body, node.FitsTop := by
  refine ⟨?_, ?_, fitsTop_of_mem_body h⟩
  all_goals obtain ⟨p, hread, htags, rfl⟩ := exists_progress_of_ofSource h
  · have hentries := (faithful_of_ofSource hread).entries
    rw [htags] at hentries
    exact hentries
  · exact (faithful_of_ofSource hread).parent

/-- A source with a block and two parent tags behind it. -/
def twoParents : Text :=
  "\x7b% block x %\x7da\x7b% endblock %\x7d\x7b% extends \"b\" %\x7d\n\x7b% extends \"c\" %\x7d"

/-- The first of two parent tags is written out where it stands, and the other as text. -/
theorem linearise_of_twoParents : ∃ t, ofSource twoParents = .ok t ∧
    t.linearise = [.openBlock ⟨1, 0⟩ "x", .text ⟨1, 13⟩ "a", .closeBlock,
      .parent ⟨1, 28⟩ "b" "\x7b% extends \"b\" %\x7d", .text ⟨1, 45⟩ "\n",
      .text ⟨2, 0⟩ "\x7b% extends \"c\" %\x7d"] ∧
    t.parent = some ⟨⟨1, 28⟩, "b", "\x7b% extends \"b\" %\x7d"⟩ ∧
    ∀ node ∈ t.body, node.FitsTop := by
  have hok : (ofSource twoParents).isOk = true := by decide +kernel
  cases ht : ofSource twoParents with
  | error fault =>
    rw [ht] at hok
    cases hok
  | ok t =>
    obtain ⟨hlinearise, hparent, hfits⟩ := linearise_of_ofSource ht
    refine ⟨t, rfl, hlinearise.trans ?_, hparent.trans ?_, hfits⟩
    · decide +kernel
    · decide +kernel

end Template

end Stencil
