import Stencil.Proofs.Template.Steps
import Stencil.Proofs.Token.Tiling
import Stencil.Engine
import Mathlib.Computability.Language

/-! The grammar of templates over the kinds of tokens, and what parsing has to do with it. A source
is a template exactly if the kinds of its tokens are in the grammar. If they are not, then either
some token is the first one that nothing in the grammar continues with, and it is blamed, or the
tokens could still go on when the source ends, and the innermost tag that is open then is blamed. -/
namespace Stencil.Template

open Computability

namespace Grammar

def text : Language Token.Kind := {[.text]}

def slot : Language Token.Kind := {kinds | ∃ reference, kinds = [.directive (.slot reference)]}

def parent : Language Token.Kind := {kinds | ∃ base, kinds = [.directive (.parent base)]}

def openBlock : Language Token.Kind := {kinds | ∃ name, kinds = [.directive (.openBlock name)]}

def closeBlock : Language Token.Kind := {[.directive .closeBlock]}

def openLoop : Language Token.Kind :=
  {kinds | ∃ item collection, kinds = [.directive (.openLoop item collection)]}

def closeLoop : Language Token.Kind := {[.directive .closeLoop]}

def endOfSource : Language Token.Kind := {[.endOfSource]}

def plain : Language Token.Kind := text + slot + parent

def loop : Language Token.Kind := openLoop * plain∗ * closeLoop

def block : Language Token.Kind := openBlock * (plain + loop)∗ * closeBlock

def item : Language Token.Kind := plain + block + loop

def template : Language Token.Kind := item∗ * endOfSource

/-- What may stand between an opening tag and its closing tag, any number of times. -/
def contents : Opening → Language Token.Kind
  | .block _ => plain + loop
  | .loop _ _ => plain

/-- What an opening tag makes together with its contents and its closing tag. -/
def whole : Opening → Language Token.Kind
  | .block _ => block
  | .loop _ _ => loop

/-- What may come next within the open tags, any number of times. -/
def inner : List OpenTag → Language Token.Kind
  | [] => item
  | tag :: _ => contents tag.opening

theorem mem_kstar_snoc {l : Language Token.Kind} {kinds kinds' : List Token.Kind} (h : kinds ∈ l∗)
    (h' : kinds' ∈ l) : kinds ++ kinds' ∈ l∗ :=
  (kstar_mul_le_kstar : l∗ * l ≤ l∗) (Language.append_mem_mul h h')

theorem mem_inner_of_mem_plain {kinds : List Token.Kind} (h : kinds ∈ plain) :
    ∀ tags, kinds ∈ inner tags
  | [] => .inl (.inl h)
  | tag :: _ => by
    rw [inner]
    cases tag.opening with
    | block name => exact .inl h
    | loop item collection => exact h

theorem mem_inner_of_mem_whole {tags : List OpenTag} {opening : Opening}
    (hadmits : Admits tags opening) {kinds : List Token.Kind} (h : kinds ∈ whole opening) :
    kinds ∈ inner tags := by
  cases opening with
  | block name =>
    have htags : tags = [] := hadmits
    rw [htags]
    exact .inl (.inr h)
  | loop item collection =>
    cases tags with
    | nil => exact .inr h
    | cons tag outer =>
      have hloop : tag.isLoop = false := hadmits tag List.mem_cons_self
      rw [OpenTag.isLoop] at hloop
      rw [inner]
      cases hopening : tag.opening with
      | block name => exact .inr h
      | loop item collection =>
        rw [hopening] at hloop
        cases hloop

theorem mem_whole {opening : Opening} {kinds : List Token.Kind}
    (h : kinds ∈ (contents opening)∗) :
    .directive opening.opener :: (kinds ++ [.directive opening.closer]) ∈ whole opening := by
  cases opening with
  | block name =>
    have hopen : [.directive (.openBlock name)] ∈ openBlock := ⟨name, rfl⟩
    exact Language.append_mem_mul (Language.append_mem_mul hopen h) rfl
  | loop item collection =>
    have hopen : [.directive (.openLoop item collection)] ∈ openLoop := ⟨item, collection, rfl⟩
    exact Language.append_mem_mul (Language.append_mem_mul hopen h) rfl

theorem mem_item_of_mem_contents {opening : Opening} {kinds : List Token.Kind}
    (h : kinds ∈ contents opening) : kinds ∈ item := by
  cases opening with
  | block name =>
    obtain h | h := h
    · exact .inl (.inl h)
    · exact .inr h
  | loop item collection => exact .inl (.inl h)

end Grammar

/-- The tokens can be continued to some that are in the grammar. -/
def Viable (tokens : List Token) : Prop :=
  ∃ more, tokens.map Token.kind ++ more ∈ Grammar.template

/-- The fault blames the first token that does not fit what comes before it, or the innermost open
tag at the end of the source, behind which there are whole items only. -/
inductive Blames : List Token → SyntaxFault → Prop
  | misfit {before after : List Token} {token : Token} {fault : SyntaxFault}
      (hkind : token.kind ≠ .endOfSource) (hbefore : Viable before)
      (hmisfit : ¬ Viable (before ++ [token])) (hfault : fault.token = token) :
      Blames (before ++ token :: after) fault
  | unclosed {before inside : List Token} {opener last : Token} {opening : Opening}
      (hlast : last.kind = .endOfSource) (hviable : Viable (before ++ opener :: inside))
      (hopener : opener.kind = .directive opening.opener)
      (hinside : inside.map Token.kind ∈ Grammar.item∗) :
      Blames (before ++ opener :: inside ++ [last]) (.unclosed opener)

theorem Viable.of_append {tokens tokens' : List Token} (h : Viable (tokens ++ tokens')) :
    Viable tokens := by
  obtain ⟨more, hmore⟩ := h
  rw [List.map_append, List.append_assoc] at hmore
  exact ⟨_, hmore⟩

/-! What has been read when some tags are open. -/

/-- The open tags, the innermost first, stand among the tokens read so far, with whole items before
them, between them and after them. -/
inductive Underway : List OpenTag → List Token → Prop
  | outside {tokens : List Token} (h : tokens.map Token.kind ∈ Grammar.item∗) : Underway [] tokens
  | within {tag : OpenTag} {outer : List OpenTag} {before inside : List Token}
      (hbefore : Underway outer before) (hadmits : Admits outer tag.opening)
      (hkind : tag.token.kind = .directive tag.opening.opener)
      (hinside : inside.map Token.kind ∈ (Grammar.contents tag.opening)∗) :
      Underway (tag :: outer) (before ++ tag.token :: inside)

namespace Underway

theorem append {tags : List OpenTag} {tokens tokens' : List Token} (h : Underway tags tokens)
    (h' : tokens'.map Token.kind ∈ Grammar.inner tags) : Underway tags (tokens ++ tokens') := by
  cases h with
  | outside h =>
    refine .outside ?_
    rw [List.map_append]
    exact Grammar.mem_kstar_snoc h h'
  | within hbefore hadmits hkind hinside =>
    rw [List.append_assoc, List.cons_append]
    refine .within hbefore hadmits hkind ?_
    rw [List.map_append]
    exact Grammar.mem_kstar_snoc hinside h'

/-- The closing tag of the innermost open tag makes one item of what stands between. -/
theorem close {tag : OpenTag} {outer : List OpenTag} {tokens : List Token} {token : Token}
    (h : Underway (tag :: outer) tokens) (hkind : token.kind = .directive tag.opening.closer) :
    Underway outer (tokens ++ [token]) := by
  cases h with
  | within hbefore hadmits hopener hinside =>
    rw [List.append_assoc, List.cons_append]
    refine hbefore.append (Grammar.mem_inner_of_mem_whole hadmits ?_)
    rw [List.map_cons, List.map_append, List.map_singleton, hopener, hkind]
    exact Grammar.mem_whole hinside

theorem step {p q : Progress} {tokens : List Token} {token : Token}
    (h : Underway p.openTags tokens) (hkind : token.kind ≠ .endOfSource) (hstep : p.Step token q) :
    Underway q.openTags (tokens ++ [token]) := by
  have hplain (hmem : [token.kind] ∈ Grammar.plain) : Underway p.openTags (tokens ++ [token]) :=
    h.append (Grammar.mem_inner_of_mem_plain hmem p.openTags)
  cases hstep with
  | text hkind => exact hplain (.inl (.inl (congrArg (fun k => [k]) hkind)))
  | slot hkind => exact hplain (.inl (.inr ⟨_, congrArg (fun k => [k]) hkind⟩))
  | parent hkind _ _ => exact hplain (.inr ⟨_, congrArg (fun k => [k]) hkind⟩)
  | laterParent hkind _ => exact hplain (.inr ⟨_, congrArg (fun k => [k]) hkind⟩)
  | @descend opening hkind hadmits =>
    have hadmits' : Admits p.openTags (OpenTag.mk token opening p.nodes).opening := hadmits
    exact .within h hadmits' hkind (Language.nil_mem_kstar _)
  | ascend hkind htags =>
    rw [htags] at h
    exact h.close hkind
  | finish heof => exact absurd heof hkind

/-- Whatever is open can be closed. -/
theorem viable {tags : List OpenTag} {tokens : List Token} (h : Underway tags tokens) :
    Viable tokens := by
  induction tags generalizing tokens with
  | nil =>
    cases h with
    | outside h => exact ⟨[.endOfSource], Language.append_mem_mul h rfl⟩
  | cons tag outer ih =>
    let closing : Token := ⟨.directive tag.opening.closer, Position.start, []⟩
    have hclosed : Viable (tokens ++ [closing]) := ih (h.close rfl)
    exact hclosed.of_append

end Underway

theorem underway_of_foldlM_read {tokens : List Token}
    (hkinds : ∀ t ∈ tokens, t.kind ≠ .endOfSource) {p : Progress}
    (h : tokens.foldlM Progress.read Progress.start = .ok p) : Underway p.openTags tokens := by
  refine Progress.foldlM_read_induction
    (motive := fun p tokens => Underway p.openTags tokens)
    (.outside (Language.nil_mem_kstar _)) ?_ h
  intro p before token after q htokens hp hstep
  exact hp.step (hkinds token (by rw [htokens]; simp)) hstep

/-! What the grammar admits can be read. -/

/-- Tokens with kinds from the language can be read within the open tags and leave these open. -/
def Keeps (tags : List OpenTag) (l : Language Token.Kind) : Prop :=
  ∀ (p : Progress) (tokens : List Token), p.openTags = tags → tokens.map Token.kind ∈ l →
    ∃ q, tokens.foldlM Progress.read p = .ok q ∧ q.openTags = tags

theorem foldlM_read_append {tokens tokens' : List Token} {p q : Progress}
    (h : tokens.foldlM Progress.read p = .ok q) :
    (tokens ++ tokens').foldlM Progress.read p = tokens'.foldlM Progress.read q := by
  rw [List.foldlM_append, h]
  rfl

theorem foldlM_read_of_step {token : Token} {p q : Progress} (h : p.Step token q) :
    [token].foldlM Progress.read p = .ok q := by
  rw [List.foldlM_cons, Progress.read_of_step h]
  rfl

namespace Keeps

variable {tags : List OpenTag} {l l' : Language Token.Kind}

theorem add (h : Keeps tags l) (h' : Keeps tags l') : Keeps tags (l + l') := by
  rintro p tokens htags (hmem | hmem)
  · exact h p tokens htags hmem
  · exact h' p tokens htags hmem

theorem kstar (h : Keeps tags l) : Keeps tags l∗ := by
  rintro p tokens htags ⟨parts, htokens, hparts⟩
  induction parts generalizing p tokens with
  | nil =>
    obtain rfl := List.map_eq_nil_iff.mp htokens
    exact ⟨p, rfl, htags⟩
  | cons part parts ih =>
    obtain ⟨first, rest, rfl, rfl, hrest⟩ := List.map_eq_append_iff.mp htokens
    obtain ⟨next, hnext, hnextTags⟩ := h p first htags (hparts _ List.mem_cons_self)
    obtain ⟨q, hq, hqTags⟩ := ih next rest hnextTags hrest fun part hpart =>
      hparts part (List.mem_cons_of_mem _ hpart)
    exact ⟨q, (foldlM_read_append hnext).trans hq, hqTags⟩

/-- A single token that adds a node. -/
theorem push {p : Progress} {token : Token} {node : Node} (htags : p.openTags = tags)
    (h : p.Step token (p.push node)) :
    ∃ q, [token].foldlM Progress.read p = .ok q ∧ q.openTags = tags :=
  ⟨p.push node, foldlM_read_of_step h, htags⟩

theorem plain (tags : List OpenTag) : Keeps tags Grammar.plain := by
  rintro p tokens htags ((htext | hslot) | hparent)
  · obtain ⟨token, rfl, hkind⟩ := List.map_eq_singleton_iff.mp htext
    exact push htags (.text hkind)
  · obtain ⟨reference, hslot⟩ := hslot
    obtain ⟨token, rfl, hkind⟩ := List.map_eq_singleton_iff.mp hslot
    exact push htags (.slot hkind)
  · obtain ⟨base, hparent⟩ := hparent
    obtain ⟨token, rfl, hkind⟩ := List.map_eq_singleton_iff.mp hparent
    by_cases hfirst : p.parent = none ∧ p.openTags = []
    · exact ⟨_, foldlM_read_of_step (.parent hkind hfirst.1 hfirst.2), htags⟩
    · exact push htags (.laterParent hkind (not_and.mp hfirst))

/-- An opening tag that is admitted, something to read behind it, and the closing tag. -/
theorem enclosed (opening : Opening) {p : Progress} {tokens : List Token}
    {kinds : List Token.Kind} (htags : p.openTags = tags) (hadmits : Admits tags opening)
    (hinside : ∀ tag : OpenTag, tag.opening = opening → Keeps (tag :: tags) l) (hkinds : kinds ∈ l)
    (htokens : tokens.map Token.kind =
      [.directive opening.opener] ++ kinds ++ [.directive opening.closer]) :
    ∃ q, tokens.foldlM Progress.read p = .ok q ∧ q.openTags = tags := by
  obtain ⟨before, last, rfl, hbefore, hlast⟩ := List.map_eq_append_iff.mp htokens
  obtain ⟨first, inside, rfl, hfirst, rfl⟩ := List.map_eq_append_iff.mp hbefore
  obtain ⟨opener, rfl, hopener⟩ := List.map_eq_singleton_iff.mp hfirst
  obtain ⟨closer, rfl, hcloser⟩ := List.map_eq_singleton_iff.mp hlast
  have hopen : [opener].foldlM Progress.read p = .ok (p.descend opener opening) :=
    foldlM_read_of_step (.descend hopener (htags ▸ hadmits))
  have hopenTags : (p.descend opener opening).openTags = ⟨opener, opening, p.nodes⟩ :: tags :=
    congrArg _ htags
  obtain ⟨q, hread, hqTags⟩ := hinside _ rfl _ inside hopenTags hkinds
  refine ⟨q.ascend ⟨opener, opening, p.nodes⟩ tags, ?_, rfl⟩
  rw [foldlM_read_append ((foldlM_read_append hopen).trans hread)]
  exact foldlM_read_of_step (.ascend hcloser hqTags)

theorem loop (h : ∀ tag ∈ tags, tag.isLoop = false) : Keeps tags Grammar.loop := by
  rintro p tokens htags ⟨_, ⟨_, ⟨item, collection, rfl⟩, kinds, hkinds, rfl⟩, _, rfl, hmap⟩
  exact enclosed (.loop item collection) htags h
    (fun tag _ => (plain (tag :: tags)).kstar) hkinds hmap.symm

theorem block : Keeps [] Grammar.block := by
  rintro p tokens htags ⟨_, ⟨_, ⟨name, rfl⟩, kinds, hkinds, rfl⟩, _, rfl, hmap⟩
  refine enclosed (.block name) htags rfl (fun tag htag => ?_) hkinds hmap.symm
  refine ((plain [tag]).add (loop fun tag' htag' => ?_)).kstar
  obtain rfl := List.mem_singleton.mp htag'
  rw [OpenTag.isLoop, htag]

theorem items : Keeps [] Grammar.item∗ :=
  (((plain []).add block).add (loop (by simp))).kstar

end Keeps

/-! Parsing accepts the grammar and blames what leaves it. -/

/-- Tokens that can be continued in the grammar can be continued by tokens to whole items. -/
theorem Viable.exists_items {tokens : List Token} (h : Viable tokens)
    (hkinds : ∀ t ∈ tokens, t.kind ≠ .endOfSource) :
    ∃ more : List Token, (tokens ++ more).map Token.kind ∈ Grammar.item∗ := by
  obtain ⟨more, items, hitems, _, rfl, hmore⟩ := h
  obtain ⟨rest, rfl, -⟩ | ⟨rest, htokens, hend⟩ := List.append_eq_append_iff.mp hmore.symm
  · refine ⟨rest.map fun kind => ⟨kind, Position.start, []⟩, ?_⟩
    rw [List.map_append, List.map_map]
    exact (List.map_id rest).symm ▸ hitems
  · obtain ⟨rfl, -⟩ | ⟨rfl, -⟩ := List.append_eq_singleton_iff.mp hend.symm
    · rw [List.append_nil] at htokens
      exact ⟨[], by rwa [List.append_nil, htokens]⟩
    · have hend : Token.Kind.endOfSource ∈ tokens.map Token.kind := by
        rw [htokens]
        exact List.mem_concat_self
      obtain ⟨t, ht, hkind⟩ := List.mem_map.mp hend
      exact absurd hkind (hkinds t ht)

variable {tokens : List Token} {last : Token}

/-- The end of the source changes nothing; it is only found then whether all tags are closed. -/
theorem ofTokens_append_last (hlast : last.kind = .endOfSource) : ofTokens (tokens ++ [last]) =
    tokens.foldlM Progress.read Progress.start >>= Progress.finish := by
  rw [ofTokens, List.foldlM_append, bind_assoc]
  congr 1
  funext p
  rw [foldlM_read_of_step (.finish hlast)]
  rfl

theorem exists_ofTokens_iff (hlast : last.kind = .endOfSource)
    (hkinds : ∀ t ∈ tokens, t.kind ≠ .endOfSource) :
    (∃ t, ofTokens (tokens ++ [last]) = .ok t) ↔
      (tokens ++ [last]).map Token.kind ∈ Grammar.template := by
  rw [ofTokens_append_last hlast, List.map_append, List.map_singleton, hlast]
  constructor
  · rintro ⟨t, ht⟩
    cases hread : tokens.foldlM Progress.read Progress.start with
    | error fault =>
      rw [hread] at ht
      cases ht
    | ok p =>
      have hunderway := underway_of_foldlM_read hkinds hread
      rw [hread] at ht
      have hfinish : p.finish = .ok t := ht
      rw [Progress.finish] at hfinish
      split at hfinish
      · rename_i htags
        rw [htags] at hunderway
        cases hunderway with
        | outside hitems => exact Language.append_mem_mul hitems rfl
      · cases hfinish
  · rintro ⟨items, hitems, _, rfl, hmap⟩
    obtain rfl := List.append_cancel_right hmap
    obtain ⟨p, hread, htags⟩ := Keeps.items Progress.start tokens rfl hitems
    refine ⟨⟨p.parent, p.nodes.reverse⟩, ?_⟩
    rw [hread]
    show p.finish = _
    rw [Progress.finish, htags]

/-- What the grammar admits can be read, so a token that cannot be read does not fit. -/
theorem not_viable_of_read_eq_error {before : List Token} {token : Token} {p : Progress}
    {fault : SyntaxFault} (hkinds : ∀ t ∈ before ++ [token], t.kind ≠ .endOfSource)
    (hbefore : before.foldlM Progress.read Progress.start = .ok p)
    (hfail : p.read token = .error fault) : ¬ Viable (before ++ [token]) := by
  intro hviable
  obtain ⟨more, hitems⟩ := hviable.exists_items hkinds
  obtain ⟨q, hq, -⟩ := Keeps.items Progress.start _ rfl hitems
  rw [List.append_assoc, foldlM_read_append hbefore, List.singleton_append, List.foldlM_cons,
    hfail] at hq
  cases hq

/-- Behind the innermost open tag there are whole items only. -/
theorem blames_of_openTags {p : Progress} {tag : OpenTag} {outer : List OpenTag}
    (hlast : last.kind = .endOfSource) (hunderway : Underway p.openTags tokens)
    (htags : p.openTags = tag :: outer) : Blames (tokens ++ [last]) (.unclosed tag.token) := by
  have hviable := hunderway.viable
  rw [htags] at hunderway
  cases hunderway with
  | within hbefore hadmits hopener hinside =>
    have hle : Grammar.contents tag.opening ≤ Grammar.item :=
      fun _ h => Grammar.mem_item_of_mem_contents h
    exact .unclosed hlast hviable hopener (kstar_mono hle hinside)

theorem blames_of_ofTokens (hlast : last.kind = .endOfSource)
    (hkinds : ∀ t ∈ tokens, t.kind ≠ .endOfSource) {fault : SyntaxFault}
    (h : ofTokens (tokens ++ [last]) = .error fault) : Blames (tokens ++ [last]) fault := by
  rw [ofTokens_append_last hlast] at h
  cases hread : tokens.foldlM Progress.read Progress.start with
  | error fault' =>
    rw [hread] at h
    obtain rfl : fault' = fault := Except.error.inj h
    obtain ⟨before, token, after, p, rfl, hbefore, hfail⟩ :=
      Progress.exists_of_foldlM_read_eq_error hread
    have hkinds' : ∀ t ∈ before ++ [token], t.kind ≠ .endOfSource := by
      intro t ht
      refine hkinds t ?_
      rw [List.append_cons]
      exact List.mem_append_left after ht
    have hviable := (underway_of_foldlM_read
      (fun t ht => hkinds' t (List.mem_append_left [token] ht)) hbefore).viable
    rw [List.append_assoc, List.cons_append]
    exact .misfit (hkinds' token List.mem_concat_self) hviable
      (not_viable_of_read_eq_error hkinds' hbefore hfail) (Progress.token_of_read_eq_error hfail)
  | ok p =>
    have hunderway := underway_of_foldlM_read hkinds hread
    rw [hread] at h
    have hfinish : p.finish = .error fault := h
    rw [Progress.finish] at hfinish
    split at hfinish
    · cases hfinish
    · rename_i tag outer htags
      obtain rfl := Except.error.inj hfinish
      exact blames_of_openTags hlast hunderway htags

/-- A source can be read as a page exactly if its tokens are in the grammar. Any error is that of a
malformed template and is located at the token to blame. If a tag is left open, the message says so
and has the tag. -/
theorem exists_page_iff_and_blames (source : Text) (name : Option Text) :
    ((∃ page, Page.ofSource source name = .ok page) ↔
      (Token.ofSource source).map Token.kind ∈ Grammar.template) ∧
    ∀ error, Page.ofSource source name = .error error → ∃ fault m,
      Blames (Token.ofSource source) fault ∧ error = .malformed m ∧ m.message = fault.message ∧
      (∀ opener, fault = .unclosed opener → m.message = "Unclosed '" ++ opener.raw ++ "'") ∧
      m.line = some fault.token.position.line ∧ m.column = some fault.token.position.column := by
  obtain ⟨tokens, last, htokens, hlast, hkinds⟩ := Token.exists_ofSource_eq_append source
  have hiff := exists_ofTokens_iff hlast hkinds
  have hblames : ∀ fault, ofSource source = .error fault →
      Blames (Token.ofSource source) fault := by
    intro fault h
    rw [htokens]
    exact blames_of_ofTokens hlast hkinds (htokens ▸ h)
  rw [← htokens] at hiff
  rw [← hiff]
  cases h : ofSource source with
  | ok t =>
    have hpage : Page.ofSource source name = .ok ⟨name, source, t⟩ := by rw [Page.ofSource, h]
    refine ⟨iff_of_true ⟨_, hpage⟩ ⟨t, h⟩, fun error herror => ?_⟩
    cases hpage.symm.trans herror
  | error fault =>
    have hpage : Page.ofSource source name =
        .error (.malformed (fault.report name (some source))) := by rw [Page.ofSource, h]
    refine ⟨iff_of_false ?_ ?_, fun error herror => ?_⟩
    · rintro ⟨page, hok⟩
      cases hpage.symm.trans hok
    · rintro ⟨t, hok⟩
      cases h.symm.trans hok
    · cases hpage.symm.trans herror
      refine ⟨fault, _, hblames fault h, rfl, rfl, fun opener hopener => ?_, rfl, rfl⟩
      rw [hopener]
      rfl

end Stencil.Template
