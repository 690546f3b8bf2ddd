import Stencil.Template.Parser

/-! The steps of parsing. Reading a token takes one of a few steps, which are listed here once with
what each requires and does. Whatever these steps keep is kept by the reading of any number of
tokens, and reading that fails does so at one token. -/
namespace Stencil.Template

/-- The directive that opens. -/
def Opening.opener : Opening → Directive
  | .block name => .openBlock name
  | .loop item collection => .openLoop item collection

/-- The directive that closes what is opened. -/
def Opening.closer : Opening → Directive
  | .block _ => .closeBlock
  | .loop _ _ => .closeLoop

/-- A block opens outside all open tags and a loop outside all loops. -/
def Admits (openTags : List OpenTag) : Opening → Prop
  | .block _ => openTags = []
  | .loop _ _ => ∀ tag ∈ openTags, tag.isLoop = false

namespace Progress

/-- What reading a token makes of the progress. -/
inductive Step (p : Progress) (token : Token) : Progress → Prop
  | text (hkind : token.kind = .text) : Step p token (p.push (.text token.position token.raw))
  | slot {reference : Reference} (hkind : token.kind = .directive (.slot reference)) :
      Step p token (p.push (.slot token.position reference token.raw))
  | parent {base : Text} (hkind : token.kind = .directive (.parent base))
      (hparent : p.parent = none)
      (houter : p.openTags = []) :
      Step p token { p with parent := some ⟨token.position, base, token.raw⟩ }
  | laterParent {base : Text} (hkind : token.kind = .directive (.parent base))
      (hlater : p.parent = none → p.openTags ≠ []) :
      Step p token (p.push (.text token.position token.raw))
  | descend {opening : Opening} (hkind : token.kind = .directive opening.opener)
      (hadmits : Admits p.openTags opening) : Step p token (p.descend token opening)
  | ascend {tag : OpenTag} {outer : List OpenTag}
      (hkind : token.kind = .directive tag.opening.closer) (htags : p.openTags = tag :: outer) :
      Step p token (p.ascend tag outer)
  | finish (hkind : token.kind = .endOfSource) : Step p token p

theorem step_of_readDirective {p q : Progress} {token : Token} {d : Directive}
    (hkind : token.kind = .directive d) (h : p.readDirective token d = .ok q) :
    p.Step token q := by
  cases d with
  | slot reference =>
    cases h
    exact .slot hkind
  | parent base =>
    rw [readDirective] at h
    split at h
    · rename_i hfirst
      cases h
      exact .parent hkind (Option.isNone_iff_eq_none.mp hfirst.1) (List.isEmpty_iff.mp hfirst.2)
    · rename_i hlater
      cases h
      refine .laterParent hkind fun hparent htags => hlater ?_
      rw [hparent, htags]
      exact ⟨rfl, rfl⟩
  | openBlock name =>
    rw [readDirective] at h
    split at h
    · rename_i htags
      cases h
      exact @Step.descend p token (.block name) hkind htags
    · cases h
  | openLoop item collection =>
    rw [readDirective] at h
    split at h
    · cases h
    · rename_i hloop
      cases h
      refine @Step.descend p token (.loop item collection) hkind fun tag htag => ?_
      rw [Bool.not_eq_true, List.any_eq_false] at hloop
      exact Bool.eq_false_iff.mpr (hloop tag htag)
  | closeBlock =>
    rw [readDirective] at h
    split at h
    · rename_i tag outer htags
      split at h
      · cases h
      · rename_i hloop
        cases h
        refine .ascend (hkind.trans ?_) htags
        cases hopening : tag.opening with
        | block name => rfl
        | loop item collection => exact absurd (by rw [OpenTag.isLoop, hopening]) hloop
    · cases h
  | closeLoop =>
    rw [readDirective] at h
    split at h
    · rename_i tag outer htags
      split at h
      · rename_i hloop
        cases h
        refine .ascend (hkind.trans ?_) htags
        cases hopening : tag.opening with
        | block name =>
          rw [OpenTag.isLoop, hopening] at hloop
          cases hloop
        | loop item collection => rfl
      · cases h
    · cases h

theorem step_of_read {p q : Progress} {token : Token} (h : p.read token = .ok q) :
    p.Step token q := by
  unfold read at h
  split at h
  · rename_i hkind
    cases h
    exact .text hkind
  · rename_i d hkind
    exact step_of_readDirective hkind h
  · rename_i hkind
    cases h
    exact .finish hkind

theorem read_of_step {p q : Progress} {token : Token} (h : p.Step token q) :
    p.read token = .ok q := by
  cases h with
  | text hkind => rw [read, hkind]
  | slot hkind => rw [read, hkind]; rfl
  | parent hkind hparent houter => simp [read, hkind, readDirective, hparent, houter]
  | laterParent hkind hlater =>
    have hnot : ¬ (p.parent.isNone ∧ p.openTags.isEmpty) := by
      rw [Option.isNone_iff_eq_none, List.isEmpty_iff, not_and]
      exact hlater
    simp only [read, hkind, readDirective, if_neg hnot]
  | @descend opening hkind hadmits =>
    cases opening with
    | block name =>
      have hempty : p.openTags = [] := hadmits
      simp [read, hkind, Opening.opener, readDirective, hempty]
    | loop item collection =>
      have hloops : ¬ p.openTags.any OpenTag.isLoop = true := by
        rw [Bool.not_eq_true, List.any_eq_false]
        exact fun tag htag => Bool.eq_false_iff.mp (hadmits tag htag)
      simp only [read, hkind, Opening.opener, readDirective, if_neg hloops]
  | @ascend tag outer hkind htags =>
    cases hopening : tag.opening with
    | block name =>
      simp [read, hkind, hopening, Opening.closer, readDirective, htags, OpenTag.isLoop]
    | loop item collection =>
      simp [read, hkind, hopening, Opening.closer, readDirective, htags, OpenTag.isLoop]
  | finish hkind => rw [read, hkind]

theorem token_of_readDirective_eq_error {p : Progress} {token : Token} {d : Directive}
    {fault : SyntaxFault} (h : p.readDirective token d = .error fault) : fault.token = token := by
  cases d with
  | slot reference => cases h
  | parent base =>
    rw [readDirective] at h
    split at h <;> cases h
  | openBlock name =>
    rw [readDirective] at h
    split at h <;> cases h
    rfl
  | openLoop item collection =>
    rw [readDirective] at h
    split at h <;> cases h
    rfl
  | closeBlock =>
    rw [readDirective] at h
    split at h
    · split at h <;> cases h
      rfl
    · cases h
      rfl
  | closeLoop =>
    rw [readDirective] at h
    split at h
    · split at h <;> cases h
      rfl
    · cases h
      rfl

/-- A token that cannot be read is the one to blame. -/
theorem token_of_read_eq_error {p : Progress} {token : Token} {fault : SyntaxFault}
    (h : p.read token = .error fault) : fault.token = token := by
  unfold read at h
  split at h
  · cases h
  · exact token_of_readDirective_eq_error h
  · cases h

/-- What holds at the start and is kept by each step holds after any tokens that can be read. -/
theorem foldlM_read_induction {motive : Progress → List Token → Prop} {tokens : List Token}
    (start : motive start [])
    (step : ∀ p before token after q, tokens = before ++ token :: after → motive p before →
      p.Step token q → motive q (before ++ [token]))
    {p : Progress} (h : tokens.foldlM read Progress.start = .ok p) : motive p tokens := by
  suffices hgo : ∀ (rest before : List Token) (p q : Progress), tokens = before ++ rest →
      motive p before → rest.foldlM read p = .ok q → motive q tokens from
    hgo tokens [] Progress.start p rfl start h
  intro rest
  induction rest with
  | nil =>
    intro before p q htokens hp hread
    cases hread
    rw [htokens, List.append_nil]
    exact hp
  | cons token rest ih =>
    intro before p q htokens hp hread
    rw [List.foldlM_cons] at hread
    cases hnext : p.read token with
    | error fault =>
      rw [hnext] at hread
      cases hread
    | ok next =>
      rw [hnext] at hread
      refine ih (before ++ [token]) next q ?_ ?_ hread
      · rw [htokens, List.append_assoc, List.singleton_append]
      · exact step p before token rest next htokens hp (step_of_read hnext)

/-- Reading that fails does so at one token, after some that can be read. -/
theorem exists_of_foldlM_read_eq_error {tokens : List Token} {p : Progress} {fault : SyntaxFault}
    (h : tokens.foldlM read p = .error fault) : ∃ before token after q,
      tokens = before ++ token :: after ∧ before.foldlM read p = .ok q ∧
      q.read token = .error fault := by
  induction tokens generalizing p with
  | nil => cases h
  | cons token tokens ih =>
    rw [List.foldlM_cons] at h
    cases hnext : p.read token with
    | error fault' =>
      rw [hnext] at h
      cases h
      exact ⟨[], token, tokens, p, rfl, rfl, hnext⟩
    | ok next =>
      rw [hnext] at h
      obtain ⟨before, token', after, q, htokens, hbefore, hfail⟩ := ih h
      refine ⟨token :: before, token', after, q, by rw [htokens, List.cons_append], ?_, hfail⟩
      rw [List.foldlM_cons, hnext]
      exact hbefore

end Progress

end Stencil.Template
