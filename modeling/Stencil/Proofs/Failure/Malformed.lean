import Stencil.Engine
import Stencil.Proofs.Template.Grammar
import Stencil.Proofs.Token.Coordinates

/-! The line that is shown of a source that is no template. The tag to blame begins on the line that
is reported, as line feeds end lines, and its column is counted on that line. The source is shown by
lines that have other ends too: what is shown is the line of the same number among these, while the
tag is as many lines further down as other line ends come before it. So the line with the tag is
shown wherever none does, and another line, or only a part of it, where some do. -/
namespace Stencil

namespace Snippet

/-- Without its neighbours the line in error is alone. -/
theorem around_zero {source content : Text} {n : Nat} (h : source.lines[n]? = some content)
    (column : Option Int) :
    around source (n + 1) 0 column = ⟨[(n + 1, content)], n + 1, column⟩ := by
  have hbefore : ((n + 1 : Int) - 1 - 0).toNat = n := by omega
  have hupTo : ((n + 1 : Int) + 0).toNat = n + 1 := by omega
  have hnumbered : (source.lines.zipIdx 1)[n]? = some (content, n + 1) := by
    rw [List.getElem?_zipIdx, h, Option.map_some, Nat.add_comm]
  obtain ⟨hlt, hget⟩ := List.getElem?_eq_some_iff.mp hnumbered
  have hone : ((source.lines.zipIdx 1).take (n + 1)).drop n = [(content, n + 1)] := by
    rw [List.drop_take, Nat.add_sub_cancel_left, List.take_one_drop_eq_of_lt_length hlt]
    exact congrArg (fun line => [line]) hget
  simp only [around, hbefore, hupTo, hone, List.map_singleton]

end Snippet

/-- What stands anywhere and is no slot begins with the opener of tags. -/
theorem Directive.Stands.tagOpener_prefix_raw {cs raw : Text} {d : Directive} (h : Stands cs d raw)
    (htag : ∀ reference, d ≠ .slot reference) : tagOpener <+: raw := by
  cases h with
  | slot => exact absurd rfl (htag _)
  | parent | tag => exact List.prefix_append _ _

namespace Template

/-- Only tags cannot be read. -/
theorem Progress.ne_slot_of_read_eq_error {p : Progress} {token : Token} {fault : SyntaxFault}
    (h : p.read token = .error fault) :
    ∃ d, token.kind = .directive d ∧ ∀ reference, d ≠ .slot reference := by
  unfold read at h
  split at h
  · cases h
  · rename_i d hkind
    refine ⟨d, hkind, ?_⟩
    rintro reference rfl
    cases h
  · cases h

theorem Opening.opener_ne_slot (opening : Opening) (reference : Reference) :
    opening.opener ≠ .slot reference := by
  cases opening <;> exact nofun

/-- The token to blame is a tag of the source. -/
theorem tag_of_ofSource_eq_error {source : Text} {fault : SyntaxFault}
    (h : ofSource source = .error fault) : fault.token ∈ Token.ofSource source ∧
      ∃ d, fault.token.kind = .directive d ∧ ∀ reference, d ≠ .slot reference := by
  obtain ⟨tokens, last, htokens, hlast, hkinds⟩ := Token.exists_ofSource_eq_append source
  rw [ofSource, htokens, ofTokens_append_last hlast] at h
  rw [htokens]
  cases hread : tokens.foldlM Progress.read Progress.start with
  | error fault' =>
    rw [hread] at h
    obtain rfl : fault' = fault := Except.error.inj h
    obtain ⟨before, token, after, p, rfl, -, hfail⟩ :=
      Progress.exists_of_foldlM_read_eq_error hread
    rw [Progress.token_of_read_eq_error hfail]
    exact ⟨by simp, Progress.ne_slot_of_read_eq_error hfail⟩
  | ok p =>
    have hunderway := underway_of_foldlM_read hkinds hread
    rw [hread] at h
    have hfinish : p.finish = .error fault := h
    rw [Progress.finish] at hfinish
    split at hfinish
    · cases hfinish
    · rename_i tag outer htags
      obtain rfl := Except.error.inj hfinish
      rw [htags] at hunderway
      cases hunderway with
      | within hbefore hadmits hkind hinside =>
        exact ⟨by simp [SyntaxFault.token], _, hkind, tag.opening.opener_ne_slot⟩

end Template

namespace Malformed

open Text

/-- The error shows one line. It has the reported number, it is the line of the source that has this
number, as line feeds end lines, or the beginning of it, and the opener of a tag is at the reported
column. -/
def ShowsTag (m : Malformed) (source : Text) : Prop :=
  ∃ (n column : Nat) (content whole : Text) (snippet : Snippet),
    m.line = some (n + 1 : Int) ∧ m.column = some (column : Int) ∧
    m.snippet? = some snippet ∧ snippet.format <:+ m.text ∧
    snippet = ⟨[(n + 1, content)], n + 1, some (column : Int)⟩ ∧
    (source.splitOn (.char '\n'))[n]? = some whole ∧ content <+: whole ∧
    Directive.tagOpener <+: content.drop column

/-- What is reported and shown of a tag with `before` in front of it, `n` being the number of line
feeds there. -/
structure Locates (m : Malformed) (source before : Text) (n : Nat) : Prop where
  count : before.count (.char '\n') = n
  line : m.line = some (n + 1 : Int)
  column : m.column = some ((lastLine isLineFeed before).length : Int)
  /-- The line that is shown has the reported number among the lines as they are shown. -/
  shown : ∃ content, source.lines[n]? = some content ∧
    m.snippet? = some ⟨[(n + 1, content)], n + 1, m.column⟩
  /-- The tag is as many lines further down as there are other line ends before it. -/
  standing : ∃ content, source.lines[n + otherBreaks before]? = some content ∧
    Directive.tagOpener <+: content.drop (lastLine isLineBreak before).length
  agrees : otherBreaks before = 0 → m.ShowsTag source

theorem format_suffix_text {m : Malformed} {snippet : Snippet} (h : m.snippet? = some snippet) :
    snippet.format <:+ m.text := by
  rw [text, h]
  exact ⟨_, List.append_assoc _ _ _⟩

theorem tagOpener_prefix_firstLine {rest : Text} (h : Directive.tagOpener <+: rest) :
    Directive.tagOpener <+: firstLine isLineBreak rest := by
  obtain ⟨more, rfl⟩ := h
  exact ⟨firstLine isLineBreak more, rfl⟩

/-- What is reported of a token that begins like a tag. -/
theorem locates_report {fault : SyntaxFault} {before rest : Text} (name : Option Text)
    (hposition : fault.token.position = Position.start.advance before)
    (hrest : Directive.tagOpener <+: rest) :
    (fault.report name (some (before ++ rest))).Locates (before ++ rest) before
      (before.count (.char '\n')) := by
  generalize hm : fault.report name (some (before ++ rest)) = m
  generalize hn : before.count (.char '\n') = n
  have hopener := tagOpener_prefix_firstLine hrest
  have hsource : m.source = some (before ++ rest) := by rw [← hm]; rfl
  have hline : m.line = some (n + 1 : Int) := by
    rw [← hm, ← hn, SyntaxFault.report, hposition, Position.line_advance, Int.add_comm]
    rfl
  have hcolumn : m.column = some ((lastLine isLineFeed before).length : Int) := by
    rw [← hm, SyntaxFault.report, hposition, Position.column_advance_start]
  have hne : rest ≠ [] := by
    rintro rfl
    exact absurd hrest (by decide)
  have hhead : rest.head? ≠ some (.char '\n') := by
    obtain ⟨more, rfl⟩ := hrest
    exact nofun
  have hstanding := getElem?_lines_append before hne hhead
  rw [breaks, hn] at hstanding
  have hsnippet {content : Text} (hget : (before ++ rest).lines[n]? = some content) :
      m.snippet? = some ⟨[(n + 1, content)], n + 1, m.column⟩ := by
    have hshown : nonempty? m.source = some (before ++ rest) := by
      simp [hsource, nonempty?, Option.filter, hne]
    have hnumber : line? m.line = some (n + 1 : Int) := by
      rw [hline, line?, Option.filter_some_pos]
      simp
      omega
    rw [snippet?, hshown, hnumber]
    exact congrArg some (Snippet.around_zero hget m.column)
  refine ⟨hn, hline, hcolumn, ?_, ⟨_, hstanding, ?_⟩, fun hagree => ?_⟩
  · obtain ⟨hlt, -⟩ := List.getElem?_eq_some_iff.mp hstanding
    have hget := List.getElem?_eq_getElem (Nat.lt_of_le_of_lt (Nat.le_add_right n _) hlt)
    exact ⟨_, hget, hsnippet hget⟩
  · rw [List.drop_left]
    exact hopener
  · rw [hagree, Nat.add_zero, lastLine_eq_of_otherBreaks hagree] at hstanding
    have hshown := hsnippet hstanding
    have hwhole := getElem?_splitOn_append before rest
    rw [hn] at hwhole
    refine ⟨n, _, _, _, _, hline, hcolumn, hshown, format_suffix_text hshown, by rw [hcolumn],
      hwhole, (List.prefix_append_right_inj _).mpr (firstLine_prefix_self rest), ?_⟩
    rw [List.drop_left]
    exact hopener

/-- A source that is no template is reported at one of its tags. The line that is shown has the
number of the line on which the tag begins, as line feeds end lines, and wherever all line ends
before the tag are or hold line feeds, it is this line up to its first line end, with the tag at the
reported column. -/
theorem locates_of_ofSource {source : Text} {name : Option Text} {m : Malformed}
    (h : Page.ofSource source name = .error (.malformed m)) :
    ∃ fault, Template.ofSource source = .error fault ∧ m = fault.report name (some source) ∧
      fault.token ∈ Token.ofSource source ∧ Directive.tagOpener <+: fault.token.raw ∧
      ∀ before after, Token.ofSource source = before ++ fault.token :: after →
        ∃ n, m.Locates source (before.flatMap Token.raw) n := by
  rw [Page.ofSource] at h
  cases htemplate : Template.ofSource source with
  | ok t =>
    rw [htemplate] at h
    cases h
  | error fault =>
    rw [htemplate] at h
    cases h
    obtain ⟨hmem, d, hkind, htag⟩ := Template.tag_of_ofSource_eq_error htemplate
    obtain ⟨cs, rest, hread⟩ := Token.exists_reading_of_mem_ofSource hmem hkind
    have hopener : Directive.tagOpener <+: fault.token.raw :=
      (Directive.stands_of_read? hread).tagOpener_prefix_raw htag
    refine ⟨fault, rfl, rfl, hmem, hopener, fun before after htokens => ?_⟩
    have hsource : before.flatMap Token.raw ++
        (fault.token.raw ++ after.flatMap Token.raw) = source := by
      rw [← List.flatMap_cons, ← List.flatMap_append, ← htokens, Token.ofSource, Token.raw_place,
        Piece.raw_ofText]
    have hposition := Token.position_of_place htokens
    have hlocates := locates_report name hposition
      (hopener.trans (List.prefix_append _ (after.flatMap Token.raw)))
    rw [hsource] at hlocates
    exact ⟨_, hlocates⟩

/-- A closing tag on the second line, with a carriage return at the end of the first. -/
def strayClosing : Text := "a\r\n \x7b% endfor %\x7d"

def strayFault : SyntaxFault :=
  .unexpected ⟨.directive .closeLoop, ⟨2, 1⟩, "\x7b% endfor %\x7d"⟩

/-- The second line is shown, and the tag is on it. -/
theorem showsTag_strayClosing :
    Page.ofSource strayClosing none =
      .error (.malformed (strayFault.report none (some strayClosing))) ∧
    (strayFault.report none (some strayClosing)).ShowsTag strayClosing := by
  have htokens : Token.ofSource strayClosing = [⟨.text, Position.start, "a\r\n "⟩] ++
      strayFault.token :: [⟨.endOfSource, ⟨2, 13⟩, []⟩] := by decide +kernel
  have htemplate : Template.ofSource strayClosing = .error strayFault := by
    rw [Template.ofSource, htokens]
    rfl
  have hpage : Page.ofSource strayClosing none =
      .error (.malformed (strayFault.report none (some strayClosing))) := by
    rw [Page.ofSource, htemplate]
  obtain ⟨fault, hfault, -, -, -, hlocates⟩ := locates_of_ofSource hpage
  obtain rfl := Except.error.inj (htemplate.symm.trans hfault)
  obtain ⟨n, hn⟩ := hlocates _ _ htokens
  exact ⟨hpage, hn.agrees (by decide)⟩

/-- A closing tag on the second line, with a form feed on the first. -/
def strayBehindFormFeed : Text := "a\x0cb\n\x7b% endfor %\x7d"

/-- What is reported of it. -/
def strayBehindFormFeedError : Malformed :=
  ⟨"Unexpected '\x7b% endfor %\x7d'", some 2, some 0, none, some strayBehindFormFeed⟩

/-- What follows the form feed is shown as the second line, and no tag is there. -/
theorem not_showsTag_strayBehindFormFeed :
    Page.ofSource strayBehindFormFeed none = .error (.malformed strayBehindFormFeedError) ∧
    strayBehindFormFeedError.snippet? = some ⟨[(2, "b")], 2, some 0⟩ ∧
    ¬ strayBehindFormFeedError.ShowsTag strayBehindFormFeed := by
  have htokens : Token.ofSource strayBehindFormFeed = [⟨.text, Position.start, "a\x0cb\n"⟩,
      ⟨.directive .closeLoop, ⟨2, 0⟩, "\x7b% endfor %\x7d"⟩, ⟨.endOfSource, ⟨2, 12⟩, []⟩] := by
    decide +kernel
  have hshown : strayBehindFormFeedError.snippet? = some ⟨[(2, "b")], 2, some 0⟩ := by decide
  refine ⟨?_, hshown, ?_⟩
  · rw [Page.ofSource, Template.ofSource, htokens]
    rfl
  · rintro ⟨n, column, content, whole, snippet, -, -, hsnippet, -, rfl, -, -, hopener⟩
    cases hshown.symm.trans hsnippet
    exact absurd hopener (by decide)

end Malformed

end Stencil
