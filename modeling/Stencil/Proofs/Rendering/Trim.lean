import Stencil.Proofs.Rendering.Blame
import Stencil.Proofs.Rendering.Marks

/-! Trimmed bodies. Only the texts at the ends of a body are trimmed, but a slot begins and ends
with a brace, so what is written in a trimmed body is the trimmed text of the whole. -/
namespace Stencil

namespace Text

theorem trimStart_append (t t' : Text) :
    (t ++ t').trimStart = if t.trimStart = [] then t'.trimStart else t.trimStart ++ t' := by
  simp only [trimStart, List.dropWhile_append, List.isEmpty_iff]
  congr

theorem trimEnd_append (t t' : Text) :
    (t ++ t').trimEnd = if t'.trimEnd = [] then t.trimEnd else t ++ t'.trimEnd := by
  simp only [trimEnd, List.reverse_append, List.dropWhile_append, List.isEmpty_iff,
    List.reverse_eq_nil_iff]
  split
  · rfl
  · rw [List.reverse_append, List.reverse_reverse]

theorem trimStart_cons {c : CodePoint} (h : isSpace c = false) (t : Text) :
    trimStart (c :: t) = c :: t := List.dropWhile_cons_of_neg (by simp [h])

theorem trimEnd_snoc {c : CodePoint} (h : isSpace c = false) (t : Text) :
    trimEnd (t ++ [c]) = t ++ [c] := by
  rw [trimEnd, List.reverse_append, List.reverse_singleton, List.singleton_append,
    List.dropWhile_cons_of_neg (by simp [h]), List.reverse_cons, List.reverse_reverse]

end Text

namespace Node

/-- A text, or a slot between braces. -/
def IsBraced : Node → Prop
  | text _ _ => True
  | slot _ _ raw => ∃ inside, raw = Directive.slotOpener ++ (inside ++ Directive.slotCloser)
  | loop .. | block .. => False

theorem shown_cons (node : Node) (nodes : List Node) : Entry.shown (entriesOf (node :: nodes)) =
    Entry.shown node.entries ++ Entry.shown (entriesOf nodes) := by
  rw [entriesOf, Entry.shown_append]

theorem shown_text (position : Position) (value : Text) :
    Entry.shown (text position value).entries = value := List.append_nil value

theorem shown_snoc (nodes : List Node) (node : Node) :
    Entry.shown (entriesOf (nodes ++ [node])) =
      Entry.shown (entriesOf nodes) ++ Entry.shown node.entries := by
  rw [entriesOf_append, entriesOf_singleton, Entry.shown_append]

theorem shown_trimStart {nodes : List Node} (h : ∀ node ∈ nodes, node.IsBraced) :
    Entry.shown (entriesOf (trimStart nodes)) =
      (Entry.shown (entriesOf nodes)).trimStart := by
  fun_induction trimStart nodes with
  | case1 position value nodes hvalue ih =>
    rw [shown_cons, shown_text, Text.trimStart_append, if_pos hvalue]
    exact ih fun node hnode => h node (List.mem_cons_of_mem _ hnode)
  | case2 position value nodes hvalue =>
    rw [shown_cons, shown_cons, shown_text, shown_text, Text.trimStart_append, if_neg hvalue]
  | case3 nodes hother =>
    cases nodes with
    | nil => rfl
    | cons node nodes =>
      have hbraced := h node List.mem_cons_self
      cases node with
      | text position value => exact absurd rfl (hother position value nodes)
      | loop | block => cases hbraced
      | slot position reference raw =>
        obtain ⟨inside, rfl⟩ := hbraced
        exact (Text.trimStart_cons (by decide) _).symm

/-- Nodes that are trimmed from their end, which is where the list begins. -/
theorem shown_trimReversed {nodes : List Node} (h : ∀ node ∈ nodes, node.IsBraced) :
    Entry.shown (entriesOf (trimReversed nodes).reverse) =
      (Entry.shown (entriesOf nodes.reverse)).trimEnd := by
  fun_induction trimReversed nodes with
  | case1 position value nodes hvalue ih =>
    rw [List.reverse_cons, shown_snoc, shown_text, Text.trimEnd_append, if_pos hvalue]
    exact ih fun node hnode => h node (List.mem_cons_of_mem _ hnode)
  | case2 position value nodes hvalue =>
    rw [List.reverse_cons, List.reverse_cons, shown_snoc, shown_snoc, shown_text, shown_text,
      Text.trimEnd_append, if_neg hvalue]
  | case3 nodes hother =>
    cases nodes with
    | nil => rfl
    | cons node nodes =>
      have hbraced := h node List.mem_cons_self
      cases node with
      | text position value => exact absurd rfl (hother position value nodes)
      | loop | block => cases hbraced
      | slot position reference raw =>
        obtain ⟨inside, rfl⟩ := hbraced
        have hshown : Entry.shown (slot position reference
            (Directive.slotOpener ++ (inside ++ Directive.slotCloser))).entries =
            (Directive.slotOpener ++ inside ++ [.char '}']) ++ [.char '}'] := by
          simp [Entry.shown, Entry.marks, Mark.shown, entries, Entry.mark?, Directive.slotCloser]
        rw [List.reverse_cons, shown_snoc, hshown, ← List.append_assoc]
        exact (Text.trimEnd_snoc (by decide) _).symm

/-- A body is trimmed as its text is. -/
theorem shown_trim {nodes : List Node} (h : ∀ node ∈ nodes, node.IsBraced) :
    Entry.shown (entriesOf (trim nodes)) = (Entry.shown (entriesOf nodes)).trim := by
  have hstart : ∀ node ∈ trimStart nodes, node.IsBraced :=
    forall_mem_trimStart (fun _ _ => trivial) h
  have hend := shown_trimReversed fun node hnode => hstart node (List.mem_reverse.mp hnode)
  rw [List.reverse_reverse, shown_trimStart h] at hend
  exact hend

end Node

namespace Directive

/-- A slot is written between braces. -/
theorem Stands.exists_inside {cs raw : Text} {reference : Reference}
    (h : Stands cs (.slot reference) raw) :
    ∃ inside, raw = slotOpener ++ (inside ++ slotCloser) := by
  cases h with
  | slot => exact ⟨_, rfl⟩
  | tag _ _ hform => exact absurd rfl (hform.ne_slot reference)

end Directive

namespace Template

variable {t : Template} {source : Text}

/-- What stands in the blocks of a source without loops is written between braces or is text. -/
theorem isBraced_of_mem_flatten (h : ofSource source = .ok t)
    (hloop : ∀ token ∈ Token.ofSource source, token.isLoopTag = false) :
    ∀ node ∈ t.flatten, node.IsBraced := by
  intro node hnode
  have hmem := mem_linearise_of_mem_flatten h node hnode
  have hleaf : node.IsLeaf := (fitsBlock_of_mem_flatten h node hnode).isLeaf fun e he =>
    noLoop_of_mem_linearise h hloop e (hmem e he)
  cases node with
  | text => trivial
  | loop | block => cases hleaf
  | slot position reference raw =>
    obtain ⟨token, htoken, counts, hshown⟩ :=
      exists_token_of_mem_linearise h (hmem _ List.mem_cons_self)
    obtain ⟨hkind, -, rfl⟩ := Token.directive_of_mem_shown? hshown rfl
    obtain ⟨offset, hstands, -⟩ := Token.exists_standsAt_of_mem_ofSource htoken hkind
    exact hstands.exists_inside

end Template

end Stencil
