import Stencil.Inheritance
import Mathlib.Data.List.DropRight
import Mathlib.Data.List.TakeWhile

/-! Trimming. A body is trimmed at its front and, listed from its end, at its back in one and the
same way: texts that nothing is left of are dropped, and the next one is cut. So what is said of
both ends is said of this once. -/
namespace Stencil.Node

def isText : Node → Bool
  | text _ _ => true
  | slot .. | loop .. | block .. => false

/-- Drops the texts in front that `cut` leaves nothing of, and cuts the text behind them. -/
def cutFront (cut : Text → Text) : List Node → List Node
  | .text position value :: nodes =>
    if cut value = [] then cutFront cut nodes else .text position (cut value) :: nodes
  | nodes => nodes

variable {cut : Text → Text} {P : Node → Prop} {nodes nodes' : List Node}

theorem cutFront_text (cut : Text → Text) (position : Position) (value : Text)
    (nodes : List Node) : cutFront cut (.text position value :: nodes) =
      if cut value = [] then cutFront cut nodes else .text position (cut value) :: nodes := rfl

/-- Nothing is cut where no text is in front. -/
theorem cutFront_of_head (h : ∀ node ∈ nodes.head?, node.isText = false) :
    cutFront cut nodes = nodes := by
  cases nodes with
  | nil => rfl
  | cons node nodes =>
    cases node with
    | slot | loop | block => rfl
    | text position value => exact absurd (h _ rfl) Bool.noConfusion

theorem cutFront_append (cut : Text → Text) (nodes nodes' : List Node) :
    cutFront cut (nodes ++ nodes') =
      if cutFront cut nodes = [] then cutFront cut nodes' else cutFront cut nodes ++ nodes' := by
  induction nodes with
  | nil => rfl
  | cons node nodes ih =>
    cases node with
    | slot | loop | block => rfl
    | text position value =>
      rw [List.cons_append, cutFront_text, cutFront_text]
      by_cases hvalue : cut value = []
      · rw [if_pos hvalue, if_pos hvalue, ih]
      · rw [if_neg hvalue, if_neg hvalue, if_neg (List.cons_ne_nil _ _), List.cons_append]

/-- What is behind a node that is no text is not cut. -/
theorem cutFront_append_of_head (h : ∀ node ∈ nodes'.head?, node.isText = false) :
    cutFront cut (nodes ++ nodes') = cutFront cut nodes ++ nodes' := by
  rw [cutFront_append]
  split
  · rename_i hnil
    rw [cutFront_of_head h, hnil, List.nil_append]
  · rfl

/-- A text in front has been cut, and something is left of it. -/
theorem exists_of_head?_cutFront {position : Position} {value : Text}
    (h : .text position value ∈ (cutFront cut nodes).head?) :
    value ≠ [] ∧ ∃ whole, value = cut whole := by
  induction nodes with
  | nil => cases h
  | cons node nodes ih =>
    cases node with
    | slot | loop | block => cases h
    | text position' whole =>
      rw [cutFront_text] at h
      split at h
      · exact ih h
      · rename_i hne
        cases h
        exact ⟨hne, whole, rfl⟩

/-- Nothing is cut where the text in front stays as it is. -/
theorem cutFront_of_forall (h : ∀ position value, .text position value ∈ nodes.head? →
    value ≠ [] ∧ cut value = value) : cutFront cut nodes = nodes := by
  cases nodes with
  | nil => rfl
  | cons node nodes =>
    cases node with
    | slot | loop | block => rfl
    | text position value =>
      obtain ⟨hne, hcut⟩ := h position value rfl
      rw [cutFront_text, hcut, if_neg hne]

theorem forall_mem_cutFront
    (hcut : ∀ {position value}, P (.text position value) → P (.text position (cut value)))
    (h : ∀ node ∈ nodes, P node) : ∀ node ∈ cutFront cut nodes, P node := by
  induction nodes with
  | nil => exact h
  | cons node nodes ih =>
    obtain ⟨hfirst, hrest⟩ := List.forall_mem_cons.mp h
    cases node with
    | slot | loop | block => exact h
    | text position value =>
      rw [cutFront_text]
      split
      · exact ih hrest
      · exact List.forall_mem_cons.mpr ⟨hcut hfirst, hrest⟩

/-! Both ends. -/

theorem trimStart_eq (nodes : List Node) : trimStart nodes = cutFront Text.trimStart nodes := by
  induction nodes with
  | nil => rfl
  | cons node nodes ih =>
    cases node with
    | slot | loop | block => rfl
    | text position value =>
      rw [trimStart, cutFront_text, ih]
      split
      · rename_i hvalue
        rw [if_pos hvalue]
      · rename_i hvalue
        rw [if_neg hvalue]

theorem trimReversed_eq (nodes : List Node) :
    trimReversed nodes = cutFront Text.trimEnd nodes := by
  induction nodes with
  | nil => rfl
  | cons node nodes ih =>
    cases node with
    | slot | loop | block => rfl
    | text position value =>
      rw [trimReversed, cutFront_text, ih]
      split
      · rename_i hvalue
        rw [if_pos hvalue]
      · rename_i hvalue
        rw [if_neg hvalue]

theorem trimEnd_eq (nodes : List Node) :
    trimEnd nodes = (cutFront Text.trimEnd nodes.reverse).reverse := by
  rw [trimEnd, trimReversed_eq]

theorem trimStart_text (position : Position) (value : Text) (nodes : List Node) :
    trimStart (.text position value :: nodes) =
      if value.trimStart = [] then trimStart nodes
      else .text position value.trimStart :: nodes := by
  rw [trimStart_eq, trimStart_eq, cutFront_text]

theorem trimStart_append (nodes nodes' : List Node) : trimStart (nodes ++ nodes') =
    if trimStart nodes = [] then trimStart nodes' else trimStart nodes ++ nodes' := by
  rw [trimStart_eq, trimStart_eq, trimStart_eq, cutFront_append]

theorem trimEnd_snoc_text (position : Position) (value : Text) (nodes : List Node) :
    trimEnd (nodes ++ [.text position value]) =
      if value.trimEnd = [] then trimEnd nodes else nodes ++ [.text position value.trimEnd] := by
  rw [trimEnd_eq, trimEnd_eq, List.reverse_append, List.reverse_singleton, List.singleton_append,
    cutFront_text]
  split
  · rfl
  · rw [List.reverse_cons, List.reverse_reverse]

/-! What is said of a node and, with a text, of each piece of it is still said after trimming, which
keeps nodes or shortens their texts. -/

theorem forall_mem_trimStart (hpiece : ∀ {position value value'}, value' <:+: value →
      P (.text position value) → P (.text position value'))
    (h : ∀ node ∈ nodes, P node) : ∀ node ∈ trimStart nodes, P node := by
  rw [trimStart_eq]
  exact forall_mem_cutFront (hpiece (List.dropWhile_suffix _).isInfix) h

theorem forall_mem_trimEnd (hpiece : ∀ {position value value'}, value' <:+: value →
      P (.text position value) → P (.text position value'))
    (h : ∀ node ∈ nodes, P node) : ∀ node ∈ trimEnd nodes, P node := by
  intro node hnode
  rw [trimEnd_eq, List.mem_reverse] at hnode
  apply forall_mem_cutFront (hpiece (List.rdropWhile_prefix _ _).isInfix) _ node hnode
  exact fun node hnode => h node (List.mem_reverse.mp hnode)

theorem forall_mem_trim (hpiece : ∀ {position value value'}, value' <:+: value →
      P (.text position value) → P (.text position value'))
    (h : ∀ node ∈ nodes, P node) : ∀ node ∈ trim nodes, P node :=
  forall_mem_trimEnd hpiece (forall_mem_trimStart hpiece h)

end Stencil.Node
