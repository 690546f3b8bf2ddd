import Stencil.Proofs.Rendering.Trim

/-! The ends of a trimmed body. What a body of texts says is trimmed as one text, wherever it is cut
into texts. In any other body all that lies between the first node that is no text and the last one
stays as it is, and what is written in front of it and behind it loses the white space on the outer
side. Nothing is left to be trimmed then. -/
namespace Stencil

theorem Text.exists_mem_head?_trimStart {t : Text} (h : t.trimStart ≠ []) :
    ∃ c ∈ t.trimStart.head?, isSpace c = false := by
  have hfirst := List.head?_dropWhile_not isSpace t
  rw [← trimStart] at hfirst
  cases ht : t.trimStart with
  | nil => exact absurd ht h
  | cons c cs =>
    rw [ht] at hfirst
    exact ⟨c, rfl, hfirst⟩

theorem Text.exists_mem_getLast?_trimEnd {t : Text} (h : t.trimEnd ≠ []) :
    ∃ c ∈ t.trimEnd.getLast?, isSpace c = false := by
  have hreversed : trimEnd t = (trimStart t.reverse).reverse := rfl
  rw [hreversed] at h ⊢
  rw [List.getLast?_reverse]
  exact exists_mem_head?_trimStart fun hnil => h (by rw [hnil, List.reverse_nil])

theorem Text.head?_trimEnd {t : Text} (h : t.trimEnd ≠ []) : t.trimEnd.head? = t.head? := by
  obtain ⟨gap, hgap⟩ : t.trimEnd <+: t := List.rdropWhile_prefix isSpace t
  conv_rhs => rw [← hgap]
  exact (List.head?_append_of_ne_nil _ h).symm

namespace Node

variable {body nodes : List Node}

/-! What texts say. -/

/-- The texts of nodes, one after the other. -/
def texts (nodes : List Node) : Text :=
  nodes.flatMap fun
    | .text _ value => value
    | _ => []

theorem shown_of_isText (h : ∀ node ∈ nodes, node.isText = true) :
    Entry.shown (entriesOf nodes) = texts nodes := by
  induction nodes with
  | nil => rfl
  | cons node nodes ih =>
    obtain ⟨hnode, hnodes⟩ := List.forall_mem_cons.mp h
    cases node with
    | slot | loop | block => cases hnode
    | text position value =>
      rw [shown_cons, shown_text, ih hnodes]
      rfl

theorem IsBraced.of_isText {node : Node} (h : node.isText = true) : node.IsBraced := by
  cases node with
  | text => trivial
  | slot | loop | block => cases h

theorem isText_of_mem_trimStart (h : ∀ node ∈ nodes, node.isText = true) :
    ∀ node ∈ trimStart nodes, node.isText = true := forall_mem_trimStart (fun _ _ => rfl) h

theorem isText_of_mem_trimEnd (h : ∀ node ∈ nodes, node.isText = true) :
    ∀ node ∈ trimEnd nodes, node.isText = true := forall_mem_trimEnd (fun _ _ => rfl) h

theorem texts_trimStart (h : ∀ node ∈ nodes, node.isText = true) :
    texts (trimStart nodes) = (texts nodes).trimStart := by
  rw [← shown_of_isText (isText_of_mem_trimStart h), ← shown_of_isText h]
  exact shown_trimStart fun node hnode => .of_isText (h node hnode)

theorem texts_trimEnd (h : ∀ node ∈ nodes, node.isText = true) :
    texts (trimEnd nodes) = (texts nodes).trimEnd := by
  have hback := shown_trimReversed fun node (hnode : node ∈ nodes.reverse) =>
    IsBraced.of_isText (h node (List.mem_reverse.mp hnode))
  rw [List.reverse_reverse] at hback
  rw [← shown_of_isText (isText_of_mem_trimEnd h), ← shown_of_isText h]
  exact hback

theorem texts_trim (h : ∀ node ∈ nodes, node.isText = true) :
    texts (trim nodes) = (texts nodes).trim := by
  rw [trim, texts_trimEnd (isText_of_mem_trimStart h), texts_trimStart h, Text.trim]

/-! What lies between texts. -/

/-- The texts that a body begins with. -/
def frontTexts (body : List Node) : List Node := body.takeWhile isText

/-- The texts that a body ends with. -/
def backTexts (body : List Node) : List Node := body.rtakeWhile isText

theorem isText_of_mem_frontTexts : ∀ node ∈ frontTexts body, node.isText = true :=
  fun _ => List.mem_takeWhile_imp

theorem isText_of_mem_backTexts : ∀ node ∈ backTexts body, node.isText = true :=
  fun _ => List.mem_rtakeWhile_imp

/-- Nodes that begin and end with a node that is no text. -/
structure IsFramed (middle : List Node) : Prop where
  first : ∃ node ∈ middle.head?, node.isText = false
  last : ∃ node ∈ middle.getLast?, node.isText = false

theorem backTexts_append (front : List Node) {rest : List Node}
    (h : ∃ node ∈ rest, node.isText = false) : backTexts (front ++ rest) = backTexts rest := by
  rw [backTexts, backTexts, List.rtakeWhile, List.rtakeWhile, List.reverse_append,
    List.takeWhile_append, if_neg]
  intro hlength
  obtain ⟨node, hnode, htext⟩ := h
  have hall := (List.takeWhile_prefix isText).eq_of_length hlength
  rw [← List.mem_reverse, ← hall] at hnode
  rw [List.mem_takeWhile_imp hnode] at htext
  cases htext

/-- A body that holds more than texts. -/
theorem exists_isFramed (h : ∃ node ∈ body, node.isText = false) : ∃ middle : List Node,
    body = frontTexts body ++ middle ++ backTexts body ∧ IsFramed middle := by
  obtain ⟨node, hnode, htext⟩ := h
  have hbody : frontTexts body ++ body.dropWhile isText = body := List.takeWhile_append_dropWhile
  have hfirst := List.head?_dropWhile_not isText body
  generalize body.dropWhile isText = rest at hbody hfirst
  have hmem : node ∈ rest := by
    rw [← hbody, List.mem_append] at hnode
    rcases hnode with hfront | hrest
    · rw [isText_of_mem_frontTexts node hfront] at htext
      cases htext
    · exact hrest
  have hback : backTexts body = backTexts rest := by
    conv_lhs => rw [← hbody]
    exact backTexts_append _ ⟨node, hmem, htext⟩
  -- The middle is what lies behind the texts in front, less the texts at its own end.
  have hrest : rest.rdropWhile isText ++ backTexts rest = rest := List.rdropWhile_append_rtakeWhile
  have hne : rest.rdropWhile isText ≠ [] := by
    intro hnil
    rw [List.rdropWhile_eq_nil_iff.mp hnil node hmem] at htext
    cases htext
  refine ⟨rest.rdropWhile isText, ?_, ?_, ?_⟩
  · rw [List.append_assoc, hback, hrest, hbody]
  · rw [← hrest, List.head?_append_of_ne_nil _ hne, List.head?_eq_some_head hne] at hfirst
    exact ⟨_, List.head?_eq_some_head hne, hfirst⟩
  · exact ⟨_, List.getLast?_eq_some_getLast hne,
      Bool.eq_false_iff.mpr (List.rdropWhile_last_not isText rest hne)⟩

theorem trimStart_append_framed (front : List Node) {middle : List Node} (h : IsFramed middle)
    (back : List Node) :
    trimStart (front ++ (middle ++ back)) = trimStart front ++ (middle ++ back) := by
  obtain ⟨node, hnode, htext⟩ := h.first
  rw [trimStart_eq, trimStart_eq]
  apply cutFront_append_of_head
  intro other hother
  rw [List.head?_append, Option.mem_def.mp hnode] at hother
  cases hother
  exact htext

theorem trimEnd_append_framed (front : List Node) {middle : List Node} (h : IsFramed middle)
    (back : List Node) :
    trimEnd (front ++ middle ++ back) = front ++ middle ++ trimEnd back := by
  obtain ⟨node, hnode, htext⟩ := h.last
  have hback : ∀ other ∈ (front ++ middle).reverse.head?, other.isText = false := by
    intro other hother
    rw [List.head?_reverse, List.getLast?_append, Option.mem_def.mp hnode] at hother
    cases hother
    exact htext
  rw [trimEnd_eq, trimEnd_eq, List.reverse_append, cutFront_append_of_head hback,
    List.reverse_append, List.reverse_reverse]

theorem trim_framed (front : List Node) {middle : List Node} (h : IsFramed middle)
    (back : List Node) :
    trim (front ++ middle ++ back) = trimStart front ++ middle ++ trimEnd back := by
  rw [trim, List.append_assoc, trimStart_append_framed front h, ← List.append_assoc,
    trimEnd_append_framed _ h]

/-! What is left at the ends. -/

/-- A text in front begins with what is no white space, so it is not blank. -/
def TightStart (body : List Node) : Prop :=
  ∀ position value, .text position value ∈ body.head? → ∃ c ∈ value.head?, Text.isSpace c = false

/-- A text at the end ends with what is no white space. -/
def TightEnd (body : List Node) : Prop :=
  ∀ position value, .text position value ∈ body.getLast? →
    ∃ c ∈ value.getLast?, Text.isSpace c = false

theorem tightStart_trimStart (body : List Node) : TightStart (trimStart body) := by
  intro position value hvalue
  rw [trimStart_eq] at hvalue
  obtain ⟨hne, whole, rfl⟩ := exists_of_head?_cutFront hvalue
  exact Text.exists_mem_head?_trimStart hne

theorem tightEnd_trimEnd (body : List Node) : TightEnd (trimEnd body) := by
  intro position value hvalue
  rw [trimEnd_eq, List.getLast?_reverse] at hvalue
  obtain ⟨hne, whole, rfl⟩ := exists_of_head?_cutFront hvalue
  exact Text.exists_mem_getLast?_trimEnd hne

/-- Trimming the end leaves the front as it is, even where both are in one text. -/
theorem TightStart.trimEnd (h : TightStart body) : TightStart (trimEnd body) := by
  induction body using List.reverseRecOn with
  | nil => exact h
  | append_singleton nodes node ih =>
    cases node with
    | slot | loop | block =>
      rwa [trimEnd_eq, cutFront_of_head (by simp [isText]), List.reverse_reverse]
    | text position value =>
      rw [trimEnd_snoc_text]
      cases nodes with
      | nil =>
        -- The text is both the first and the last: its end is cut, and its front must stand.
        split
        · intro position' value' hvalue'
          cases hvalue'
        · rename_i hne
          intro position' value' hvalue'
          cases hvalue'
          obtain ⟨c, hc, hspace⟩ := h position value rfl
          exact ⟨c, Text.head?_trimEnd hne ▸ hc, hspace⟩
      | cons first rest =>
        split
        · exact ih h
        · exact h

theorem trimStart_of_tightStart (h : TightStart body) : trimStart body = body := by
  rw [trimStart_eq]
  apply cutFront_of_forall
  intro position value hvalue
  obtain ⟨c, hc, hspace⟩ := h position value hvalue
  obtain ⟨rest, rfl⟩ := List.head?_eq_some_iff.mp hc
  exact ⟨List.cons_ne_nil _ _, Text.trimStart_cons hspace rest⟩

theorem trimEnd_of_tightEnd (h : TightEnd body) : trimEnd body = body := by
  rw [trimEnd_eq, cutFront_of_forall, List.reverse_reverse]
  intro position value hvalue
  rw [List.head?_reverse] at hvalue
  obtain ⟨c, hc, hspace⟩ := h position value hvalue
  obtain ⟨rest, rfl⟩ := List.getLast?_eq_some_iff.mp hc
  exact ⟨List.append_ne_nil_of_right_ne_nil _ (List.cons_ne_nil _ _), Text.trimEnd_snoc hspace rest⟩

theorem trim_of_tight (hstart : TightStart body) (hend : TightEnd body) : trim body = body := by
  rw [trim, trimStart_of_tightStart hstart, trimEnd_of_tightEnd hend]

/-- What is trimmed off a body is the white space at the ends of what is written there, and nothing
else. -/
structure Strips (body trimmed : List Node) : Prop where
  /-- How the text of a body of texts is cut into these does not matter. -/
  alone : (∀ node ∈ body, node.isText = true) →
    (∀ node ∈ trimmed, node.isText = true) ∧ texts trimmed = (texts body).trim
  /-- From the first node that is no text to the last one nothing changes. -/
  framed : (∃ node ∈ body, node.isText = false) → ∃ front middle back : List Node,
    body = frontTexts body ++ middle ++ backTexts body ∧ IsFramed middle ∧
    trimmed = front ++ middle ++ back ∧
    (∀ node ∈ front, node.isText = true) ∧ texts front = (texts (frontTexts body)).trimStart ∧
    (∀ node ∈ back, node.isText = true) ∧ texts back = (texts (backTexts body)).trimEnd
  start : TightStart trimmed
  finish : TightEnd trimmed
  again : trim trimmed = trimmed

theorem strips_trim (body : List Node) : Strips body (trim body) := by
  have hstart : TightStart (trim body) := (tightStart_trimStart body).trimEnd
  have hend : TightEnd (trim body) := tightEnd_trimEnd _
  refine ⟨fun htexts => ?_, fun hother => ?_, hstart, hend, trim_of_tight hstart hend⟩
  · exact ⟨forall_mem_trim (fun _ _ => rfl) htexts, texts_trim htexts⟩
  · obtain ⟨middle, hbody, hmiddle⟩ := exists_isFramed hother
    have htrim : trim body = trimStart (frontTexts body) ++ middle ++ trimEnd (backTexts body) := by
      conv_lhs => rw [hbody]
      exact trim_framed _ hmiddle _
    exact ⟨_, middle, _, hbody, hmiddle, htrim,
      isText_of_mem_trimStart isText_of_mem_frontTexts, texts_trimStart isText_of_mem_frontTexts,
      isText_of_mem_trimEnd isText_of_mem_backTexts, texts_trimEnd isText_of_mem_backTexts⟩

end Node

end Stencil
