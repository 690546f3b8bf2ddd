import Stencil.Text.Replace

/-! Replacing every occurrence of a pattern. A text is cut at the occurrences into parts that hold
the pattern nowhere, and the same parts are joined by what takes the place of the pattern. -/
namespace Stencil.Text

/-- A text and the one that comes of it when each occurrence of a pattern is replaced. -/
def Replaces (pattern replacement cs t : Text) : Prop :=
  ∃ part parts, (∀ part' ∈ part :: parts, ¬ pattern <:+: part') ∧
    cs = pattern.intercalate (part :: parts) ∧ t = replacement.intercalate (part :: parts)

variable {pattern replacement cs t : Text}

theorem replaces_nil (hne : pattern ≠ []) : Replaces pattern replacement [] [] := by
  refine ⟨[], [], fun part hpart hheld => ?_, rfl, rfl⟩
  rw [List.mem_singleton.mp hpart] at hheld
  exact hne (List.infix_nil.mp hheld)

/-- An occurrence at the front. -/
theorem Replaces.append (h : Replaces pattern replacement cs t) (hne : pattern ≠ []) :
    Replaces pattern replacement (pattern ++ cs) (replacement ++ t) := by
  obtain ⟨part, parts, hparts, rfl, rfl⟩ := h
  refine ⟨[], part :: parts, List.forall_mem_cons.mpr ⟨fun hheld => ?_, hparts⟩, ?_, ?_⟩
  · exact hne (List.infix_nil.mp hheld)
  · rw [List.intercalate_cons_cons, List.nil_append]
  · rw [List.intercalate_cons_cons, List.nil_append]

/-- A code point with which no occurrence begins. -/
theorem Replaces.cons (h : Replaces pattern replacement cs t) {c : CodePoint}
    (hstart : ¬ pattern <+: c :: cs) : Replaces pattern replacement (c :: cs) (c :: t) := by
  obtain ⟨part, parts, hparts, rfl, rfl⟩ := h
  obtain ⟨hpart, hrest⟩ := List.forall_mem_cons.mp hparts
  have hfront : ∀ separator : Text, c :: separator.intercalate (part :: parts) =
      separator.intercalate ((c :: part) :: parts) := by
    intro separator
    cases parts with
    | nil => simp
    | cons next parts => rw [List.intercalate_cons_cons, List.intercalate_cons_cons]; rfl
  refine ⟨c :: part, parts, List.forall_mem_cons.mpr ⟨fun hheld => ?_, hrest⟩, hfront pattern,
    hfront replacement⟩
  obtain hfirst | hlater := List.infix_cons_iff.mp hheld
  · rw [hfront] at hstart
    refine hstart (hfirst.trans ?_)
    cases parts with
    | nil => simp
    | cons next parts =>
      rw [List.intercalate_cons_cons, List.append_assoc]
      exact List.prefix_append _ _
  · exact hpart hlater

/-- The run behind an occurrence leaves out what belongs to it. -/
theorem replaces_replaceFrom (hne : pattern ≠ []) (skip : Nat) (cs : Text) :
    Replaces pattern replacement (cs.drop skip) (replaceFrom pattern replacement skip cs) := by
  fun_induction replaceFrom pattern replacement skip cs with
  | case1 skip =>
    rw [List.drop_nil]
    exact replaces_nil hne
  | case2 skip c cs ih => exact ih
  | case3 c cs hstart ih =>
    obtain ⟨rest, hrest⟩ := List.isPrefixOf_iff_prefix.mp hstart
    obtain ⟨d, ds, rfl⟩ := List.exists_cons_of_ne_nil hne
    obtain ⟨rfl, rfl⟩ : d = c ∧ ds ++ rest = cs := List.cons.inj hrest
    rw [List.length_cons, Nat.add_sub_cancel, List.drop_left] at ih
    exact ih.append hne
  | case4 c cs hstart ih =>
    exact ih.cons fun h => hstart (List.isPrefixOf_iff_prefix.mpr h)

theorem replaces_replaceAll (hne : pattern ≠ []) (cs : Text) :
    Replaces pattern replacement cs (replaceAll pattern replacement cs) :=
  replaces_replaceFrom hne 0 cs

end Stencil.Text
