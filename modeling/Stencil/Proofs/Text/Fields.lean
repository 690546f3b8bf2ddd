import Stencil.Text.Space
import Stencil.Text.Word
import Mathlib.Data.List.DropRight
import Mathlib.Data.List.TakeWhile

/-! The fields of a text, seen from the trimmed text: they are its solid parts, and between two of
them stands a gap, a nonempty run of white space. So the fields of a text are known as soon as its
trimmed form is written as solid parts joined by gaps, and the other way round. -/
namespace Stencil.Text

/-- A nonempty run of white space. -/
def IsGap (gap : Text) : Prop := gap ≠ [] ∧ ∀ c ∈ gap, isSpace c = true

/-- A nonempty run without white space. -/
def IsSolid (part : Text) : Prop := part ≠ [] ∧ ∀ c ∈ part, isSpace c = false

/-- Solid parts with a gap between each and the next. -/
inductive Joined : List Text → Text → Prop
  | one {part : Text} (hpart : IsSolid part) : Joined [part] part
  | cons {part gap : Text} {parts : List Text} {t : Text} (hpart : IsSolid part) (hgap : IsGap gap)
      (tail : Joined parts t) : Joined (part :: parts) (part ++ gap ++ t)

theorem eq_of_joined_singleton {part t : Text} (h : Joined [part] t) : t = part := by
  cases h with
  | one _ => rfl
  | cons _ _ tail => cases tail

theorem fields_of_isSolid {part : Text} (h : IsSolid part) : fields part = [part] :=
  fields_of_forall h.1 h.2

theorem fields_space_append {lead : Text} (h : ∀ c ∈ lead, isSpace c = true) (cs : Text) :
    fields (lead ++ cs) = fields cs := by
  induction lead with
  | nil => rfl
  | cons c lead ih =>
    have hc := fields_append_space (h c List.mem_cons_self) [] (lead ++ cs)
    rw [fields_nil, List.nil_append, List.nil_append] at hc
    rw [List.cons_append, hc, ih fun d hd => h d (List.mem_cons_of_mem c hd)]

theorem fields_append_spaces {trail : Text} (h : ∀ c ∈ trail, isSpace c = true) (cs : Text) :
    fields (cs ++ trail) = fields cs := by
  cases trail with
  | nil => rw [List.append_nil]
  | cons c trail =>
    have htrail := fields_space_append (fun d hd => h d (List.mem_cons_of_mem c hd)) []
    rw [List.append_nil] at htrail
    rw [fields_append_space (h c List.mem_cons_self), htrail, fields_nil, List.append_nil]

/-- Trimming takes white space off both ends and nothing else. -/
theorem exists_append_trim (cs : Text) : ∃ lead trail : Text, (∀ c ∈ lead, isSpace c = true) ∧
    (∀ c ∈ trail, isSpace c = true) ∧ cs = lead ++ trim cs ++ trail := by
  refine ⟨cs.takeWhile isSpace, (trimStart cs).rtakeWhile isSpace,
    fun c hc => List.mem_takeWhile_imp hc, fun c hc => List.mem_rtakeWhile_imp hc, ?_⟩
  have hend : trim cs ++ (trimStart cs).rtakeWhile isSpace = trimStart cs :=
    List.rdropWhile_append_rtakeWhile
  rw [List.append_assoc, hend, trimStart, List.takeWhile_append_dropWhile]

theorem fields_trim (cs : Text) : fields (trim cs) = fields cs := by
  obtain ⟨lead, trail, hlead, htrail, hcs⟩ := exists_append_trim cs
  conv_rhs => rw [hcs, List.append_assoc, fields_space_append hlead, fields_append_spaces htrail]

/-- What is in a text is white space or stays when the text is trimmed. -/
theorem isSpace_or_mem_trim {c : CodePoint} {cs : Text} (h : c ∈ cs) :
    isSpace c = true ∨ c ∈ trim cs := by
  obtain ⟨lead, trail, hlead, htrail, hcs⟩ := exists_append_trim cs
  rw [hcs, List.mem_append, List.mem_append] at h
  obtain (h | h) | h := h
  · exact .inl (hlead c h)
  · exact .inr h
  · exact .inl (htrail c h)

/-- What is dropped while it holds does not hold of what comes first then. -/
private theorem of_mem_head?_dropWhile {α : Type} {p : α → Bool} {as : List α} {a : α}
    (h : a ∈ (as.dropWhile p).head?) : p a = false := by
  have hnot := List.head?_dropWhile_not p as
  rw [Option.mem_def.mp h] at hnot
  exact hnot

theorem not_isSpace_of_mem_head?_trim {c : CodePoint} {cs : Text} (h : c ∈ (trim cs).head?) :
    isSpace c = false := by
  have hpre : trim cs <+: trimStart cs := List.rdropWhile_prefix isSpace (trimStart cs)
  obtain ⟨rest, hrest⟩ := hpre
  have hhead : c ∈ (cs.dropWhile isSpace).head? := by
    rw [← trimStart, ← hrest, List.head?_append, Option.mem_def.mp h]
    rfl
  exact of_mem_head?_dropWhile hhead

/-- No white space is left at the end of a trimmed text. -/
theorem eq_nil_of_suffix_trim {tail cs : Text} (h : tail <:+ trim cs)
    (hspace : ∀ c ∈ tail, isSpace c = true) : tail = [] := by
  by_contra hne
  have hcs : trim cs ≠ [] := fun hnil => hne (List.suffix_nil.mp (hnil ▸ h))
  have hlast := List.rdropWhile_last_not isSpace (trimStart cs) hcs
  have hsame : tail.getLast hne = (trim cs).getLast hcs := h.getLast hne
  exact hlast (hsame ▸ hspace _ (List.getLast_mem hne))

/-- The first part of a text that does not begin with white space. -/
theorem exists_isSolid_append {t : Text} (hne : t ≠ [])
    (hstart : ∀ c ∈ t.head?, isSpace c = false) : ∃ part rest : Text,
      t = part ++ rest ∧ IsSolid part ∧ ∀ c ∈ rest.head?, isSpace c = true := by
  refine ⟨t.takeWhile (!isSpace ·), t.dropWhile (!isSpace ·),
    List.takeWhile_append_dropWhile.symm, ⟨?_, ?_⟩, ?_⟩
  · obtain ⟨c, t, rfl⟩ := List.exists_cons_of_ne_nil hne
    simp [hstart c rfl]
  · intro c hc
    simpa using List.mem_takeWhile_imp hc
  · intro c hc
    simpa using of_mem_head?_dropWhile hc

/-- A text with solid ends is its fields with gaps between them. -/
theorem joined_fields {t : Text} (hne : t ≠ []) (hstart : ∀ c ∈ t.head?, isSpace c = false)
    (hend : ∀ tail, tail <:+ t → (∀ c ∈ tail, isSpace c = true) → tail = []) :
    Joined (fields t) t := by
  -- Off goes the first part with the gap behind it; what is left has solid ends again.
  induction hlen : t.length using Nat.strong_induction_on generalizing t with
  | _ n ih =>
  obtain ⟨part, rest, hsplit, hpart, hhead⟩ := exists_isSolid_append hne hstart
  cases rest with
  | nil =>
    obtain rfl : t = part := by rw [hsplit, List.append_nil]
    rw [fields_of_isSolid hpart]
    exact .one hpart
  | cons c rest =>
    have hc : isSpace c = true := hhead c rfl
    have hgap : IsGap (c :: rest.takeWhile isSpace) := by
      refine ⟨List.cons_ne_nil _ _, ?_⟩
      rintro d (_ | ⟨_, hd⟩)
      · exact hc
      · exact List.mem_takeWhile_imp hd
    have ht : t = part ++ (c :: rest.takeWhile isSpace) ++ rest.dropWhile isSpace := by
      rw [hsplit, List.append_assoc, List.cons_append, List.takeWhile_append_dropWhile]
    have hfields : fields t = part :: fields (rest.dropWhile isSpace) := by
      rw [ht, List.append_assoc, List.cons_append, fields_append_space hc,
        fields_of_isSolid hpart,
        fields_space_append fun d hd => List.mem_takeWhile_imp hd, List.singleton_append]
    have hnonempty : rest.dropWhile isSpace ≠ [] := by
      intro hnil
      rw [hnil, List.append_nil] at ht
      exact hgap.1 (hend _ ⟨part, ht.symm⟩ hgap.2)
    have hshort : (rest.dropWhile isSpace).length < n := by
      rw [← hlen, ht]
      simp only [List.length_append, List.length_cons]
      omega
    have hjoined := ih _ hshort hnonempty (fun d => of_mem_head?_dropWhile)
      (fun tail htail => hend tail (htail.trans ⟨_, ht.symm⟩)) rfl
    rw [hfields]
    exact ht ▸ .cons hpart hgap hjoined

theorem fields_of_joined {parts : List Text} {t : Text} (h : Joined parts t) :
    fields t = parts := by
  induction h with
  | one hpart => exact fields_of_isSolid hpart
  | @cons part gap parts t hpart hgap tail ih =>
    obtain ⟨c, gap, rfl⟩ := List.exists_cons_of_ne_nil hgap.1
    rw [List.append_assoc, List.cons_append, fields_append_space (hgap.2 c List.mem_cons_self),
      fields_of_isSolid hpart,
      fields_space_append (fun d hd => hgap.2 d (List.mem_cons_of_mem c hd)), ih,
      List.singleton_append]

/-- The fields of a text are what its trimmed form is joined of. -/
theorem fields_eq_iff {parts : List Text} (hne : parts ≠ []) (cs : Text) :
    fields cs = parts ↔ Joined parts (trim cs) := by
  constructor
  · rintro rfl
    rw [← fields_trim]
    refine joined_fields (fun hnil => hne ?_) (fun c => not_isSpace_of_mem_head?_trim)
      (fun tail => eq_nil_of_suffix_trim)
    rw [← fields_trim, hnil, fields_nil]
  · intro h
    rw [← fields_trim, fields_of_joined h]

namespace Joined

variable {parts : List Text} {t : Text}

theorem ne_nil (h : Joined parts t) : t ≠ [] := by
  cases h with
  | one hpart => exact hpart.1
  | cons hpart hgap tail => simp [hpart.1]

theorem not_isSpace_of_mem_head? (h : Joined parts t) {c : CodePoint} (hc : c ∈ t.head?) :
    isSpace c = false := by
  cases h with
  | one hpart => exact hpart.2 c (List.mem_of_head? hc)
  | cons hpart hgap tail =>
    rw [List.append_assoc, List.head?_append_of_ne_nil _ hpart.1] at hc
    exact hpart.2 c (List.mem_of_head? hc)

theorem not_isSpace_of_mem_getLast? (h : Joined parts t) {c : CodePoint} (hc : c ∈ t.getLast?) :
    isSpace c = false := by
  induction h with
  | one hpart => exact hpart.2 c (List.mem_of_getLast? hc)
  | cons hpart hgap tail ih =>
    rw [List.getLast?_append_of_ne_nil _ tail.ne_nil] at hc
    exact ih hc

end Joined

private theorem dropWhile_isSpace_of_head? {t : Text} (h : ∀ c ∈ t.head?, isSpace c = false) :
    t.dropWhile isSpace = t := by
  cases t with
  | nil => rfl
  | cons c t => rw [List.dropWhile_cons_of_neg (by simp [h c rfl])]

/-- White space around solid parts is trimmed off. -/
theorem trim_between {parts : List Text} {lead t trail : Text} (h : Joined parts t)
    (hlead : ∀ c ∈ lead, isSpace c = true) (htrail : ∀ c ∈ trail, isSpace c = true) :
    trim (lead ++ t ++ trail) = t := by
  have hfront : trimStart (lead ++ t ++ trail) = t ++ trail := by
    rw [trimStart, List.append_assoc, List.dropWhile_append_of_pos hlead]
    refine dropWhile_isSpace_of_head? fun c hc => h.not_isSpace_of_mem_head? ?_
    rwa [List.head?_append_of_ne_nil _ h.ne_nil] at hc
  have hback : (trail.reverse ++ t.reverse).dropWhile isSpace = t.reverse := by
    rw [List.dropWhile_append_of_pos fun c hc => htrail c (List.mem_reverse.mp hc)]
    refine dropWhile_isSpace_of_head? fun c hc => h.not_isSpace_of_mem_getLast? ?_
    rwa [List.head?_reverse] at hc
  rw [trim, hfront, trimEnd, List.reverse_append, hback, List.reverse_reverse]

/-- White space and word characters have nothing in common. -/
theorem isWordChar_of_isSpace {c : CodePoint} (h : isSpace c = true) : isWordChar c = false := by
  have hnone : ∀ r ∈ spaceRanges, ∀ n ∈ List.range' r.1 (r.2 + 1 - r.1),
      covers wordRanges n = false := by decide +kernel
  obtain ⟨r, hr, hlow, hhigh⟩ := exists_range_of_covers h
  exact hnone r hr c.code (List.mem_range'_1.mpr ⟨hlow, by omega⟩)

theorem isWordChar_of_mem {word : Text} (h : isWord word = true) {c : CodePoint} (hc : c ∈ word) :
    isWordChar c = true := by
  rw [isWord, Bool.and_eq_true, List.all_eq_true] at h
  exact h.2 c hc

theorem ne_nil_of_isWord {word : Text} (h : isWord word = true) : word ≠ [] := by
  rintro rfl
  cases h

theorem isSolid_of_isWord {word : Text} (h : isWord word = true) : IsSolid word := by
  refine ⟨ne_nil_of_isWord h, fun c hc => ?_⟩
  by_contra hspace
  rw [Bool.not_eq_false] at hspace
  exact Bool.false_ne_true ((isWordChar_of_isSpace hspace).symm.trans (isWordChar_of_mem h hc))

end Stencil.Text
