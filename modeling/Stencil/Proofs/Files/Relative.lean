import Mathlib.Data.Set.List
import Stencil.Proofs.Files.Tree

/-! Relative paths as texts. Names are written one after the other with slashes between them. The
text gives the names back, and leads from a directory to where the names lead, if none of its parts
is left out of a path. -/
namespace Stencil

namespace Text

/-- A relative path as it is written if nothing in it can be left out, and nothing leads up. -/
def IsNormal (t : Text) : Prop :=
  ∀ part ∈ t.splitOn (.char '/'), part ≠ [] ∧ part ≠ "." ∧ part ≠ ".."

/-- Each of the parts is spelled as the system spells the name that it gives. -/
def IsSpelled (t : Text) : Prop :=
  ∀ part ∈ t.splitOn (.char '/'), ∃ name : FileName, name.toText = part

/-- Only surrogates can be spelled in a way that the system does not use. -/
theorem isSpelled_ofChars (cs : List Char) : (ofChars cs).IsSpelled := by
  intro part hpart
  have hchars : part ∈ Set.range (List.map CodePoint.char) := by
    rw [Set.range_list_map]
    intro c hc
    by_cases hslash : c = .char '/'
    · exact ⟨'/', hslash.symm⟩
    · have hjoin : [.char '/'].intercalate ((ofChars cs).splitOn (.char '/')) = ofChars cs :=
        List.intercalate_splitOn (CodePoint.char '/')
      have hmem : c ∈ ofChars cs := by
        rw [← hjoin, Path.mem_intercalate_iff hslash]
        exact ⟨part, hpart, hc⟩
      obtain ⟨d, -, hd⟩ := List.mem_map.mp hmem
      exact ⟨d, hd⟩
  obtain ⟨ds, rfl⟩ := hchars
  exact FileName.exists_toText ds

/-- A text without slashes at the end is all behind the last slash. -/
theorem suffix_append_slash_iff {t : Text} (h : .char '/' ∉ t) (front back : Text) :
    t <:+ front ++ .char '/' :: back ↔ t <:+ back := by
  induction front with
  | nil =>
    rw [List.nil_append, List.suffix_cons_iff, or_iff_right]
    rintro rfl
    exact h List.mem_cons_self
  | cons c front ih =>
    rw [List.cons_append, List.suffix_cons_iff, ih, or_iff_right]
    rintro rfl
    exact h (List.mem_cons_of_mem c (List.mem_append_right front List.mem_cons_self))

end Text

namespace Path

variable {names : List FileName} {t : Text}

/-- What a path along names is written as. -/
def relative (names : List FileName) : Text := ("/" : Text).intercalate (names.map FileName.toText)

theorem relative_cons (name : FileName) (hne : names ≠ []) :
    relative (name :: names) = name.toText ++ .char '/' :: relative names := by
  obtain ⟨name', names', rfl⟩ := List.exists_cons_of_ne_nil hne
  rw [relative, List.map_cons, List.map_cons, List.intercalate_cons_cons, List.append_assoc]
  rfl

/-- A text without slashes is at the end of the path if it is at the end of the last name. -/
theorem suffix_relative_iff (h : .char '/' ∉ t) (front : List FileName) (last : FileName) :
    t <:+ relative (front ++ [last]) ↔ t <:+ last.toText := by
  induction front with
  | nil => simp [relative]
  | cons name front ih =>
    rw [List.cons_append, relative_cons name (by simp), Text.suffix_append_slash_iff h, ih]

theorem splitOn_relative (hne : names ≠ []) (h : ∀ name ∈ names, name.IsProper) :
    (relative names).splitOn (.char '/') = names.map FileName.toText := by
  have hslash : ∀ part ∈ names.map FileName.toText, .char '/' ∉ part := by
    intro part hpart
    obtain ⟨name, hname, rfl⟩ := List.mem_map.mp hpart
    exact (h name hname).slash_not_mem_toText
  exact List.splitOn_intercalate (CodePoint.char '/') hslash (by simpa using hne)

theorem isNormal_relative (hne : names ≠ []) (h : ∀ name ∈ names, name.IsProper) :
    (relative names).IsNormal := by
  intro part hpart
  rw [splitOn_relative hne h] at hpart
  obtain ⟨name, hname, rfl⟩ := List.mem_map.mp hpart
  have hproper := h name hname
  exact ⟨hproper.toText_ne_nil, hproper.toText_ne_here, hproper.toText_ne_up⟩

theorem originOf_of_isNormal (h : t.IsNormal) : originOf t = .here := by
  have hfirst : t.head? ≠ some (.char '/') := by
    intro hslash
    obtain ⟨rest, rfl⟩ := List.head?_eq_some_iff.mp hslash
    have hsplit : (.char '/' :: rest : Text).splitOn (.char '/') = [] :: rest.splitOn (.char '/') :=
      List.splitOn_append_cons_self_of_not_mem List.not_mem_nil rest
    exact (h [] (hsplit ▸ List.mem_cons_self)).1 rfl
  unfold originOf
  split <;> simp_all

/-- Nothing of such a text is left out. -/
theorem ofText_of_isNormal (h : t.IsNormal) : ofText t = ⟨.here, t.splitOn (.char '/')⟩ := by
  have hparts : partsOf t = t.splitOn (.char '/') := by
    apply List.filter_eq_self.mpr
    intro part hpart
    obtain ⟨hne, hdot, -⟩ := h part hpart
    simp [hne, hdot]
  rw [ofText, originOf_of_isNormal h, hparts]

theorem join_ofText_relative (d : Path) (hne : names ≠ []) (h : ∀ name ∈ names, name.IsProper) :
    d.join (ofText (relative names)) = d.below names := by
  rw [ofText_of_isNormal (isNormal_relative hne h), splitOn_relative hne h]
  rfl

/-- The names that such a text gives, none of which leads up. -/
theorem exists_relative (h : t.IsNormal) (hspelled : t.IsSpelled) : ∃ names,
    names ≠ [] ∧ (∀ name ∈ names, name ≠ .up) ∧ relative names = t ∧
      ∀ d : Path, d.join (ofText t) = d.below names := by
  obtain ⟨names, hnames⟩ : t.splitOn (.char '/') ∈ Set.range (List.map FileName.toText) := by
    rw [Set.range_list_map]
    exact hspelled
  have hne : names ≠ [] := by
    rintro rfl
    exact List.splitOn_ne_nil _ t hnames.symm
  refine ⟨names, hne, ?_, ?_, ?_⟩
  · rintro name hname rfl
    have hup : FileName.up.toText = ".." := by decide +kernel
    have hpart : FileName.up.toText ∈ t.splitOn (.char '/') :=
      hnames ▸ List.mem_map_of_mem hname
    exact (h _ hpart).2.2 hup
  · rw [relative, hnames]
    exact List.intercalate_splitOn (CodePoint.char '/')
  · intro d
    rw [ofText_of_isNormal h, ← hnames]
    rfl

end Path

end Stencil
