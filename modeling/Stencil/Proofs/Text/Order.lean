import Stencil.Text

/-! The order of texts. Code points are told apart by their numbers, so the order of texts by these
numbers is a linear one. -/
namespace Stencil

/-- The numbers of characters leave out those of surrogates. -/
theorem CodePoint.code_injective {c d : CodePoint} (h : c.code = d.code) : c = d := by
  have hapart : ∀ (c : Char) (place : Fin 0x800), c.toNat ≠ firstSurrogate + place := by
    intro c place heq
    have hvalid : c.toNat < 0xd800 ∨ 0xdfff < c.toNat ∧ c.toNat < 0x110000 := c.valid
    have hplace := place.isLt
    rw [firstSurrogate] at heq
    omega
  cases c with
  | char c =>
    cases d with
    | char d => rw [Char.toNat_inj.mp h]
    | surrogate place => exact absurd h (hapart c place)
  | surrogate place =>
    cases d with
    | char d => exact absurd h.symm (hapart d place)
    | surrogate place' => rw [Fin.ext (Nat.add_left_cancel h)]

namespace Text

theorem le_cons_iff {c d : CodePoint} {s t : Text} :
    le (c :: s) (d :: t) = true ↔ c.code < d.code ∨ c.code = d.code ∧ le s t = true := by
  rw [le, Bool.or_eq_true, Bool.and_eq_true, decide_eq_true_iff, decide_eq_true_iff]

theorem le_trans {s t u : Text} (h : s.le t) (h' : t.le u) : s.le u := by
  induction s generalizing t u with
  | nil => rfl
  | cons c s ih =>
    cases t with
    | nil => cases h
    | cons d t =>
      cases u with
      | nil => cases h'
      | cons e u =>
        rw [le_cons_iff] at h h' ⊢
        obtain hlt | ⟨heq, hle⟩ := h
        · left
          omega
        · obtain hlt' | ⟨heq', hle'⟩ := h'
          · left
            omega
          · exact .inr ⟨heq.trans heq', ih hle hle'⟩

theorem le_antisymm {s t : Text} (h : s.le t) (h' : t.le s) : s = t := by
  induction s generalizing t with
  | nil =>
    cases t with
    | nil => rfl
    | cons d t => cases h'
  | cons c s ih =>
    cases t with
    | nil => cases h
    | cons d t =>
      rw [le_cons_iff] at h h'
      have hcode : c.code = d.code := by omega
      rw [CodePoint.code_injective hcode,
        ih (h.resolve_left (by omega)).2 (h'.resolve_left (by omega)).2]

theorem le_total (s t : Text) : s.le t ∨ t.le s := by
  induction s generalizing t with
  | nil => exact .inl rfl
  | cons c s ih =>
    cases t with
    | nil => exact .inr rfl
    | cons d t =>
      rw [le_cons_iff, le_cons_iff]
      obtain hlt | heq | hlt := Nat.lt_trichotomy c.code d.code
      · exact .inl (.inl hlt)
      · obtain hle | hle := ih t
        · exact .inl (.inr ⟨heq, hle⟩)
        · exact .inr (.inr ⟨heq.symm, hle⟩)
      · exact .inr (.inl hlt)

theorem le_refl (s : Text) : s.le s := (le_total s s).elim id id

end Text

end Stencil
