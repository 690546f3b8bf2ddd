import Stencil.Position
import Mathlib.Tactic.Common

/-! The order of positions: by lines, and within a line by columns. Reading on goes forward in it.
-/
namespace Stencil.Position

instance : LT Position where
  lt p q := p.line < q.line ∨ p.line = q.line ∧ p.column < q.column

theorem lt_iff {p q : Position} :
    p < q ↔ p.line < q.line ∨ p.line = q.line ∧ p.column < q.column := Iff.rfl

instance : DecidableRel (fun p q : Position => p < q) := fun _ _ =>
  decidable_of_iff _ lt_iff.symm

theorem lt_irrefl (p : Position) : ¬ p < p := by
  rw [lt_iff]
  omega

theorem lt_trans {p q r : Position} (hpq : p < q) (hqr : q < r) : p < r := by
  rw [lt_iff] at *
  omega

theorem lt_asymm {p q : Position} (h : p < q) : ¬ q < p := fun h' => lt_irrefl p (lt_trans h h')

theorem lt_step (p : Position) (c : CodePoint) : p < p.step c := by
  rw [lt_iff, step]
  split
  · exact .inl (Int.lt_succ p.line)
  · exact .inr ⟨rfl, Int.lt_succ p.column⟩

/-- Reading anything at all leads to a later position. -/
theorem lt_advance (p : Position) {cs : Text} (h : cs ≠ []) : p < p.advance cs := by
  induction cs generalizing p with
  | nil => exact absurd rfl h
  | cons c cs ih =>
    have hfirst : p < p.step c := lt_step p c
    cases cs with
    | nil => exact hfirst
    | cons d cs => exact lt_trans hfirst (ih (p.step c) (List.cons_ne_nil d cs))

/-- Reading goes on by one line for each line feed. -/
theorem line_advance (p : Position) (cs : Text) :
    (p.advance cs).line = p.line + cs.count (.char '\n') := by
  induction cs generalizing p with
  | nil => simp [advance]
  | cons c cs ih =>
    have hnext : p.advance (c :: cs) = (p.step c).advance cs := rfl
    rw [hnext, ih, List.count_cons, step]
    by_cases hc : c = .char '\n'
    · simp only [hc, if_true, beq_self_eq_true]
      omega
    · simp [hc]

end Stencil.Position
