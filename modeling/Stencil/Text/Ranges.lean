/-! Classes of characters given as a table of code point ranges in increasing order. -/
namespace Stencil.Text

/-- Whether a range of the table holds `n`; the search ends at the first range that begins above. -/
def covers : List (Nat × Nat) → Nat → Bool
  | [], _ => false
  | (low, high) :: ranges, n => low ≤ n && (n ≤ high || covers ranges n)

/-- What the table covers lies in one of its ranges. -/
theorem exists_range_of_covers {ranges : List (Nat × Nat)} {n : Nat} (h : covers ranges n) :
    ∃ r ∈ ranges, r.1 ≤ n ∧ n ≤ r.2 := by
  induction ranges with
  | nil => simp [covers] at h
  | cons r ranges ih =>
    obtain ⟨low, high⟩ := r
    simp only [covers, Bool.and_eq_true, Bool.or_eq_true, decide_eq_true_eq] at h
    obtain ⟨hlow, hhigh | hrest⟩ := h
    · exact ⟨_, List.mem_cons_self, hlow, hhigh⟩
    · obtain ⟨r, hr, hn⟩ := ih hrest
      exact ⟨r, List.mem_cons_of_mem _ hr, hn⟩

end Stencil.Text
