import Mathlib.Algebra.Order.Field.Rat
import Mathlib.Algebra.Order.Field.Basic
import Stencil.Proofs.Text.Order
import Stencil.Text.Similar

/-! The closest of some candidates. Guesses are in order by their shares and, where these are equal,
by their texts, and the closest candidate is the greatest guess. So it depends on which candidates
there are, but neither on their order nor on how often one is given. -/
namespace Stencil.Text

namespace Share

/-- What a share is as a number. -/
def value (s : Share) : ℚ := s.part / s.whole

theorem le_iff_value {s t : Share} (hs : 0 < s.whole) (ht : 0 < t.whole) :
    s.le t = true ↔ s.value ≤ t.value := by
  rw [le, decide_eq_true_iff, value, value,
    div_le_div_iff₀ (Nat.cast_pos.mpr hs) (Nat.cast_pos.mpr ht)]
  exact_mod_cast Iff.rfl

theorem lt_iff_value {s t : Share} (hs : 0 < s.whole) (ht : 0 < t.whole) :
    s.lt t = true ↔ s.value < t.value := by
  rw [lt, Bool.not_eq_true', ← Bool.not_eq_true, le_iff_value ht hs, not_le]

end Share

theorem whole_similarity_pos (places : Places) (as bs : Text) :
    0 < (similarity places as bs).whole := by
  rw [similarity]
  split
  · exact Nat.one_pos
  · exact Nat.pos_of_ne_zero ‹_›

/-- A candidate with its share, if it is close to a name. -/
def guess? (name candidate : Text) : Option (Share × Text) :=
  if isClose (greatestShare candidate name) then
    let share := similarity (solidPlaces name) candidate name
    if isClose share then some (share, candidate) else none
  else none

theorem guess?_eq_some {name candidate : Text} {guess : Share × Text}
    (h : guess? name candidate = some guess) :
    guess.2 = candidate ∧ isClose guess.1 = true ∧ 0 < guess.1.whole := by
  rw [guess?] at h
  split at h
  · dsimp only at h
    split at h
    · rename_i hclose
      cases h
      exact ⟨rfl, hclose, whole_similarity_pos _ _ _⟩
    · cases h
  · cases h

/-- Guesses in order, from the worst to the best. -/
def NoBetter (s t : Share × Text) : Prop :=
  s.1.value < t.1.value ∨ s.1.value = t.1.value ∧ s.2.le t.2 = true

theorem NoBetter.refl (s : Share × Text) : NoBetter s s := .inr ⟨rfl, le_refl s.2⟩

theorem NoBetter.trans {s t u : Share × Text} (h : NoBetter s t) (h' : NoBetter t u) :
    NoBetter s u := by
  obtain hlt | ⟨heq, hle⟩ := h
  · obtain hlt' | ⟨heq', hle'⟩ := h'
    · exact .inl (hlt.trans hlt')
    · exact .inl (heq' ▸ hlt)
  · obtain hlt' | ⟨heq', hle'⟩ := h'
    · exact .inl (heq ▸ hlt')
    · exact .inr ⟨heq.trans heq', le_trans hle hle'⟩

theorem NoBetter.antisymm {s t : Share × Text} (h : NoBetter s t) (h' : NoBetter t s) :
    s.2 = t.2 := by
  obtain hlt | ⟨heq, hle⟩ := h
  · obtain hlt' | ⟨heq', hle'⟩ := h'
    · exact absurd hlt' (not_lt_of_gt hlt)
    · exact absurd heq' (ne_of_gt hlt)
  · obtain hlt' | ⟨heq', hle'⟩ := h'
    · exact absurd heq (ne_of_gt hlt')
    · exact le_antisymm hle hle'

/-- The better of two guesses is one of them, and neither is better than it. -/
theorem better_spec {s t : Share × Text} (hs : 0 < s.1.whole) (ht : 0 < t.1.whole) :
    (better s t = s ∨ better s t = t) ∧ NoBetter s (better s t) ∧ NoBetter t (better s t) := by
  rw [better]
  split
  · rename_i hlt
    exact ⟨.inr rfl, .inl ((Share.lt_iff_value hs ht).mp hlt), .refl t⟩
  · rename_i hst
    split
    · rename_i hlt
      exact ⟨.inl rfl, .refl s, .inl ((Share.lt_iff_value ht hs).mp hlt)⟩
    · rename_i hts
      rw [Share.lt_iff_value hs ht, not_lt] at hst
      rw [Share.lt_iff_value ht hs, not_lt] at hts
      have heq := hts.antisymm hst
      split
      · rename_i hle
        exact ⟨.inr rfl, .inr ⟨heq, hle⟩, .refl t⟩
      · rename_i hle
        exact ⟨.inl rfl, .refl s, .inr ⟨heq.symm, (le_total s.2 t.2).resolve_left hle⟩⟩

/-- A run over guesses ends with one of them that no other is better than. -/
theorem foldl_better_spec {guess : Share × Text} {guesses : List (Share × Text)}
    (h : ∀ s ∈ guess :: guesses, 0 < s.1.whole) :
    guesses.foldl better guess ∈ guess :: guesses ∧
      ∀ s ∈ guess :: guesses, NoBetter s (guesses.foldl better guess) := by
  induction guesses generalizing guess with
  | nil =>
    refine ⟨List.mem_cons_self, fun s hs => ?_⟩
    obtain rfl := List.mem_singleton.mp hs
    exact .refl s
  | cons next guesses ih =>
    have hguess := h guess List.mem_cons_self
    have hnext := h next (List.mem_cons_of_mem _ List.mem_cons_self)
    have hrest := fun s hs => h s (List.mem_cons_of_mem _ (List.mem_cons_of_mem _ hs))
    obtain ⟨hone, hfirst, hsecond⟩ := better_spec hguess hnext
    have hpos : 0 < (better guess next).1.whole := by
      obtain heq | heq := hone <;> rw [heq] <;> assumption
    obtain ⟨hmem, hbest⟩ := ih (List.forall_mem_cons.mpr ⟨hpos, hrest⟩)
    rw [List.foldl_cons]
    refine ⟨?_, ?_⟩
    · obtain hmem | hmem := List.mem_cons.mp hmem
      · rw [hmem]
        obtain heq | heq := hone <;> simp [heq]
      · exact List.mem_cons_of_mem _ (List.mem_cons_of_mem _ hmem)
    · have hbetter := hbest _ List.mem_cons_self
      refine List.forall_mem_cons.mpr ⟨hfirst.trans hbetter, List.forall_mem_cons.mpr
        ⟨hsecond.trans hbetter, fun s hs => hbest s (List.mem_cons_of_mem _ hs)⟩⟩

/-- One of the candidates that is close to a name and that no other one is a better guess than. -/
def IsClosest (name : Text) (candidates : List Text) (candidate : Text) : Prop :=
  candidate ∈ candidates ∧ ∃ guess, guess? name candidate = some guess ∧
    ∀ other ∈ candidates, ∀ s, guess? name other = some s → NoBetter s guess

theorem IsClosest.unique {name candidate candidate' : Text} {candidates : List Text}
    (h : IsClosest name candidates candidate) (h' : IsClosest name candidates candidate') :
    candidate = candidate' := by
  obtain ⟨hmem, guess, hguess, hbest⟩ := h
  obtain ⟨hmem', guess', hguess', hbest'⟩ := h'
  have heq := (hbest' candidate hmem guess hguess).antisymm (hbest candidate' hmem' guess' hguess')
  rwa [(guess?_eq_some hguess).1, (guess?_eq_some hguess').1] at heq

theorem closest?_eq (name : Text) (candidates : List Text) :
    closest? name candidates = match candidates.filterMap (guess? name) with
      | [] => none
      | guess :: guesses => some (guesses.foldl better guess).2 := rfl

/-- There is a closest candidate unless none is close at all. -/
theorem closest?_spec (name : Text) (candidates : List Text) :
    match closest? name candidates with
    | some candidate => IsClosest name candidates candidate
    | none => ∀ candidate ∈ candidates, guess? name candidate = none := by
  rw [closest?_eq]
  cases hclose : candidates.filterMap (guess? name) with
  | nil => exact List.filterMap_eq_nil_iff.mp hclose
  | cons guess guesses =>
    have hsome : ∀ s ∈ guess :: guesses, ∃ candidate ∈ candidates,
        guess? name candidate = some s := fun s hs => List.mem_filterMap.mp (hclose ▸ hs)
    have hpos : ∀ s ∈ guess :: guesses, 0 < s.1.whole := fun s hs => by
      obtain ⟨candidate, -, hguess⟩ := hsome s hs
      exact (guess?_eq_some hguess).2.2
    obtain ⟨hmem, hbest⟩ := foldl_better_spec hpos
    obtain ⟨candidate, hcandidate, hguess⟩ := hsome _ hmem
    dsimp only
    rw [(guess?_eq_some hguess).1]
    refine ⟨hcandidate, _, hguess, fun other hother s hs => hbest s ?_⟩
    rw [← hclose]
    exact List.mem_filterMap.mpr ⟨other, hother, hs⟩

theorem isClosest_of_closest? {name candidate : Text} {candidates : List Text}
    (h : closest? name candidates = some candidate) : IsClosest name candidates candidate := by
  have hspec := closest?_spec name candidates
  rwa [h] at hspec

theorem closest?_eq_none_iff {name : Text} {candidates : List Text} :
    closest? name candidates = none ↔ ∀ candidate ∈ candidates, guess? name candidate = none := by
  rw [← List.filterMap_eq_nil_iff, closest?_eq]
  cases candidates.filterMap (guess? name) <;> simp

/-- The order of the candidates makes no difference. -/
theorem closest?_congr {name : Text} {candidates candidates' : List Text}
    (h : ∀ candidate, candidate ∈ candidates ↔ candidate ∈ candidates') :
    closest? name candidates = closest? name candidates' := by
  cases hclosest : closest? name candidates with
  | none =>
    refine (closest?_eq_none_iff.mpr fun candidate hcandidate => ?_).symm
    exact closest?_eq_none_iff.mp hclosest candidate ((h candidate).mpr hcandidate)
  | some candidate =>
    obtain ⟨hmem, guess, hguess, hbest⟩ := isClosest_of_closest? hclosest
    have hsame : IsClosest name candidates' candidate :=
      ⟨(h candidate).mp hmem, guess, hguess, fun other hother => hbest other ((h other).mpr hother)⟩
    cases hclosest' : closest? name candidates' with
    | none =>
      have hnone := closest?_eq_none_iff.mp hclosest' candidate hsame.1
      cases hguess.symm.trans hnone
    | some candidate' => rw [hsame.unique (isClosest_of_closest? hclosest')]

end Stencil.Text
