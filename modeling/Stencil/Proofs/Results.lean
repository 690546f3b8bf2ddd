import Mathlib.Data.List.Basic
import Mathlib.Data.List.Forall2

/-! Lists of results, each of which may be a failure. There are results of all items, or the first
failure counts. -/
namespace Stencil

/-- The failure in place of a result. -/
def failureOf {ε α : Type} : Except ε α → Option ε
  | .error e => some e
  | .ok _ => none

variable {α β ε ε' : Type}

theorem failureOf_map (f : α → β) (result : Except ε α) :
    failureOf (result.map f) = failureOf result := by
  cases result <;> rfl

theorem failureOf_eq_none_iff {result : Except ε α} :
    failureOf result = none ↔ ∃ a, result = .ok a := by
  cases result with
  | error e => exact iff_of_false nofun nofun
  | ok a => exact iff_of_true rfl ⟨a, rfl⟩

theorem failureOf_eq_some_iff {result : Except ε α} {e : ε} :
    failureOf result = some e ↔ result = .error e := by
  cases result with
  | error e' => rw [failureOf, Option.some_inj, Except.error.injEq]
  | ok a => exact iff_of_false nofun nofun

theorem exists_of_map_eq_ok {f : α → β} {x : Except ε α} {b : β} (h : x.map f = .ok b) :
    ∃ a, x = .ok a ∧ b = f a := by
  cases x with
  | error e => cases h
  | ok a => exact ⟨a, rfl, (Except.ok.inj h).symm⟩

section Each

variable {f g : α → Except ε β} {as : List α} {bs : List β}

theorem mapM_cons_eq_ok {a : α} (h : (a :: as).mapM f = .ok bs) :
    ∃ b rest, f a = .ok b ∧ as.mapM f = .ok rest ∧ bs = b :: rest := by
  rw [List.mapM_cons] at h
  cases hfirst : f a with
  | error e =>
    rw [hfirst] at h
    cases h
  | ok b =>
    cases hrest : as.mapM f with
    | error e =>
      rw [hfirst, hrest] at h
      cases h
    | ok rest =>
      rw [hfirst, hrest] at h
      exact ⟨b, rest, rfl, rfl, (Except.ok.inj h).symm⟩

theorem mapM_congr (h : ∀ a ∈ as, f a = g a) : as.mapM f = as.mapM g := by
  induction as with
  | nil => rfl
  | cons a as ih =>
    have hrest := ih fun a' ha' => h a' (List.mem_cons_of_mem a ha')
    rw [List.mapM_cons, List.mapM_cons, h a List.mem_cons_self, hrest]

/-- Of several results the first failure counts. -/
theorem failureOf_mapM (f : α → Except ε β) (as : List α) :
    failureOf (as.mapM f) = as.findSome? fun a => failureOf (f a) := by
  induction as with
  | nil => rfl
  | cons a as ih =>
    rw [List.mapM_cons, List.findSome?_cons, ← ih]
    cases f a with
    | error e => rfl
    | ok b => cases as.mapM f <;> rfl

/-- Passing the first failure through a function is passing each through it. -/
theorem mapError_mapM (g : ε → ε') (f : α → Except ε β) (as : List α) :
    (as.mapM f).mapError g = as.mapM fun a => (f a).mapError g := by
  induction as with
  | nil => rfl
  | cons a as ih =>
    rw [List.mapM_cons, List.mapM_cons, ← ih]
    cases f a with
    | error e => rfl
    | ok b => cases as.mapM f <;> rfl

theorem forall₂_of_mapM (h : as.mapM f = .ok bs) :
    List.Forall₂ (fun a b => f a = .ok b) as bs := by
  induction as generalizing bs with
  | nil =>
    obtain rfl := Except.ok.inj h
    exact .nil
  | cons a as ih =>
    obtain ⟨b, rest, hfirst, hrest, rfl⟩ := mapM_cons_eq_ok h
    exact .cons hfirst (ih hrest)

theorem exists_of_mem_mapM (h : as.mapM f = .ok bs) {b : β} (hb : b ∈ bs) :
    ∃ a ∈ as, f a = .ok b := by
  induction as generalizing bs with
  | nil =>
    obtain rfl := Except.ok.inj h
    cases hb
  | cons a as ih =>
    obtain ⟨first, rest, hfirst, hrest, rfl⟩ := mapM_cons_eq_ok h
    obtain rfl | hlater := List.mem_cons.mp hb
    · exact ⟨a, List.mem_cons_self, hfirst⟩
    · obtain ⟨a', ha', hresult⟩ := ih hrest hlater
      exact ⟨a', List.mem_cons_of_mem a ha', hresult⟩

theorem exists_ok_of_mapM (h : as.mapM f = .ok bs) {a : α} (ha : a ∈ as) :
    ∃ b, f a = .ok b := by
  induction as generalizing bs with
  | nil => cases ha
  | cons first as ih =>
    obtain ⟨b, rest, hfirst, hrest, rfl⟩ := mapM_cons_eq_ok h
    rcases List.mem_cons.mp ha with rfl | ha
    · exact ⟨b, hfirst⟩
    · exact ih hrest ha

theorem exists_error_of_mapM {e : ε} (h : as.mapM f = .error e) : ∃ a ∈ as, f a = .error e := by
  have hsome : failureOf (as.mapM f) = some e := failureOf_eq_some_iff.mpr h
  rw [failureOf_mapM] at hsome
  obtain ⟨a, ha, hfailure⟩ := List.exists_of_findSome?_eq_some hsome
  exact ⟨a, ha, failureOf_eq_some_iff.mp hfailure⟩

end Each

/-! Lists that are put together of parts, each of which may fail. -/
section Parts

variable {f g : α → Except ε (List β)} {as : List α} {parts : List (List β)} {b : β}

theorem mem_flatten_of_mapM (h : as.mapM f = .ok parts) :
    b ∈ parts.flatten ↔ ∃ a ∈ as, ∃ part, f a = .ok part ∧ b ∈ part := by
  induction as generalizing parts with
  | nil =>
    cases h
    simp
  | cons a as ih =>
    obtain ⟨part, rest, hpart, hrest, rfl⟩ := mapM_cons_eq_ok h
    simp [ih hrest, hpart]

theorem flatten_mapM_congr (h : ∀ a, f a = g a) :
    (do let parts ← as.mapM f; return parts.flatten) = (as.mapM g).map List.flatten := by
  rw [funext h]
  cases as.mapM g <;> rfl

/-- The list can be made of some parts first and of the rest behind them. -/
theorem flatten_mapM_append (f : α → Except ε (List β)) (as as' : List α) :
    (do let parts ← (as ++ as').mapM f; return parts.flatten) = (do
      let first ← (do let parts ← as.mapM f; return parts.flatten)
      let rest ← (do let parts ← as'.mapM f; return parts.flatten)
      return first ++ rest) := by
  rw [List.mapM_append]
  cases as.mapM f with
  | error e => rfl
  | ok parts =>
    cases as'.mapM f with
    | error e => rfl
    | ok parts' => exact congrArg Except.ok List.flatten_append

theorem flatten_mapM_singleton (f : α → Except ε (List β)) (a : α) :
    (do let parts ← [a].mapM f; return parts.flatten) = f a := by
  rw [List.mapM_cons, List.mapM_nil]
  cases f a with
  | error e => rfl
  | ok part => exact congrArg Except.ok (List.append_nil part)

end Parts

end Stencil
