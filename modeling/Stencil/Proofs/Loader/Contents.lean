import Stencil.Loader
import Stencil.Proofs.Table

/-! What a loader finds depends on what the stores hold: the files, the mappings and the answers of
the scripts. What scripts were asked for before makes no difference, and reading changes nothing
else. So a loader whose stores nobody changes gives one answer for each name, however often and in
whatever order it is read. -/
namespace Stencil

namespace Stores

/-- The same files, mappings and answers. What scripts were asked for may differ. -/
structure SameContents (s s' : Stores) : Prop where
  tree : s.tree = s'.tree
  mapping : ∀ store, s.mapping store = s'.mapping store
  answers : ∀ store, (s.script store).answers = (s'.script store).answers

variable {s s' s'' : Stores}

theorem SameContents.refl (s : Stores) : s.SameContents s := ⟨rfl, fun _ => rfl, fun _ => rfl⟩

theorem SameContents.symm (h : s.SameContents s') : s'.SameContents s where
  tree := h.tree.symm
  mapping store := (h.mapping store).symm
  answers store := (h.answers store).symm

theorem SameContents.trans (h : s.SameContents s') (h' : s'.SameContents s'') :
    s.SameContents s'' where
  tree := h.tree.trans h'.tree
  mapping store := (h.mapping store).trans (h'.mapping store)
  answers store := (h.answers store).trans (h'.answers store)

theorem script_ask (s : Stores) (store : String) (name : Text) (store' : String) :
    (s.ask store name).2.script store' =
      if store' = store then ((s.script store).ask name).2 else s.script store' := by
  simp only [ask, script, Table.get?_put]
  split <;> rfl

/-- A script that is asked keeps its answers. -/
theorem sameContents_ask (s : Stores) (store : String) (name : Text) :
    (s.ask store name).2.SameContents s := by
  refine ⟨rfl, fun _ => rfl, fun store' => ?_⟩
  rw [script_ask]
  split
  · rename_i h
    rw [h]
    rfl
  · rfl

theorem SameContents.ask_fst (h : s.SameContents s') (store : String) (name : Text) :
    (s.ask store name).1 = (s'.ask store name).1 := by
  have hanswers := h.answers store
  simp only [ask, Script.ask, hanswers]

end Stores

namespace Loader

open Stores (SameContents)

mutual

/-- A loader finds the same in stores that hold the same, and leaves what they hold. -/
theorem read_congr (name : Text) : (l : Loader) → ∀ {s s' : Stores}, s.SameContents s' →
    (l.read name s).1 = (l.read name s').1 ∧ (l.read name s).2.SameContents s
  | files directories encoding suffix, s, s', h => by
    simp only [read, h.tree, SameContents.refl, and_self]
  | mapping store, s, s', h => by
    simp only [read, h.mapping, SameContents.refl, and_self]
  | choice loaders, s, s', h => by
    rw [read, read]
    exact readFirst_congr name loaders.length loaders h
  | function store, s, s', h => by
    simp only [read, h.ask_fst, Stores.sameContents_ask, and_self]
  | custom store, s, s', h => by
    simp only [read, h.ask_fst, Stores.sameContents_ask, and_self]

theorem readFirst_congr (name : Text) (count : Nat) : (loaders : List Loader) →
    ∀ {s s' : Stores}, s.SameContents s' →
    (readFirst name count s loaders).1 = (readFirst name count s' loaders).1 ∧
      (readFirst name count s loaders).2.SameContents s
  | [], s, s', _ => by
    simp only [readFirst, SameContents.refl, and_self]
  | loader :: loaders, s, s', h => by
    obtain ⟨hfirst, hleft⟩ := read_congr name loader h
    obtain ⟨-, hleft'⟩ := read_congr name loader (SameContents.refl s')
    rw [readFirst, readFirst]
    rcases hread : loader.read name s with ⟨result, t⟩
    rcases hread' : loader.read name s' with ⟨result', t'⟩
    rw [hread] at hfirst hleft
    rw [hread'] at hfirst hleft'
    obtain rfl : result = result' := hfirst
    have hrest := readFirst_congr name count loaders (hleft.trans (h.trans hleft'.symm))
    cases result with
    | ok source => exact ⟨rfl, hleft⟩
    | error f =>
      cases f with
      | template e =>
        cases e with
        | notFound n => exact ⟨hrest.1, hrest.2.trans hleft⟩
        | _ => exact ⟨rfl, hleft⟩
      | _ => exact ⟨rfl, hleft⟩

end

/-! A loader fails because it does not find the template or because it cannot read it. -/

theorem readFiles_ne_rendering {tree : FileTree} {encoding : String} {suffix name : Text}
    {all directories : List Path} {f : Failure}
    (h : readFiles tree encoding suffix name all directories = .error f) (error : RenderError) :
    f ≠ .template (.rendering error) := by
  rintro rfl
  induction directories with
  | nil => cases h
  | cons directory directories ih =>
    rw [readFiles] at h
    split at h
    · split at h
      · cases h
      · split at h <;> cases h
    · cases h
    · cases h
    · exact ih h
    · exact ih h

theorem ofFunction_ne_rendering {name : Text} {answer : Answer} {f : Failure}
    (h : ofFunction name answer = .error f) (error : RenderError) :
    f ≠ .template (.rendering error) := by
  rintro rfl
  cases answer with
  | failure f =>
    rw [ofFunction] at h
    split at h <;> cases h
  | _ => cases h

theorem ofCustom_ne_rendering {name : Text} {answer : Answer} {f : Failure}
    (h : ofCustom name answer = .error f) (error : RenderError) :
    f ≠ .template (.rendering error) := by
  rintro rfl
  cases answer <;> cases h

mutual

theorem read_ne_rendering {name : Text} {f : Failure} (error : RenderError) :
    (l : Loader) → ∀ {stores : Stores}, (l.read name stores).1 = .error f →
      f ≠ .template (.rendering error)
  | files directories encoding suffix, _, h => readFiles_ne_rendering h error
  | mapping store, stores, h => by
    rintro rfl
    rw [read, readMapping] at h
    split at h <;> cases h
  | choice loaders, _, h => readFirst_ne_rendering error loaders.length loaders h
  | function _, _, h => ofFunction_ne_rendering h error
  | custom _, _, h => ofCustom_ne_rendering h error

theorem readFirst_ne_rendering {name : Text} {f : Failure} (error : RenderError) (count : Nat) :
    (loaders : List Loader) → ∀ {stores : Stores},
      (readFirst name count stores loaders).1 = .error f → f ≠ .template (.rendering error)
  | [], _, h => by
    cases h
    exact nofun
  | loader :: loaders, stores, h => by
    rw [readFirst] at h
    split at h
    · exact readFirst_ne_rendering error count loaders h
    · exact read_ne_rendering error loader h

end

end Loader

end Stencil
