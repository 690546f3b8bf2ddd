import Stencil.Bindings
import Stencil.Proofs.Results
import Stencil.Proofs.Table

/-! Values without text. When values are sorted out, some of them and some of what they contain are
asked for their texts, and the first that has none is what it fails with. If all of them have one,
each value is bound by itself, whatever the others are. -/
namespace Stencil

theorem findSome?_flatMap {α β γ : Type} (f : β → Option γ) (g : α → List β) (as : List α) :
    (as.flatMap g).findSome? f = as.findSome? fun a => (g a).findSome? f := by
  induction as with
  | nil => rfl
  | cons a as ih =>
    rw [List.flatMap_cons, List.findSome?_append, ih, List.findSome?_cons]
    cases (g a).findSome? f <;> rfl

namespace Value

/-- The values whose texts a record has, each property behind its name. -/
def askedFields (item : Value) : List Value :=
  ((item.fields?.getD []).filter fun (_, value) => !value.isNone).flatMap fun (key, value) =>
    [key, value]

/-- The values that are asked for their texts when a value is sorted out, in order. -/
def asked : Value → List Value
  | list items | tuple items => items.flatMap askedFields
  | value@(text _) | value@(integer _) | value@(double _) | value@(truth _) => [value]
  | _ => []

/-- The failure of the first value that is asked for its text and has none. -/
def failure? (value : Value) : Option ShowFailure :=
  value.asked.findSome? fun part => failureOf part.asText

/-- What the value is bound to, if it binds anything. -/
def bound? (value : Value) : Option Binding := value.binding?.toOption.join

theorem failureOf_toRecord? (item : Value) :
    failureOf item.toRecord? = item.askedFields.findSome? fun part => failureOf part.asText := by
  rw [toRecord?, askedFields, findSome?_flatMap]
  cases item.fields? with
  | none => rfl
  | some fields =>
    have hproperty (field : Value × Value) : failureOf (Record.property field) =
        [field.1, field.2].findSome? fun part => failureOf part.asText := by
      rw [Record.property, List.findSome?_cons, List.findSome?_singleton]
      cases field.1.asText with
      | error f => rfl
      | ok name => cases field.2.asText <;> rfl
    rw [failureOf_map, Record.ofFields, failureOf_map, failureOf_mapM, funext hproperty]
    rfl

theorem failureOf_binding? (value : Value) : failureOf value.binding? = value.failure? := by
  have hitems (items : List Value) : failureOf ((toRecords? items).map (·.map Binding.records)) =
      (items.flatMap askedFields).findSome? fun part => failureOf part.asText := by
    rw [failureOf_map, toRecords?, failureOf_map, failureOf_mapM, findSome?_flatMap]
    exact congrArg items.findSome? (funext failureOf_toRecord?)
  have hscalar (value : Value) : failureOf (value.asText.map fun s => some (Binding.scalar s)) =
      [value].findSome? fun part => failureOf part.asText := by
    rw [failureOf_map, List.findSome?_singleton]
  cases value with
  | list items | tuple items => exact hitems items
  | text s => exact hscalar (text s)
  | integer n => exact hscalar (integer n)
  | double d => exact hscalar (double d)
  | truth b => exact hscalar (truth b)
  | none | bytes | mapping | object | scalar | records => rfl

theorem binding?_eq_error_iff {value : Value} {f : ShowFailure} :
    value.binding? = .error f ↔ value.failure? = some f := by
  rw [← failureOf_binding?]
  cases value.binding? with
  | error f' => simp [failureOf]
  | ok b? => simp [failureOf]

theorem binding?_eq_ok {value : Value} (h : value.failure? = Option.none) :
    value.binding? = .ok value.bound? := by
  rw [← failureOf_binding?] at h
  obtain ⟨b?, hb⟩ := failureOf_eq_none_iff.mp h
  rw [bound?, hb]
  rfl

end Value

namespace Context

/-- The failure of the first value, in the order of the names, that fails to be sorted out. -/
def failure? (c : Context) : Option ShowFailure :=
  c.entries.findSome? fun entry => entry.2.failure?

/-- What each value is bound to. -/
def bound (c : Context) : Bindings := c.filterMap Value.bound?

/-- A value that fails ends the sorting out. -/
theorem foldlM_add_eq_error {entries : List (Text × Value)} {f : ShowFailure}
    (h : (entries.findSome? fun entry => entry.2.failure?) = some f) (b : Bindings) :
    entries.foldlM Bindings.add b = .error f := by
  induction entries generalizing b with
  | nil => cases h
  | cons entry entries ih =>
    rw [List.findSome?_cons] at h
    rw [List.foldlM_cons, Bindings.add]
    cases hfirst : entry.2.failure? with
    | some f' =>
      rw [hfirst] at h
      cases h
      rw [Value.binding?_eq_error_iff.mpr hfirst]
      rfl
    | none =>
      rw [hfirst] at h
      rw [Value.binding?_eq_ok hfirst]
      cases entry.2.bound? with
      | none => exact ih h b
      | some binding => exact ih h (b.put entry.1 binding)

/-- The bindings of new names stand behind those that are there, in the order of the values. -/
theorem exists_foldlM_add {entries : List (Text × Value)} {b : Bindings}
    (h : ∀ entry ∈ entries, entry.2.failure? = none) (hnodup : (entries.map Prod.fst).Nodup)
    (hnew : ∀ name ∈ entries.map Prod.fst, name ∉ b.keys) :
    ∃ b', entries.foldlM Bindings.add b = .ok b' ∧ b'.entries =
      b.entries ++ entries.filterMap fun entry => (entry.2.bound?).map (entry.1, ·) := by
  induction entries generalizing b with
  | nil => exact ⟨b, rfl, (List.append_nil b.entries).symm⟩
  | cons entry entries ih =>
    obtain ⟨hfirst, hrest⟩ := List.forall_mem_cons.mp h
    rw [List.map_cons, List.nodup_cons] at hnodup
    rw [List.map_cons, List.forall_mem_cons] at hnew
    rw [List.foldlM_cons, List.filterMap_cons, Bindings.add, Value.binding?_eq_ok hfirst]
    cases entry.2.bound? with
    | none => exact ih hrest hnodup.2 hnew.2
    | some binding =>
      have hput := Table.entries_put hnew.1 binding
      have hlater : ∀ name ∈ entries.map Prod.fst, name ∉ (b.put entry.1 binding).keys := by
        intro name hname hmem
        rw [Table.keys, hput, List.map_append, List.mem_append, List.map_singleton,
          List.mem_singleton] at hmem
        rcases hmem with hold | rfl
        · exact hnew.2 name hname hold
        · exact hnodup.1 hname
      obtain ⟨b', hfold, hentries⟩ := ih hrest hnodup.2 hlater
      refine ⟨b', hfold, ?_⟩
      rw [hentries, hput, List.append_assoc]
      rfl

/-- A context fails as the first of its values that fails, or binds each value by itself. -/
theorem bindings_eq (c : Context) :
    c.bindings = match c.failure? with
      | some f => .error f
      | none => .ok c.bound := by
  cases hfailure : c.failure? with
  | some f => exact foldlM_add_eq_error hfailure Table.empty
  | none =>
    have hall := List.findSome?_eq_none_iff.mp hfailure
    obtain ⟨b, hfold, hentries⟩ := exists_foldlM_add (b := Table.empty) hall c.nodup_keys nofun
    have hbound : b = c.bound := Table.ext hentries
    exact hfold.trans (congrArg Except.ok hbound)

theorem bindings_eq_error_iff {c : Context} {f : ShowFailure} :
    c.bindings = .error f ↔ c.failure? = some f := by
  rw [bindings_eq]
  cases c.failure? with
  | some f' => simp
  | none => simp

theorem failure?_of_bindings {c : Context} {b : Bindings} (h : c.bindings = .ok b) :
    c.failure? = none := by
  rw [bindings_eq] at h
  cases hfailure : c.failure? with
  | some f =>
    rw [hfailure] at h
    cases h
  | none => rfl

theorem bound_of_bindings {c : Context} {b : Bindings} (h : c.bindings = .ok b) : b = c.bound := by
  have hnone := failure?_of_bindings h
  rw [bindings_eq, hnone] at h
  exact (Except.ok.inj h).symm

end Context

end Stencil
