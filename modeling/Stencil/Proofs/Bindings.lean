import Mathlib.Data.List.TakeWhile
import Stencil.Proofs.Rendering.Mentioned

/-! What becomes of a caller's values. If none that is asked for its text lacks one, the names that
stay are those of the values that can be rendered, in their order, and each other one is noted. A
record has the text of the last field of a name that holds something. What comes out can be passed
again: nothing is changed or noted then, and whatever is rendered with it is what is rendered with
the values that it was made of. The fields of an object are looked for in one place, its dictionary
or the slots of its own class, and what is kept elsewhere is lost. -/
namespace Stencil

namespace Object

variable {V : Type}

/-- The attributes that are found where they are looked for. -/
def seen (o : Object V) : List (Text × V) := o.attributes?.getD []

/-- The attributes in the dictionary and those in the slots of all classes. -/
def attributes (o : Object V) : List (Text × V) :=
  o.dictionary.getD [] ++ o.slots.flatten.filterMap fun name => (o.held.lookup name).map (name, ·)

/-- No slot holds anything beside a dictionary, nor does one of a class above that of the object. -/
structure IsPlain (o : Object V) : Prop where
  dictionary : o.dictionary ≠ none → ∀ name ∈ o.slots.flatten, o.held.lookup name = none
  above : ∀ name ∈ o.slots.tail.flatten, o.held.lookup name = none

theorem filterMap_held {o : Object V} {names : List Text}
    (h : ∀ name ∈ names, o.held.lookup name = none) :
    (names.filterMap fun name => (o.held.lookup name).map (name, ·)) = [] := by
  refine List.filterMap_eq_nil_iff.mpr fun name hname => ?_
  rw [h name hname, Option.map_none]

theorem IsPlain.seen_eq {o : Object V} (h : o.IsPlain) : o.seen = o.attributes := by
  rw [seen, attributes?, attributes]
  cases hdictionary : o.dictionary with
  | some entries =>
    have hall := filterMap_held (h.dictionary (hdictionary ▸ Option.some_ne_none entries))
    rw [hall, List.append_nil]
  | none =>
    cases hslots : o.slots with
    | nil => rfl
    | cons names others =>
      have habove : ∀ name ∈ others.flatten, o.held.lookup name = none := by
        have htail := h.above
        rwa [hslots] at htail
      rw [List.flatten_cons, List.filterMap_append, filterMap_held habove, List.append_nil]
      rfl

end Object

namespace Value

/-- Values that have a text or are made of records. -/
inductive Renderable : Value → Prop
  | truth (b : Bool) : Renderable (truth b)
  | integer (n : Int) : Renderable (integer n)
  | double (d : Double) : Renderable (double d)
  | text (s : Text) : Renderable (text s)
  | scalar (s : Text) : Renderable (scalar s)
  | records (rs : List Record) : Renderable (records rs)
  | list {items : List Value} (h : ∀ item ∈ items, item.HasFields) : Renderable (list items)
  | tuple {items : List Value} (h : ∀ item ∈ items, item.HasFields) : Renderable (tuple items)

/-- The items of a value that may be made of records. -/
def items : Value → List Value
  | list items | tuple items => items
  | _ => []

section

variable (attributes : Object Value → List (Text × Value))

/-- The fields of a value in order, under whatever they are named by, if an object has these
attributes. -/
def fields : Value → List (Value × Value)
  | mapping entries => entries
  | object o => (attributes o).map fun (name, value) => (text name, value)
  | scalar s => [(text "value", text s)]
  | records rs => [(text "items", tuple (rs.map ofRecord))]
  | _ => []

/-- What the last field of a name holds, among the fields that hold something. -/
def lastField? (item : Value) (name : Text) : Option Value :=
  ((item.fields attributes).reverse.find? fun (key, value) =>
    key.asText = .ok name && !value.isNone).map Prod.snd

/-- The record has the texts of the fields. -/
def ShownBy (item : Value) (record : Record) : Prop :=
  item.HasFields ∧
    ∀ name, (record.get? name).map Except.ok = (item.lastField? attributes name).map asText

/-- What a value that can be rendered is bound to. -/
inductive BoundTo : Value → Binding → Prop
  | truth {b : Bool} {s : Text} (h : (truth b).asText = .ok s) : BoundTo (truth b) (.scalar s)
  | integer {n : Int} {s : Text} (h : (integer n).asText = .ok s) : BoundTo (integer n) (.scalar s)
  | double {d : Double} {s : Text} (h : (double d).asText = .ok s) : BoundTo (double d) (.scalar s)
  | text (s : Text) : BoundTo (text s) (.scalar s)
  | scalar (s : Text) : BoundTo (scalar s) (.scalar s)
  | records (rs : List Record) : BoundTo (records rs) (.records rs)
  | list {items : List Value} {rs : List Record} (h : List.Forall₂ (ShownBy attributes) items rs) :
      BoundTo (list items) (.records rs)
  | tuple {items : List Value} {rs : List Record}
      (h : List.Forall₂ (ShownBy attributes) items rs) : BoundTo (tuple items) (.records rs)

end

section

variable {attributes attributes' : Object Value → List (Text × Value)}

theorem ShownBy.congr {item : Value} {record : Record} (h : item.ShownBy attributes record)
    (hsame : ∀ o, item = object o → attributes o = attributes' o) :
    item.ShownBy attributes' record := by
  have hfields : item.fields attributes = item.fields attributes' := by
    cases item with
    | object o => rw [fields, fields, hsame o rfl]
    | _ => rfl
  obtain ⟨hhas, hshown⟩ := h
  refine ⟨hhas, fun name => ?_⟩
  rw [hshown name, lastField?, lastField?, hfields]

theorem BoundTo.congr {value : Value} {b : Binding} (h : value.BoundTo attributes b)
    (hsame : ∀ o, object o ∈ value.items → attributes o = attributes' o) :
    value.BoundTo attributes' b := by
  have hitems {items : List Value} {rs : List Record}
      (hshown : List.Forall₂ (ShownBy attributes) items rs)
      (hsame : ∀ o, object o ∈ items → attributes o = attributes' o) :
      List.Forall₂ (ShownBy attributes') items rs := by
    induction hshown with
    | nil => exact .nil
    | cons hitem _ ih =>
      refine .cons (hitem.congr fun o ho => hsame o (ho ▸ List.mem_cons_self)) (ih fun o ho => ?_)
      exact hsame o (List.mem_cons_of_mem _ ho)
  cases h with
  | truth h => exact .truth h
  | integer h => exact .integer h
  | double h => exact .double h
  | text s => exact .text s
  | scalar s => exact .scalar s
  | records rs => exact .records rs
  | list h => exact .list (hitems h hsame)
  | tuple h => exact .tuple (hitems h hsame)

end

theorem fields_seen (item : Value) : item.fields Object.seen = item.fields?.getD [] := by
  cases item with
  | object o =>
    rw [fields, fields?, Object.seen]
    cases o.attributes? <;> rfl
  | _ => rfl

theorem property_eq_ok {field : Value × Value} {entry : Text × Text}
    (h : Record.property field = .ok entry) :
    field.1.asText = .ok entry.1 ∧ field.2.asText = .ok entry.2 := by
  rw [Record.property] at h
  cases hname : field.1.asText with
  | error f =>
    rw [hname] at h
    cases h
  | ok name =>
    cases htext : field.2.asText with
    | error f =>
      rw [hname, htext] at h
      cases h
    | ok text =>
      rw [hname, htext] at h
      obtain rfl := Except.ok.inj h
      exact ⟨rfl, rfl⟩

/-- Of two fields of one name the last that holds something counts. -/
theorem get?_ofFields {fields : List (Value × Value)} {record : Record}
    (h : Record.ofFields fields = .ok record) (name : Text) :
    (record.get? name).map Except.ok = ((fields.reverse.find? fun (key, value) =>
      key.asText = .ok name && !value.isNone).map Prod.snd).map asText := by
  obtain ⟨entries, hentries, rfl⟩ := exists_of_map_eq_ok h
  have hfind : (fields.reverse.find? fun (key, value) =>
        key.asText = .ok name && !value.isNone) =
      ((fields.filter fun (_, value) => !value.isNone).reverse.find? fun (key, _) =>
        key.asText = .ok name) := by
    rw [← List.filter_reverse, List.find?_filter]
    refine congrArg (fields.reverse.find? ·) (funext fun field => ?_)
    simp [Bool.and_comm]
  have hlookup {fields : List (Value × Value)} {entries : List (Text × Text)}
      (h : List.Forall₂ (fun field entry => Record.property field = .ok entry) fields entries) :
      (entries.lookup name).map Except.ok = ((fields.find? fun (key, _) =>
        key.asText = .ok name).map Prod.snd).map asText := by
    induction h with
    | nil => rfl
    | @cons field entry fields entries hfield _ ih =>
      obtain ⟨hkey, htext⟩ := property_eq_ok hfield
      rw [List.lookup_cons, List.find?_cons]
      dsimp only
      rw [hkey]
      by_cases hname : entry.1 = name
      · simp [hname, htext]
      · have hother : (name == entry.1) = false := beq_eq_false_iff_ne.mpr fun h => hname h.symm
        simp [hname, hother, ih]
  rw [Table.get?_ofList, hfind]
  exact hlookup (List.forall₂_reverse_iff.mpr (forall₂_of_mapM hentries))

theorem shownBy_of_toRecord? {item : Value} {record : Record}
    (h : item.toRecord? = .ok (some record)) : item.ShownBy Object.seen record := by
  have hfields : item.HasFields := by
    by_contra hplain
    rw [toRecord?_eq_none_iff.mpr hplain] at h
    cases h
  refine ⟨hfields, fun name => ?_⟩
  rw [lastField?, fields_seen]
  rw [toRecord?] at h
  cases hfound : item.fields? with
  | none =>
    rw [hfound] at h
    cases h
  | some fields =>
    rw [hfound] at h
    obtain ⟨record', hrecord, hsame⟩ := exists_of_map_eq_ok (x := Record.ofFields fields) h
    obtain rfl := Option.some.inj hsame
    exact get?_ofFields hrecord name

theorem forall₂_shownBy_of_toRecords? {items : List Value} {rs : List Record}
    (h : toRecords? items = .ok (some rs)) : List.Forall₂ (ShownBy Object.seen) items rs := by
  obtain ⟨records, hrecords, hall⟩ := exists_of_map_eq_ok h
  clear h
  induction items generalizing records rs with
  | nil =>
    cases hrecords
    cases hall
    exact .nil
  | cons item items ih =>
    obtain ⟨record?, rest, hfirst, hrest, rfl⟩ := mapM_cons_eq_ok hrecords
    rw [List.mapM_cons] at hall
    simp only [id, Option.bind_eq_bind, Option.pure_def] at hall
    obtain ⟨record, rfl, htail⟩ := Option.bind_eq_some_iff.mp hall.symm
    obtain ⟨records', hrecords', hsame⟩ := Option.bind_eq_some_iff.mp htail
    obtain rfl := Option.some.inj hsame
    exact .cons (shownBy_of_toRecord? hfirst) (ih rest hrest hrecords'.symm)

theorem boundTo_of_binding? {value : Value} {b : Binding} (h : value.binding? = .ok (some b)) :
    value.BoundTo Object.seen b := by
  have hitems {items : List Value}
      (h : (toRecords? items).map (·.map Binding.records) = .ok (some b)) :
      ∃ rs, b = .records rs ∧ List.Forall₂ (ShownBy Object.seen) items rs := by
    obtain ⟨rs?, hrs, hsome⟩ := exists_of_map_eq_ok h
    obtain ⟨rs, rfl, rfl⟩ := Option.map_eq_some_iff.mp hsome.symm
    exact ⟨rs, rfl, forall₂_shownBy_of_toRecords? hrs⟩
  have hscalar (value : Value)
      (h : (value.asText.map fun s => some (Binding.scalar s)) = .ok (some b)) :
      ∃ s, b = .scalar s ∧ value.asText = .ok s := by
    obtain ⟨s, hs, hsome⟩ := exists_of_map_eq_ok h
    exact ⟨s, Option.some.inj hsome, hs⟩
  cases value with
  | none | bytes | mapping | object => cases h
  | scalar s => cases h; exact .scalar s
  | records rs => cases h; exact .records rs
  | text s => cases h; exact .text s
  | truth t => obtain ⟨s, rfl, hs⟩ := hscalar (truth t) h; exact .truth hs
  | integer n => obtain ⟨s, rfl, hs⟩ := hscalar (integer n) h; exact .integer hs
  | double d => obtain ⟨s, rfl, hs⟩ := hscalar (double d) h; exact .double hs
  | list items => obtain ⟨rs, rfl, hrs⟩ := hitems h; exact .list hrs
  | tuple items => obtain ⟨rs, rfl, hrs⟩ := hitems h; exact .tuple hrs

theorem not_unrenderable_iff {value : Value} : ¬ value.Unrenderable ↔ value.Renderable := by
  constructor
  · intro h
    cases value with
    | none => exact absurd .none h
    | bytes bs => exact absurd (.bytes bs) h
    | mapping entries => exact absurd (.mapping entries) h
    | object o => exact absurd (.object o) h
    | truth b => exact .truth b
    | integer n => exact .integer n
    | double d => exact .double d
    | text s => exact .text s
    | scalar s => exact .scalar s
    | records rs => exact .records rs
    | list items =>
      refine .list fun item hitem => ?_
      by_contra hplain
      exact h (.list hitem hplain)
    | tuple items =>
      refine .tuple fun item hitem => ?_
      by_contra hplain
      exact h (.tuple hitem hplain)
  · intro h hnot
    cases h with
    | list hfields => cases hnot with | list hitem hplain => exact hplain (hfields _ hitem)
    | tuple hfields => cases hnot with | tuple hitem hplain => exact hplain (hfields _ hitem)
    | truth | integer | double | text | scalar | records => cases hnot

instance (item : Value) : Decidable item.HasFields :=
  decidable_of_iff (item.fields?.isSome = true) <| by
    rw [← not_iff_not, ← fields?_eq_none_iff]
    cases item.fields? <;> simp

theorem renderable_list_iff {items : List Value} :
    (list items).Renderable ↔ ∀ item ∈ items, item.HasFields := by
  refine ⟨fun h => ?_, .list⟩
  cases h with
  | list h => exact h

theorem renderable_tuple_iff {items : List Value} :
    (tuple items).Renderable ↔ ∀ item ∈ items, item.HasFields := by
  refine ⟨fun h => ?_, .tuple⟩
  cases h with
  | tuple h => exact h

instance : DecidablePred Renderable
  | none => isFalse fun h => nomatch h
  | bytes _ => isFalse fun h => nomatch h
  | mapping _ => isFalse fun h => nomatch h
  | object _ => isFalse fun h => nomatch h
  | truth b => isTrue (.truth b)
  | integer n => isTrue (.integer n)
  | double d => isTrue (.double d)
  | text s => isTrue (.text s)
  | scalar s => isTrue (.scalar s)
  | records rs => isTrue (.records rs)
  | list _ => decidable_of_iff _ renderable_list_iff.symm
  | tuple _ => decidable_of_iff _ renderable_tuple_iff.symm

theorem isSome_bound?_iff {value : Value} (h : value.failure? = Option.none) :
    value.bound?.isSome ↔ value.Renderable := by
  rw [← not_unrenderable_iff, ← bound?_eq_none_iff h]
  cases value.bound? <;> simp

end Value

/-- What is bound as a value that is ready to be rendered. -/
def Binding.asValue : Binding → Value
  | scalar s => .scalar s
  | records rs => .records rs

theorem Binding.failure?_asValue (b : Binding) : b.asValue.failure? = none := by
  cases b <;> rfl

theorem Binding.bound?_asValue (b : Binding) : b.asValue.bound? = some b := by
  cases b <;> rfl

/-- Bindings as a context of ready values. -/
def Bindings.asContext (b : Bindings) : Context := b.filterMap fun binding => some binding.asValue

theorem Bindings.entries_asContext (b : Bindings) :
    b.asContext.entries = b.entries.map fun (name, binding) => (name, binding.asValue) := by
  rw [asContext, Table.entries_filterMap]
  simp

namespace Context

variable {c : Context} {b : Bindings}

theorem failure?_asContext (b : Bindings) : b.asContext.failure? = none := by
  rw [failure?, Bindings.entries_asContext, List.findSome?_eq_none_iff]
  intro entry hentry
  obtain ⟨⟨name, binding⟩, -, rfl⟩ := List.mem_map.mp hentry
  exact binding.failure?_asValue

/-- Ready values stand for what they were made from. -/
theorem bindings_asContext (b : Bindings) : b.asContext.bindings = .ok b := by
  have hbound : b.asContext.bound = b := by
    apply Table.ext
    rw [bound, Table.entries_filterMap, Bindings.entries_asContext, List.filterMap_map]
    simp [Binding.bound?_asValue]
  rw [bindings_eq, failure?_asContext, hbound]

theorem keys_bindings (h : c.bindings = .ok b) :
    b.keys = (c.entries.filter fun entry => entry.2.Renderable).map Prod.fst := by
  have hnone := List.findSome?_eq_none_iff.mp (failure?_of_bindings h)
  obtain rfl := bound_of_bindings h
  rw [bound, Table.keys, Table.entries_filterMap]
  generalize c.entries = entries at hnone
  induction entries with
  | nil => rfl
  | cons entry entries ih =>
    obtain ⟨hfirst, hrest⟩ := List.forall_mem_cons.mp hnone
    have hiff : entry.2.bound?.isSome ↔ entry.2.Renderable := Value.isSome_bound?_iff hfirst
    rw [List.filterMap_cons, List.filter_cons]
    cases hbound : entry.2.bound? with
    | none =>
      have hnot : ¬ entry.2.Renderable := by simpa [hbound] using hiff
      simp [hnot, ih hrest]
    | some b =>
      have hrenderable : entry.2.Renderable := by simpa [hbound] using hiff
      simp [hrenderable, ih hrest]

/-- The entries that are sorted out before one fails, or all. -/
def sorted (c : Context) : List (Text × Value) :=
  c.entries.takeWhile fun entry => entry.2.failure?.isNone

theorem sorted_of_bindings (h : c.bindings = .ok b) : c.sorted = c.entries := by
  refine List.takeWhile_eq_self_iff.mpr fun entry hentry => ?_
  rw [List.findSome?_eq_none_iff.mp (failure?_of_bindings h) entry hentry]
  rfl

theorem skipped_eq (c : Context) : c.skipped =
    (c.sorted.filter fun entry => ¬ entry.2.Renderable).map fun entry =>
      (entry.1, entry.2.typeName) := by
  have hwhile : (c.entries.takeWhile fun (_, value) => value.binding?.isOk) = c.sorted := by
    refine congrArg (c.entries.takeWhile ·) (funext fun (name, value) => ?_)
    rw [← Value.failureOf_binding?]
    dsimp only
    cases value.binding? <;> rfl
  have hnone : ∀ entry ∈ c.sorted, entry.2.failure? = none := by
    intro entry hentry
    have hholds := List.mem_takeWhile_imp
      (p := fun entry : Text × Value => entry.2.failure?.isNone) hentry
    exact Option.isNone_iff_eq_none.mp hholds
  rw [skipped, hwhile]
  generalize c.sorted = entries at hnone
  induction entries with
  | nil => rfl
  | cons entry entries ih =>
    obtain ⟨hfirst, hrest⟩ := List.forall_mem_cons.mp hnone
    have hiff : entry.2.bound?.isSome ↔ entry.2.Renderable := Value.isSome_bound?_iff hfirst
    rw [List.filterMap_cons, List.filter_cons, ih hrest]
    dsimp only
    rw [Value.binding?_eq_ok hfirst]
    cases hbound : entry.2.bound? with
    | none =>
      have hnot : ¬ entry.2.Renderable := by simpa [hbound] using hiff
      simp [hnot]
    | some b =>
      have hrenderable : entry.2.Renderable := by simpa [hbound] using hiff
      simp [hrenderable]

theorem skipped_asContext (b : Bindings) : b.asContext.skipped = [] := by
  rw [skipped_eq, sorted_of_bindings (bindings_asContext b), Bindings.entries_asContext,
    List.filter_eq_nil_iff.mpr, List.map_nil]
  intro entry hentry
  obtain ⟨⟨name, binding⟩, -, rfl⟩ := List.mem_map.mp hentry
  have hrenderable : binding.asValue.Renderable := by
    cases binding with
    | scalar s => exact .scalar s
    | records rs => exact .records rs
  simpa using hrenderable

/-- The line that notes an entry that binds nothing. -/
def skipLine (entry : Text × Value) : Text :=
  "DEBUG Skipping context key " ++ entry.1.quoted ++ s!": {entry.2.typeName} is not renderable"

/-- What is relied on when the values of a context are sorted out, if objects have these
attributes. -/
structure Keeps (attributes : Object Value → List (Text × Value)) (c : Context) (b : Bindings) :
    Prop where
  keys : b.keys = (c.entries.filter fun entry => entry.2.Renderable).map Prod.fst
  values {name : Text} {value : Value} {binding : Binding} (hvalue : c.get? name = some value)
    (hb : b.get? name = some binding) : value.BoundTo attributes binding
  /-- Rendering notes each value that is left out, in order. -/
  noted {e : Engine} {p : Page} {nodes : List Node} {a : Arguments} {w : Workspace}
    (ha : a.context = .ok c) : (e.finish p nodes a w).2.log.map Event.line =
      w.log.map Event.line ++ (c.entries.filter fun entry => ¬ entry.2.Renderable).map skipLine
  again : b.asContext.bindings = .ok b ∧ b.asContext.skipped = []
  /-- With a parent as well as without it, a page is rendered alike from what was sorted out. -/
  rendered {e : Engine} {p : Page} {a a' : Arguments} {w : Workspace}
    (hself : a.namesSelf = a'.namesSelf) (ha : a.context = .ok c)
    (ha' : a'.context = .ok b.asContext) :
    (e.renderPage p a w).1 = (e.renderPage p a' w).1 ∧
      (e.renderPageAlone p a w).1 = (e.renderPageAlone p a' w).1

theorem log_finish {e : Engine} {p : Page} {nodes : List Node} {a : Arguments} {w : Workspace}
    (ha : a.context = .ok c) : (e.finish p nodes a w).2.log.map Event.line =
      w.log.map Event.line ++ (c.sorted.filter fun entry => ¬ entry.2.Renderable).map skipLine := by
  rw [Engine.finish_eq ha, skipped_eq]
  simp [Workspace.note, Function.comp_def, Event.line, skipLine]

theorem keeps_seen (h : c.bindings = .ok b) : c.Keeps Object.seen b where
  keys := keys_bindings h
  values := by
    intro name value binding hvalue hb
    have hfailure := failure?_of_get? (failure?_of_bindings h) hvalue
    obtain rfl := bound_of_bindings h
    rw [get?_bound, hvalue, Option.bind_some] at hb
    exact Value.boundTo_of_binding? (hb ▸ Value.binding?_eq_ok hfailure)
  noted ha := by rw [log_finish ha, sorted_of_bindings h]
  again := ⟨bindings_asContext b, skipped_asContext b⟩
  rendered := by
    intro e p a a' w hself ha ha'
    have hsame (nodes : List Node) (w : Workspace) :
        (e.finish p nodes a w).1 = (e.finish p nodes a' w).1 := by
      have hbindings : a.bindings = .ok b := by
        rw [Arguments.bindings_of_context ha, h]
        rfl
      have hbindings' : a'.bindings = .ok b := by
        rw [Arguments.bindings_of_context ha', bindings_asContext]
        rfl
      rw [Engine.finish_fst hbindings, Engine.finish_fst hbindings']
    cases hself' : a'.namesSelf with
    | true =>
      rw [Engine.renderPage_of_namesSelf hself', Engine.renderPageAlone_of_namesSelf hself',
        Engine.renderPage_of_namesSelf (hself.trans hself'),
        Engine.renderPageAlone_of_namesSelf (hself.trans hself')]
      exact ⟨rfl, rfl⟩
    | false =>
      rw [Engine.renderPage_eq hself', Engine.renderPageAlone_eq hself',
        Engine.renderPage_eq (hself.trans hself'), Engine.renderPageAlone_eq (hself.trans hself')]
      refine ⟨?_, hsame _ w⟩
      rcases hnodes : e.nodes p w with ⟨f | nodes, w'⟩
      · rw [Engine.bind_eq_error hnodes, Engine.bind_eq_error hnodes]
      · rw [Engine.bind_eq hnodes, Engine.bind_eq hnodes]
        exact hsame nodes w'

/-- What becomes of the values of a context. -/
structure SortsOut (c : Context) : Prop where
  /-- The first value that is asked for its text and has none is what sorting out fails with. -/
  fails : ∀ f, c.bindings = .error f ↔ c.failure? = some f
  /-- Then nothing is rendered, and no entry from there on is noted. -/
  unrendered {f : ShowFailure} (h : c.failure? = some f) {e : Engine} {p : Page}
    {nodes : List Node} {a : Arguments} {w : Workspace} (ha : a.context = .ok c) :
    (e.finish p nodes a w).1 = .error (.showing f) ∧
      (e.finish p nodes a w).2.log.map Event.line = w.log.map Event.line ++
        (c.sorted.filter fun entry => ¬ entry.2.Renderable).map skipLine
  /-- If there is none, what can be rendered is kept as far as it is looked for. -/
  kept : c.failure? = none → ∃ b, c.bindings = .ok b ∧ c.Keeps Object.seen b ∧
    ((∀ name value o, c.get? name = some value → .object o ∈ value.items → o.IsPlain) →
      c.Keeps Object.attributes b)

/-- Sorting out the values of a context keeps what can be rendered, and doing it again changes
nothing. -/
theorem sortsOut_bindings (c : Context) : c.SortsOut where
  fails _ := bindings_eq_error_iff
  unrendered := by
    intro f h e p nodes a w ha
    refine ⟨Engine.finish_eq_error ?_ nodes, log_finish ha⟩
    rw [Arguments.bindings_of_context ha, bindings_eq_error_iff.mpr h]
    rfl
  kept hnone := by
    have hbindings : c.bindings = .ok c.bound := by rw [bindings_eq, hnone]
    have hkeeps := keeps_seen hbindings
    refine ⟨c.bound, hbindings, hkeeps, fun hplain => { hkeeps with values := ?_ }⟩
    intro name value binding hvalue hb
    exact (hkeeps.values hvalue hb).congr fun o ho => (hplain name value o hvalue ho).seen_eq

/-- A thing of a class with the slot `y`, above which there is a class with the slot `x`. -/
def heir : Object Value :=
  ⟨"Heir", .ok "<Heir object>", .ok "<Heir object>", none, [["y"], ["x"]],
    [("x", .text "1"), ("y", .text "2")]⟩

/-- A thing with a dictionary beside its slot. -/
def openThing : Object Value :=
  ⟨"OpenThing", .ok "<OpenThing object>", .ok "<OpenThing object>", some [], [["a", "__dict__"]],
    [("a", .text "1")]⟩

/-- A list of one item under a name. -/
def listOf (item : Value) : Context := ⟨[("xs", .list [item])], by simp⟩

/-- What is kept in another place than the one that is looked at is lost, and an integer that is too
long, which can be rendered, keeps everything from being rendered. -/
theorem not_keeps_heir :
    (¬ ∃ b, (listOf (.object heir)).bindings = .ok b ∧
      (listOf (.object heir)).Keeps Object.attributes b) ∧
    (¬ ∃ b, (listOf (.object openThing)).bindings = .ok b ∧
      (listOf (.object openThing)).Keeps Object.attributes b) ∧
    Engine.longInteger.Renderable ∧
    (listOf (.mapping [(.text "a", Engine.longInteger)])).bindings = .error .tooManyDigits := by
  have hlost {o : Object Value} (record : Record) (name : Text)
      (hbindings : (listOf (.object o)).bindings =
        .ok ⟨[("xs", .records [record])], by simp⟩)
      (hshown : (record.get? name).map Except.ok ≠
        ((Value.object o).lastField? Object.attributes name).map Value.asText) :
      ¬ ∃ b, (listOf (.object o)).bindings = .ok b ∧
        (listOf (.object o)).Keeps Object.attributes b := by
    rintro ⟨b, hb, hkeeps⟩
    obtain rfl := Except.ok.inj (hb.symm.trans hbindings)
    have hvalue : (listOf (.object o)).get? "xs" = some (.list [.object o]) := rfl
    cases hkeeps.values hvalue rfl with
    | list h =>
      cases h with
      | cons hitem _ => exact hshown (hitem.2 name)
  refine ⟨hlost ⟨[("y", "2")], by simp⟩ "x" ?_ ?_, hlost Table.empty "a" ?_ ?_, .integer _, ?_⟩
  · rfl
  · decide +kernel
  · rfl
  · decide +kernel
  · exact bindings_eq_error_iff.mpr (by decide +kernel)

end Context

end Stencil
