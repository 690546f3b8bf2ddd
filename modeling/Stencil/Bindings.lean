import Stencil.Value.Printer

/-! Bindings: what the names of a template stand for while it is rendered. A caller's values are
sorted out once, before rendering: a text, a number or a truth value becomes a scalar by its text, a
list or tuple of things with fields becomes records, and anything else binds nothing. A value that
is asked for its text and has none ends the sorting out. -/
namespace Stencil

inductive Binding
  | scalar (s : Text)
  | records (rs : List Record)

abbrev Bindings := Table Text Binding

/-- A caller's values by name. -/
abbrev Context := Table Text Value

/-- The attributes of an object as they are looked for: those of its dictionary, or else those that
its class keeps in slots. -/
def Object.attributes? {V : Type} (o : Object V) : Option (List (Text × V)) :=
  match o.dictionary, o.slots with
  | some attributes, _ => some attributes
  | none, names :: _ => some (names.filterMap fun name => (o.held.lookup name).map (name, ·))
  | none, [] => none

namespace Value

def isNone : Value → Bool
  | none => true
  | _ => false

/-- A record as a value with fields. -/
def ofRecord (r : Record) : Value := mapping (r.entries.map fun (name, s) => (text name, text s))

/-- The fields of a value that has any. Ready scalars and records have one field each. -/
def fields? : Value → Option (List (Value × Value))
  | mapping entries => some entries
  | object o => o.attributes?.map fun attributes => attributes.map fun (name, value) =>
      (text name, value)
  | scalar s => some [(text "value", text s)]
  | records rs => some [(text "items", tuple (rs.map ofRecord))]
  | _ => Option.none

end Value

namespace Record

/-- The name and the text of a property. The name of a field is the text of its key. -/
def property (field : Value × Value) : Except ShowFailure (Text × Text) := do
  let name ← field.1.asText
  let text ← field.2.asText
  return (name, text)

/-- A field that holds nothing gives no property. Of two fields of one name the last that holds
something counts. -/
def ofFields (fields : List (Value × Value)) : Except ShowFailure Record :=
  ((fields.filter fun (_, value) => !value.isNone).mapM property).map Table.ofList

end Record

namespace Value

/-- The record that a value with fields makes. -/
def toRecord? (item : Value) : Except ShowFailure (Option Record) :=
  match item.fields? with
  | some fields => (Record.ofFields fields).map some
  | Option.none => .ok Option.none

/-- All the items are made records before it is seen whether one of them makes none. -/
def toRecords? (items : List Value) : Except ShowFailure (Option (List Record)) :=
  (items.mapM toRecord?).map fun records => records.mapM id

def binding? : Value → Except ShowFailure (Option Binding)
  | scalar s => .ok (some (.scalar s))
  | records rs => .ok (some (.records rs))
  | list items | tuple items => (toRecords? items).map (·.map .records)
  | value@(text _) | value@(integer _) | value@(double _) | value@(truth _) =>
    value.asText.map fun s => some (.scalar s)
  | _ => .ok Option.none

end Value

/-- Binds the name of an entry to what its value comes to, or to nothing. -/
def Bindings.add (b : Bindings) (entry : Text × Value) : Except ShowFailure Bindings :=
  entry.2.binding?.map fun
    | some binding => b.put entry.1 binding
    | none => b

namespace Context

/-- What the values are bound to, or the first failure of one that is asked for its text. -/
def bindings (c : Context) : Except ShowFailure Bindings :=
  c.entries.foldlM Bindings.add Table.empty

/-- The names that bind nothing, with the kinds of their values, as far as the values are sorted
out. -/
def skipped (c : Context) : List (Text × String) :=
  (c.entries.takeWhile fun (_, value) => value.binding?.isOk).filterMap fun (name, value) =>
    match value.binding? with
    | .ok none => some (name, value.typeName)
    | _ => none

end Context

end Stencil
