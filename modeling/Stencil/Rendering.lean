import Stencil.Bindings
import Stencil.Failure

/-! Rendering, in two steps: each loop is replaced by its body once per record, where the properties
of the record become text, and then each slot that names a scalar is replaced by it. A value that
was put in is text and is not looked at again. -/
namespace Stencil

namespace Node

/-- The node within a loop's body for one record. Properties that the record lacks are empty. -/
def bindRecord (item : Text) (record : Record) : Node → Node
  | slot position reference raw =>
    match nonempty? reference.attr with
    | some attr =>
      if reference.name = item then text position ((record.get? attr).getD [])
      else slot position reference raw
    | none => slot position reference raw
  | node => node

/-- The opening tag as written, or in the usual spelling. -/
def loopExpression (item collection raw : Text) : Text :=
  if raw = [] then "\x7b% for " ++ item ++ " in " ++ collection ++ " %\x7d" else raw

/-- Repeats a loop's body; any other node stays. -/
def unroll (bindings : Bindings) (template : Option Text) :
    Node → Except TemplateError (List Node)
  | loop position item collection raw body =>
    let fail fault := Except.error (.rendering ⟨fault, template, some position.line⟩)
    let expression := loopExpression item collection raw
    match bindings.get? collection with
    | none => fail (.missingCollection collection (some expression))
    | some (.scalar _) => fail (.notRecords collection expression)
    | some (.records records) =>
      .ok (records.flatMap fun record => body.map (bindRecord item record))
  | node => .ok [node]

def unrollAll (bindings : Bindings) (template : Option Text) (nodes : List Node) :
    Except TemplateError (List Node) := do
  let bodies ← nodes.mapM (unroll bindings template)
  return bodies.flatten

/-- The text of a node. A slot without a value is written as in the source, or is an error where
rendering is strict. -/
def write (bindings : Bindings) (strict : Bool) (template : Option Text) :
    Node → Except Failure Text
  | text _ value => .ok value
  | slot position reference raw =>
    match reference.attr, bindings.get? reference.name with
    | none, some (.scalar value) => .ok value
    | _, _ =>
      if strict then
        let fault := RenderFault.undefinedAmong reference.path bindings.keys
        .error (.template (.rendering ⟨fault, template, some position.line⟩))
      else .ok raw
  | loop .. => .error .strayLoop
  | block .. => .error .strayBlock

def writeAll (bindings : Bindings) (strict : Bool) (template : Option Text) (nodes : List Node) :
    Except Failure Text := do
  let texts ← nodes.mapM (write bindings strict template)
  return texts.flatten

/-- Both steps of rendering. -/
def render (bindings : Bindings) (strict : Bool) (template : Option Text) (nodes : List Node) :
    Except Failure Text := do
  let nodes ← (unrollAll bindings template nodes).mapError .template
  writeAll bindings strict template nodes

end Node

end Stencil
