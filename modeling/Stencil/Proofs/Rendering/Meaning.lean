import Stencil.Engine
import Stencil.Proofs.Failure.Showing

/-! What a page means, read off in one walk from the first node to the last. A text means itself, a
slot its value, a loop its body once per record, and a block its own body or, where a parent is
filled in, the trimmed body of the last block of its name. A loop over a missing name or a scalar
and, where rendering is strict, a slot without a value have no text; the first of them that is met
is what the whole means instead, and a loop goes before any slot. A call with arguments that cannot
be passed or have no text comes to nothing but this. -/
namespace Stencil

/-- A text, or the error that takes the place of one. -/
inductive Meaning
  | text (t : Text)
  /-- A slot has no value. -/
  | unresolved (e : RenderError)
  /-- A loop is over a missing name or a scalar. -/
  | unrepeatable (e : RenderError)
deriving DecidableEq, Repr

namespace Meaning

/-- One meaning after the other. Of two errors of a kind the first counts. -/
def followedBy : Meaning → Meaning → Meaning
  | unrepeatable e, _ => unrepeatable e
  | _, unrepeatable e => unrepeatable e
  | unresolved e, _ => unresolved e
  | _, unresolved e => unresolved e
  | text t, text t' => text (t ++ t')

def all (meanings : List Meaning) : Meaning := meanings.foldr followedBy (text [])

def result : Meaning → Except Failure Text
  | text t => .ok t
  | unresolved e | unrepeatable e => .error (.template (.rendering e))

end Meaning

namespace Arguments

/-- The positional context, if there is one. -/
def passed? (a : Arguments) : Option Context := a.positional.head?.join

/-- What is passed by a name. A value by name goes before one of the context. -/
def value? (a : Arguments) (name : Text) : Option Value :=
  (a.named.reverse.lookup name).or (a.passed?.bind (·.get? name))

def binding? (a : Arguments) (name : Text) : Option Binding :=
  (a.value? name).bind Value.bound?

/-- The names by which something is passed, in the order in which they come first. -/
def names (a : Arguments) : List Text :=
  ((a.passed?.map Table.keys).getD [] ++ a.named.map Prod.fst).eraseDups

/-- The names that are bound, in the same order. -/
def boundNames (a : Arguments) : List Text := a.names.filter fun name => (a.binding? name).isSome

/-- What keeps a call of a method from rendering: a second value for its page, a second context, or
a value that is asked for its text and has none. -/
def failure? (a : Arguments) (method : String) : Option Failure :=
  if a.namesSelf then some (.secondSelf method)
  else if 1 < a.positional.length then some (.tooManyArguments a.positional.length)
  else (a.names.findSome? fun name => (a.value? name).bind Value.failure?).map .showing

end Arguments

/-- What a walk looks up, and what its errors tell. -/
structure Scene where
  template : Option Text
  strict : Bool
  binding? : Text → Option Binding
  boundNames : List Text

namespace Scene

/-- The scene of a page that an engine renders. -/
def of (e : Engine) (p : Page) (a : Arguments) : Scene :=
  ⟨p.name, e.strict, a.binding?, a.boundNames⟩

variable (s : Scene)

def errorAt (position : Position) (fault : RenderFault) : RenderError :=
  ⟨fault, s.template, some position.line⟩

/-- A slot without a value. -/
def unbound (position : Position) (reference : Reference) (raw : Text) : Meaning :=
  if s.strict then
    .unresolved (s.errorAt position (.undefinedAmong reference.path s.boundNames))
  else .text raw

/-- A slot, within a loop over `item` where `record` is the current record of `item`. A dotted slot
has a value only there. -/
def slot (current? : Option (Text × Record)) (position : Position) (reference : Reference)
    (raw : Text) : Meaning :=
  match reference.attr, current? with
  | some attr, some (item, record) =>
    if reference.name = item then .text ((record.get? attr).getD [])
    else s.unbound position reference raw
  | some _, none => s.unbound position reference raw
  | none, _ =>
    match s.binding? reference.name with
    | some (.scalar value) => .text value
    | _ => s.unbound position reference raw

mutual

def node (current? : Option (Text × Record)) : Node → Meaning
  | .text _ value => .text value
  | .slot position reference raw => s.slot current? position reference raw
  | .loop position item collection raw body =>
    match s.binding? collection with
    | some (.records records) =>
      .all (records.map fun record => nodes (some (item, record)) body)
    | some (.scalar _) => .unrepeatable (s.errorAt position (.notRecords collection raw))
    | none => .unrepeatable (s.errorAt position (.missingCollection collection (some raw)))
  | .block _ _ body => nodes current? body

def nodes (current? : Option (Text × Record)) : List Node → Meaning
  | [] => .text []
  | first :: rest => (node current? first).followedBy (nodes current? rest)

end

end Scene

namespace Template

/-- The body of the last block of a name. -/
def lastBlock? (t : Template) (name : Text) : Option (List Node) :=
  t.body.reverse.findSome? fun
    | .block _ name' body => if name = name' then some body else none
    | _ => none

/-- What a template means, `base` being what its parent tag names. -/
def meaning (t base : Template) (s : Scene) : Meaning :=
  match t.parent with
  | none => s.nodes none t.body
  | some _ => .all (base.body.map fun
    | .block _ name _ => s.nodes none (((t.lastBlock? name).map Node.trim).getD [])
    | node => s.node none node)

end Template

end Stencil
