import Stencil.Double.Shortest
import Stencil.Text.Quoted
import Stencil.Value

/-! The text of a value: a text is shown as it is, an object as it says, and anything else in the
notation in which it would be written down, where texts are quoted and a tuple of one has a comma.
An integer that is too long has no text, nor has an object that gives none, and so neither has a
value that contains one of them. -/
namespace Stencil

def commaSeparated (items : List Text) : Text := (", " : Text).intercalate items

def braced (items : List Text) : Text := "\x7b" ++ commaSeparated items ++ "\x7d"

/-- A tuple of one item keeps its comma, so that it is not taken for the item in parentheses. -/
def tupled (items : List Text) : Text :=
  match items with
  | [item] => "(" ++ item ++ ",)"
  | items => "(" ++ commaSeparated items ++ ")"

def Record.shown (r : Record) : Text :=
  braced (r.entries.map fun (name, text) => name.quoted ++ ": " ++ text.quoted)

/-- Ready records in the notation of a tuple. -/
def shownRecords (records : List Record) : Text := tupled (records.map Record.shown)

-- The limit is not to be multiplied out.
@[irreducible]
def shownInteger (n : Int) : Except ShowFailure Text :=
  if Nat.pow 10 ShowFailure.digitLimit ≤ n.natAbs then .error .tooManyDigits else .ok (toString n)

namespace Value

mutual

/-- The value in written notation. -/
def shown : Value → Except ShowFailure Text
  | none => .ok "None"
  | truth b => .ok (if b then "True" else "False")
  | integer n => shownInteger n
  | double d => .ok d.text
  | text s => .ok s.quoted
  | bytes bs => .ok (Text.quotedBytes bs)
  | list items => (shownItems items).map fun items => "[" ++ commaSeparated items ++ "]"
  | tuple items => (shownItems items).map tupled
  | mapping entries => (shownEntries entries).map braced
  | object o => o.shown
  | scalar s => .ok ("Scalar(value=" ++ s.quoted ++ ")")
  | records rs => .ok ("Sequence(items=" ++ shownRecords rs ++ ")")

def shownItems : List Value → Except ShowFailure (List Text)
  | [] => .ok []
  | item :: items => do
    let first ← item.shown
    let rest ← shownItems items
    return first :: rest

def shownEntries : List (Value × Value) → Except ShowFailure (List Text)
  | [] => .ok []
  | (key, value) :: entries => do
    let key ← key.shown
    let value ← value.shown
    let rest ← shownEntries entries
    return (key ++ ": " ++ value) :: rest

end

/-- The value as it appears in output. -/
def asText : Value → Except ShowFailure Text
  | text s => .ok s
  | object o => o.text
  | value => value.shown

end Value

end Stencil
