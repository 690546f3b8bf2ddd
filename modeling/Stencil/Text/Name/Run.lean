/-! Names of characters that follow one another and begin with the same words. -/
namespace Stencil.Text.Name

/-- The names of characters from the number `first` on. Each begins with `front`; what it ends with
is in `ends`, separated by commas, with an ellipsis for a character that has no name here. -/
structure Run where
  first : Nat
  front : String
  ends : String
deriving DecidableEq, Repr

/-- The place of an item among others separated by commas. Of the item in `place`, either `left` is
what is still to come, or it is another one. -/
def placeOf? (item : List Char) :
    (place : Nat) → (left : Option (List Char)) → List Char → Option Nat
  | place, left, [] => if left = some [] then some place else none
  | place, left, ',' :: cs =>
    if left = some [] then some place else placeOf? item (place + 1) (some item) cs
  | place, some (d :: ds), c :: cs => placeOf? item place (if c = d then some ds else none) cs
  | place, _, _ :: cs => placeOf? item place none cs

/-- The number of the character that goes by a name. -/
def Run.code? (run : Run) (name : List Char) : Option Nat := do
  let rest ← run.front.toList.isPrefixOf? name
  let place ← placeOf? rest 0 (some rest) run.ends.toList
  some (run.first + place)

end Stencil.Text.Name
