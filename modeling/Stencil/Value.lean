import Stencil.Double
import Stencil.Failure.Showing
import Stencil.Table

/-! Values that a caller may put into a context. Only some of them can be rendered, but any of them
can be the property of a record and is then shown by its text. -/
namespace Stencil

/-- Property names with the texts of the properties. -/
abbrev Record := Table Text Text

/-- An object of a class of the caller's own, whose attributes have values of type `V`. It may have
a dictionary for its attributes, and its classes may declare slots, which hold a value or not. -/
structure Object (V : Type) where
  /-- The name of its class. -/
  typeName : String
  /-- Its text, if it gives one. -/
  text : Except ShowFailure Text
  /-- How it is shown within another value. -/
  shown : Except ShowFailure Text
  /-- The attributes in its dictionary. -/
  dictionary : Option (List (Text × V))
  /-- The names of the slots that its class declares, then those of the classes above it. A class
  that declares none is left out. -/
  slots : List (List Text)
  /-- What is found for the names of slots. For the others nothing is found. -/
  held : List (Text × V)

inductive Value
  | none
  | truth (b : Bool)
  | integer (n : Int)
  | double (d : Double)
  | text (s : Text)
  | bytes (bs : List UInt8)
  | list (items : List Value)
  | tuple (items : List Value)
  | mapping (entries : List (Value × Value))
  | object (o : Object Value)
  /-- A text that is ready to be rendered. -/
  | scalar (s : Text)
  /-- Records that are ready to be rendered. -/
  | records (rs : List Record)

namespace Value

/-- The name of the kind of value, as a log shows it. -/
def typeName : Value → String
  | none => "NoneType"
  | truth _ => "bool"
  | integer _ => "int"
  | double _ => "float"
  | text _ => "str"
  | bytes _ => "bytes"
  | list _ => "list"
  | tuple _ => "tuple"
  | mapping _ => "dict"
  | object o => o.typeName
  | scalar _ => "Scalar"
  | records _ => "Sequence"

end Value

end Stencil
