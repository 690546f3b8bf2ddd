import Stencil.Table
import Stencil.Text

/-! The cache of template texts. Nothing that was stored is ever dropped, and each look is counted
as a hit or as a miss. -/
namespace Stencil

structure Cache where
  texts : Table Text Text
  hits : Nat
  misses : Nat

namespace Cache

def empty : Cache := ⟨Table.empty, 0, 0⟩

def lookup (c : Cache) (name : Text) : Option Text × Cache :=
  match c.texts.get? name with
  | some text => (some text, { c with hits := c.hits + 1 })
  | none => (none, { c with misses := c.misses + 1 })

def store (c : Cache) (name text : Text) : Cache := { c with texts := c.texts.put name text }

def size (c : Cache) : Nat := c.texts.size

end Cache

end Stencil
