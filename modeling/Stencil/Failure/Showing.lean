import Stencil.Text

/-! Failures of asking a value for its text. -/
namespace Stencil

inductive ShowFailure
  /-- An integer has more digits than are written out. -/
  | tooManyDigits
  /-- An object gives no text, for a reason of its own. -/
  | refused (reason : Text)
deriving DecidableEq, Repr

namespace ShowFailure

/-- How many digits of an integer are written out at most. -/
def digitLimit : Nat := 4300

def message : ShowFailure → Text
  | tooManyDigits =>
    s!"Exceeds the limit ({digitLimit} digits) for integer string conversion; " ++
      "use sys.set_int_max_str_digits() to increase the limit"
  | refused reason => reason

end ShowFailure

end Stencil
