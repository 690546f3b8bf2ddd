import Stencil.Text

/-! Occurrences of a pattern in a text. -/
namespace Stencil.Text

def occursIn (pattern : Text) : Text → Bool
  | [] => pattern.isEmpty
  | c :: cs => pattern.isPrefixOf (c :: cs) || occursIn pattern cs

/-- Replaces a pattern from left to right, after leaving out `skip` code points that belong to the
occurrence replaced last. -/
def replaceFrom (pattern replacement : Text) : (skip : Nat) → Text → Text
  | _, [] => []
  | skip + 1, _ :: cs => replaceFrom pattern replacement skip cs
  | 0, c :: cs =>
    if pattern.isPrefixOf (c :: cs) then
      replacement ++ replaceFrom pattern replacement (pattern.length - 1) cs
    else c :: replaceFrom pattern replacement 0 cs

/-- Replaces every occurrence of a pattern that is not empty. -/
def replaceAll (pattern replacement cs : Text) : Text :=
  replaceFrom pattern replacement 0 cs

end Stencil.Text
