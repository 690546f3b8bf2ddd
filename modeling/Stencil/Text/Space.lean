import Stencil.Text
import Stencil.Text.Ranges

/-! White space: the 29 characters of Unicode 14.0 in the category Zs or in one of the bidirectional
classes B, S and WS. A text is trimmed of it at its ends and cut into fields by runs of it, so a
field is never empty and holds none. -/
namespace Stencil.Text

def spaceRanges : List (Nat × Nat) := [
  (0x9, 0xd), (0x1c, 0x20), (0x85, 0x85), (0xa0, 0xa0), (0x1680, 0x1680), (0x2000, 0x200a),
  (0x2028, 0x2029), (0x202f, 0x202f), (0x205f, 0x205f), (0x3000, 0x3000)]

def isSpace (c : CodePoint) : Bool := covers spaceRanges c.code

def trimStart (cs : Text) : Text := cs.dropWhile isSpace

def trimEnd (cs : Text) : Text := (cs.reverse.dropWhile isSpace).reverse

def trim (cs : Text) : Text := trimEnd (trimStart cs)

/-- The maximal runs of code points that are no white space, in order. -/
def fields (cs : Text) : List Text := (cs.splitOnP isSpace).filter (!·.isEmpty)

theorem fields_nil : fields [] = [] := by simp [fields, List.splitOnP_nil]

theorem fields_append_space {c : CodePoint} (hc : isSpace c = true) (cs ds : Text) :
    fields (cs ++ c :: ds) = fields cs ++ fields ds := by
  simp [fields, List.splitOnP_append_cons cs ds hc]

theorem fields_of_forall {cs : Text} (hne : cs ≠ []) (h : ∀ c ∈ cs, isSpace c = false) :
    fields cs = [cs] := by
  simp [fields, List.splitOnP_eq_singleton h, hne]

end Stencil.Text
