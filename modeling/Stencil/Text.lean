/-! Texts: lists of code points, which are characters and surrogates. A surrogate is one half of a
character in units of sixteen bits and is no character by itself. What is written in characters has
none, but an escape in a source may put one anywhere, and texts keep it. -/
namespace Stencil

inductive CodePoint
  | char (c : Char)
  /-- One of the 2048 surrogates by its place among them. -/
  | surrogate (place : Fin 0x800)
deriving DecidableEq, Repr

abbrev Text := List CodePoint

namespace CodePoint

instance : Coe Char CodePoint := ⟨char⟩

def firstSurrogate : Nat := 0xd800

def code : CodePoint → Nat
  | char c => c.toNat
  | surrogate place => firstSurrogate + place

/-- The code point of a number; numbers from `0x110000` on have none of their own. -/
def ofCode (n : Nat) : CodePoint :=
  if h : firstSurrogate ≤ n ∧ n - firstSurrogate < 0x800 then surrogate ⟨n - firstSurrogate, h.2⟩
  else char (Char.ofNat n)

theorem code_ofCode {n : Nat} (h : n < 0x110000) : (ofCode n).code = n := by
  unfold ofCode
  split
  · rename_i hs
    simp only [code]
    omega
  · rename_i hs
    have hvalid : n.isValidChar := by
      simp only [firstSurrogate] at hs
      simp only [Nat.isValidChar]
      omega
    rw [code, Char.ofNat, dif_pos hvalid]
    rfl

def char? : CodePoint → Option Char
  | char c => some c
  | surrogate _ => none

end CodePoint

namespace Text

def ofChars (cs : List Char) : Text := cs.map .char

def ofString (s : String) : Text := ofChars s.toList

instance : Coe String Text := ⟨ofString⟩

/-- The characters of a text without surrogates. -/
def chars? (t : Text) : Option (List Char) := t.mapM CodePoint.char?

/-- Texts are in the order of the first code points in which they differ, and one that begins
another comes before it. -/
def le : Text → Text → Bool
  | [], _ => true
  | _ :: _, [] => false
  | c :: s, d :: t => c.code < d.code || (c.code = d.code && le s t)

/-- Puts what `f` makes of it in the place of each run of characters between surrogates. -/
def mapRuns (f : List Char → List Char) (t : Text) : Text :=
  go [] t
where
  /-- Goes on from a run of characters, the last one first. -/
  go (run : List Char) : Text → Text
    | [] => ofChars (f run.reverse)
    | .char c :: rest => go (c :: run) rest
    | .surrogate place :: rest => ofChars (f run.reverse) ++ .surrogate place :: go [] rest

end Text

end Stencil
