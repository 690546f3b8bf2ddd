import Std.Data.HashMap
import Stencil.Text

/-! Similarity of two texts, to guess which known name a mistaken one was meant for. The texts are
matched greedily: the longest stretch that both have in common, then the same on either side of it.
The similarity is the share of matched characters in both texts together, and two texts are close
when it is at least three fifths. -/
namespace Stencil.Text

/-- The places of code points in a text, in increasing order, by their numbers. -/
abbrev Places := Std.HashMap Nat (List Nat)

def Places.of (places : Places) (c : CodePoint) : List Nat := places.getD c.code []

def placesIn (bs : Text) : Places :=
  bs.zipIdx.foldr (fun (b, place) places => places.insert b.code (place :: places.of b)) ∅

/-- The places of the characters that a match can begin with: in a text of two hundred characters or
more, one that makes up over one per cent of it is too common. -/
def solidPlaces (bs : Text) : Places :=
  let limit := if bs.length < 200 then bs.length else bs.length / 100 + 1
  (placesIn bs).filter fun _ places => places.length ≤ limit

/-- A stretch that two texts have in common: where it begins in the one and in the other. -/
structure Stretch where
  left : Nat
  right : Nat
  size : Nat
deriving DecidableEq, Repr

/-- The common stretches that end with the next character of the first text, as the places of that
character in the second one, each with the size of the stretch, from those that end just before.
Places increase. -/
def grow : (runs : List (Nat × Nat)) → (places : List Nat) → List (Nat × Nat)
  | _, [] => []
  | [], place :: places => (place, 1) :: grow [] places
  | (last, size) :: runs, place :: places =>
    if last + 1 < place then grow runs (place :: places)
    else if last + 1 = place then (place, size + 1) :: grow runs places
    else (place, 1) :: grow ((last, size) :: runs) places
termination_by runs places => runs.length + places.length

/-- How far two texts have been compared: the characters read of the first one, the stretches that
end there, and the first of the longest stretches so far. -/
structure Comparison where
  read : Nat
  runs : List (Nat × Nat)
  longest : Stretch

namespace Comparison

def start : Comparison := ⟨0, [], ⟨0, 0, 0⟩⟩

/-- Reads a character that has these places in the second text. -/
def next (s : Comparison) (places : List Nat) : Comparison where
  read := s.read + 1
  runs := grow s.runs places
  longest := (grow s.runs places).foldl
    (fun longest (last, size) =>
      if longest.size < size then ⟨s.read + 1 - size, last + 1 - size, size⟩ else longest)
    s.longest

end Comparison

/-- The length of the common front of two texts. -/
def commonFront : Text → Text → Nat
  | a :: as, b :: bs => if a = b then commonFront as bs + 1 else 0
  | _, _ => 0

/-- The longest common stretch of characters with a place, prolonged on both sides by whatever the
texts have in common there. The places are counted from `offset` characters before `bs`. -/
def longestStretch (places : Places) (as : Text) (offset : Nat) (bs : Text) :
    Stretch :=
  let size := bs.length
  let within (place : Nat) : Option Nat :=
    if offset ≤ place ∧ place < offset + size then some (place - offset) else none
  let compared := as.foldl (fun s a => s.next ((places.of a).filterMap within)) Comparison.start
  let core := compared.longest
  let back := commonFront (as.take core.left).reverse (bs.take core.right).reverse
  let on := commonFront (as.drop (core.left + core.size)) (bs.drop (core.right + core.size))
  ⟨core.left - back, core.right - back, back + core.size + on⟩

/-- How many characters are matched. A stretch lies within `as`, so the test of its bounds only
shows that the texts on its sides are shorter. -/
def matched (places : Places) (as : Text) (offset : Nat) (bs : Text) : Nat :=
  match longestStretch places as offset bs with
  | ⟨left, right, size⟩ =>
    if _h : 0 < size ∧ left + size ≤ as.length then
      size + matched places (as.take left) offset (bs.take right) +
        matched places (as.drop (left + size)) (offset + right + size) (bs.drop (right + size))
    else 0
termination_by as.length
decreasing_by
  · rw [List.length_take]; omega
  · rw [List.length_drop]; omega

/-- A ratio of two natural numbers, the denominator being positive. -/
structure Share where
  part : Nat
  whole : Nat
deriving DecidableEq, Repr

namespace Share

def le (s t : Share) : Bool := s.part * t.whole ≤ t.part * s.whole

def lt (s t : Share) : Bool := !t.le s

end Share

/-- The share of matched characters, given the places of the second text's characters in it; two
empty texts are fully similar. -/
def similarity (places : Places) (as bs : Text) : Share :=
  if as.length + bs.length = 0 then ⟨1, 1⟩
  else ⟨2 * matched places as 0 bs, as.length + bs.length⟩

/-- The greatest share that the lengths of two texts allow. -/
def greatestShare (as bs : Text) : Share :=
  if as.length + bs.length = 0 then ⟨1, 1⟩
  else ⟨2 * min as.length bs.length, as.length + bs.length⟩

def isClose (s : Share) : Bool := Share.le ⟨3, 5⟩ s

/-- The better of two guesses: the more similar, and of equally similar ones the greater text. -/
def better (s t : Share × Text) : Share × Text :=
  if s.1.lt t.1 then t else if t.1.lt s.1 then s else if s.2.le t.2 then t else s

/-- The candidate closest to a name, if one is close to it at all. A text far longer or shorter than
the name is not even compared. -/
def closest? (name : Text) (candidates : List Text) : Option Text :=
  let places := solidPlaces name
  let close := candidates.filterMap fun candidate =>
    if isClose (greatestShare candidate name) then
      let share := similarity places candidate name
      if isClose share then some (share, candidate) else none
    else none
  match close with
  | [] => none
  | guess :: guesses => some (guesses.foldl better guess).2

end Stencil.Text
