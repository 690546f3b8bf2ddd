import Stencil.Text.Hangul
import Stencil.Text.Normal.Classes
import Stencil.Text.Normal.Compositions
import Stencil.Text.Normal.Decompositions
import Stencil.Text.Ranges

/-! The normal form of texts in which characters that differ in their form alone are the same:
characters are taken apart, the marks behind a letter are put in order, and letters and marks are
put together again as far as there are characters for that. -/
namespace Stencil.Text.Normal

/-- The class of a mark; other characters are of class zero. -/
def markClass (c : Char) : Nat :=
  (classes.findSome? fun (first, last, k) =>
    if first ≤ c.toNat ∧ c.toNat ≤ last then some k else none).getD 0

/-- The first of the letters that Hangul syllables are made of. -/
def firstLead : Nat := 0x1100
def firstVowel : Nat := 0x1161

/-- The letter before the first trailing one. -/
def noTail : Nat := 0x11a7

/-- The letters of a Hangul syllable. -/
def letters? (c : Char) : Option (List Char) :=
  let n := c.toNat - Hangul.firstSyllable
  if Hangul.firstSyllable ≤ c.toNat ∧ n < Hangul.syllables then
    let front := [Char.ofNat (firstLead + n / 588), Char.ofNat (firstVowel + n / 28 % 21)]
    some (if n % 28 = 0 then front else front ++ [Char.ofNat (noTail + n % 28)])
  else none

/-- The text in a place among others with section signs in between. -/
def textAt? (place : Nat) (texts : String) : Option (List Char) :=
  (texts.toList.splitOn '§')[place]?

def takeApart (c : Char) : List Char :=
  let listed := decompositions.findSome? fun (first, texts) =>
    if first ≤ c.toNat then textAt? (c.toNat - first) texts else none
  ((letters? c <|> listed).getD [c])

/-- Puts a mark behind those in front of which its class does not allow it to be. -/
def insertMark (c : Char) (k : Nat) : List Char → List Char
  | [] => [c]
  | d :: ds =>
    if markClass d ≠ 0 ∧ markClass d < k then d :: insertMark c k ds else c :: d :: ds

/-- Puts every run of marks in the order of their classes. Marks of one class stay as they are. -/
def inOrder (cs : List Char) : List Char :=
  cs.foldr (fun c ds => if markClass c = 0 then c :: ds else insertMark c (markClass c) ds) []

/-- A leading letter and a vowel as a syllable, or a syllable and a trailing letter. -/
def syllableOf? (a b : Char) : Option Char :=
  let l := a.toNat - firstLead
  let v := b.toNat - firstVowel
  let s := a.toNat - Hangul.firstSyllable
  let t := b.toNat - noTail
  if firstLead ≤ a.toNat ∧ l < 19 ∧ firstVowel ≤ b.toNat ∧ v < 21 then some (Hangul.syllable l v 0)
  else if Hangul.firstSyllable ≤ a.toNat ∧ s < Hangul.syllables ∧ s % 28 = 0 ∧ noTail < b.toNat ∧
      t < 28 then some (Char.ofNat (a.toNat + t))
  else none

/-- What follows a character in a text of pairs. -/
def partner? (c : Char) : List Char → Option Char
  | a :: b :: rest => if a = c then some b else partner? c rest
  | _ => none

def together? (a b : Char) : Option Char :=
  syllableOf? a b <|> do
    let pairs ← compositions.lookup b.toNat
    partner? a pairs.toList

/-- Puts a letter together with marks behind it, and leaves the other characters behind it.
`passed` are the characters passed over, the last one first, and `highest` is the class of the last
one, below which none is reached. -/
def gather (letter : Char) (passed : List Char) (highest : Nat) : List Char → Char × List Char
  | [] => (letter, passed.reverse)
  | c :: cs =>
    let k := markClass c
    if highest ≠ 0 ∧ k = 0 then (letter, passed.reverse ++ c :: cs)
    else if highest ≠ 0 ∧ k ≤ highest then gather letter (c :: passed) highest cs
    else
      match together? letter c with
      | some both => gather both passed highest cs
      | none =>
        if k = 0 then (letter, passed.reverse ++ c :: cs)
        else gather letter (c :: passed) k cs

theorem length_gather_le (letter : Char) (passed : List Char) (highest : Nat) (cs : List Char) :
    (gather letter passed highest cs).2.length ≤ passed.length + cs.length := by
  induction cs generalizing letter passed highest with
  | nil => simp [gather]
  | cons c cs ih =>
    rw [gather]
    have h := ih letter (c :: passed) highest
    have h' := ih letter (c :: passed) (markClass c)
    simp only [List.length_cons] at h h' ⊢
    split
    · simp
    · split
      · omega
      · split
        · next both _ =>
          have := ih both passed highest
          omega
        · split
          · simp
          · omega

/-- Puts characters together from the first one on. -/
def putTogether : List Char → List Char
  | [] => []
  | c :: cs => (gather c [] 0 cs).1 :: putTogether (gather c [] 0 cs).2
termination_by cs => cs.length
decreasing_by
  have := length_gather_le c [] 0 cs
  simp only [List.length_cons, List.length_nil] at this ⊢
  omega

end Normal

/-- The normal form of a text. -/
def normal (cs : List Char) : List Char :=
  Normal.putTogether (Normal.inOrder (cs.flatMap Normal.takeApart))

end Stencil.Text
