import Stencil.Text.Digit
import Stencil.Text.Space

/-! Binary floating point numbers of double width, as exact values. A ratio of natural numbers is
rounded to the nearest of them, and of two equally near ones to the one with the even significand; a
decimal text is read by rounding the number it spells out. -/
namespace Stencil

/-- Either no number, or an infinity, or the product of a significand below `2 ^ 53` and a power of
two. -/
inductive Double
  | nan
  | infinite (negative : Bool)
  | finite (negative : Bool) (significand : Nat) (exponent : Int)
deriving DecidableEq, Repr

namespace Double

def leastExponent : Int := -1074

def greatestExponent : Int := 971

/-- The nearest natural number to a ratio, and of two the even one. -/
def roundDiv (n d : Nat) : Nat :=
  if 2 * (n % d) < d ∨ (2 * (n % d) = d ∧ n / d % 2 = 0) then n / d else n / d + 1

/-- The ratio `n / d` divided by `base ^ e`, as a ratio. -/
def scale (base : Nat) (n d : Nat) (e : Int) : Nat × Nat :=
  if 0 ≤ e then (n, d * base.pow e.toNat) else (n * base.pow (-e).toNat, d)

/-- The greatest power of two that is not above a positive ratio, by its exponent. -/
def floorLog2 (n d : Nat) : Int :=
  let k : Int := n.log2 - d.log2
  let (n, d) := scale 2 n d k
  if d ≤ n then k else k - 1

def ofRatio (negative : Bool) (n d : Nat) : Double :=
  if n = 0 then finite negative 0 leastExponent
  else
    let e := max (floorLog2 n d - 52) leastExponent
    let (n, d) := scale 2 n d e
    let m := roundDiv n d
    let (m, e) := if m = Nat.pow 2 53 then (Nat.pow 2 52, e + 1) else (m, e)
    if greatestExponent < e then infinite negative else finite negative m e

/-- The double nearest to `digits * 10 ^ exponent`. What is sure to be too large or too small is
told from the number of digits. -/
def ofDecimal (negative : Bool) (digits : Nat) (exponent : Int) : Double :=
  let size : Int := (Nat.toDigits 10 digits).length
  if digits = 0 ∨ exponent + size < -330 then finite negative 0 leastExponent
  else if 310 < exponent + size then infinite negative
  else
    let (n, d) := scale 10 digits 1 (-exponent)
    ofRatio negative n d

def digitsValue (cs : List Char) : Nat := cs.foldl (fun n c => 10 * n + (c.toNat - '0'.toNat)) 0

/-- A sign, if any, in front of a text, and what follows it. -/
def signed (cs : List Char) : Bool × List Char :=
  match cs with
  | '-' :: cs => (true, cs)
  | '+' :: cs => (false, cs)
  | cs => (false, cs)

/-- The exponent after the digits, zero when there is none. -/
def exponentOf? : List Char → Option Int
  | [] => some 0
  | c :: cs =>
    let (negative, digits) := signed cs
    if (c = 'e' ∨ c = 'E') ∧ digits ≠ [] ∧ digits.all Char.isDigit then
      some (if negative then -digitsValue digits else digitsValue digits)
    else none

/-- Reads digits with an optional point among them and an optional exponent. -/
def ofDigits? (negative : Bool) (cs : List Char) : Option Double := do
  let (whole, rest) := cs.span Char.isDigit
  let (part, rest) := match rest with
    | '.' :: rest => rest.span Char.isDigit
    | rest => ([], rest)
  if whole = [] ∧ part = [] then none
  let exponent ← exponentOf? rest
  some (ofDecimal negative (digitsValue (whole ++ part)) (exponent - part.length))

/-- Leaves out every underscore that stands between two digits. -/
def joinDigits : (afterDigit : Bool) → List Char → List Char
  | true, '_' :: c :: cs =>
    if c.isDigit then c :: joinDigits true cs else '_' :: c :: joinDigits false cs
  | _, c :: cs => c :: joinDigits c.isDigit cs
  | _, [] => []

/-- Whether a character may stand around a number: white space that is no separator of records. -/
def isMargin (c : Char) : Bool := Text.isSpace c && !(0x1c ≤ c.toNat && c.toNat ≤ 0x1f)

/-- What is between the margins of a text. -/
def withoutMargins (cs : List Char) : List Char :=
  ((cs.dropWhile isMargin).reverse.dropWhile isMargin).reverse

/-- Reads a number in decimal notation, with the digits of any script and underscores between them,
or `inf` or `infinity`, or `nan`. -/
def ofText? (text : String) : Option Double :=
  let (negative, cs) := signed (joinDigits false ((withoutMargins text.toList).map Text.plainDigit))
  let word := String.ofList (cs.map Char.toLower)
  if word = "inf" ∨ word = "infinity" then some (infinite negative)
  else if word = "nan" then some nan
  else ofDigits? negative cs

end Double

end Stencil
