import Stencil.Double

/-! The shortest decimal text of a double: the fewest digits that read back to it, and of these the
nearest to it. Numbers from `10 ^ -4` up to but not including `10 ^ 16` are written out, with a
point in them; the others have a power of ten behind one digit before the point. -/
namespace Stencil.Double

/-- The greatest power of ten that is not above a positive ratio, by its exponent. No double other
than zero is as small as `10 ^ -400`. -/
def floorLog10 (n d : Nat) : Int :=
  if d ≤ n then (Nat.toDigits 10 (n / d)).length - 1
  else -(((List.range 400).find? fun j => d ≤ n * Nat.pow 10 j).getD 0 : Nat)

/-- Of the two decimals with `count` digits around `n / d`, the nearer one that reads back to
`number`, as its digits and the exponent of the last one. -/
def shortestOf (number : Double) (n d : Nat) (count : Nat) : Option (Nat × Int) :=
  let unit : Int := floorLog10 n d - count + 1
  let (n, d) := scale 10 n d unit
  let nearer := roundDiv n d
  let other := if nearer = n / d then n / d + 1 else n / d
  ([nearer, other].find? fun digits => ofDecimal false digits unit = number).map (·, unit)

/-- Seventeen digits are always enough. -/
def shortest (m : Nat) (e : Int) : Nat × Int :=
  let (n, d) := scale 2 m 1 (-e)
  ((List.range 17).findSome? fun k => shortestOf (finite false m e) n d (k + 1)).getD (0, 0)

/-- Digits without the zeros at their end, and the power of ten that these stand for. -/
def withoutZeros (digits : List Char) : List Char × Nat :=
  let kept := (digits.reverse.dropWhile (· = '0')).reverse
  (kept, digits.length - kept.length)

def isWrittenOut (exponent : Int) : Bool := -4 ≤ exponent && exponent < 16

/-- Writes `0.d₁d₂… * 10 ^ (exponent + 1)` out. -/
def writeOut (digits : List Char) (exponent : Int) : List Char :=
  if exponent < 0 then '0' :: '.' :: List.replicate (-exponent - 1).toNat '0' ++ digits
  else
    let whole := exponent.toNat + 1
    let digits := digits ++ List.replicate (whole + 1 - digits.length) '0'
    digits.take whole ++ '.' :: digits.drop whole

/-- Writes `d₁.d₂… * 10 ^ exponent` with at least two digits of exponent. -/
def writePower (digits : List Char) (exponent : Int) : List Char :=
  let power := Nat.toDigits 10 exponent.natAbs
  digits.take 1 ++ (if digits.length ≤ 1 then [] else '.' :: digits.drop 1) ++
    'e' :: (if exponent < 0 then '-' else '+') ::
    (List.replicate (2 - power.length) '0' ++ power)

def magnitude (m : Nat) (e : Int) : List Char :=
  if m = 0 then ['0', '.', '0']
  else
    let (digits, unit) := shortest m e
    let (digits, zeros) := withoutZeros (Nat.toDigits 10 digits)
    let exponent := unit + zeros + digits.length - 1
    if isWrittenOut exponent then writeOut digits exponent else writePower digits exponent

def sign (negative : Bool) : String := if negative then "-" else ""

def text : Double → String
  | nan => "nan"
  | infinite negative => sign negative ++ "inf"
  | finite negative m e => sign negative ++ String.ofList (magnitude m e)

end Stencil.Double
