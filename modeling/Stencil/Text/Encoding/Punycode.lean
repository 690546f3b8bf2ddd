import Stencil.Text.Encoding.Intake

/-! Punycode, which writes a text in ASCII. In front of the last hyphen are the characters that are
in ASCII themselves. Behind it are numbers, which say from one character to the next one, in
increasing order, how many insertions to pass over: at each place of the text for each character
that comes between. The digits of a number are the letters and then the ten digits; how many values
a place has is adapted to the numbers before. -/
namespace Stencil.Text.Punycode

/-- From which value on a digit is not the last one of its number. -/
def threshold (place bias : Nat) : Nat :=
  if 36 * (place + 1) < bias + 1 then 1
  else if bias + 26 < 36 * (place + 1) then 26
  else 36 * (place + 1) - bias

/-- How often a number is divided by 35 until it is small, and what is left of it. -/
def divisions (delta : Nat) : Nat × Nat :=
  if 455 < delta then
    let (times, rest) := divisions (delta / 35)
    (times + 1, rest)
  else (0, delta)
termination_by delta
decreasing_by omega

/-- The bias after a number, `size` being the number of characters there are then. -/
def adapt (delta : Nat) (isFirst : Bool) (size : Nat) : Nat :=
  let delta := if isFirst then delta / 700 else delta / 2
  let (times, rest) := divisions (delta + delta / size)
  36 * times + 36 * rest / (rest + 38)

def digit? (c : Char) : Option Nat :=
  if c.isLower then some (c.toNat - 'a'.toNat)
  else if c.isUpper then some (c.toNat - 'A'.toNat)
  else if c.isDigit then some (c.toNat - '0'.toNat + 26)
  else none

/-- Reads a number from the digit at a place on, of which the digits before have given `sum` and
each unit counts for `weight`. -/
def readNumber (bias : Nat) : (place weight sum : Nat) → List Char →
    Except PunycodeFault (Nat × List Char)
  | _, _, _, [] => .error .incomplete
  | place, weight, sum, c :: cs =>
    match digit? c with
    | none => .error (.noDigit c.toUpper)
    | some d =>
      let t := threshold place bias
      if d < t then .ok (sum + d * weight, cs)
      else readNumber bias (place + 1) (weight * (36 - t)) (sum + d * weight) cs

theorem length_lt_of_readNumber {bias place weight sum n : Nat} {cs rest : List Char}
    (h : readNumber bias place weight sum cs = .ok (n, rest)) : rest.length < cs.length := by
  induction cs generalizing place weight sum with
  | nil => simp [readNumber] at h
  | cons c cs ih =>
    rw [readNumber] at h
    split at h
    · simp at h
    · dsimp only at h
      split at h
      · obtain ⟨_, rfl⟩ := Prod.mk.inj (Except.ok.inj h)
        simp
      · exact Nat.lt_succ_of_lt (ih h)

/-- Inserts the code points that numbers stand for into a text. The last one inserted was of the
number `code`, in front of `place`. -/
def insertAll (bias code place : Nat) (isFirst : Bool) (text : Array CodePoint)
    (numbers : List Char) : Except PunycodeFault (Array CodePoint) :=
  match numbers with
  | [] => .ok text
  | c :: cs =>
    match h : readNumber bias 0 1 0 (c :: cs) with
    | .error fault => .error fault
    | .ok (delta, rest) =>
      let size := text.size + 1
      let code := code + (place + delta) / size
      let place := (place + delta) % size
      if 0x10ffff < code then .error (.pastLast code)
      else
        insertAll (adapt delta isFirst size) code (place + 1) false
          (text.insertIdxIfInBounds place (.ofCode code)) rest
termination_by numbers.length
decreasing_by exact length_lt_of_readNumber h

def ofParts (plain numbers : List Char) : Except PunycodeFault Text :=
  (insertAll 72 0x80 0 true (Text.ofChars plain).toArray numbers).map Array.toList

/-- What is in front of the last hyphen, if there is one, and what is behind it. -/
def parts {α : Type} [BEq α] (hyphen : α) (xs : List α) : List α × List α :=
  let behind := (xs.reverse.takeWhile (· != hyphen)).reverse
  (xs.take (xs.length - behind.length - 1), behind)

def read (cs : List Char) : Except PunycodeFault Text :=
  let (plain, numbers) := parts '-' cs
  ofParts plain numbers

/-- Decodes bytes, the parts of which are in ASCII each. -/
def decode (bytes : List UInt8) : Except DecodeFault Text := do
  let (plain, numbers) := parts 0x2d bytes
  let plain ← decodeAscii 0 plain
  let numbers ← decodeAscii 0 numbers
  (ofParts plain numbers).mapError .punycode

/-! Writing. -/

def digit (d : Nat) : Char := if d < 26 then Char.ofNat ('a'.toNat + d) else Nat.digitChar (d - 26)

theorem threshold_pos (place bias : Nat) : 0 < threshold place bias := by
  unfold threshold
  split
  · omega
  · split <;> omega

/-- The digits of a number from a place on. -/
def writeNumber (bias place n : Nat) : List Char :=
  let t := threshold place bias
  if n < t then [digit n]
  else digit (t + (n - t) % (36 - t)) :: writeNumber bias (place + 1) ((n - t) / (36 - t))
termination_by n
decreasing_by
  have h := threshold_pos place bias
  exact Nat.lt_of_le_of_lt (Nat.div_le_self _ _) (by omega)

/-- What is written of a text when the characters below a number are. -/
structure Progress where
  /-- The digits that are written, the last number first. -/
  numbers : List (List Char)
  /-- The insertions passed over since the last number. -/
  delta : Nat
  bias : Nat
  /-- How many characters are written. -/
  size : Nat

/-- Passes over a character that is written, or writes one that is due. -/
def Progress.next (due basic : Nat) (p : Progress) (c : Char) : Progress :=
  if c.toNat < due then { p with delta := p.delta + 1 }
  else if c.toNat = due then
    { numbers := writeNumber p.bias 0 p.delta :: p.numbers, delta := 0,
      bias := adapt p.delta (p.size = basic) (p.size + 1), size := p.size + 1 }
  else p

/-- Writes the characters of the numbers `dues`, which increase from `code` on. -/
def writeFrom (text : List Char) (basic : Nat) : (code : Nat) → List Nat → Progress → List Char
  | _, [], p => p.numbers.reverse.flatten
  | code, due :: dues, p =>
    let p := { p with delta := p.delta + (due - code) * (p.size + 1) }
    let p := text.foldl (Progress.next due basic) p
    writeFrom text basic (due + 1) dues { p with delta := p.delta + 1 }

def write (text : List Char) : List Char :=
  let plain := text.filter (·.toNat < 0x80)
  let dues := ((text.filter (0x80 ≤ ·.toNat)).map Char.toNat).mergeSort.eraseDups
  let numbers := writeFrom text plain.length 0x80 dues ⟨[], 0, 72, plain.length⟩
  if plain.isEmpty then numbers else plain ++ '-' :: numbers

end Stencil.Text.Punycode
