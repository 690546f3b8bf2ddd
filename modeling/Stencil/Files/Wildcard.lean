import Stencil.Text

/-! Patterns of names. A star stands for any characters, a question mark for one, and brackets for
one of the characters they list or, after an exclamation mark, for one that they do not. -/
namespace Stencil

/-- What a pattern has in one place. -/
inductive Wildcard
  | exactly (c : CodePoint)
  | anyChar
  | oneOf (negated : Bool) (ranges : List (CodePoint × CodePoint))
  | anyChars
deriving DecidableEq, Repr

namespace Wildcard

/-- The characters that brackets list, and the ranges by both of their ends. -/
def listed : Text → List (CodePoint × Option CodePoint)
  | first :: .char '-' :: last :: cs => (first, some last) :: listed cs
  | c :: cs => (c, none) :: listed cs
  | [] => []

/-- The range that a listed item covers; a single character is a range of one. -/
def range (item : CodePoint × Option CodePoint) : CodePoint × CodePoint :=
  (item.1, item.2.getD item.1)

/-- What brackets stand for. An exclamation mark in front begins no range. Ranges that hold nothing
are left out, and what is in front after that decides: if it is an exclamation mark, it negates the
rest, and the hyphen of a range that began with it is listed like any character. -/
def ofListed (cs : Text) : Wildcard :=
  let items : List (CodePoint × Option CodePoint) := match cs with
    | .char '!' :: cs => ('!', none) :: listed cs
    | cs => listed cs
  match items.filter fun item => decide ((range item).1.code ≤ (range item).2.code) with
  | (.char '!', none) :: items => .oneOf true (items.map range)
  | (.char '!', some last) :: items =>
    .oneOf true ((.char '-', .char '-') :: (last, last) :: items.map range)
  | items => .oneOf false (items.map range)

/-- What an opening bracket begins and what follows it, if there is a closing one. A closing bracket
in the first place is one of the listed characters. -/
def ofBracket? (cs : Text) : Option (Wildcard × Text) :=
  let (mark, cs) : Text × Text := match cs with
    | .char '!' :: cs => ("!", cs)
    | cs => ([], cs)
  match cs with
  | [] => none
  | c :: cs =>
    let (more, rest) := cs.span (· ≠ .char ']')
    match rest with
    | [] => none
    | _ :: rest => some (ofListed (mark ++ c :: more), rest)

/-- Reads a pattern. The fuel is the length of the pattern, of which each round takes some. -/
def parseWith : (fuel : Nat) → Text → List Wildcard
  | 0, _ | _, [] => []
  | fuel + 1, .char '*' :: cs => .anyChars :: parseWith fuel cs
  | fuel + 1, .char '?' :: cs => .anyChar :: parseWith fuel cs
  | fuel + 1, .char '[' :: cs =>
    match ofBracket? cs with
    | some (wildcard, rest) => wildcard :: parseWith fuel rest
    | none => .exactly '[' :: parseWith fuel cs
  | fuel + 1, c :: cs => .exactly c :: parseWith fuel cs

def parse (t : Text) : List Wildcard := parseWith t.length t

def admits (c : CodePoint) : Wildcard → Bool
  | exactly d => c = d
  | anyChar | anyChars => true
  | oneOf negated ranges =>
    (ranges.any fun (first, last) => first.code ≤ c.code && c.code ≤ last.code) != negated

/-- For each end of a pattern, the whole pattern first, whether it can stand for no characters. -/
def fitsNone : List Wildcard → List Bool
  | [] => [true]
  | w :: ws =>
    let row := fitsNone ws
    (w = .anyChars && row.headD false) :: row

/-- The same for a character and those behind it, given the answers for the latter. A star stands
for nothing or takes the character and stays. -/
def fitsCons (c : CodePoint) : List Wildcard → List Bool → List Bool
  | [], _ => [false]
  | w :: ws, behind =>
    let row := fitsCons c ws behind.tail
    (if w = .anyChars then row.headD false || behind.headD false
      else w.admits c && behind.tail.headD false) :: row

/-- For each end of a pattern whether it can stand for all of the characters. -/
def row (ws : List Wildcard) (cs : Text) : List Bool :=
  cs.foldr (fun c behind => fitsCons c ws behind) (fitsNone ws)

/-- Whether the wildcards can stand for the characters. -/
def fits (ws : List Wildcard) (cs : Text) : Bool := (row ws cs).headD false

theorem tail_row (w : Wildcard) (ws : List Wildcard) (cs : Text) :
    (row (w :: ws) cs).tail = row ws cs := by
  induction cs with
  | nil => rfl
  | cons c cs ih =>
    show (fitsCons c (w :: ws) (row (w :: ws) cs)).tail = fitsCons c ws (row ws cs)
    rw [← ih]
    rfl

theorem fits_nil_nil : fits [] [] = true := rfl

theorem fits_nil_cons (c : CodePoint) (cs : Text) : fits [] (c :: cs) = false := rfl

theorem fits_cons_nil (w : Wildcard) (ws : List Wildcard) :
    fits (w :: ws) [] = (w = .anyChars && fits ws []) := rfl

theorem fits_anyChars_cons (ws : List Wildcard) (c : CodePoint) (cs : Text) :
    fits (.anyChars :: ws) (c :: cs) = (fits ws (c :: cs) || fits (.anyChars :: ws) cs) := by
  have h := tail_row .anyChars ws cs
  show (fitsCons c (.anyChars :: ws) (row (.anyChars :: ws) cs)).headD false = _
  simp only [fitsCons, if_true, h]
  rfl

theorem fits_cons_cons {w : Wildcard} (hw : w ≠ .anyChars) (ws : List Wildcard) (c : CodePoint)
    (cs : Text) : fits (w :: ws) (c :: cs) = (w.admits c && fits ws cs) := by
  have h := tail_row w ws cs
  show (fitsCons c (w :: ws) (row (w :: ws) cs)).headD false = _
  simp only [fitsCons, if_neg hw, h]
  rfl

end Wildcard

end Stencil
