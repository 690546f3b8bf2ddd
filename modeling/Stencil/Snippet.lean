import Stencil.Text.Lines

/-! Snippets: the lines of a source around one that is in error, with their numbers in front and
with a caret under a column of that line. -/
namespace Stencil

structure Snippet where
  lines : List (Nat × Text)
  errorLine : Int
  column : Option Int
deriving DecidableEq, Repr

namespace Snippet

/-- The lines at most `reach` lines away from the error line, as far as the source has them. -/
def around (source : Text) (errorLine reach : Int) (column : Option Int) : Snippet :=
  let lines := source.lines
  let before := (errorLine - 1 - reach).toNat
  let upTo := (errorLine + reach).toNat
  { lines := ((lines.zipIdx 1).take upTo).drop before |>.map fun (line, n) => (n, line)
    errorLine := errorLine
    column := column }

/-- A number in at least three places. -/
def gutter (n : Nat) : Text :=
  let digits := Nat.toDigits 10 n
  Text.ofChars (List.replicate (3 - digits.length) ' ' ++ digits)

/-- The error line is marked, and the caret stands on a line below it. -/
def formatLine (s : Snippet) (n : Nat) (content : Text) : List Text :=
  if (n : Int) = s.errorLine then
    (">" ++ gutter n ++ " | " ++ content) :: s.column.toList.map fun column =>
      "    | " ++ Text.ofChars (List.replicate column.toNat ' ') ++ "^"
  else [" " ++ gutter n ++ " | " ++ content]

def format (s : Snippet) : Text :=
  let rule : Text := "   |"
  ("\n" : Text).intercalate <|
    rule :: s.lines.flatMap (fun (n, content) => s.formatLine n content) ++ [rule]

end Snippet

end Stencil
