import Stencil.Text

/-! Lines of a text. Besides the line feed, ten other characters and one pair of characters end a
line where a text is shown line by line; a text that is read from a file has its carriage returns
turned into line feeds first. -/
namespace Stencil.Text

/-- Line feed, vertical tab, form feed, carriage return, the file, group and record separators,
next line, and the line and paragraph separators. -/
def isLineBreak (c : CodePoint) : Bool :=
  c ∈ ("\n\x0b\x0c\r\x1c\x1d\x1e\u0085\u2028\u2029" : Text)

/-- Puts a code point in front of the first line, or makes a line of it when there is none. -/
def consLine (c : CodePoint) : List Text → List Text
  | [] => [[c]]
  | line :: lines => (c :: line) :: lines

/-- The lines of a text without their ends; nothing follows the last line end. -/
def lines : Text → List Text
  | [] => []
  | .char '\r' :: .char '\n' :: cs => [] :: lines cs
  | c :: cs => if isLineBreak c then [] :: lines cs else consLine c (lines cs)

/-- Each carriage return, together with a line feed right after it, becomes one line feed. -/
def unifyLineEnds : Text → Text
  | [] => []
  | .char '\r' :: .char '\n' :: cs => '\n' :: unifyLineEnds cs
  | .char '\r' :: cs => '\n' :: unifyLineEnds cs
  | c :: cs => c :: unifyLineEnds cs

end Stencil.Text
