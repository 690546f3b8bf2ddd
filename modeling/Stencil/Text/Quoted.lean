import Stencil.Text.Printable

/-! Quoted texts and bytes: what is between the quotes reads on one line, with an escape for the
quote itself, the backslash and whatever would not print. -/
namespace Stencil.Text

def apostrophe : Char := '\x27'

def quotationMark : Char := '\x22'

/-- The apostrophe, unless the text holds it and no quotation mark. -/
def quoteFor (cs : Text) : Char :=
  if cs.contains apostrophe && !cs.contains quotationMark then quotationMark else apostrophe

/-- Lower case hexadecimal digits, with zeros in front up to the width. -/
def hex (width n : Nat) : List Char :=
  let digits := Nat.toDigits 16 n
  List.replicate (width - digits.length) '0' ++ digits

/-- The shortest of the three numeric escapes that holds the code point. -/
def escapeCode (n : Nat) : List Char :=
  if n < 0x100 then '\\' :: 'x' :: hex 2 n
  else if n < 0x10000 then '\\' :: 'u' :: hex 4 n
  else '\\' :: 'U' :: hex 8 n

/-- One code point between two copies of `quote`, where `plain` says which ones need no escape. -/
def escape (plain : CodePoint → Bool) (quote : Char) (c : CodePoint) : Text :=
  if c = quote ∨ c = '\\' then ['\\', c]
  else if c = '\t' then ['\\', 't']
  else if c = '\n' then ['\\', 'n']
  else if c = '\r' then ['\\', 'r']
  else if plain c then [c]
  else ofChars (escapeCode c.code)

def quoteWith (plain : CodePoint → Bool) (cs : Text) : Text :=
  let quote := quoteFor cs
  .char quote :: (cs.flatMap (escape plain quote) ++ [.char quote])

/-- A text in quotes: printable characters stand for themselves. -/
def quoted (t : Text) : Text := quoteWith isPrintable t

/-- Bytes in quotes after a `b`: only printable ASCII stands for itself. -/
def quotedBytes (bytes : List UInt8) : Text :=
  let chars := ofChars (bytes.map fun b => Char.ofNat b.toNat)
  'b' :: quoteWith (fun c => 0x20 ≤ c.code && c.code < 0x7f) chars

end Stencil.Text
