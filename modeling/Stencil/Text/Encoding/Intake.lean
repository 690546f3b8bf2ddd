import Stencil.Text.Encoding.Charset

/-! Encodings that are read from the front, a few bytes at a time. What was read before may bear on
what the next bytes stand for; this is the state of a reading. -/
namespace Stencil.Text

/-- What is found in front of some bytes. -/
inductive Intake (σ : Type)
  /-- The first `size` bytes stand for a text; the others are read in this state. -/
  | text (size : Nat) (t : Text) (state : σ)
  /-- The first `size` bytes are not admitted. -/
  | fault (size : Nat) (reason : String)
  /-- The encoding has no rule for what comes. -/
  | noRule

namespace Intake

variable {σ : Type}

def illegal (size : Nat) : Intake σ := .fault size "illegal multibyte sequence"

/-- The bytes end within a character. -/
def incomplete (bytes : List UInt8) : Intake σ :=
  .fault bytes.length "incomplete multibyte sequence"

/-- Decodes bytes with `offset` more in front of them. -/
def decode (encoding : String) (take : σ → List UInt8 → Intake σ) (state : σ) (offset : Nat)
    (bytes : List UInt8) : Except DecodeFault Text :=
  match bytes with
  | [] => .ok []
  | b :: rest =>
    match take state (b :: rest) with
    | .text size t state =>
      (decode encoding take state (offset + size) (rest.drop (size - 1))).map (t ++ ·)
    | .fault size reason => .error (.bytes encoding offset (offset + size) b reason)
    | .noRule => .error .noRule
termination_by bytes.length
decreasing_by simp only [List.length_drop, List.length_cons]; omega

/-- What a byte is at the beginning of a character. -/
inductive First
  | alone (c : Char)
  /-- The byte and the next one stand for characters together. -/
  | ofPair
  | stray

/-- Takes a byte or a pair of bytes. Of a pair that stands for nothing, as many bytes as `faulty`
says are not admitted. -/
def takePair (first : UInt8 → First) (faulty : UInt8 → UInt8 → Nat)
    (pair? : UInt8 → UInt8 → Option (List Char)) : Unit → List UInt8 → Intake Unit
  | _, [] => .noRule
  | _, a :: rest =>
    match first a with
    | .alone c => .text 1 [c] ()
    | .stray => .illegal 1
    | .ofPair =>
      match rest with
      | [] => .incomplete [a]
      | b :: _ =>
        match pair? a b with
        | some cs => .text 2 (.ofChars cs) ()
        | none => .illegal (faulty a b)

/-- Takes a byte of ASCII or a pair of bytes. -/
def takeAsciiOrPair (pair? : UInt8 → UInt8 → Option (List Char)) :
    Unit → List UInt8 → Intake Unit :=
  takePair (fun b => if b < 0x80 then .alone (Char.ofNat b.toNat) else .ofPair) (fun _ _ => 1) pair?

end Intake

end Stencil.Text
