import Stencil.Failure.Reading
import Stencil.Text.Similar

/-! Templates that are not found, and what is said about them. -/
namespace Stencil

inductive NotFound
  | noLoader (name : Text)
  | unreadable (name : Text) (cause : ReadFailure)
  | unreadableFile (name path : Text) (cause : ReadFailure)
  /-- The name is not among the names that are known, here in order. -/
  | unlisted (name : Text) (known : List Text)
  | noFile (name : Text) (directories : List Text)
  | noneHolds (name : Text) (loaders : Nat)
  | noAnswer (name : Text)
  /-- A loader of the caller's own gives its reason, and the name or not. -/
  | reported (reason : Text) (name : Option Text)
deriving DecidableEq, Repr

namespace NotFound

/-- How many known names are listed at most. -/
def listed : Nat := 10

/-- Names one known name that is close, or else lists what there is. -/
def advice (name : Text) (known : List Text) : Text :=
  match name.closest? known with
  | some guess => ". Did you mean '" ++ guess ++ "'?"
  | none =>
    if known.isEmpty then ""
    else
      ". Available: " ++ (", " : Text).intercalate (known.take listed) ++
        if listed < known.length then s!" ... ({known.length} total)" else ""

/-- A name with what is said about its template. -/
def about (name rest : Text) : Text := "Template '" ++ name ++ "' " ++ rest

def message : NotFound → Text
  | noLoader name => about name "not found: no loader configured"
  | unreadable name cause => about name ("could not be read: " ++ cause.message)
  | unreadableFile name path cause =>
    about name ("could not be read from " ++ path ++ ": " ++ cause.message)
  | unlisted name known => about name ("not found" ++ advice name known)
  | noFile name directories =>
    about name ("not found in: " ++ (", " : Text).intercalate directories)
  | noneHolds name loaders => about name s!"not found in any of {loaders} loaders"
  | noAnswer name => about name "not found"
  | reported reason _ => reason

def name? : NotFound → Option Text
  | noLoader name | unreadable name _ | unreadableFile name _ _ | unlisted name _ | noFile name _
  | noneHolds name _ | noAnswer name => some name
  | reported _ name => name

def cause? : NotFound → Option ReadFailure
  | unreadable _ cause | unreadableFile _ _ cause => some cause
  | _ => none

end NotFound

end Stencil
