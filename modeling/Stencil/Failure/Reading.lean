import Stencil.Text.Encoding

/-! Failures of reading a template's text from where it is kept. -/
namespace Stencil

inductive ReadFailure
  /-- The system gives a reason in words of its own. -/
  | system (reason : Text)
  | denied (path : Text)
  | absent (path : Text)
  | nameTooLong (path : Text)
  | undecodable (fault : Text.DecodeFault)
  /-- No encoding can be had by a name. -/
  | noEncoding (name : String) (fault : Text.Encoding.NameFault)
  /-- Whoever keeps the text does not take the request for a proper one. -/
  | refused (reason : Text)
deriving DecidableEq, Repr

namespace ReadFailure

def message : ReadFailure → Text
  | system reason => reason
  | denied path => "[Errno 13] Permission denied: " ++ path.quoted
  | absent path => "[Errno 2] No such file or directory: " ++ path.quoted
  | nameTooLong path => "[Errno 36] File name too long: " ++ path.quoted
  | undecodable fault => fault.message
  | noEncoding name fault => fault.message name
  | refused reason => reason

/-- Whether the failure is one of the system or of the bytes, and not one of the request. -/
def isUnreadable : ReadFailure → Bool
  | undecodable (.bytes ..) => true
  | undecodable _ | noEncoding _ _ | refused _ => false
  | _ => true

end ReadFailure

end Stencil
