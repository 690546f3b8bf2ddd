import Stencil.Failure.Reading
import Stencil.Files.Tree

/-! Stores: where loaders find the texts of templates. Besides the files there are mappings from
names to texts, which their owner may change at any time, and scripts, which are asked for one name
after the other, remember what they were asked for, and need not answer with a text. -/
namespace Stencil

inductive Answer
  | nothing
  | text (text : Text)
  /-- A text with the file it is said to come from. -/
  | textFrom (text : Text) (file : Option Text)
  | failure (f : ReadFailure)
  /-- The script itself reports the template of this name as not found. -/
  | notFound (reason name : Text)
deriving DecidableEq, Repr

structure Script where
  answers : Table Text Answer
  /-- The names that were asked for, in order. -/
  asked : List Text

namespace Script

def ask (s : Script) (name : Text) : Answer × Script :=
  ((s.answers.get? name).getD .nothing, { s with asked := s.asked ++ [name] })

end Script

/-- Mappings and scripts go by names of their own. -/
structure Stores where
  tree : FileTree
  mappings : Table String (Table Text Text)
  scripts : Table String Script

instance : Inhabited Stores := ⟨⟨default, Table.empty, Table.empty⟩⟩

namespace Stores

def mapping (s : Stores) (store : String) : Table Text Text :=
  (s.mappings.get? store).getD Table.empty

def script (s : Stores) (store : String) : Script :=
  (s.scripts.get? store).getD ⟨Table.empty, []⟩

/-- Asks a script for a name. -/
def ask (s : Stores) (store : String) (name : Text) : Answer × Stores :=
  let (answer, script) := (s.script store).ask name
  (answer, { s with scripts := s.scripts.put store script })

end Stores

end Stencil
