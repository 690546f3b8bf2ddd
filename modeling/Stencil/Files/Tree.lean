import Stencil.Failure.Reading
import Stencil.Files.Path
import Stencil.Table

/-! File trees: files and directories below the root, and the walk along a path to what it names.
The system may refuse what it is asked for, or fail at it. The root and the current directory can
always be reached, and there are no links, so that a directory has one path that does not lead up.
-/
namespace Stencil

/-- What the system is asked for. -/
inductive FileTree.Access
  /-- What stands in a directory under a name: this is asked with the name behind the directory, be
  there anything or not. -/
  | look
  /-- The names in a directory. -/
  | list
  /-- The content of a file. -/
  | open
deriving DecidableEq, Repr

/-- What keeps the system from an answer. -/
inductive FileTree.Trouble
  /-- A part of a path, or the path as a whole, is longer than file names can be. -/
  | tooLong
  | denied
  /-- Anything else, in the words of the system. -/
  | system (reason : Text)
deriving DecidableEq, Repr

/-- Files by the names on their paths from the root, and directories, which may be empty. A
directory that holds something need not be listed. -/
structure FileTree where
  files : Table (List FileName) (List UInt8)
  directories : List (List FileName) := []
  /-- The current directory. -/
  here : List FileName := []
  /-- What keeps the system from an answer about this path, as far as it is not its length. -/
  trouble? : FileTree.Access → List FileName → Option FileTree.Trouble := fun _ _ => none

instance : Inhabited FileTree := ⟨{ files := Table.empty }⟩

namespace FileTree

def Trouble.failure (path : Path) : Trouble → ReadFailure
  | tooLong => .nameTooLong path.text
  | denied => .denied path.text
  | system reason => .system reason

inductive Found
  | file (content : Except Trouble (List UInt8))
  | directory (names : List FileName)
  | nothing
  | failed (trouble : Trouble)
deriving Repr

/-- The greatest number of bytes in a part of a path. -/
def partLimit : Nat := 255

/-- The least number of bytes that is too large for a path. -/
def pathLimit : Nat := 4096

def isDirectory (t : FileTree) (names : List FileName) : Bool :=
  (t.here :: t.directories).any (names.isPrefixOf ·) ||
    t.files.keys.any fun file => names.isPrefixOf file && file ≠ names

/-- The content of a file, if it can be opened. -/
def content (t : FileTree) (names : List FileName) (bytes : List UInt8) :
    Except Trouble (List UInt8) :=
  match t.trouble? .open names with
  | some trouble => .error trouble
  | none => .ok bytes

/-- What stands under a name in a directory. Above the root there is the root. -/
def lookup (t : FileTree) (name : FileName) (directory : List FileName) : Found :=
  match t.trouble? .look (directory ++ [name]) with
  | some trouble => .failed trouble
  | none =>
    if name = .up then .directory directory.dropLast
    else if partLimit < name.length then .failed .tooLong
    else if t.isDirectory (directory ++ [name]) then .directory (directory ++ [name])
    else
      match t.files.get? (directory ++ [name]) with
      | some bytes => .file (t.content (directory ++ [name]) bytes)
      | none => .nothing

/-- Goes along the names; only a directory can be left by a further name. -/
def walk (t : FileTree) (directory : List FileName) : List FileName → Found
  | [] => .directory directory
  | name :: names =>
    match t.lookup name directory with
    | .directory directory => t.walk directory names
    | .file content => if names.isEmpty then .file content else .nothing
    | found => found

/-- Where a path begins. -/
def origin (t : FileTree) (p : Path) : List FileName := if p.origin = .here then t.here else []

/-- What a path names. No file has a null character in its path. -/
def find (t : FileTree) (p : Path) : Found :=
  match FileName.ofText? p.text, p.names? with
  | some bytes, some names =>
    if bytes.contains 0 then .nothing
    else if pathLimit ≤ bytes.length then .failed .tooLong
    else t.walk (t.origin p) names
  | _, _ => .nothing

/-- All files and directories of the tree, some perhaps more than once. -/
def known (t : FileTree) : List (List FileName) :=
  (t.here :: t.directories ++ t.files.keys).flatMap fun names =>
    (List.range names.length).map fun n => names.take (n + 1)

/-- The names in a directory. -/
def children (t : FileTree) (directory : List FileName) : List FileName :=
  (t.known.filterMap fun more =>
    match directory.isPrefixOf? more with
    | some [name] => some name
    | _ => none).eraseDups

/-- A search passes over what is denied. Any other trouble ends it. -/
def passOver {α : Type} (path : Path) (trouble : Trouble) : Except ReadFailure (List α) :=
  if trouble = .denied then .ok [] else .error (trouble.failure path)

/-- The names that a search finds in the directory at a path, and whether they name directories
themselves. -/
def entries (t : FileTree) (path : Path) : Except ReadFailure (List (Text × Bool)) :=
  match t.find path with
  | .directory directory =>
    match t.trouble? .list directory with
    | some trouble => passOver path trouble
    | none =>
      .ok ((t.children directory).map fun name =>
        (name.toText, t.isDirectory (directory ++ [name])))
  | .failed trouble => passOver path trouble
  | _ => .ok []

/-- All directories on the way from a directory along names can be listed, except perhaps the last
one. -/
def listsOn (t : FileTree) (directory names : List FileName) : Bool :=
  (List.range names.length).all fun n =>
    (t.trouble? .list (directory ++ names.take n)).isNone

/-- A directory and all directories below it that are found by listing one after the other, by the
names on the paths that lead to them. -/
def directoriesBelow (t : FileTree) (directory : List FileName) : List (List FileName) :=
  ([] :: t.known.filterMap fun more =>
    if t.isDirectory more then (directory.isPrefixOf? more).filter (t.listsOn directory)
    else none).eraseDups

/-- The paths to the directory at a path and to all directories below it, and the path alone if it
leads to none. -/
def directoriesFrom (t : FileTree) (path : Path) : List Path :=
  match t.find path with
  | .directory directory =>
    (t.directoriesBelow directory).map fun names =>
      ⟨path.origin, path.parts ++ names.map FileName.toText⟩
  | _ => [path]

end FileTree

end Stencil
