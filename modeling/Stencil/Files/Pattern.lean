import Stencil.Files.Tree
import Stencil.Files.Wildcard
import Stencil.Text.Replace

/-! Patterns of paths, and the files they lead to. A part of a pattern is a name, or a pattern of
names, or two stars, which stand for any number of directories. -/
namespace Stencil

/-- A part of a pattern of paths. -/
inductive PathPattern.Part
  | name (t : Text)
  | wild (ws : List Wildcard)
  | anyDirectories
  /-- The directory that has been reached. -/
  | here
deriving DecidableEq, Repr

namespace PathPattern

def hasWildcard (t : Text) : Bool := t.any (("*?[" : Text).contains ·)

/-- Two stars cannot be only a piece of a part. -/
def part? (t : Text) : Option Part :=
  if t = "**" then some .anyDirectories
  else if Text.occursIn "**" t then none
  else if hasWildcard t then some (.wild (Wildcard.parse t))
  else some (.name t)

/-- Reads a pattern of paths. A slash at its end asks for directories. -/
def parse? (t : Text) : Option (List Part) := do
  let parts ← (Path.partsOf t).mapM part?
  some (if t.getLast? = some (.char '/') then parts ++ [.here] else parts)

end PathPattern

namespace FileTree

open PathPattern (Part)

/-- The files that a pattern leads to from a path, in the order in which they are come upon, or the
first failure on the way. Only directories lead on. Two stars lead to what the pattern finds in a
directory, then in those below it. What is denied is passed over, except where a file has been
reached. -/
def filesAt (t : FileTree) : List Part → Path → Except ReadFailure (List Path)
  | [], path =>
    match t.find path with
    | .file _ => .ok [path]
    | .failed trouble => .error (trouble.failure path)
    | _ => .ok []
  | .here :: pattern, path => t.filesAt pattern path
  | .name name :: pattern, path =>
    match t.find (path.child name) with
    | .directory _ => t.filesAt pattern (path.child name)
    | .file _ => .ok (if pattern.isEmpty then [path.child name] else [])
    | .failed trouble => passOver (path.child name) trouble
    | .nothing => .ok []
  | .wild ws :: pattern, path => do
    let entries := (← t.entries path).filter fun (name, isDirectory) =>
      (isDirectory || pattern.isEmpty) && Wildcard.fits ws name
    return (← entries.mapM fun (name, _) => t.filesAt pattern (path.child name)).flatten
  | .anyDirectories :: pattern, path => do
    let files ← (t.directoriesFrom path).mapM fun directory => do
      let files ← t.filesAt pattern directory
      -- Only then the directory is searched for others.
      let _ ← t.entries directory
      return files
    return files.flatten

end FileTree

end Stencil
