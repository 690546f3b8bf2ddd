import Stencil.Failure
import Stencil.Files.Pattern
import Stencil.Stores

/-! Loaders: ways to find a template's text by its name. A loader over files, a mapping or a
function reports what it cannot read as not found, so that a choice of loaders can go on to the next
one; a loader of the caller's own lets every failure through. -/
namespace Stencil

inductive Loader
  /-- The files below some directories, under the name with a suffix. -/
  | files (directories : List Path) (encoding : String) (suffix : Text)
  | mapping (store : String)
  /-- The first of some loaders that finds the template. -/
  | choice (loaders : List Loader)
  /-- A script that answers with a text or with nothing. -/
  | function (store : String)
  /-- A script that is a loader of the caller's own. -/
  | custom (store : String)

/-- The text of a template and where it comes from. -/
structure Source where
  text : Text
  file : Option Text
deriving DecidableEq, Repr

namespace Loader

def typeName : Loader → String
  | files _ _ _ => "FileSystemLoader"
  | mapping _ => "DictLoader"
  | choice _ => "ChoiceLoader"
  | function _ => "FunctionLoader"
  | custom _ => "CustomLoader"

def notFound {α : Type} (n : NotFound) : Except Failure α := .error (.template (.notFound n))

/-- Different names in order. -/
def sortNames (names : List Text) : List Text := names.eraseDups.mergeSort Text.le

/-- Decodes a file and turns its line ends into line feeds. -/
def decodeFile (encoding : String) (bytes : List UInt8) : Except ReadFailure Text :=
  match Text.Encoding.ofName encoding with
  | .error fault => .error (.noEncoding encoding fault)
  | .ok e =>
    match e.decode bytes with
    | .ok text => .ok text.unifyLineEnds
    | .error fault => .error (.undecodable fault)

/-- The first directory that has a file of the name settles the search, be the file readable or
not. Only what goes wrong when it is read is taken as the template's absence. -/
def readFiles (tree : FileTree) (encoding : String) (suffix name : Text) (all : List Path) :
    List Path → Except Failure Source
  | [] => notFound (.noFile name (all.map Path.text))
  | directory :: directories =>
    let path := directory.join (Path.ofText (name ++ suffix))
    match tree.find path with
    | .file (.ok bytes) =>
      match decodeFile encoding bytes with
      | .ok text => .ok ⟨text, some path.text⟩
      | .error f =>
        if f.isUnreadable then notFound (.unreadableFile name path.text f) else .error (.reading f)
    | .file (.error trouble) =>
      notFound (.unreadableFile name path.text (trouble.failure path))
    | .failed trouble => .error (.reading (trouble.failure path))
    | .directory _ | .nothing => readFiles tree encoding suffix name all directories

def readMapping (mapping : Table Text Text) (name : Text) : Except Failure Source :=
  match mapping.get? name with
  | some text => .ok ⟨text, none⟩
  | none => notFound (.unlisted name (sortNames mapping.keys))

/-- What a function's answer comes to. -/
def ofFunction (name : Text) : Answer → Except Failure Source
  | .nothing => notFound (.noAnswer name)
  | .text text => .ok ⟨text, some ("<function>" : Text)⟩
  | .textFrom text file => .ok ⟨text, file⟩
  | .failure f => if f.isUnreadable then notFound (.unreadable name f) else .error (.reading f)
  | .notFound reason name => notFound (.reported reason (some name))

/-- What the answer of a caller's own loader comes to. -/
def ofCustom (name : Text) : Answer → Except Failure Source
  | .nothing => notFound (.reported ("custom: no " ++ name) (some name))
  | .text text => .ok ⟨text, none⟩
  | .textFrom text file => .ok ⟨text, file⟩
  | .failure f => .error (.reading f)
  | .notFound reason name => notFound (.reported reason (some name))

mutual

/-- Finds a template; scripts that are asked on the way remember it. -/
def read (name : Text) (stores : Stores) : Loader → Except Failure Source × Stores
  | files directories encoding suffix =>
    (readFiles stores.tree encoding suffix name directories directories, stores)
  | mapping store => (readMapping (stores.mapping store) name, stores)
  | choice loaders => readFirst name loaders.length stores loaders
  | function store =>
    let (answer, stores) := stores.ask store name
    (ofFunction name answer, stores)
  | custom store =>
    let (answer, stores) := stores.ask store name
    (ofCustom name answer, stores)

/-- Tries the remaining ones of `count` loaders; any failure but the template's absence ends it. -/
def readFirst (name : Text) (count : Nat) (stores : Stores) :
    List Loader → Except Failure Source × Stores
  | [] => (notFound (.noneHolds name count), stores)
  | loader :: loaders =>
    match loader.read name stores with
    | (.error (.template (.notFound _)), stores) => readFirst name count stores loaders
    | result => result

end

/-- The name of a listed file: its path without the suffix, which is cut off by length. -/
def listedName (suffix : Text) (parts : List Text) : Text :=
  let path := ("/" : Text).intercalate parts
  let kept :=
    if suffix.length ≤ path.length then path.length - suffix.length
    else 2 * path.length - suffix.length
  path.take kept

/-- The names of the files below a directory, at any depth, that end in the suffix. What is no
directory has none. -/
def listDirectory (tree : FileTree) (suffix : Text) (directory : Path) :
    Except ReadFailure (List Text) :=
  match tree.find directory with
  | .directory _ =>
    match PathPattern.parse? ("*" ++ suffix) with
    | some pattern =>
      match tree.filesAt (.anyDirectories :: pattern) directory with
      | .ok paths =>
        .ok (paths.map fun path => listedName suffix (path.parts.drop directory.parts.length))
      | .error f => .error f
    | none =>
      .error (.refused "Invalid pattern: '**' can only be an entire path component")
  | .failed trouble => .error (trouble.failure directory)
  | _ => .ok []

mutual

/-- The names of all templates. -/
def list (stores : Stores) : Loader → Except Failure (List Text)
  | files directories _ suffix =>
    match directories.mapM (listDirectory stores.tree suffix) with
    | .ok names => .ok (sortNames names.flatten)
    | .error f => .error (.reading f)
  | mapping store => .ok (sortNames (stores.mapping store).keys)
  | choice loaders => (listAll stores loaders).map sortNames
  | function _ => .ok []
  | custom _ => .error .noListing

/-- A loader that cannot list adds no name. -/
def listAll (stores : Stores) : List Loader → Except Failure (List Text)
  | [] => .ok []
  | loader :: loaders =>
    match loader.list stores with
    | .ok names => (listAll stores loaders).map (names ++ ·)
    | .error .noListing => listAll stores loaders
    | .error f => .error f

end

end Loader

end Stencil
