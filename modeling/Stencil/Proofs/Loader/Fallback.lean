import Stencil.Proofs.Loader.Contents
import Mathlib.Tactic.Common

/-! What loaders answer that are built from files in UTF-8, mappings, functions and choices. A name
is found, or its template is reported as absent under that name, so that a choice goes on to its
next loader. The one exception is trouble on the way to a file, such as a path that is too long or a
directory that may not be looked into. It is noticed before there is a file to be read, and is
passed on and ends a choice. -/
namespace Stencil

namespace Text

theorem exists_bytes_of_decodeUtf8 {offset skip : Nat} {bytes : List UInt8} {fault : DecodeFault}
    (h : decodeUtf8 offset skip bytes = .error fault) : ∃ first past byte reason,
      fault = .bytes "utf-8" first past byte reason := by
  fun_induction decodeUtf8 offset skip bytes with
  | case1 => cases h
  | case2 _ _ _ _ ih => exact ih h
  | case3 => exact ⟨_, _, _, _, (Except.error.inj h).symm⟩
  | case4 offset lead rest size _ found _ ih =>
    cases hrest : decodeUtf8 (offset + 1) (size - 1) rest with
    | ok cs =>
      rw [hrest] at h
      cases h
    | error fault' =>
      rw [hrest] at h
      obtain rfl : fault' = fault := Except.error.inj h
      exact ih hrest
  | case5 => exact ⟨_, _, _, _, (Except.error.inj h).symm⟩
  | case6 => exact ⟨_, _, _, _, (Except.error.inj h).symm⟩

end Text

/-- The answers of a function that returns, or that fails as the system or the bytes do. -/
def Answer.IsPlain : Answer → Prop
  | nothing | text _ | textFrom _ _ => True
  | failure f => f.isUnreadable = true
  | notFound _ _ => False

namespace Loader

/-- Loaders of files in UTF-8, of mappings, of plain functions, and choices from such loaders. -/
inductive BuiltIn (stores : Stores) : Loader → Prop
  | files (directories : List Path) {encoding : String} (suffix : Text)
      (hencoding : Text.Encoding.ofName encoding = .ok .utf8) :
      BuiltIn stores (files directories encoding suffix)
  | mapping (store : String) : BuiltIn stores (mapping store)
  | function {store : String}
      (hplain : ∀ name answer, (stores.script store).answers.get? name = some answer →
        answer.IsPlain) : BuiltIn stores (function store)
  | choice {loaders : List Loader} (h : ∀ l ∈ loaders, BuiltIn stores l) :
      BuiltIn stores (choice loaders)

/-- The paths that a name may be looked for under. -/
inductive Asks (name : Text) (path : Path) : Loader → Prop
  | files {directories : List Path} {directory : Path} {encoding : String} {suffix : Text}
      (hdirectory : directory ∈ directories)
      (hpath : directory.join (Path.ofText (name ++ suffix)) = path) :
      Asks name path (files directories encoding suffix)
  | choice {loaders : List Loader} {l : Loader} (hl : l ∈ loaders) (h : Asks name path l) :
      Asks name path (choice loaders)

/-- The system fails to tell what is at some path that a name may be looked for under. -/
def Troubled (l : Loader) (stores : Stores) (name : Text) : Prop :=
  ∃ path trouble, l.Asks name path ∧ stores.tree.find path = .failed trouble

/-- What a loader answers on its own. -/
def answer (l : Loader) (stores : Stores) (name : Text) : Except Failure Source :=
  (l.read name stores).1

/-- An answer that ends a choice. -/
def settles : Except Failure Source → Bool
  | .error (.template (.notFound _)) => false
  | _ => true

/-- A source, the absence of the template of this name, or trouble at a path. -/
inductive Answers (l : Loader) (stores : Stores) (name : Text) : Except Failure Source → Prop
  | found (source : Source) : Answers l stores name (.ok source)
  | absent {n : NotFound} (hname : n.name? = some name) :
      Answers l stores name (.error (.template (.notFound n)))
  | failed {path : Path} {trouble : FileTree.Trouble} (hasks : l.Asks name path)
      (hfind : stores.tree.find path = .failed trouble) :
      Answers l stores name (.error (.reading (trouble.failure path)))

variable {l : Loader} {loaders : List Loader} {stores s : Stores} {name : Text}

theorem isUnreadable_of_decodeFile {encoding : String} {bytes : List UInt8} {f : ReadFailure}
    (hencoding : Text.Encoding.ofName encoding = .ok .utf8)
    (h : decodeFile encoding bytes = .error f) : f.isUnreadable = true := by
  have hdecode : Text.Encoding.utf8.decode bytes =
      (Text.decodeUtf8 0 0 bytes).map Text.ofChars := rfl
  rw [decodeFile, hencoding] at h
  simp only [hdecode] at h
  cases hbytes : Text.decodeUtf8 0 0 bytes with
  | ok cs => simp [hbytes, Except.map] at h
  | error fault =>
    obtain ⟨first, past, byte, reason, rfl⟩ := Text.exists_bytes_of_decodeUtf8 hbytes
    simp only [hbytes, Except.map, Except.error.injEq] at h
    rw [← h]
    rfl

/-- Whatever stands under a path in the tree, it is read, reported or passed over, unless there is
trouble with the path. -/
theorem answers_readFiles {all : List Path} {encoding : String} {suffix : Text}
    (hencoding : Text.Encoding.ofName encoding = .ok .utf8) {directories : List Path}
    (hall : ∀ directory ∈ directories, directory ∈ all) :
    (files all encoding suffix).Answers stores name
      (readFiles stores.tree encoding suffix name all directories) := by
  induction directories with
  | nil => exact .absent rfl
  | cons directory directories ih =>
    obtain ⟨hdirectory, hrest⟩ := List.forall_mem_cons.mp hall
    rw [readFiles]
    cases hfind : stores.tree.find (directory.join (Path.ofText (name ++ suffix))) with
    | file content =>
      cases content with
      | error trouble => exact .absent rfl
      | ok bytes =>
        dsimp only
        cases hdecode : decodeFile encoding bytes with
        | ok text => exact .found _
        | error f =>
          have hunreadable := isUnreadable_of_decodeFile hencoding hdecode
          simp only [hunreadable, if_true]
          exact .absent rfl
    | failed trouble => exact .failed (.files hdirectory rfl) hfind
    | directory names => exact ih hrest
    | nothing => exact ih hrest

theorem answers_ofFunction {a : Answer} (h : a.IsPlain) : l.Answers stores name
    (ofFunction name a) := by
  cases a with
  | nothing => exact .absent rfl
  | text text => exact .found _
  | textFrom text file => exact .found _
  | failure f =>
    have hunreadable : f.isUnreadable = true := h
    rw [ofFunction, if_pos hunreadable]
    exact .absent rfl
  | notFound reason name => exact h.elim

/-- A choice gives the answer of the first loader that settles it, each on its own: what was asked
before makes no difference. -/
theorem readFirst_fst (name : Text) (count : Nat) (loaders : List Loader)
    (h : s.SameContents stores) : (readFirst name count s loaders).1 =
      ((loaders.map fun l => l.answer stores name).find? settles).getD
        (notFound (.noneHolds name count)) := by
  induction loaders generalizing s with
  | nil => simp [readFirst]
  | cons l loaders ih =>
    obtain ⟨hresult, hleft⟩ := l.read_congr name h
    rw [readFirst, List.map_cons, answer, ← hresult]
    rcases hread : l.read name s with ⟨result, s'⟩
    rw [hread] at hleft
    have hrest := ih (hleft.trans h)
    cases result with
    | ok source => rfl
    | error f =>
      cases f with
      | template e =>
        cases e with
        | notFound n => exact hrest
        | _ => rfl
      | _ => rfl

theorem answer_choice (loaders : List Loader) (stores : Stores) (name : Text) :
    (choice loaders).answer stores name =
      ((loaders.map fun l => l.answer stores name).find? settles).getD
        (notFound (.noneHolds name loaders.length)) := by
  rw [answer, read]
  exact readFirst_fst name loaders.length loaders (.refl stores)

theorem Answers.choice {result : Except Failure Source} (hl : l ∈ loaders)
    (hsettles : settles result = true) (h : l.Answers stores name result) :
    (choice loaders).Answers stores name result := by
  cases h with
  | found source => exact .found source
  | absent hname => cases hsettles
  | failed hasks hfind => exact .failed (.choice hl hasks) hfind

theorem BuiltIn.answers (h : l.BuiltIn stores) (name : Text) :
    l.Answers stores name (l.answer stores name) := by
  induction h with
  | files directories suffix hencoding =>
    rw [answer, read]
    exact answers_readFiles hencoding fun _ hdirectory => hdirectory
  | mapping store =>
    simp only [answer, read, readMapping]
    cases (stores.mapping store).get? name with
    | none => exact .absent rfl
    | some text => exact .found _
  | @function store hplain =>
    simp only [answer, read, Stores.ask, Script.ask]
    cases hanswer : (stores.script store).answers.get? name with
    | none => exact .absent rfl
    | some a => exact answers_ofFunction (hplain name a hanswer)
  | @choice loaders _ ih =>
    rw [answer_choice]
    cases hfirst : (loaders.map fun l => l.answer stores name).find? settles with
    | none => exact .absent rfl
    | some result =>
      have hmem := List.mem_of_find?_eq_some hfirst
      obtain ⟨l, hl, rfl⟩ := List.mem_map.mp hmem
      exact (ih l hl).choice hl (List.find?_some hfirst)

/-- What can be relied on when a loader is one of several. -/
structure FallsBack (l : Loader) (stores : Stores) (name : Text) : Prop where
  answers : l.Answers stores name (l.answer stores name)
  /-- Without trouble the name is found, or reported. -/
  reports : ¬ l.Troubled stores name → (∃ source, l.answer stores name = .ok source) ∨
    ∃ n, l.answer stores name = .error (.template (.notFound n)) ∧ n.name? = some name
  /-- A choice finds what the first of its loaders finds that finds something. -/
  first : ∀ loaders, l = .choice loaders → ¬ l.Troubled stores name →
    (l.answer stores name).toOption = loaders.findSome? fun l' => (l'.answer stores name).toOption

theorem Answers.reports {result : Except Failure Source} (h : l.Answers stores name result)
    (hcalm : ¬ l.Troubled stores name) : (∃ source, result = .ok source) ∨
      ∃ n, result = .error (.template (.notFound n)) ∧ n.name? = some name := by
  cases h with
  | found source => exact .inl ⟨source, rfl⟩
  | absent hname => exact .inr ⟨_, rfl, hname⟩
  | failed hasks hfind => exact absurd ⟨_, _, hasks, hfind⟩ hcalm

/-- Among answers that are found or reported, the first that settles a choice is the first that is
found. -/
theorem toOption_find?_settles (h : ∀ l ∈ loaders, l.Answers stores name (l.answer stores name))
    (hcalm : ∀ l ∈ loaders, ¬ l.Troubled stores name) {other : Except Failure Source}
    (hother : other.toOption = none) :
    (((loaders.map fun l => l.answer stores name).find? settles).getD other).toOption =
      loaders.findSome? fun l => (l.answer stores name).toOption := by
  induction loaders with
  | nil => exact hother
  | cons l loaders ih =>
    obtain ⟨hanswers, hrest⟩ := List.forall_mem_cons.mp h
    obtain ⟨hfirst, hothers⟩ := List.forall_mem_cons.mp hcalm
    rw [List.map_cons, List.find?_cons, List.findSome?_cons]
    obtain ⟨source, hanswer⟩ | ⟨n, hanswer, -⟩ := hanswers.reports hfirst
    · rw [hanswer]
      rfl
    · rw [hanswer]
      exact ih hrest hothers

theorem fallsBack_of_builtIn (h : l.BuiltIn stores) (name : Text) : l.FallsBack stores name where
  answers := h.answers name
  reports := (h.answers name).reports
  first := by
    rintro loaders rfl hcalm
    cases h with
    | choice hall =>
      rw [answer_choice]
      have hanswers := fun l hl => (hall l hl).answers name
      refine toOption_find?_settles hanswers (fun l hl htroubled => ?_) rfl
      obtain ⟨path, trouble, hasks, hfind⟩ := htroubled
      exact hcalm ⟨path, trouble, .choice hl hasks, hfind⟩

/-- A function that may not read `a`. -/
def guarded : Script := ⟨Table.ofList [("a", .failure (.denied "a"))], []⟩

/-- A name that no file can have. -/
def longName : Text := List.replicate 256 (.char 'n')

/-- Nothing in the directory `d` may be looked at, and no content of a file `c`. -/
def lockedTree (files : Table (List FileName) (List UInt8)) : FileTree where
  files := files
  trouble? access names :=
    if access = .look ∧ names.dropLast = [[0x64]] ∨ access = .open ∧ names = [[0x63]] then
      some .denied
    else none

/-- Under `a` there are a file that is no UTF-8, a function that fails and a text in a mapping, and
under `c` a file that may not be read. The mapping has a text of the long name too, and one of a
name in the directory that is locked. -/
def layeredStores : Stores where
  tree := lockedTree (Table.ofList [([[0x61]], [0xff]), ([[0x63]], [0x31]),
    ([[0x64], [0x78]], [0x31])])
  mappings := Table.ofList [("texts",
    Table.ofList [("a", "1"), (longName, "2"), ("c", "3"), ("d/x", "4")])]
  scripts := Table.ofList [("guarded", guarded)]

def layered : Loader :=
  choice [files [⟨.here, []⟩] "utf-8" "", choice [function "guarded"], mapping "texts"]

theorem builtIn_layered : layered.BuiltIn layeredStores := by
  have hguarded : (function "guarded").BuiltIn layeredStores := by
    refine .function fun name answer hanswer => ?_
    have hscript : layeredStores.script "guarded" = guarded := rfl
    rw [hscript] at hanswer
    have hmem := Table.mem_entries_of_get? hanswer
    simp [guarded, Table.ofList, Table.putAll, Table.put, Table.putIn, Table.empty] at hmem
    obtain ⟨-, rfl⟩ := hmem
    rfl
  refine .choice fun l hl => ?_
  simp only [List.mem_cons, List.not_mem_nil, or_false] at hl
  obtain rfl | rfl | rfl := hl
  · exact .files _ _ (by decide +kernel)
  · exact .choice fun l hl => by rwa [List.mem_singleton.mp hl]
  · exact .mapping "texts"

/-- The choice goes on past files that cannot be read and past the function. -/
theorem fallsBack_layered : layered.BuiltIn layeredStores ∧ layered.FallsBack layeredStores "a" ∧
    layered.answer layeredStores "a" = .ok ⟨"1", none⟩ ∧
    layered.answer layeredStores "c" = .ok ⟨"3", none⟩ :=
  ⟨builtIn_layered, fallsBack_of_builtIn builtIn_layered "a", by decide +kernel,
    by decide +kernel⟩

/-- Neither the length of a name nor a directory that is locked is reported as the template's
absence, so the mapping is not asked, which has it. -/
theorem answer_layered_troubled : layered.BuiltIn layeredStores ∧
    (mapping "texts").answer layeredStores longName = .ok ⟨"2", none⟩ ∧
    layered.answer layeredStores longName = .error (.reading (.nameTooLong longName)) ∧
    (mapping "texts").answer layeredStores "d/x" = .ok ⟨"4", none⟩ ∧
    layered.answer layeredStores "d/x" = .error (.reading (.denied "d/x")) :=
  ⟨builtIn_layered, by decide +kernel, by decide +kernel, by decide +kernel, by decide +kernel⟩

end Loader

end Stencil
