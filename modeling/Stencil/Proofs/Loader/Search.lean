import Stencil.Proofs.Loader.Fallback

/-! How a loader of files goes through its directories. What a directory has under a name is
nothing, a source, or what cannot be used: a file that may not be read or whose bytes are no text,
or a path for which the system fails to tell what is there. The loader passes over directories that
have nothing, and no others, while a choice of loaders with one directory each also passes over
files that cannot be read. So both find the first source that a directory has, unless something that
cannot be used stands before it. -/
namespace Stencil.Loader

/-- What a directory has under a name. -/
inductive Finding
  | nothing
  | source (s : Source)
  | unreadable (path : Text) (f : ReadFailure)
  | failed (path : Path) (trouble : FileTree.Trouble)
deriving DecidableEq, Repr

/-- The answer is a source, or reports that the name was not found. -/
def Reports (name : Text) (answer : Except Failure Source) : Prop :=
  (∃ s, answer = .ok s) ∨
    ∃ n, answer = .error (.template (.notFound n)) ∧ n.name? = some name

namespace Finding

def source? : Finding → Option Source
  | source s => some s
  | _ => none

/-- Whether a loader that meets it gives a source or reports the name as not found. -/
def isReported : Finding → Bool
  | nothing | source _ => true
  | unreadable _ f => f.isUnreadable
  | failed _ _ => false

/-- A file is there that cannot be read, or it cannot be told whether one is there. -/
inductive IsBlocked : Finding → Prop
  | unreadable (path : Text) (f : ReadFailure) : IsBlocked (unreadable path f)
  | failed (path : Path) (trouble : FileTree.Trouble) : IsBlocked (failed path trouble)

/-- The answer of a loader that meets it, or nothing if the loader goes on. -/
def answer? (name : Text) : Finding → Option (Except Failure Source)
  | nothing => none
  | source s => some (.ok s)
  | unreadable path f =>
    some (if f.isUnreadable then notFound (.unreadableFile name path f) else .error (.reading f))
  | failed path trouble => some (.error (.reading (trouble.failure path)))

variable {name : Text} {finding : Finding}

theorem eq_nothing_or_source_or_isBlocked (finding : Finding) :
    finding = nothing ∨ (∃ s, finding = source s) ∨ finding.IsBlocked := by
  cases finding with
  | nothing => exact .inl rfl
  | source s => exact .inr (.inl ⟨s, rfl⟩)
  | unreadable path f => exact .inr (.inr (.unreadable path f))
  | failed path trouble => exact .inr (.inr (.failed path trouble))

theorem IsBlocked.source?_eq_none (h : finding.IsBlocked) : finding.source? = none := by
  cases h <;> rfl

/-- A loader gives up at what cannot be used. -/
theorem IsBlocked.exists_answer? (h : finding.IsBlocked) (name : Text) :
    ∃ f, finding.answer? name = some (.error f) := by
  cases h with
  | unreadable path f =>
    rw [answer?, notFound]
    split <;> exact ⟨_, rfl⟩
  | failed path trouble => exact ⟨_, rfl⟩

theorem reports_of_isReported (h : finding.isReported = true) {answer : Except Failure Source}
    (hanswer : finding.answer? name = some answer) : Reports name answer := by
  cases finding with
  | nothing => cases hanswer
  | source s => exact .inl ⟨s, (Option.some.inj hanswer).symm⟩
  | unreadable path f =>
    have hunreadable : f.isUnreadable = true := h
    rw [answer?, if_pos hunreadable] at hanswer
    exact .inr ⟨_, (Option.some.inj hanswer).symm, rfl⟩
  | failed path trouble => cases h

end Finding

/-- Something that cannot be used stands before the first source. -/
inductive Shadowed : List Finding → Prop
  | here {finding : Finding} {findings : List Finding} (h : finding.IsBlocked)
      (hlater : findings.findSome? Finding.source? ≠ none) : Shadowed (finding :: findings)
  | later {finding : Finding} {findings : List Finding} (h : finding.source? = none)
      (hlater : Shadowed findings) : Shadowed (finding :: findings)

section Findings

variable {findings : List Finding} {name : Text} {other : Except Failure Source}

/-- The first answer on the way gives the first source, as long as none is shadowed. -/
theorem toOption_findSome?_answer? (h : ¬ Shadowed findings) (hother : other.toOption = none) :
    ((findings.findSome? (Finding.answer? name)).getD other).toOption =
      findings.findSome? Finding.source? := by
  induction findings with
  | nil => exact hother
  | cons finding findings ih =>
    rw [List.findSome?_cons, List.findSome?_cons]
    obtain rfl | ⟨s, rfl⟩ | hblocked := finding.eq_nothing_or_source_or_isBlocked
    · exact ih fun hlater => h (.later rfl hlater)
    · rfl
    · obtain ⟨f, hanswer⟩ := hblocked.exists_answer? name
      have hnone : findings.findSome? Finding.source? = none :=
        Decidable.byContradiction fun hlater => h (.here hblocked hlater)
      rw [hanswer, hblocked.source?_eq_none, hnone]
      rfl

theorem Shadowed.toOption_answer (h : Shadowed findings) :
    ((findings.findSome? (Finding.answer? name)).getD other).toOption = none := by
  induction h with
  | here hblocked =>
    obtain ⟨f, hanswer⟩ := hblocked.exists_answer? name
    rw [List.findSome?_cons, hanswer]
    rfl
  | @later finding findings hsource _ ih =>
    rw [List.findSome?_cons]
    obtain rfl | ⟨s, rfl⟩ | hblocked := finding.eq_nothing_or_source_or_isBlocked
    · exact ih
    · cases hsource
    · obtain ⟨f, hanswer⟩ := hblocked.exists_answer? name
      rw [hanswer]
      rfl

theorem Shadowed.findSome?_ne_none (h : Shadowed findings) :
    findings.findSome? Finding.source? ≠ none := by
  induction h with
  | here hblocked hlater =>
    rw [List.findSome?_cons, hblocked.source?_eq_none]
    exact hlater
  | later hsource _ ih =>
    rw [List.findSome?_cons, hsource]
    exact ih

end Findings

/-- What a directory has under a name with a suffix. -/
def finding (stores : Stores) (encoding : String) (suffix name : Text) (directory : Path) :
    Finding :=
  let path := directory.join (Path.ofText (name ++ suffix))
  match stores.tree.find path with
  | .file (.ok bytes) =>
    match decodeFile encoding bytes with
    | .ok text => .source ⟨text, some path.text⟩
    | .error f => .unreadable path.text f
  | .file (.error trouble) => .unreadable path.text (trouble.failure path)
  | .failed trouble => .failed path trouble
  | .directory _ | .nothing => .nothing

variable {stores : Stores} {directories : List Path} {encoding : String} {suffix name : Text}

theorem readFiles_eq (all : List Path) :
    readFiles stores.tree encoding suffix name all directories =
      ((directories.map (finding stores encoding suffix name)).findSome?
        (Finding.answer? name)).getD (notFound (.noFile name (all.map Path.text))) := by
  induction directories with
  | nil => rfl
  | cons directory directories ih =>
    rw [readFiles, List.map_cons, List.findSome?_cons, finding]
    cases stores.tree.find (directory.join (Path.ofText (name ++ suffix))) with
    | file content =>
      cases content with
      | error trouble => cases trouble <;> rfl
      | ok bytes =>
        dsimp only
        cases decodeFile encoding bytes <;> rfl
    | failed trouble => rfl
    | directory names => exact ih
    | nothing => exact ih

theorem answer_files : (files directories encoding suffix).answer stores name =
    ((directories.map (finding stores encoding suffix name)).findSome?
      (Finding.answer? name)).getD (notFound (.noFile name (directories.map Path.text))) := by
  rw [answer, read, readFiles_eq]

theorem answer_alone (directory : Path) : (files [directory] encoding suffix).answer stores name =
    ((finding stores encoding suffix name directory).answer? name).getD
      (notFound (.noFile name [directory.text])) := by
  rw [answer_files, List.map_singleton, List.findSome?_singleton]
  rfl

/-- A loader for each of some directories. -/
def apart (directories : List Path) (encoding : String) (suffix : Text) : List Loader :=
  directories.map fun directory => files [directory] encoding suffix

/-- A choice may pass over what cannot be used. It finds the same where nothing is shadowed. -/
theorem toOption_find?_settles_apart
    (h : ¬ Shadowed (directories.map (finding stores encoding suffix name)))
    {other : Except Failure Source} (hother : other.toOption = none) :
    ((((apart directories encoding suffix).map fun l => l.answer stores name).find?
      settles).getD other).toOption =
      (directories.map (finding stores encoding suffix name)).findSome? Finding.source? := by
  induction directories with
  | nil => exact hother
  | cons directory directories ih =>
    rw [apart, List.map_cons, List.map_cons, List.find?_cons, answer_alone]
    rw [List.map_cons] at h ⊢
    rw [List.findSome?_cons]
    generalize finding stores encoding suffix name directory = finding at h
    obtain rfl | ⟨s, rfl⟩ | hblocked := finding.eq_nothing_or_source_or_isBlocked
    · exact ih fun hlater => h (.later rfl hlater)
    · rfl
    · have hrest := ih fun hlater => h (.later hblocked.source?_eq_none hlater)
      obtain ⟨f, hanswer⟩ := hblocked.exists_answer? name
      rw [hanswer, Option.getD_some, hblocked.source?_eq_none]
      cases settles (.error f) with
      | false => exact hrest
      | true =>
        have hnone := Decidable.byContradiction fun hlater => h (.here hblocked hlater)
        exact hnone.symm

/-- What a loader of files is relied on for. -/
structure FindsFirst (directories : List Path) (encoding : String) (suffix : Text)
    (stores : Stores) (name : Text) : Prop where
  /-- It finds the first source that a directory has, and nothing only if none has one. -/
  first : ((files directories encoding suffix).answer stores name).toOption =
    (directories.map (finding stores encoding suffix name)).findSome? Finding.source?
  /-- It finds what loaders for each of the directories find together. -/
  agrees : ((files directories encoding suffix).answer stores name).toOption =
    ((choice (apart directories encoding suffix)).answer stores name).toOption
  /-- If all that stands in its way can be reported, it reports what it does not find. -/
  reports : (∀ directory ∈ directories,
      (finding stores encoding suffix name directory).isReported = true) →
    Reports name ((files directories encoding suffix).answer stores name)

theorem reports_answer_files (h : ∀ directory ∈ directories,
      (finding stores encoding suffix name directory).isReported = true) :
    Reports name ((files directories encoding suffix).answer stores name) := by
  rw [answer_files]
  cases hanswer : (directories.map (finding stores encoding suffix name)).findSome?
      (Finding.answer? name) with
  | none => exact .inr ⟨_, rfl, rfl⟩
  | some answer =>
    obtain ⟨finding, hfinding, hsome⟩ := List.exists_of_findSome?_eq_some hanswer
    obtain ⟨directory, hdirectory, rfl⟩ := List.mem_map.mp hfinding
    exact Finding.reports_of_isReported (h directory hdirectory) hsome

/-- A loader of files can be relied on where nothing that cannot be used stands before the first
source, and nowhere else. -/
theorem findsFirst_iff_not_shadowed (directories : List Path) (encoding : String) (suffix : Text)
    (stores : Stores) (name : Text) : FindsFirst directories encoding suffix stores name ↔
      ¬ Shadowed (directories.map (finding stores encoding suffix name)) := by
  constructor
  · intro h hshadowed
    have hfound := h.first
    rw [answer_files, hshadowed.toOption_answer] at hfound
    exact hshadowed.findSome?_ne_none hfound.symm
  · intro h
    have hfirst : ((files directories encoding suffix).answer stores name).toOption =
        (directories.map (finding stores encoding suffix name)).findSome? Finding.source? := by
      rw [answer_files, toOption_findSome?_answer? h rfl]
    refine ⟨hfirst, ?_, reports_answer_files⟩
    rw [hfirst, answer_choice, toOption_find?_settles_apart h rfl]

/-- Under `x` the directory `a` has bytes that are no text, and `b` has a text. -/
def garbledStores : Stores where
  tree := { files := Table.ofList [([[0x61], [0x78]], [0xff]), ([[0x62], [0x78]], [0x31])] }
  mappings := Table.empty
  scripts := Table.empty

/-- The loader gives up in the first directory, while a choice goes on and finds the text. -/
theorem not_findsFirst_garbledStores :
    let directories : List Path := [⟨.here, ["a"]⟩, ⟨.here, ["b"]⟩]
    let source : Source := ⟨"1", some ("b/x" : Text)⟩
    finding garbledStores "utf-8" "" "x" ⟨.here, ["b"]⟩ = .source source ∧
    ((files directories "utf-8" "").answer garbledStores "x").toOption = none ∧
    ((choice (apart directories "utf-8" "")).answer garbledStores "x").toOption = some source ∧
    ¬ FindsFirst directories "utf-8" "" garbledStores "x" := by
  refine ⟨by decide +kernel, by decide +kernel, by decide +kernel, fun h => ?_⟩
  exact absurd h.first (by decide +kernel)

end Stencil.Loader
