import Stencil.Files.Pattern
import Stencil.Proofs.Directive.Standing
import Stencil.Proofs.Files.Tree
import Stencil.Proofs.Results

/-! Files below a directory whose names end in a text. A star and the characters of the text fit the
names that end in it. What the pattern leads to are the files that walks from the directory lead
to, each by the one path that has the texts of the names on the way. -/
namespace Stencil

/-- None of the characters has a meaning in a pattern or in a path. -/
def Text.IsLiteral (t : Text) : Prop := ∀ c ∈ t, c ∉ ("*?[/" : Text)

instance (t : Text) : Decidable t.IsLiteral :=
  inferInstanceAs (Decidable (∀ c ∈ t, c ∉ ("*?[/" : Text)))

theorem Text.IsLiteral.slash_not_mem {t : Text} (h : t.IsLiteral) : .char '/' ∉ t :=
  fun hmem => h _ hmem (by decide)

namespace Wildcard

theorem parseWith_exactly {c : CodePoint} (h : c ∉ ("*?[/" : Text)) (fuel : Nat) (cs : Text) :
    parseWith (fuel + 1) (c :: cs) = .exactly c :: parseWith fuel cs := by
  have hspecial : ("*?[/" : Text) = [.char '*', .char '?', .char '[', .char '/'] := rfl
  rw [hspecial] at h
  simp only [List.mem_cons, List.not_mem_nil, or_false, not_or] at h
  rw [parseWith]
  · exact fun hstar => h.1 hstar
  · exact fun hmark => h.2.1 hmark
  · exact fun hbracket => h.2.2.1 hbracket

theorem parseWith_literal {t : Text} (h : t.IsLiteral) {fuel : Nat} (hfuel : t.length ≤ fuel) :
    parseWith fuel t = t.map .exactly := by
  induction t generalizing fuel with
  | nil => cases fuel <;> rfl
  | cons c cs ih =>
    obtain ⟨hc, hcs⟩ := List.forall_mem_cons.mp h
    cases fuel with
    | zero => simp at hfuel
    | succ fuel => rw [parseWith_exactly hc, ih hcs (Nat.le_of_succ_le_succ hfuel), List.map_cons]

theorem parse_star {t : Text} (h : t.IsLiteral) :
    parse ("*" ++ t) = .anyChars :: t.map .exactly := by
  have hstar : ("*" ++ t : Text) = .char '*' :: t := rfl
  rw [hstar, parse, List.length_cons, parseWith, parseWith_literal h (Nat.le_refl _)]

theorem fits_exactly_iff {t cs : Text} : fits (t.map .exactly) cs = true ↔ cs = t := by
  induction t generalizing cs with
  | nil =>
    cases cs with
    | nil => simp [fits_nil_nil]
    | cons c cs => simp [fits_nil_cons]
  | cons d t ih =>
    cases cs with
    | nil => simp [fits_cons_nil]
    | cons c cs =>
      have hexactly : exactly d ≠ anyChars := by
        intro heq
        cases heq
      rw [List.map_cons, fits_cons_cons hexactly, Bool.and_eq_true, ih]
      simp [admits]

theorem fits_star_iff {t cs : Text} :
    fits (.anyChars :: t.map .exactly) cs = true ↔ t <:+ cs := by
  induction cs with
  | nil =>
    rw [fits_cons_nil, Bool.and_eq_true, fits_exactly_iff, List.suffix_nil, eq_comm (b := t)]
    simp
  | cons c cs ih =>
    rw [fits_anyChars_cons, Bool.or_eq_true, fits_exactly_iff, ih, List.suffix_cons_iff, eq_comm]

end Wildcard

namespace PathPattern

theorem parse?_star {t : Text} (h : t.IsLiteral) :
    parse? ("*" ++ t) = some [.wild (.anyChars :: t.map .exactly)] := by
  have hslash : .char '/' ∉ ("*" ++ t : Text) := by
    intro hmem
    rcases List.mem_append.mp hmem with hmem | hmem
    · exact absurd hmem (by decide)
    · exact h.slash_not_mem hmem
  have hcount : ("*" ++ t : Text).count (.char '*') = 1 := by
    have hnone : t.count (.char '*') = 0 := by
      apply List.count_eq_zero_of_not_mem
      intro hmem
      exact h _ hmem (by decide)
    rw [List.count_append, hnone]
    rfl
  have hstars : ¬ ("**" : Text) <:+: ("*" ++ t : Text) := by
    intro hinfix
    have hle := hinfix.sublist.count_le (.char '*')
    have htwo : ("**" : Text).count (.char '*') = 2 := by decide
    omega
  have hwild : hasWildcard ("*" ++ t) = true := by
    have hstar : ("*" ++ t : Text) = .char '*' :: t := rfl
    rw [hasWildcard, hstar, List.any_cons]
    rfl
  have hparts : Path.partsOf ("*" ++ t) = ["*" ++ t] := by
    have hdot : ("*" ++ t : Text) ≠ "." := by
      intro hdot
      cases hdot
    have hne : ("*" ++ t : Text) ≠ [] := by
      intro hnil
      cases hnil
    rw [Path.partsOf, List.splitOn_eq_singleton hslash]
    simp [hdot, hne]
  have hpart : part? ("*" ++ t) = some (.wild (.anyChars :: t.map .exactly)) := by
    have hne : ("*" ++ t : Text) ≠ "**" := by
      intro heq
      exact hstars (heq ▸ List.infix_rfl)
    have hnot : ¬ Text.occursIn "**" ("*" ++ t) = true := by
      rw [Directive.occursIn_eq_true_iff]
      exact hstars
    rw [part?, if_neg hne, if_neg hnot, if_pos hwild, Wildcard.parse_star h]
  have hlast : ("*" ++ t : Text).getLast? ≠ some (.char '/') := by
    intro hlast
    exact hslash (List.mem_of_getLast? hlast)
  rw [parse?, hparts, List.mapM_cons, hpart]
  simp only [List.mapM_nil, Option.pure_def, Option.bind_eq_bind, Option.bind_some, if_neg hlast]

end PathPattern

namespace FileTree

/-- A tree whose files and directories have names that the system allows. -/
structure Proper (t : FileTree) : Prop where
  files : ∀ names ∈ t.files.keys, ∀ name ∈ names, name.IsProper
  directories : ∀ names ∈ t.here :: t.directories, ∀ name ∈ names, name.IsProper

instance (t : FileTree) : Decidable t.Proper :=
  decidable_of_iff ((∀ names ∈ t.files.keys, ∀ name ∈ names, name.IsProper) ∧
      ∀ names ∈ t.here :: t.directories, ∀ name ∈ names, name.IsProper)
    ⟨fun ⟨hfiles, hdirectories⟩ => ⟨hfiles, hdirectories⟩, fun h => ⟨h.files, h.directories⟩⟩

variable {t : FileTree} {path p : Path} {base rel directory : List FileName}
variable {ws : List Wildcard} {paths : List Path} {f : ReadFailure} {trouble : Trouble}

theorem Proper.of_mem_known (ht : t.Proper) {names : List FileName} (h : names ∈ t.known) :
    ∀ name ∈ names, name.IsProper := by
  obtain ⟨-, more, hmore, hbegins⟩ := mem_known_iff.mp h
  intro name hname
  rcases List.mem_append.mp hmore with hdirectory | hfile
  · exact ht.directories more hdirectory name (hbegins.subset hname)
  · exact ht.files more hfile name (hbegins.subset hname)

theorem descends_of_proper (h : ∀ name ∈ rel, name.IsProper) : Descends rel :=
  fun name hname => (h name hname).ne_up

/-- What a search for what stands at a path, or in the directory there, comes upon. -/
inductive Troubles (t : FileTree) (path : Path) : Trouble → Prop
  | find {trouble : Trouble} (h : t.find path = .failed trouble) : Troubles t path trouble
  | list {trouble : Trouble} {directory : List FileName}
      (hplace : t.find path = .directory directory)
      (h : t.trouble? .list directory = some trouble) : Troubles t path trouble

theorem passOver_eq_error {α : Type}
    (h : (passOver path trouble : Except ReadFailure (List α)) = .error f) :
    f = trouble.failure path := by
  rw [passOver] at h
  split at h
  · cases h
  · exact (Except.error.inj h).symm

theorem passOver_eq_ok {α : Type} {found : List α} (h : passOver path trouble = .ok found) :
    found = [] := by
  rw [passOver] at h
  split at h
  · exact (Except.ok.inj h).symm
  · cases h

theorem troubles_of_entries (h : t.entries path = .error f) :
    ∃ trouble, t.Troubles path trouble ∧ f = trouble.failure path := by
  rw [entries] at h
  cases hplace : t.find path with
  | directory directory =>
    rw [hplace] at h
    dsimp only at h
    split at h
    · rename_i trouble hlist
      exact ⟨trouble, .list hplace hlist, passOver_eq_error h⟩
    · cases h
  | failed trouble =>
    rw [hplace] at h
    exact ⟨trouble, .find hplace, passOver_eq_error h⟩
  | file content | nothing =>
    rw [hplace] at h
    cases h

theorem exists_of_mem_entries {found : List (Text × Bool)} (h : t.entries path = .ok found)
    {entry : Text × Bool} (hentry : entry ∈ found) :
    ∃ directory, t.find path = .directory directory ∧
      ∃ name ∈ t.children directory, entry.1 = name.toText := by
  rw [entries] at h
  cases hplace : t.find path with
  | directory directory =>
    rw [hplace] at h
    dsimp only at h
    split at h
    · obtain rfl := passOver_eq_ok h
      cases hentry
    · obtain rfl := Except.ok.inj h
      obtain ⟨name, hname, rfl⟩ := List.mem_map.mp hentry
      exact ⟨directory, rfl, name, hname, rfl⟩
  | failed trouble =>
    rw [hplace] at h
    obtain rfl := passOver_eq_ok h
    cases hentry
  | file content | nothing =>
    rw [hplace] at h
    obtain rfl := Except.ok.inj h
    cases hentry

theorem entries_eq_ok (hplace : t.find path = .directory directory)
    (hlist : t.trouble? .list directory = none) : t.entries path =
      .ok ((t.children directory).map fun name =>
        (name.toText, t.isDirectory (directory ++ [name]))) := by
  rw [entries, hplace]
  dsimp only
  rw [hlist]

/-- A pattern of names is tried with each entry. -/
theorem filesAt_wild (t : FileTree) (ws : List Wildcard) (path : Path) :
    t.filesAt [.wild ws] path = (t.entries path).bind fun found =>
      ((found.filter fun entry => Wildcard.fits ws entry.1).mapM fun entry =>
        t.filesAt [] (path.child entry.1)).map List.flatten := by
  rw [filesAt]
  cases t.entries path with
  | error f => rfl
  | ok found =>
    simp only [bind, Except.bind, List.isEmpty_nil, Bool.or_true, Bool.true_and]
    cases (found.filter fun entry => Wildcard.fits ws entry.1).mapM fun entry =>
      t.filesAt [] (path.child entry.1) <;> rfl

/-- A pattern of names leads to files of names in a directory that fit it. -/
theorem exists_of_mem_filesAt_wild (h : t.filesAt [.wild ws] path = .ok paths) (hp : p ∈ paths) :
    ∃ directory, t.find path = .directory directory ∧ ∃ name ∈ t.children directory,
      Wildcard.fits ws name.toText = true ∧ p = path.child name.toText ∧
        ∃ content, t.find p = .file content := by
  rw [filesAt_wild] at h
  cases hfound : t.entries path with
  | error f =>
    rw [hfound] at h
    cases h
  | ok found =>
    rw [hfound] at h
    obtain ⟨parts, hparts, rfl⟩ := exists_of_map_eq_ok h
    obtain ⟨entry, hentry, part, hpart, hp⟩ := (mem_flatten_of_mapM hparts).mp hp
    obtain ⟨hmem, hfits⟩ := List.mem_filter.mp hentry
    obtain ⟨directory, hplace, name, hname, hsame⟩ := exists_of_mem_entries hfound hmem
    rw [hsame] at hfits hpart
    rw [filesAt] at hpart
    split at hpart
    · rename_i content hfile
      obtain rfl := Except.ok.inj hpart
      obtain rfl := List.mem_singleton.mp hp
      exact ⟨directory, hplace, name, hname, hfits, rfl, content, hfile⟩
    · cases hpart
    · obtain rfl := Except.ok.inj hpart
      cases hp

/-- It leads to all of them where the directory can be listed. -/
theorem mem_filesAt_wild (h : t.filesAt [.wild ws] path = .ok paths)
    (hplace : t.find path = .directory directory) (hlist : t.trouble? .list directory = none)
    {name : FileName} (hname : name ∈ t.children directory)
    (hfits : Wildcard.fits ws name.toText = true) {content : Except Trouble (List UInt8)}
    (hfile : t.find (path.child name.toText) = .file content) :
    path.child name.toText ∈ paths := by
  rw [filesAt_wild, entries_eq_ok hplace hlist] at h
  obtain ⟨parts, hparts, rfl⟩ := exists_of_map_eq_ok h
  refine (mem_flatten_of_mapM hparts).mpr
    ⟨(name.toText, t.isDirectory (directory ++ [name])), ?_, [path.child name.toText], ?_, ?_⟩
  · exact List.mem_filter.mpr ⟨List.mem_map_of_mem hname, hfits⟩
  · rw [filesAt, hfile]
  · exact List.mem_singleton_self _

/-- Trouble in a directory, or at one of the names in it, keeps the directory from being
searched. -/
theorem troubles_of_filesAt_wild (h : t.filesAt [.wild ws] path = .error f) :
    (∃ trouble, t.Troubles path trouble ∧ f = trouble.failure path) ∨
      ∃ directory, t.find path = .directory directory ∧ ∃ name ∈ t.children directory,
        ∃ trouble, t.Troubles (path.child name.toText) trouble ∧
          f = trouble.failure (path.child name.toText) := by
  rw [filesAt_wild] at h
  cases hfound : t.entries path with
  | error f' =>
    rw [hfound] at h
    obtain rfl := Except.error.inj h
    exact .inl (troubles_of_entries hfound)
  | ok found =>
    rw [hfound] at h
    rw [← failureOf_eq_some_iff, Except.bind, failureOf_map, failureOf_eq_some_iff] at h
    obtain ⟨entry, hentry, herror⟩ := exists_error_of_mapM h
    obtain ⟨directory, hplace, name, hname, hsame⟩ :=
      exists_of_mem_entries hfound (List.mem_filter.mp hentry).1
    refine .inr ⟨directory, hplace, name, hname, ?_⟩
    rw [filesAt, hsame] at herror
    split at herror
    · cases herror
    · rename_i trouble hfind
      exact ⟨trouble, .find hfind, (Except.error.inj herror).symm⟩
    · cases herror

theorem directoriesFrom_eq (hplace : t.find path = .directory directory) :
    t.directoriesFrom path = (t.directoriesBelow directory).map path.below := by
  rw [directoriesFrom, hplace]
  rfl

/-- The pattern is tried in each of the directories. Listing them a second time, to go on from them,
fails with nothing new. -/
theorem filesAt_anyDirectories (hplace : t.find path = .directory directory) :
    t.filesAt [.anyDirectories, .wild ws] path =
      ((t.directoriesBelow directory).mapM fun rel => t.filesAt [.wild ws] (path.below rel)).map
        List.flatten := by
  rw [filesAt, directoriesFrom_eq hplace, List.mapM_map]
  apply flatten_mapM_congr
  intro rel
  rw [Function.comp_apply, filesAt_wild]
  cases t.entries (path.below rel) with
  | error f => rfl
  | ok found => exact bind_pure _

/-- A directory below another one is where its names lead. -/
theorem eq_append_of_find (ht : t.Proper) (hplace : t.find path = .directory base)
    (hrel : rel ∈ t.directoriesBelow base) (h : t.find (path.below rel) = .directory directory) :
    directory = base ++ rel := by
  rcases mem_directoriesBelow_iff.mp hrel with rfl | ⟨hknown, hdirectory, -⟩
  · rw [Path.below_nil, hplace] at h
    rw [List.append_nil, Found.directory.inj h]
  · have hproper : ∀ name ∈ rel, name.IsProper := fun name hname =>
      ht.of_mem_known hknown name (List.mem_append_right base hname)
    rcases find_below hplace fun name hname => (hproper name hname).no_null with
      ⟨-, hlong⟩ | ⟨-, hwalk⟩
    · rw [hlong] at h
      cases h
    · rw [hwalk] at h
      rcases walk_directory (descends_of_proper hproper) hdirectory with
        ⟨trouble, hfails⟩ | harrives
      · rw [hfails] at h
        cases h
      · rw [harrives] at h
        exact (Found.directory.inj h).symm

variable {suffix : Text}

/-- A star and a text lead to files whose names end in the text. -/
theorem exists_of_mem_filesAt_star (ht : t.Proper) (hplace : t.find path = .directory base)
    (h : t.filesAt [.anyDirectories, .wild (.anyChars :: suffix.map .exactly)] path = .ok paths)
    (hp : p ∈ paths) : ∃ front last, p = path.below (front ++ [last]) ∧
      (∀ name ∈ front ++ [last], name.IsProper) ∧ suffix <:+ last.toText ∧
      ∃ content, t.find p = .file content := by
  rw [filesAt_anyDirectories hplace] at h
  obtain ⟨parts, hparts, rfl⟩ := exists_of_map_eq_ok h
  obtain ⟨front, hfront, part, hpart, hp⟩ := (mem_flatten_of_mapM hparts).mp hp
  obtain ⟨directory, hdirectory, last, hlast, hfits, rfl, hfile⟩ :=
    exists_of_mem_filesAt_wild hpart hp
  obtain rfl := eq_append_of_find ht hplace hfront hdirectory
  rw [mem_children_iff, List.append_assoc] at hlast
  rw [Path.child_below] at hfile ⊢
  refine ⟨front, last, rfl, fun name hname => ?_, Wildcard.fits_star_iff.mp hfits, hfile⟩
  exact ht.of_mem_known hlast name (List.mem_append_right base hname)

/-- They lead to all such files where all directories can be listed. -/
theorem mem_filesAt_star (hlists : ∀ names, t.trouble? .list names = none)
    (hplace : t.find path = .directory base)
    (h : t.filesAt [.anyDirectories, .wild (.anyChars :: suffix.map .exactly)] path = .ok paths)
    {front : List FileName} {last : FileName}
    (hproper : ∀ name ∈ front ++ [last], name.IsProper) (hsuffix : suffix <:+ last.toText)
    {content : Except Trouble (List UInt8)}
    (hfile : t.find (path.below (front ++ [last])) = .file content) :
    path.below (front ++ [last]) ∈ paths := by
  rw [filesAt_anyDirectories hplace] at h
  obtain ⟨parts, hparts, rfl⟩ := exists_of_map_eq_ok h
  have hfront : front ∈ t.directoriesBelow base := by
    obtain ⟨base', hplace', hwalk⟩ := exists_directory_of_find_below (by simp) hfile
    obtain rfl := Found.directory.inj (hplace.symm.trans hplace')
    obtain ⟨-, -, bytes, hget, -⟩ := file_of_walk (descends_of_proper hproper) hwalk
    have hknown := mem_known_of_file hget (by simp)
    rw [← List.append_assoc] at hget hknown
    by_cases hnil : front = []
    · exact mem_directoriesBelow_iff.mpr (.inl hnil)
    · obtain ⟨-, more, hmore, hbegins⟩ := mem_known_iff.mp hknown
      have hshorter := (List.prefix_append (base ++ front) [last]).trans hbegins
      exact mem_directoriesBelow_iff.mpr (.inr ⟨mem_known_iff.mpr
        ⟨by simp [hnil], more, hmore, hshorter⟩, isDirectory_of_file hget (List.cons_ne_nil _ _),
          listsOn_of_forall hlists base front⟩)
  obtain ⟨part, hpart⟩ := exists_ok_of_mapM hparts hfront
  have hsplit : path.below (front ++ [last]) = (path.below front).below [last] := by
    rw [Path.below, Path.below, Path.below, List.map_append, List.append_assoc]
  obtain ⟨directory, hdirectory, hwalk⟩ :=
    exists_directory_of_find_below (List.cons_ne_nil last []) (hsplit ▸ hfile)
  have hlast : Descends [last] := fun name hname =>
    (hproper name (List.mem_append_right front hname)).ne_up
  obtain ⟨-, -, bytes, hget, -⟩ := file_of_walk hlast hwalk
  refine (mem_flatten_of_mapM hparts).mpr ⟨front, hfront, part, hpart, ?_⟩
  rw [← Path.child_below] at hfile ⊢
  exact mem_filesAt_wild hpart hdirectory (hlists directory)
    (mem_children_iff.mpr (mem_known_of_file hget (by simp)))
    (Wildcard.fits_star_iff.mpr hsuffix) hfile

/-- The names lead from a directory on to something that is in the tree, or nowhere. -/
def Leads (t : FileTree) (rel : List FileName) : Prop := rel = [] ∨ ∃ base, base ++ rel ∈ t.known

/-- If the search fails, then because of trouble at a path from the directory on. -/
theorem exists_troubles_of_filesAt (ht : t.Proper) (hplace : t.find path = .directory base)
    (h : t.filesAt [.anyDirectories, .wild ws] path = .error f) : ∃ rel, t.Leads rel ∧
      ∃ trouble, t.Troubles (path.below rel) trouble ∧ f = trouble.failure (path.below rel) := by
  rw [filesAt_anyDirectories hplace, ← failureOf_eq_some_iff, failureOf_map,
    failureOf_eq_some_iff] at h
  obtain ⟨rel, hrel, herror⟩ := exists_error_of_mapM h
  have hleads : t.Leads rel := by
    rcases mem_directoriesBelow_iff.mp hrel with hnil | ⟨hknown, -⟩
    · exact .inl hnil
    · exact .inr ⟨base, hknown⟩
  rcases troubles_of_filesAt_wild herror with
    htrouble | ⟨directory, hdirectory, name, hname, htrouble⟩
  · exact ⟨rel, hleads, htrouble⟩
  · obtain rfl := eq_append_of_find ht hplace hrel hdirectory
    rw [mem_children_iff, List.append_assoc] at hname
    rw [Path.child_below] at htrouble
    exact ⟨rel ++ [name], .inr ⟨base, hname⟩, htrouble⟩

end FileTree

end Stencil
