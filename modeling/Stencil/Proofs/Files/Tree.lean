import Stencil.Proofs.Files.Name
import Stencil.Proofs.Table
import Mathlib.Data.List.Basic
import Mathlib.Tactic.SplitIfs

/-! Walks in a file tree. Going on from a directory that a path leads to is going along the path and
on, as long as the longer path is short enough for the system. A walk that ends well arrives where
the names lead, all that is on the way being directories. -/
namespace Stencil

namespace FileName

theorem ofText?_append {t t' : Text} {name name' : FileName} (h : ofText? t = some name)
    (h' : ofText? t' = some name') : ofText? (t ++ t') = some (name ++ name') := by
  induction t generalizing name with
  | nil =>
    cases h
    exact h'
  | cons c t ih =>
    cases hc : bytesOf? c with
    | none => simp [ofText?, List.mapM_cons, hc] at h
    | some first =>
      rw [ofText?_cons hc] at h
      obtain ⟨rest, hrest, rfl⟩ := Option.map_eq_some_iff.mp h
      rw [List.cons_append, ofText?_cons hc, ih hrest, Option.map_some, List.append_assoc]

theorem ofText?_intercalate {separator : Text} {byte : FileName}
    (hseparator : ofText? separator = some byte) {parts : List Text} {names : List FileName}
    (h : parts.mapM ofText? = some names) :
    ofText? (separator.intercalate parts) = some (byte.intercalate names) := by
  induction parts generalizing names with
  | nil =>
    cases h
    rfl
  | cons part parts ih =>
    rw [List.mapM_cons] at h
    cases hpart : ofText? part with
    | none => simp [hpart] at h
    | some name =>
      cases hrest : parts.mapM ofText? with
      | none => simp [hpart, hrest] at h
      | some rest =>
        obtain rfl : name :: rest = names := by simpa [hpart, hrest] using h
        cases parts with
        | nil =>
          cases hrest
          simpa using hpart
        | cons part' parts =>
          cases rest with
          | nil => simp [List.mapM_cons, Option.bind_eq_some_iff] at hrest
          | cons name' rest =>
            rw [List.intercalate_cons_cons, List.intercalate_cons_cons]
            exact ofText?_append (ofText?_append hpart hseparator) (ih hrest)

end FileName

namespace Path

/-- The path from a path on along names. -/
def below (p : Path) (names : List FileName) : Path :=
  ⟨p.origin, p.parts ++ names.map FileName.toText⟩

theorem below_nil (p : Path) : p.below [] = p := by simp [below]

theorem child_below (p : Path) (names : List FileName) (name : FileName) :
    (p.below names).child name.toText = p.below (names ++ [name]) := by
  simp [below, child]

theorem mapM_toText (names : List FileName) :
    (names.map FileName.toText).mapM FileName.ofText? = some names := by
  induction names with
  | nil => rfl
  | cons name names ih => simp [List.mapM_cons, FileName.ofText?_toText, ih]

theorem names?_below {p : Path} {base : List FileName} (h : p.names? = some base)
    (names : List FileName) : (p.below names).names? = some (base ++ names) := by
  rw [names?] at h
  rw [names?, below, List.mapM_append, h, mapM_toText]
  rfl

theorem exists_of_names?_below {p : Path} {names all : List FileName}
    (h : (p.below names).names? = some all) :
    ∃ base, p.names? = some base ∧ all = base ++ names := by
  cases hbase : p.names? with
  | none =>
    rw [names?] at hbase
    simp [names?, below, List.mapM_append, hbase] at h
  | some base => exact ⟨base, rfl, Option.some.inj (h.symm.trans (names?_below hbase names))⟩

/-- What is written in front of the names of a path. -/
def Origin.bytes : Origin → List UInt8
  | here => []
  | root => [0x2f]
  | doubleRoot => [0x2f, 0x2f]

/-- What a path along names is written as. -/
def bytes (origin : Origin) (names : List FileName) : List UInt8 :=
  if origin = .here ∧ names = [] then [0x2e]
  else origin.bytes ++ ([0x2f] : List UInt8).intercalate names

theorem ofText?_text {p : Path} {names : List FileName} (h : p.names? = some names) :
    FileName.ofText? p.text = some (bytes p.origin names) := by
  have hempty : p.parts = [] ↔ names = [] := by
    rw [names?] at h
    cases hparts : p.parts with
    | nil =>
      rw [hparts] at h
      cases h
      simp
    | cons part parts =>
      rw [hparts, List.mapM_cons] at h
      cases names with
      | nil => simp [Option.bind_eq_some_iff] at h
      | cons name names => simp
  rw [text, bytes]
  by_cases hhere : p.origin = .here ∧ p.parts = []
  · have hdot : FileName.ofText? "." = some [0x2e] := by decide +kernel
    rw [if_pos hhere, if_pos ⟨hhere.1, hempty.mp hhere.2⟩]
    exact hdot
  · have hnot : ¬ (p.origin = .here ∧ names = []) := fun hboth =>
      hhere ⟨hboth.1, hempty.mpr hboth.2⟩
    have horigin : FileName.ofText? p.origin.text = some p.origin.bytes := by
      cases p.origin <;> decide +kernel
    have hslash : FileName.ofText? "/" = some [0x2f] := by decide +kernel
    rw [if_neg hhere, if_neg hnot]
    exact FileName.ofText?_append horigin (FileName.ofText?_intercalate hslash h)

theorem mem_intercalate_iff {α : Type} {a separator : α} (ha : a ≠ separator)
    (parts : List (List α)) : a ∈ [separator].intercalate parts ↔ ∃ part ∈ parts, a ∈ part := by
  induction parts with
  | nil => simp
  | cons part parts ih =>
    cases parts with
    | nil => simp
    | cons part' parts =>
      rw [List.intercalate_cons_cons]
      simp only [List.mem_append, List.mem_singleton, ih, ha, or_false]
      simp

theorem null_mem_bytes_iff (origin : Origin) (names : List FileName) :
    0 ∈ bytes origin names ↔ ∃ name ∈ names, 0 ∈ name := by
  have horigin : 0 ∉ origin.bytes := by cases origin <;> decide
  rw [bytes]
  split
  · rename_i hempty
    simp [hempty.2]
  · rw [List.mem_append, mem_intercalate_iff (by decide)]
    simp [horigin]

/-- There is one slash less than there are names. -/
theorem length_intercalate {names : List FileName} (hne : names ≠ []) :
    (([0x2f] : List UInt8).intercalate names).length + 1 = names.flatten.length + names.length := by
  induction names with
  | nil => exact absurd rfl hne
  | cons name names ih =>
    cases names with
    | nil => simp
    | cons name' names =>
      have hrest := ih (List.cons_ne_nil name' names)
      rw [List.intercalate_cons_cons, List.flatten_cons, List.length_append, List.length_append,
        List.length_append, List.length_singleton, List.length_cons]
      omega

theorem length_intercalate_append (names more : List FileName) :
    (([0x2f] : List UInt8).intercalate names).length ≤
      (([0x2f] : List UInt8).intercalate (names ++ more)).length := by
  by_cases hne : names = []
  · simp [hne]
  · have hlength := length_intercalate hne
    have hmore := @length_intercalate (names ++ more) (by simp [hne])
    rw [List.flatten_append, List.length_append, List.length_append] at hmore
    omega

theorem length_bytes_append {origin : Origin} {names more : List FileName}
    (h : (bytes origin (names ++ more)).length < FileTree.pathLimit) :
    (bytes origin names).length < FileTree.pathLimit := by
  have hle := length_intercalate_append names more
  rw [bytes] at h ⊢
  split
  · simp [FileTree.pathLimit]
  · rename_i hnot
    have hnot' : ¬ (origin = .here ∧ names ++ more = []) := fun hboth =>
      hnot ⟨hboth.1, (List.append_eq_nil_iff.mp hboth.2).1⟩
    rw [if_neg hnot', List.length_append] at h
    rw [List.length_append]
    omega

theorem length_bytes_here {names : List FileName} (hne : names ≠ []) :
    (bytes .here names).length + 1 = names.flatten.length + names.length := by
  have hnot : ¬ (Origin.here = .here ∧ names = []) := fun hboth => hne hboth.2
  rw [bytes, if_neg hnot, ← length_intercalate hne]
  rfl

/-- The system cannot be asked for the path. -/
def IsLong (p : Path) : Prop :=
  ∃ names, p.names? = some names ∧ FileTree.pathLimit ≤ (bytes p.origin names).length

end Path

namespace FileTree

deriving instance DecidableEq for Found

variable {t : FileTree} {p : Path} {directory directory' base rel names names' : List FileName}
variable {content : Except Trouble (List UInt8)} {bytes : List UInt8} {trouble : Trouble}

theorem find_eq (h : p.names? = some names) : t.find p =
    if 0 ∈ Path.bytes p.origin names then .nothing
    else if pathLimit ≤ (Path.bytes p.origin names).length then .failed .tooLong
    else t.walk (t.origin p) names := by
  rw [find, Path.ofText?_text h, h]
  simp

/-- A path from the current directory on has one slash less than names. -/
theorem find_here (h : p.names? = some names) (horigin : p.origin = .here) (hne : names ≠ [])
    (hnull : ∀ name ∈ names, 0 ∉ name) : t.find p =
    if pathLimit < names.flatten.length + names.length then .failed .tooLong
    else t.walk t.here names := by
  have hclean : ¬ 0 ∈ Path.bytes .here names := by
    rw [Path.null_mem_bytes_iff]
    rintro ⟨name, hname, hzero⟩
    exact hnull name hname hzero
  have hlength := Path.length_bytes_here hne
  have hlimit : pathLimit ≤ (Path.bytes .here names).length ↔
      pathLimit < names.flatten.length + names.length := by omega
  have hstart : t.origin p = t.here := if_pos horigin
  rw [find_eq h, horigin, hstart, if_neg hclean]
  simp only [hlimit]

theorem find_of_names?_eq_none (h : p.names? = none) : t.find p = .nothing := by
  rw [find, h]
  cases FileName.ofText? p.text <;> rfl

theorem walk_append (h : t.walk directory names = .directory directory') (more : List FileName) :
    t.walk directory (names ++ more) = t.walk directory' more := by
  induction names generalizing directory with
  | nil =>
    cases h
    rfl
  | cons name names ih =>
    rw [List.cons_append, walk]
    rw [walk] at h
    cases hlookup : t.lookup name directory with
    | directory next =>
      rw [hlookup] at h
      exact ih h
    | file content =>
      rw [hlookup] at h
      dsimp only at h
      split at h <;> cases h
    | nothing | failed =>
      rw [hlookup] at h
      cases h

/-- What stands before the last names on the way to a file is a directory. -/
theorem exists_walk_of_append {more : List FileName} (hmore : more ≠ [])
    (h : t.walk directory (names ++ more) = .file content) :
    ∃ directory', t.walk directory names = .directory directory' := by
  induction names generalizing directory with
  | nil => exact ⟨directory, rfl⟩
  | cons name names ih =>
    rw [List.cons_append, walk] at h
    rw [walk]
    cases hlookup : t.lookup name directory with
    | directory next =>
      rw [hlookup] at h
      exact ih h
    | file content' =>
      rw [hlookup] at h
      have hrest : (names ++ more).isEmpty = false := by
        cases names <;> simp [hmore]
      simp [hrest] at h
    | nothing | failed =>
      rw [hlookup] at h
      cases h

/-- From a directory on, unless the whole path is too long. -/
theorem find_below (h : t.find p = .directory directory) (hnull : ∀ name ∈ rel, 0 ∉ name) :
    (p.below rel).IsLong ∧ t.find (p.below rel) = .failed .tooLong ∨
      ¬ (p.below rel).IsLong ∧ t.find (p.below rel) = t.walk directory rel := by
  cases hnames : p.names? with
  | none =>
    rw [find_of_names?_eq_none hnames] at h
    cases h
  | some base =>
    have hall := Path.names?_below hnames rel
    have horigin : (p.below rel).origin = p.origin := rfl
    have hstart : t.origin (p.below rel) = t.origin p := rfl
    rw [find_eq hnames] at h
    split at h
    · cases h
    · rename_i hbase
      split at h
      · cases h
      · have hclean : ¬ 0 ∈ Path.bytes p.origin (base ++ rel) := by
          rw [Path.null_mem_bytes_iff] at hbase ⊢
          rintro ⟨name, hname, hzero⟩
          rcases List.mem_append.mp hname with hname | hname
          · exact hbase ⟨name, hname, hzero⟩
          · exact hnull name hname hzero
        rw [find_eq hall, horigin, hstart, if_neg hclean, walk_append h]
        by_cases hlong : pathLimit ≤ (Path.bytes p.origin (base ++ rel)).length
        · exact .inl ⟨⟨_, hall, hlong⟩, by rw [if_pos hlong]⟩
        · refine .inr ⟨?_, by rw [if_neg hlong]⟩
          rintro ⟨names, hnames', hlong'⟩
          obtain rfl := Option.some.inj (hall.symm.trans hnames')
          exact hlong hlong'

/-- A file below a path is in a directory that the path leads to. -/
theorem exists_directory_of_find_below (hrel : rel ≠ [])
    (h : t.find (p.below rel) = .file content) :
    ∃ directory, t.find p = .directory directory ∧ t.walk directory rel = .file content := by
  cases hall : (p.below rel).names? with
  | none =>
    rw [find_of_names?_eq_none hall] at h
    cases h
  | some all =>
    obtain ⟨base, hbase, rfl⟩ := Path.exists_of_names?_below hall
    have horigin : (p.below rel).origin = p.origin := rfl
    have hstart : t.origin (p.below rel) = t.origin p := rfl
    rw [find_eq hall, horigin, hstart] at h
    split at h
    · cases h
    · rename_i hclean
      split at h
      · cases h
      · rename_i hshort
        obtain ⟨directory, hdirectory⟩ := exists_walk_of_append hrel h
        rw [walk_append hdirectory] at h
        refine ⟨directory, ?_, h⟩
        have hbaseClean : ¬ 0 ∈ Path.bytes p.origin base := by
          rw [Path.null_mem_bytes_iff] at hclean ⊢
          rintro ⟨name, hname, hzero⟩
          exact hclean ⟨name, List.mem_append_left rel hname, hzero⟩
        have hbaseShort := Path.length_bytes_append (Nat.lt_of_not_le hshort)
        rw [find_eq hbase, if_neg hbaseClean, if_neg (Nat.not_le_of_lt hbaseShort), hdirectory]

/-! Directories and files of the tree. -/

theorem isDirectory_of_append (h : t.isDirectory (names ++ names') = true) :
    t.isDirectory names = true := by
  simp only [isDirectory, Bool.or_eq_true, List.any_eq_true, Bool.and_eq_true,
    List.isPrefixOf_iff_prefix, decide_eq_true_eq] at h ⊢
  rcases h with ⟨directory, hdirectory, hbegins⟩ | ⟨file, hfile, hbegins, hne⟩
  · exact .inl ⟨directory, hdirectory, (List.prefix_append names names').trans hbegins⟩
  · refine .inr ⟨file, hfile, (List.prefix_append names names').trans hbegins, ?_⟩
    rintro rfl
    have hlength := hbegins.length_le
    rw [List.length_append] at hlength
    have hnil : names' = [] := List.length_eq_zero_iff.mp (by omega)
    simp [hnil] at hne

theorem isDirectory_of_file (h : t.files.get? (names ++ names') = some bytes)
    (hne : names' ≠ []) : t.isDirectory names = true := by
  have hkey : names ++ names' ∈ t.files.keys := Table.mem_keys_iff.mpr (by simp [h])
  simp only [isDirectory, Bool.or_eq_true, List.any_eq_true, Bool.and_eq_true,
    List.isPrefixOf_iff_prefix, decide_eq_true_eq]
  refine .inr ⟨_, hkey, List.prefix_append names names', ?_⟩
  simpa using hne

/-- No name leads up. -/
def Descends (names : List FileName) : Prop := ∀ name ∈ names, name ≠ .up

/-- What can be found where names lead from the root without leading up. -/
inductive Stands (t : FileTree) (names : List FileName) : Found → Prop
  | failed (trouble : Trouble) : Stands t names (.failed trouble)
  | directory (h : t.isDirectory names = true) : Stands t names (.directory names)
  | file {bytes : List UInt8} (hget : t.files.get? names = some bytes)
      (hnot : t.isDirectory names = false) : Stands t names (.file (t.content names bytes))
  | nothing (hnot : t.isDirectory names = false) : Stands t names .nothing

theorem stands_lookup (t : FileTree) (base : List FileName) {name : FileName} (hname : name ≠ .up) :
    t.Stands (base ++ [name]) (t.lookup name base) := by
  rw [lookup]
  split
  · exact .failed _
  · rw [if_neg hname]
    split_ifs with hlong hdirectory
    · exact .failed .tooLong
    · exact .directory hdirectory
    · have hnot := Bool.eq_false_iff.mpr hdirectory
      cases hget : t.files.get? (base ++ [name]) with
      | none => exact .nothing hnot
      | some bytes => exact .file hget hnot

/-- A walk to what is a directory arrives there, unless there is trouble on the way. -/
theorem walk_directory (hdescends : Descends rel) (h : t.isDirectory (base ++ rel) = true) :
    (∃ trouble, t.walk base rel = .failed trouble) ∨
      t.walk base rel = .directory (base ++ rel) := by
  induction rel generalizing base with
  | nil => exact .inr (by rw [walk, List.append_nil])
  | cons name rel ih =>
    obtain ⟨hname, hrest⟩ := List.forall_mem_cons.mp hdescends
    have hall : t.isDirectory ((base ++ [name]) ++ rel) = true := by simpa using h
    have hfirst := isDirectory_of_append hall
    have hstands := t.stands_lookup base hname
    rw [walk]
    generalize t.lookup name base = found at hstands ⊢
    cases hstands with
    | failed trouble => exact .inl ⟨trouble, rfl⟩
    | directory _ => simpa using ih hrest hall
    | file _ hnot | nothing hnot =>
      rw [hfirst] at hnot
      cases hnot

/-- A walk that ends at a file ends where its names lead. -/
theorem file_of_walk (hdescends : Descends rel) (h : t.walk base rel = .file content) :
    rel ≠ [] ∧ t.isDirectory (base ++ rel) = false ∧ ∃ bytes,
      t.files.get? (base ++ rel) = some bytes ∧ content = t.content (base ++ rel) bytes := by
  induction rel generalizing base with
  | nil => cases h
  | cons name rel ih =>
    obtain ⟨hname, hrest⟩ := List.forall_mem_cons.mp hdescends
    refine ⟨List.cons_ne_nil name rel, ?_⟩
    have hstands := t.stands_lookup base hname
    rw [walk] at h
    generalize t.lookup name base = found at h hstands
    cases hstands with
    | failed trouble => cases h
    | nothing hnot => cases h
    | directory hdirectory =>
      obtain ⟨-, hfile⟩ := ih hrest h
      simpa using hfile
    | @file bytes hget hnot =>
      cases rel with
      | cons name' rel => cases h
      | nil =>
        obtain rfl := Found.file.inj h
        exact ⟨hnot, bytes, hget, rfl⟩

theorem exists_get?_of_lookup {name : FileName} (h : t.lookup name directory = .file content) :
    ∃ all bytes, t.files.get? all = some bytes ∧ content = t.content all bytes := by
  by_cases hup : name = .up
  · rw [lookup, if_pos hup] at h
    split at h <;> cases h
  · have hstands := t.stands_lookup directory hup
    rw [h] at hstands
    cases hstands with
    | file hget _ => exact ⟨_, _, hget, rfl⟩

/-- The tree has whatever file a walk ends at, also one that leads up on its way. -/
theorem exists_get?_of_walk (h : t.walk directory names = .file content) :
    ∃ all bytes, t.files.get? all = some bytes ∧ content = t.content all bytes := by
  induction names generalizing directory with
  | nil => cases h
  | cons name names ih =>
    rw [walk] at h
    cases hlookup : t.lookup name directory with
    | directory next =>
      rw [hlookup] at h
      exact ih h
    | file content' =>
      rw [hlookup] at h
      cases names with
      | cons name' names => cases h
      | nil =>
        cases h
        exact exists_get?_of_lookup hlookup
    | nothing | failed =>
      rw [hlookup] at h
      cases h

theorem exists_get?_of_find (h : t.find p = .file content) :
    ∃ all bytes, t.files.get? all = some bytes ∧ content = t.content all bytes := by
  cases hnames : p.names? with
  | none =>
    rw [find_of_names?_eq_none hnames] at h
    cases h
  | some names =>
    rw [find_eq hnames] at h
    split at h
    · cases h
    · split at h
      · cases h
      · exact exists_get?_of_walk h

/-- Names that are not too long, where nothing else is in the way either, are no trouble. -/
theorem walk_ne_failed (hopen : ∀ names, t.trouble? .look names = none)
    (h : ∀ name ∈ names, name.length ≤ partLimit) (directory : List FileName)
    (trouble : Trouble) : t.walk directory names ≠ .failed trouble := by
  induction names generalizing directory with
  | nil =>
    intro hwalk
    cases hwalk
  | cons name names ih =>
    obtain ⟨hname, hrest⟩ := List.forall_mem_cons.mp h
    have hlookup : t.lookup name directory ≠ .failed trouble := by
      rw [lookup, hopen]
      dsimp only
      rw [if_neg (Nat.not_lt_of_le hname)]
      split_ifs
      · simp
      · simp
      · cases t.files.get? (directory ++ [name]) <;> simp
    rw [walk]
    cases hstep : t.lookup name directory with
    | directory next => exact ih hrest next
    | file content => cases names <;> simp
    | nothing => simp
    | failed trouble' =>
      rw [hstep] at hlookup
      exact hlookup

theorem mem_known_iff : names ∈ t.known ↔
    names ≠ [] ∧ ∃ more ∈ t.here :: t.directories ++ t.files.keys, names <+: more := by
  simp only [known, List.mem_flatMap, List.mem_map, List.mem_range]
  constructor
  · rintro ⟨more, hmore, n, hn, rfl⟩
    refine ⟨?_, more, hmore, List.take_prefix _ more⟩
    intro hnil
    have hlength := congrArg List.length hnil
    rw [List.length_take, List.length_nil] at hlength
    omega
  · rintro ⟨hne, more, hmore, hbegins⟩
    have hpos := List.length_pos_iff.mpr hne
    have hle := hbegins.length_le
    refine ⟨more, hmore, names.length - 1, by omega, ?_⟩
    rw [Nat.sub_add_cancel hpos]
    exact (List.prefix_iff_eq_take.mp hbegins).symm

theorem mem_known_of_file (h : t.files.get? names = some bytes) (hne : names ≠ []) :
    names ∈ t.known := by
  have hkey : names ∈ t.files.keys := Table.mem_keys_iff.mpr (by simp [h])
  exact mem_known_iff.mpr ⟨hne, names, List.mem_append_right _ hkey, List.prefix_rfl⟩

theorem mem_directoriesBelow_iff : rel ∈ t.directoriesBelow base ↔ rel = [] ∨
    base ++ rel ∈ t.known ∧ t.isDirectory (base ++ rel) = true ∧ t.listsOn base rel = true := by
  simp only [directoriesBelow, List.mem_eraseDups, List.mem_cons, List.mem_filterMap]
  apply or_congr Iff.rfl
  constructor
  · rintro ⟨more, hmore, hsome⟩
    split at hsome
    · rename_i hdirectory
      obtain ⟨hbegins, hlists⟩ := Option.filter_eq_some_iff.mp hsome
      obtain rfl := List.isPrefixOf?_eq_some_iff_append_eq.mp hbegins
      exact ⟨hmore, hdirectory, hlists⟩
    · cases hsome
  · rintro ⟨hknown, hdirectory, hlists⟩
    refine ⟨_, hknown, ?_⟩
    rw [if_pos hdirectory]
    exact Option.filter_eq_some_iff.mpr
      ⟨List.isPrefixOf?_eq_some_iff_append_eq.mpr rfl, hlists⟩

/-- Where all directories can be listed, nothing keeps a search from going on. -/
theorem listsOn_of_forall (h : ∀ names, t.trouble? .list names = none) (base rel : List FileName) :
    t.listsOn base rel = true := by
  refine List.all_eq_true.mpr fun n _ => ?_
  rw [h]
  rfl

theorem mem_children_iff {name : FileName} :
    name ∈ t.children names ↔ names ++ [name] ∈ t.known := by
  simp only [children, List.mem_eraseDups, List.mem_filterMap]
  constructor
  · rintro ⟨more, hmore, hsome⟩
    split at hsome
    · rename_i hbegins
      cases hsome
      rwa [List.isPrefixOf?_eq_some_iff_append_eq.mp hbegins]
    · cases hsome
  · intro hknown
    refine ⟨_, hknown, ?_⟩
    rw [List.isPrefixOf?_eq_some_iff_append_eq.mpr rfl]

end FileTree

end Stencil
