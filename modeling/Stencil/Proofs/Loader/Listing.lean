import Stencil.Proofs.Files.Pattern
import Stencil.Proofs.Files.Relative
import Stencil.Proofs.Loader.Search
import Stencil.Proofs.Text.Order

/-! What a loader of files lists and what it reads. The listing of a directory has the names whose
paths with the suffix lead to a file, and the loader finds just these files when it is asked for the
names. The two come apart where the system fails, above all at paths that are too long for it: a
name is listed for one directory, and behind a longer one in front of it the same name can be too
long to be asked for. -/
namespace Stencil

namespace FileTree

variable {t : FileTree} {d : Path} {rel : List FileName} {directories : List Path}

/-- Nothing is refused, and no path from the directories to what is in the tree is too long for the
system. -/
structure Fits (t : FileTree) (directories : List Path) : Prop where
  calm : ∀ access names, t.trouble? access names = none
  names : ∀ d ∈ directories, ∀ base, d.names? = some base → ∀ name ∈ base, name.length ≤ partLimit
  paths : ∀ d ∈ directories, ∀ rel, t.Leads rel → ¬ (d.below rel).IsLong

theorem Leads.isProper (ht : t.Proper) (h : t.Leads rel) : ∀ name ∈ rel, name.IsProper := by
  rcases h with rfl | ⟨base, hknown⟩
  · exact List.forall_mem_nil _
  · exact fun name hname => ht.of_mem_known hknown name (List.mem_append_right base hname)

/-- The names on the way to a file lead there from a directory of the tree. -/
theorem leads_of_find (hne : rel ≠ []) (hdescends : Descends rel)
    {content : Except Trouble (List UInt8)} (h : t.find (d.below rel) = .file content) :
    t.Leads rel := by
  obtain ⟨base, -, hwalk⟩ := exists_directory_of_find_below hne h
  obtain ⟨-, -, bytes, hget, -⟩ := file_of_walk hdescends hwalk
  exact .inr ⟨base, mem_known_of_file hget (by simp [hne])⟩

theorem Fits.find_ne_failed (h : t.Fits directories) (ht : t.Proper) (hd : d ∈ directories)
    (hrel : t.Leads rel) (trouble : Trouble) : t.find (d.below rel) ≠ .failed trouble := by
  cases hall : (d.below rel).names? with
  | none =>
    rw [find_of_names?_eq_none hall]
    simp
  | some all =>
    obtain ⟨base, hbase, rfl⟩ := Path.exists_of_names?_below hall
    have hlimit : ∀ name ∈ base ++ rel, name.length ≤ partLimit := by
      intro name hname
      rcases List.mem_append.mp hname with hname | hname
      · exact h.names d hd base hbase name hname
      · exact (hrel.isProper ht name hname).length_le
    rw [find_eq hall]
    split_ifs with hnull hlong
    · simp
    · exact absurd ⟨_, hall, hlong⟩ (h.paths d hd rel hrel)
    · exact walk_ne_failed (h.calm .look) hlimit _ trouble

theorem Fits.not_troubles (h : t.Fits directories) (ht : t.Proper) (hd : d ∈ directories)
    (hrel : t.Leads rel) (trouble : Trouble) : ¬ t.Troubles (d.below rel) trouble := by
  intro htroubles
  cases htroubles with
  | find hfind => exact h.find_ne_failed ht hd hrel trouble hfind
  | list _ hlist =>
    rw [h.calm] at hlist
    cases hlist

end FileTree

namespace Loader

variable {t : FileTree} {d : Path} {suffix n : Text} {names : List Text}
variable {directories : List Path} {encoding : String} {stores : Stores}

theorem mem_sortNames_iff : n ∈ sortNames names ↔ n ∈ names := by
  rw [sortNames, List.mem_mergeSort, List.mem_eraseDups]

/-- The names are sorted by their code points, and no two of them are equal. -/
theorem pairwise_sortNames (names : List Text) :
    (sortNames names).Pairwise fun a b => a.le b ∧ a ≠ b := by
  have hsorted : (sortNames names).Pairwise fun a b => a.le b = true := by
    apply List.pairwise_mergeSort
    · exact fun a b c hab hbc => Text.le_trans hab hbc
    · intro a b
      rw [Bool.or_eq_true]
      exact Text.le_total a b
  have hnodup : (sortNames names).Nodup :=
    (List.mergeSort_perm _ _).nodup_iff.mpr (Table.nodup_eraseDups names)
  exact hsorted.and hnodup

/-- Cutting off the suffix by its length leaves what stands in front of it. -/
theorem listedName_eq {parts : List Text}
    (h : ("/" : Text).intercalate parts = n ++ suffix) : listedName suffix parts = n := by
  rw [listedName, h]
  simp

theorem listDirectory_of_directory (hsuffix : suffix.IsLiteral) {directory : List FileName}
    (hplace : t.find d = .directory directory) : listDirectory t suffix d =
      (t.filesAt [.anyDirectories, .wild (.anyChars :: suffix.map .exactly)] d).map fun paths =>
        paths.map fun path => listedName suffix (path.parts.drop d.parts.length) := by
  rw [listDirectory, hplace]
  simp only [PathPattern.parse?_star hsuffix]
  cases t.filesAt [.anyDirectories, .wild (.anyChars :: suffix.map .exactly)] d <;> rfl

theorem drop_parts_below (d : Path) (rel : List FileName) :
    (d.below rel).parts.drop d.parts.length = rel.map FileName.toText := by
  simp [Path.below]

/-- Each name comes from the path to a file, and it is the path without the suffix. -/
theorem exists_of_mem_listDirectory (ht : t.Proper) (hsuffix : suffix.IsLiteral)
    (h : listDirectory t suffix d = .ok names) (hn : n ∈ names) :
    ∃ rel, rel ≠ [] ∧ (∀ name ∈ rel, name.IsProper) ∧ Path.relative rel = n ++ suffix ∧
      ∃ content, t.find (d.below rel) = .file content := by
  cases hplace : t.find d with
  | directory base =>
    rw [listDirectory_of_directory hsuffix hplace] at h
    obtain ⟨paths, hpaths, rfl⟩ := exists_of_map_eq_ok h
    obtain ⟨path, hpath, rfl⟩ := List.mem_map.mp hn
    obtain ⟨front, last, rfl, hproper, hends, hfile⟩ :=
      FileTree.exists_of_mem_filesAt_star ht hplace hpaths hpath
    obtain ⟨n, hn⟩ := (Path.suffix_relative_iff hsuffix.slash_not_mem front last).mpr hends
    refine ⟨front ++ [last], by simp, hproper, ?_, hfile⟩
    rw [drop_parts_below, listedName_eq hn.symm, hn]
  | failed trouble =>
    rw [listDirectory, hplace] at h
    cases h
  | file content | nothing =>
    rw [listDirectory, hplace] at h
    obtain rfl := Except.ok.inj h
    cases hn

/-- Where all directories can be listed, a directory has all names whose paths with the suffix lead
to files. -/
theorem mem_listDirectory (hlists : ∀ names, t.trouble? .list names = none)
    (hsuffix : suffix.IsLiteral) (h : listDirectory t suffix d = .ok names) {rel : List FileName}
    (hne : rel ≠ []) (hproper : ∀ name ∈ rel, name.IsProper)
    (hrel : Path.relative rel = n ++ suffix) {content : Except FileTree.Trouble (List UInt8)}
    (hfile : t.find (d.below rel) = .file content) : n ∈ names := by
  obtain ⟨base, hplace, -⟩ := FileTree.exists_directory_of_find_below hne hfile
  rw [listDirectory_of_directory hsuffix hplace] at h
  obtain ⟨paths, hpaths, rfl⟩ := exists_of_map_eq_ok h
  obtain ⟨front, last, rfl⟩ := List.eq_nil_or_concat rel |>.resolve_left hne
  rw [List.concat_eq_append] at hproper hrel hfile
  have hends : suffix <:+ last.toText :=
    (Path.suffix_relative_iff hsuffix.slash_not_mem front last).mp ⟨n, hrel.symm⟩
  have hpath := FileTree.mem_filesAt_star hlists hplace hpaths hproper hends hfile
  refine List.mem_map.mpr ⟨_, hpath, ?_⟩
  rw [drop_parts_below, listedName_eq hrel]

/-- Only trouble with a path keeps a directory from being listed. -/
theorem exists_troubles_of_listDirectory (ht : t.Proper) (hsuffix : suffix.IsLiteral)
    {f : ReadFailure} (h : listDirectory t suffix d = .error f) : ∃ rel, t.Leads rel ∧
      ∃ trouble, t.Troubles (d.below rel) trouble ∧ f = trouble.failure (d.below rel) := by
  cases hplace : t.find d with
  | directory base =>
    rw [listDirectory_of_directory hsuffix hplace, ← failureOf_eq_some_iff, failureOf_map,
      failureOf_eq_some_iff] at h
    exact FileTree.exists_troubles_of_filesAt ht hplace h
  | failed trouble =>
    rw [listDirectory, hplace] at h
    obtain rfl := Except.error.inj h
    refine ⟨[], .inl rfl, trouble, ?_, ?_⟩ <;> rw [Path.below_nil]
    exact .find hplace
  | file content | nothing =>
    rw [listDirectory, hplace] at h
    cases h

theorem list_eq (directories : List Path) (encoding : String) (suffix : Text) (stores : Stores) :
    (files directories encoding suffix).list stores =
      ((directories.mapM (listDirectory stores.tree suffix)).map fun parts =>
        sortNames parts.flatten).mapError .reading := by
  rw [list]
  cases directories.mapM (listDirectory stores.tree suffix) <;> rfl

theorem exists_parts_of_list (h : (files directories encoding suffix).list stores = .ok names) :
    ∃ parts, directories.mapM (listDirectory stores.tree suffix) = .ok parts ∧
      names = sortNames parts.flatten := by
  rw [list_eq] at h
  cases hparts : directories.mapM (listDirectory stores.tree suffix) with
  | error f =>
    rw [hparts] at h
    cases h
  | ok parts =>
    rw [hparts] at h
    exact ⟨parts, rfl, (Except.ok.inj h).symm⟩

/-- The names in the listing come from files. -/
theorem exists_of_mem_list (ht : stores.tree.Proper) (hsuffix : suffix.IsLiteral)
    (h : (files directories encoding suffix).list stores = .ok names) (hn : n ∈ names) :
    ∃ d ∈ directories, ∃ rel, rel ≠ [] ∧ (∀ name ∈ rel, name.IsProper) ∧
      Path.relative rel = n ++ suffix ∧
        ∃ content, stores.tree.find (d.below rel) = .file content := by
  obtain ⟨parts, hparts, rfl⟩ := exists_parts_of_list h
  rw [mem_sortNames_iff, mem_flatten_of_mapM hparts] at hn
  obtain ⟨d, hd, part, hpart, hn⟩ := hn
  exact ⟨d, hd, exists_of_mem_listDirectory ht hsuffix hpart hn⟩

theorem mem_list (hlists : ∀ names, stores.tree.trouble? .list names = none)
    (hsuffix : suffix.IsLiteral) (h : (files directories encoding suffix).list stores = .ok names)
    (hd : d ∈ directories) {rel : List FileName} (hne : rel ≠ [])
    (hproper : ∀ name ∈ rel, name.IsProper) (hrel : Path.relative rel = n ++ suffix)
    {content : Except FileTree.Trouble (List UInt8)}
    (hfile : stores.tree.find (d.below rel) = .file content) : n ∈ names := by
  obtain ⟨parts, hparts, rfl⟩ := exists_parts_of_list h
  obtain ⟨part, hpart⟩ := exists_ok_of_mapM hparts hd
  rw [mem_sortNames_iff, mem_flatten_of_mapM hparts]
  exact ⟨d, hd, part, hpart, mem_listDirectory hlists hsuffix hpart hne hproper hrel hfile⟩

theorem exists_troubles_of_list (ht : stores.tree.Proper) (hsuffix : suffix.IsLiteral) {f : Failure}
    (h : (files directories encoding suffix).list stores = .error f) :
    ∃ d ∈ directories, ∃ rel, stores.tree.Leads rel ∧ ∃ trouble,
      stores.tree.Troubles (d.below rel) trouble ∧
        f = .reading (trouble.failure (d.below rel)) := by
  rw [list_eq] at h
  cases hparts : directories.mapM (listDirectory stores.tree suffix) with
  | ok parts =>
    rw [hparts] at h
    cases h
  | error g =>
    rw [hparts] at h
    obtain rfl := Except.error.inj h
    obtain ⟨d, hd, herror⟩ := exists_error_of_mapM hparts
    obtain ⟨rel, hrel, trouble, htroubles, rfl⟩ :=
      exists_troubles_of_listDirectory ht hsuffix herror
    exact ⟨d, hd, rel, hrel, trouble, htroubles, rfl⟩

/-- Every file can be opened and is a text in the encoding. -/
def Decodes (t : FileTree) (encoding : String) : Prop :=
  ∀ names bytes, t.files.get? names = some bytes →
    t.trouble? .open names = none ∧ ∃ text, decodeFile encoding bytes = .ok text

theorem decodes_iff : Decodes t encoding ↔ ∀ entry ∈ t.files.entries,
    t.trouble? .open entry.1 = none ∧ (decodeFile encoding entry.2).toOption.isSome := by
  have hok : ∀ bytes, (∃ text, decodeFile encoding bytes = .ok text) ↔
      (decodeFile encoding bytes).toOption.isSome := by
    intro bytes
    cases decodeFile encoding bytes <;> simp [Except.toOption]
  constructor
  · intro h entry hentry
    exact (h entry.1 entry.2 (Table.mem_entries_iff.mp hentry)).imp_right (hok entry.2).mp
  · intro h names bytes hget
    exact (h (names, bytes) (Table.mem_entries_iff.mpr hget)).imp_right (hok bytes).mpr

instance : Decidable (Decodes t encoding) := decidable_of_iff _ decodes_iff.symm

theorem exists_source_of_file (h : Decodes stores.tree encoding)
    {content : Except FileTree.Trouble (List UInt8)}
    (hfile : stores.tree.find (d.join (Path.ofText (n ++ suffix))) = .file content) :
    ∃ s, finding stores encoding suffix n d = .source s := by
  obtain ⟨names, bytes, hget, rfl⟩ := FileTree.exists_get?_of_find hfile
  obtain ⟨hopen, text, htext⟩ := h names bytes hget
  rw [FileTree.content, hopen] at hfile
  rw [finding, hfile]
  simp [htext]

/-- The loader reads what some directory has, unless there is trouble with a path in front of it. -/
theorem reads_or_fails (h : Decodes stores.tree encoding) (hd : d ∈ directories)
    {content : Except FileTree.Trouble (List UInt8)}
    (hfile : stores.tree.find (d.join (Path.ofText (n ++ suffix))) = .file content) :
    (∃ s, (files directories encoding suffix).answer stores n = .ok s) ∨
      ∃ d ∈ directories, ∃ trouble,
        stores.tree.find (d.join (Path.ofText (n ++ suffix))) = .failed trouble ∧
        (files directories encoding suffix).answer stores n =
          .error (.reading (trouble.failure (d.join (Path.ofText (n ++ suffix))))) := by
  rw [answer_files]
  cases hfirst : (directories.map (finding stores encoding suffix n)).findSome?
      (Finding.answer? n) with
  | none =>
    obtain ⟨s, hs⟩ := exists_source_of_file h hfile
    have hnone := List.findSome?_eq_none_iff.mp hfirst _ (List.mem_map_of_mem hd)
    rw [hs] at hnone
    cases hnone
  | some answer =>
    obtain ⟨_, hmem, hanswer⟩ := List.exists_of_findSome?_eq_some hfirst
    obtain ⟨d', hd', rfl⟩ := List.mem_map.mp hmem
    cases hfind : stores.tree.find (d'.join (Path.ofText (n ++ suffix))) with
    | file content' =>
      obtain ⟨s, hs⟩ := exists_source_of_file h hfind
      rw [hs] at hanswer
      cases hanswer
      exact .inl ⟨s, rfl⟩
    | failed trouble =>
      rw [finding, hfind] at hanswer
      cases hanswer
      exact .inr ⟨d', hd', trouble, hfind, rfl⟩
    | directory place | nothing =>
      rw [finding, hfind] at hanswer
      cases hanswer

/-- What the loader reads is a file. -/
theorem exists_file_of_answer {s : Source}
    (h : (files directories encoding suffix).answer stores n = .ok s) : ∃ d ∈ directories,
      ∃ content, stores.tree.find (d.join (Path.ofText (n ++ suffix))) = .file content := by
  rw [answer_files] at h
  cases hfirst : (directories.map (finding stores encoding suffix n)).findSome?
      (Finding.answer? n) with
  | none =>
    rw [hfirst] at h
    cases h
  | some answer =>
    rw [hfirst] at h
    cases h
    obtain ⟨_, hmem, hanswer⟩ := List.exists_of_findSome?_eq_some hfirst
    obtain ⟨d, hd, rfl⟩ := List.mem_map.mp hmem
    refine ⟨d, hd, ?_⟩
    cases hfind : stores.tree.find (d.join (Path.ofText (n ++ suffix))) with
    | file content => exact ⟨content, rfl⟩
    | failed trouble | directory names | nothing =>
      rw [finding, hfind] at hanswer
      cases hanswer

/-- What the listing of a loader of files says about what the loader reads. -/
structure ListsReadable (directories : List Path) (encoding : String) (suffix : Text)
    (stores : Stores) : Prop where
  /-- Only trouble with a path keeps the loader from listing. -/
  fails : ∀ f, (files directories encoding suffix).list stores = .error f →
    ∃ d ∈ directories, ∃ rel trouble, stores.tree.Troubles (d.below rel) trouble ∧
      f = .reading (trouble.failure (d.below rel))
  /-- The names are in the order of their code points, each of them once. -/
  increasing : ∀ names, (files directories encoding suffix).list stores = .ok names →
    names.Pairwise fun a b => a.le b ∧ a ≠ b
  /-- What is listed is read, unless there is trouble with the path to it from some directory. -/
  reads : ∀ names, (files directories encoding suffix).list stores = .ok names → ∀ n ∈ names,
    (∃ s, (files directories encoding suffix).answer stores n = .ok s) ∨
      ∃ d ∈ directories, ∃ trouble,
        stores.tree.find (d.join (Path.ofText (n ++ suffix))) = .failed trouble ∧
        (files directories encoding suffix).answer stores n =
          .error (.reading (trouble.failure (d.join (Path.ofText (n ++ suffix)))))
  /-- What is read is listed, if all directories can be listed and its path is written in the one
  way that leaves nothing out. -/
  lists : (∀ names, stores.tree.trouble? .list names = none) →
    ∀ names, (files directories encoding suffix).list stores = .ok names → ∀ n s,
    (files directories encoding suffix).answer stores n = .ok s → (n ++ suffix).IsNormal →
      (n ++ suffix).IsSpelled → n ∈ names
  /-- If nothing is refused and no path is too long, there is a listing, and all of it is read. -/
  fits : stores.tree.Fits directories →
    ∃ names, (files directories encoding suffix).list stores = .ok names ∧
      ∀ n ∈ names, ∃ s, (files directories encoding suffix).answer stores n = .ok s

/-- The listing of a loader of files has what the loader reads, in a tree of texts, up to trouble
that the system has with a path. -/
theorem listsReadable_of_decodes (directories : List Path) {encoding : String} {suffix : Text}
    {stores : Stores} (ht : stores.tree.Proper) (hdecodes : Decodes stores.tree encoding)
    (hsuffix : suffix.IsLiteral) : ListsReadable directories encoding suffix stores := by
  have hreads : ∀ names, (files directories encoding suffix).list stores = .ok names →
      ∀ n ∈ names, ∃ rel, stores.tree.Leads rel ∧
        (∀ d : Path, d.join (Path.ofText (n ++ suffix)) = d.below rel) ∧
        ∃ d ∈ directories, ∃ content, stores.tree.find (d.below rel) = .file content := by
    intro names hnames n hn
    obtain ⟨d, hd, rel, hne, hproper, hrel, content, hfile⟩ :=
      exists_of_mem_list ht hsuffix hnames hn
    have hleads := FileTree.leads_of_find hne (FileTree.descends_of_proper hproper) hfile
    refine ⟨rel, hleads, fun d => ?_, d, hd, content, hfile⟩
    rw [← hrel, Path.join_ofText_relative d hne hproper]
  constructor
  case fails =>
    intro f hf
    obtain ⟨d, hd, rel, -, trouble, htroubles, rfl⟩ := exists_troubles_of_list ht hsuffix hf
    exact ⟨d, hd, rel, trouble, htroubles, rfl⟩
  case increasing =>
    intro names hnames
    obtain ⟨parts, -, rfl⟩ := exists_parts_of_list hnames
    exact pairwise_sortNames parts.flatten
  case reads =>
    intro names hnames n hn
    obtain ⟨rel, -, hjoin, d, hd, content, hfile⟩ := hreads names hnames n hn
    exact reads_or_fails hdecodes hd ((hjoin d).symm ▸ hfile)
  case lists =>
    intro hlists names hnames n s hs hnormal hspelled
    obtain ⟨rel, hne, hup, hrel, hjoin⟩ := Path.exists_relative hnormal hspelled
    obtain ⟨d, hd, content, hfile⟩ := exists_file_of_answer hs
    rw [hjoin] at hfile
    have hproper := (FileTree.leads_of_find hne hup hfile).isProper ht
    exact mem_list hlists hsuffix hnames hd hne hproper hrel hfile
  case fits =>
    intro hfits
    cases hlist : (files directories encoding suffix).list stores with
    | error f =>
      obtain ⟨d, hd, rel, hrel, trouble, htroubles, -⟩ := exists_troubles_of_list ht hsuffix hlist
      exact absurd htroubles (hfits.not_troubles ht hd hrel trouble)
    | ok names =>
      refine ⟨names, rfl, fun n hn => ?_⟩
      obtain ⟨rel, hrel, hjoin, d, hd, content, hfile⟩ := hreads names hlist n hn
      rcases reads_or_fails hdecodes hd ((hjoin d).symm ▸ hfile) with
        hs | ⟨d', hd', trouble, hfails, -⟩
      · exact hs
      · rw [hjoin] at hfails
        exact absurd hfails (hfits.find_ne_failed ht hd' hrel trouble)

/-- The current directory is `w`. There is a file in it that is named like the suffix alone, one in
the directory above it, and one that an absolute path leads to. -/
def nestedStores : Stores where
  tree := { files := Table.ofList [([[0x77], [0x64], [0x2e, 0x74]], [0x31]),
              ([[0x77], [0x61, 0x2e, 0x74]], [0x32]), ([[0x72], [0x65, 0x2e, 0x74]], [0x33])],
            here := [[0x77]] }
  mappings := Table.empty
  scripts := Table.empty

theorem listsReadable_nestedStores : nestedStores.tree.Proper ∧
    Decodes nestedStores.tree "utf-8" ∧ (".t" : Text).IsLiteral ∧
    ListsReadable [⟨.here, ["d"]⟩, ⟨.here, []⟩, ⟨.root, ["r"]⟩] "utf-8" ".t" nestedStores ∧
    (files [⟨.here, ["d"]⟩, ⟨.here, []⟩, ⟨.root, ["r"]⟩] "utf-8" ".t").list nestedStores =
      .ok ["", "a", "d/", "e"] ∧
    (files [⟨.here, ["d"]⟩, ⟨.here, []⟩, ⟨.root, ["r"]⟩] "utf-8" ".t").answer nestedStores "e" =
      .ok ⟨"3", some ("/r/e.t" : Text)⟩ := by
  have hproper : nestedStores.tree.Proper := by decide +kernel
  have hdecodes : Decodes nestedStores.tree "utf-8" := by decide +kernel
  have hsuffix : (".t" : Text).IsLiteral := by decide +kernel
  have hparts : [⟨.here, ["d"]⟩, ⟨.here, []⟩, ⟨.root, ["r"]⟩].mapM
      (listDirectory nestedStores.tree ".t") = .ok [[""], ["a", "d/"], ["e"]] := by
    decide +kernel
  have hsorted : sortNames ["", "a", "d/", "e"] = ["", "a", "d/", "e"] :=
    List.mergeSort_of_pairwise (by decide +kernel)
  refine ⟨hproper, hdecodes, hsuffix, listsReadable_of_decodes _ hproper hdecodes hsuffix, ?_,
    by decide +kernel⟩
  rw [list, hparts]
  exact congrArg Except.ok hsorted

/-- The names of a directory so far down that the path to it is almost as long as a path can be. -/
def farNames : List FileName := List.replicate 20 (List.replicate 200 0x61)

def farDirectory : Path := ⟨.here, farNames.map FileName.toText⟩

def plainFile : FileName := List.replicate 100 0x6e

def plainName : Text := List.replicate 100 (.char 'n')

/-- There is a file in `b`, and nothing else. -/
def plainStores : Stores where
  tree := { files := Table.ofList [([[0x62], plainFile], [0x78])] }
  mappings := Table.empty
  scripts := Table.empty

theorem names?_farDirectory : farDirectory.names? = some farNames := Path.mapM_toText farNames

theorem find_farDirectory : plainStores.tree.find farDirectory = .nothing := by
  have htotal : farNames.flatten.length = 4000 := by
    rw [List.length_flatten]
    decide +kernel
  rw [FileTree.find_here names?_farDirectory rfl (by decide) (by decide +kernel), htotal,
    if_neg (by decide)]
  decide +kernel

/-- No part of the path is too long by itself. -/
theorem find_farDirectory_plainName :
    plainStores.tree.find (farDirectory.join (Path.ofText plainName)) = .failed .tooLong := by
  have hproper : ∀ name ∈ [plainFile], name.IsProper := by decide +kernel
  have hwritten : plainName = Path.relative [plainFile] := by decide +kernel
  have hnames : (farDirectory.below [plainFile]).names? = some (farNames ++ [plainFile]) :=
    Path.names?_below names?_farDirectory [plainFile]
  have htotal : (farNames ++ [plainFile]).flatten.length = 4100 := by
    rw [List.length_flatten]
    decide +kernel
  rw [hwritten, Path.join_ofText_relative farDirectory (by simp) hproper,
    FileTree.find_here hnames rfl (by simp) (by decide +kernel), htotal, if_pos (by decide)]

/-- The name is listed for the one directory, and too long behind the other one, which is asked for
it first. -/
theorem not_read_plainStores :
    let directories : List Path := [farDirectory, ⟨.here, ["b"]⟩]
    plainStores.tree.Proper ∧ Decodes plainStores.tree "utf-8" ∧ ("" : Text).IsLiteral ∧
    (∀ d ∈ directories, ∃ names, d.names? = some names ∧
      ∀ name ∈ names, name.length ≤ FileTree.partLimit) ∧
    (files directories "utf-8" "").list plainStores = .ok [plainName] ∧
    (files directories "utf-8" "").answer plainStores plainName =
      .error (.reading (.nameTooLong (farDirectory.join (Path.ofText plainName)).text)) := by
  have hnames : ∀ d ∈ [farDirectory, ⟨.here, ["b"]⟩], ∃ names, d.names? = some names ∧
      ∀ name ∈ names, name.length ≤ FileTree.partLimit := by
    intro d hd
    simp only [List.mem_cons, List.not_mem_nil, or_false] at hd
    rcases hd with rfl | rfl
    · exact ⟨farNames, names?_farDirectory, by decide +kernel⟩
    · exact ⟨[[0x62]], by decide +kernel, by decide +kernel⟩
  have hfar : listDirectory plainStores.tree "" farDirectory = .ok [] := by
    rw [listDirectory, find_farDirectory]
  have hnear : listDirectory plainStores.tree "" ⟨.here, ["b"]⟩ = .ok [plainName] := by
    decide +kernel
  have hlist : (files [farDirectory, ⟨.here, ["b"]⟩] "utf-8" "").list plainStores =
      .ok [plainName] := by
    rw [list, List.mapM_cons, List.mapM_cons, hfar, hnear]
    decide +kernel
  have hfound : finding plainStores "utf-8" "" plainName farDirectory =
      .failed (farDirectory.join (Path.ofText plainName)) .tooLong := by
    have hname : plainName ++ ("" : Text) = plainName := List.append_nil _
    rw [finding, hname, find_farDirectory_plainName]
  refine ⟨by decide +kernel, by decide +kernel, by decide +kernel, hnames, hlist, ?_⟩
  rw [answer_files, List.map_cons, List.findSome?_cons, hfound]
  rfl

end Loader

end Stencil
