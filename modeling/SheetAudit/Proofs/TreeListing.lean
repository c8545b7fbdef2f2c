import Mathlib.Data.List.Nodup
import Mathlib.Data.String.Basic
import SheetAudit.Proofs.FileSizes

/-!
# The sheets below a directory

A directory is walked entry by entry, in the order of the names, and what is found in a directory
below it comes where the name of that directory stands.  So the sheets are sorted by their paths, as
lists of names; none is missed and none comes twice; and their paths, written with slashes, are
different names.

## Key results

- `sheets_directory`: the walk, one level at a time
- `mem_sheets_iff`: which files are found
- `pairwise_sheets`: the order in which they are found
- `toRelativeText_injective`: different paths have different texts
- `sheets_complete_sorted`: the sheets at a path that leads to a directory
-/

namespace SheetAudit.Files

/-! ## Files of a tree -/

/-- Whether a name comes before another one, by the code points of their characters. -/
def NameBefore (name name' : String) : Prop :=
  List.Lex (fun c d : Char => c.toNat < d.toNat) name.toList name'.toList

/-- Whether a path is that of a file to be listed. -/
structure IsListed (path : Path) : Prop where
  /-- The name of the file is that of a stylesheet. -/
  css : ∃ name, path.getLast? = some name ∧ ".css".toList <:+ name.toList
  /-- No directory on the way is hidden or holds installed packages. -/
  visible : ∀ name ∈ path.dropLast, name.toList.head? ≠ some '.' ∧ name ≠ "node_modules"

namespace Entry

/-- An entry holds a file with some bytes at the end of a path that starts at the entry. -/
inductive HasFile : Entry → Path → ByteArray → Prop where
  /-- A file holds itself. -/
  | here (bytes : ByteArray) : HasFile (.file bytes) [] bytes
  /-- A directory holds what its entries hold, behind their names. -/
  | inside {entries : List (String × Entry)} {name : String} {e : Entry} {path : Path}
      {bytes : ByteArray} (hmem : (name, e) ∈ entries) (hfile : e.HasFile path bytes) :
      HasFile (.directory entries) (name :: path) bytes

/-- The entries of each directory have different names, and no name holds a slash. -/
inductive WellNamed : Entry → Prop where
  /-- There are no names in a file. -/
  | file (bytes : ByteArray) : WellNamed (.file bytes)
  /-- A directory is well named if its entries have names of their own and are well named. -/
  | directory {entries : List (String × Entry)} (hnodup : (entries.map (·.1)).Nodup)
      (hslash : ∀ entry ∈ entries, '/' ∉ entry.1.toList)
      (hbelow : ∀ entry ∈ entries, entry.2.WellNamed) : WellNamed (.directory entries)

/-- A file holds itself, at the end of the empty path. -/
private theorem hasFile_file_iff {bytes bytes' : ByteArray} {path : Path} :
    (Entry.file bytes).HasFile path bytes' ↔ path = [] ∧ bytes' = bytes := by
  constructor
  · rintro ⟨⟩
    exact ⟨rfl, rfl⟩
  · rintro ⟨rfl, rfl⟩
    exact .here _

/-- The path to a file in a directory is not empty. -/
theorem HasFile.ne_nil {entries : List (String × Entry)} {path : Path} {bytes : ByteArray}
    (h : (Entry.directory entries).HasFile path bytes) : path ≠ [] := by
  rintro rfl
  cases h

/-- A directory holds a file if the entry with the first name of the path does, at the rest of
it. -/
private theorem hasFile_directory_cons_iff {entries : List (String × Entry)} {name : String}
    {path : Path} {bytes : ByteArray} :
    (Entry.directory entries).HasFile (name :: path) bytes ↔
      ∃ e, (name, e) ∈ entries ∧ e.HasFile path bytes := by
  constructor
  · rintro (_ | ⟨hmem, hfile⟩)
    exact ⟨_, hmem, hfile⟩
  · rintro ⟨e, hmem, hfile⟩
    exact .inside hmem hfile

/-- The names on the way to a file hold no slash. -/
private theorem HasFile.slash_notMem {e : Entry} {path : Path} {bytes : ByteArray}
    (h : e.HasFile path bytes) (hnames : e.WellNamed) : ∀ name ∈ path, '/' ∉ name.toList := by
  -- by induction on the way to the file
  induction h with
  | here bytes => simp
  | inside hmem _ ih =>
    obtain _ | ⟨-, hslash, hbelow⟩ := hnames
    exact List.forall_mem_cons.mpr ⟨hslash _ hmem, ih (hbelow _ hmem)⟩

/-! ## One level of the walk -/

/-- The stylesheets that are found in an entry of a directory. -/
def sheetsAt (name : String) : Entry → List (Path × ByteArray)
  | .file bytes => if isSheetName name then [([name], bytes)] else []
  | .directory entries =>
    if isSkipped name then []
    else (Entry.directory entries).sheets.map fun (path, bytes) => (name :: path, bytes)

/-- The sheets below a directory are those that are found in its entries, in the order of their
names. -/
theorem sheets_directory (entries : List (String × Entry)) :
    (Entry.directory entries).sheets =
      (sorted entries).flatMap fun entry => sheetsAt entry.1 entry.2 := by
  rw [sheets]
  -- the walk goes over entries with a proof that they are entries, which is forgotten here
  conv_rhs => rw [← List.attach_map_subtype_val (sorted entries), List.flatMap_map]
  refine List.flatMap_congr fun entry _ => ?_
  obtain ⟨⟨name, e⟩, hmem⟩ := entry
  cases e <;> rfl

/-- A file is found if it has the name of a stylesheet, and under its own name. -/
theorem mem_sheetsAt_file_iff {name : String} {bytes bytes' : ByteArray} {path : Path} :
    (path, bytes') ∈ sheetsAt name (.file bytes) ↔
      isSheetName name = true ∧ path = [name] ∧ bytes' = bytes := by
  rw [sheetsAt]
  split <;> simp_all

/-- Below a directory the sheets are found if it is not passed over, with its name in front. -/
theorem mem_sheetsAt_directory_iff {name : String} {entries : List (String × Entry)} {path : Path}
    {bytes : ByteArray} :
    (path, bytes) ∈ sheetsAt name (.directory entries) ↔
      isSkipped name = false ∧
        ∃ rest, path = name :: rest ∧ (rest, bytes) ∈ (Entry.directory entries).sheets := by
  rw [sheetsAt]
  split
  · simp_all
  · next hskipped =>
    simp only [List.mem_map, Prod.mk.injEq, Prod.exists]
    constructor
    · rintro ⟨rest, _, hmem, rfl, rfl⟩
      exact ⟨Bool.eq_false_iff.mpr hskipped, rest, rfl, hmem⟩
    · rintro ⟨-, rest, rfl, hmem⟩
      exact ⟨rest, bytes, hmem, rfl, rfl⟩

/-- What is found in an entry has a path that starts with its name. -/
private theorem exists_eq_cons_of_mem_sheetsAt {name : String} {e : Entry} {file : Path × ByteArray}
    (h : file ∈ sheetsAt name e) : ∃ rest, file.1 = name :: rest := by
  cases e with
  | file bytes => exact ⟨[], (mem_sheetsAt_file_iff.mp h).2.1⟩
  | directory entries =>
    obtain ⟨-, rest, hpath, -⟩ := mem_sheetsAt_directory_iff.mp h
    exact ⟨rest, hpath⟩

/-! ## Which files are found -/

/-- The name of a stylesheet is one that ends with `.css`. -/
theorem isSheetName_iff (name : String) : isSheetName name = true ↔ ".css".toList <:+ name.toList :=
  List.isSuffixOf_iff_suffix

/-- A directory is searched unless it is hidden or holds installed packages. -/
private theorem isSkipped_eq_false_iff (name : String) :
    isSkipped name = false ↔ name.toList.head? ≠ some '.' ∧ name ≠ "node_modules" := by
  simp [isSkipped]

/-- A path of one name is listed if it is that of a stylesheet. -/
private theorem isListed_singleton_iff (name : String) :
    IsListed [name] ↔ isSheetName name = true := by
  rw [isSheetName_iff]
  constructor
  · rintro ⟨⟨_, hlast, hcss⟩, -⟩
    obtain rfl := Option.some.inj hlast
    exact hcss
  · intro hcss
    exact ⟨⟨name, rfl, hcss⟩, by simp⟩

/-- A longer path is listed if its first directory is searched and the rest is listed. -/
private theorem isListed_cons_iff (name : String) {path : Path} (h : path ≠ []) :
    IsListed (name :: path) ↔ isSkipped name = false ∧ IsListed path := by
  -- the sheet is the end of the path with or without the first directory
  have hlast : (name :: path).getLast? = path.getLast? := List.getLast?_cons_of_ne_nil h
  have hinit : (name :: path).dropLast = name :: path.dropLast := List.dropLast_cons_of_ne_nil h
  rw [isSkipped_eq_false_iff]
  constructor
  · rintro ⟨hcss, hvisible⟩
    rw [hlast] at hcss
    rw [hinit, List.forall_mem_cons] at hvisible
    exact ⟨hvisible.1, hcss, hvisible.2⟩
  · rintro ⟨hname, hcss, hvisible⟩
    refine ⟨hlast ▸ hcss, ?_⟩
    rw [hinit, List.forall_mem_cons]
    exact ⟨hname, hvisible⟩

/-- The sheets below a directory are the files of its tree that are to be listed. -/
theorem mem_sheets_iff {entries : List (String × Entry)} {path : Path} {bytes : ByteArray} :
    (path, bytes) ∈ (Entry.directory entries).sheets ↔
      (Entry.directory entries).HasFile path bytes ∧ IsListed path := by
  -- the path leads from one directory to the next, whatever else the tree holds
  induction path generalizing entries with
  | nil =>
    refine iff_of_false (fun h => ?_) fun h => h.1.ne_nil rfl
    rw [sheets_directory, List.mem_flatMap] at h
    obtain ⟨entry, -, hfile⟩ := h
    obtain ⟨rest, hrest⟩ := exists_eq_cons_of_mem_sheetsAt hfile
    cases hrest
  | cons name path ih =>
    -- in an entry the file is found by the rest of its path
    have hstep : ∀ e : Entry, (name :: path, bytes) ∈ sheetsAt name e ↔
        e.HasFile path bytes ∧ IsListed (name :: path) := by
      intro e
      cases e with
      | file bytes' =>
        rw [mem_sheetsAt_file_iff, hasFile_file_iff, List.cons_eq_cons]
        constructor
        · rintro ⟨hcss, ⟨-, rfl⟩, rfl⟩
          exact ⟨⟨rfl, rfl⟩, (isListed_singleton_iff name).mpr hcss⟩
        · rintro ⟨⟨rfl, rfl⟩, hlisted⟩
          exact ⟨(isListed_singleton_iff name).mp hlisted, ⟨rfl, rfl⟩, rfl⟩
      | directory below =>
        rw [mem_sheetsAt_directory_iff]
        constructor
        · rintro ⟨hname, rest, hrest, hmem⟩
          obtain rfl := (List.cons_eq_cons.mp hrest).2
          obtain ⟨hfile, hlisted⟩ := ih.mp hmem
          exact ⟨hfile, (isListed_cons_iff name hfile.ne_nil).mpr ⟨hname, hlisted⟩⟩
        · rintro ⟨hfile, hlisted⟩
          obtain ⟨hname, hlisted⟩ := (isListed_cons_iff name hfile.ne_nil).mp hlisted
          exact ⟨hname, path, rfl, ih.mpr ⟨hfile, hlisted⟩⟩
    rw [sheets_directory, List.mem_flatMap, hasFile_directory_cons_iff]
    constructor
    · rintro ⟨⟨name', e⟩, hmem, hfile⟩
      obtain ⟨rest, hrest⟩ := exists_eq_cons_of_mem_sheetsAt hfile
      obtain rfl := (List.cons_eq_cons.mp hrest).1
      obtain ⟨hfile, hlisted⟩ := (hstep e).mp hfile
      exact ⟨⟨e, List.mem_mergeSort.mp hmem, hfile⟩, hlisted⟩
    · rintro ⟨⟨e, hmem, hfile⟩, hlisted⟩
      exact ⟨(name, e), List.mem_mergeSort.mpr hmem, (hstep e).mpr ⟨hfile, hlisted⟩⟩

/-! ## The order in which they are found -/

/-- The order of names by code points is the order of texts. -/
theorem nameBefore_iff_lt {name name' : String} : NameBefore name name' ↔ name < name' :=
  Iff.rfl

/-- The entries of a directory are walked in the order of their names. -/
theorem pairwise_sorted {entries : List (String × Entry)} (h : (entries.map (·.1)).Nodup) :
    (sorted entries).Pairwise fun a b => NameBefore a.1 b.1 := by
  -- sorting gives an order that may repeat a name, and the names are all different
  have hle : (sorted entries).Pairwise fun a b => a.1 ≤ b.1 := by
    have hsorted : (entries.mergeSort fun a b => decide (a.1 ≤ b.1)).Pairwise
        fun a b => decide (a.1 ≤ b.1) = true := by
      refine List.pairwise_mergeSort ?_ ?_ entries
      · intro a b c hab hbc
        simp only [decide_eq_true_eq] at hab hbc ⊢
        exact hab.trans hbc
      · intro a b
        simp only [Bool.or_eq_true, decide_eq_true_eq]
        exact le_total a.1 b.1
    exact hsorted.imp fun hab => of_decide_eq_true hab
  have hne : (sorted entries).Pairwise fun a b => a.1 ≠ b.1 := by
    have hperm := (List.mergeSort_perm entries fun a b => decide (a.1 ≤ b.1)).map (·.1)
    exact List.pairwise_map.mp (hperm.nodup_iff.mpr h)
  exact hle.imp₂ (fun _ _ hab hne => nameBefore_iff_lt.mpr (lt_of_le_of_ne hab hne)) hne

/-- The sheets below a directory come in the order of their paths. -/
theorem pairwise_sheets {e : Entry} (h : e.WellNamed) :
    e.sheets.Pairwise fun a b => List.Lex NameBefore a.1 b.1 := by
  -- by induction on the tree
  induction h with
  | file bytes =>
    rw [sheets]
    exact .nil
  | directory hnodup _ _ ih =>
    rw [sheets_directory, List.pairwise_flatMap]
    constructor
    · -- what is found in one entry: its name comes first in all paths
      rintro ⟨name, e⟩ hmem
      cases e with
      | file bytes =>
        rw [sheetsAt]
        split <;> simp
      | directory entries =>
        rw [sheetsAt]
        split
        · exact .nil
        · have hbelow := ih _ (List.mem_mergeSort.mp hmem)
          exact List.pairwise_map.mpr (hbelow.imp .cons)
    · -- what is found in different entries: their names decide
      refine (pairwise_sorted hnodup).imp fun {a b} hab x hx y hy => ?_
      obtain ⟨_, hx⟩ := exists_eq_cons_of_mem_sheetsAt hx
      obtain ⟨_, hy⟩ := exists_eq_cons_of_mem_sheetsAt hy
      rw [hx, hy]
      exact .rel hab

end Entry

/-! ## Names of sheets -/

/-- The names of a path can be read off its text. -/
theorem splitOn_toRelativeText {path : Path} (hne : path ≠ [])
    (h : ∀ name ∈ path, '/' ∉ name.toList) :
    (Path.toRelativeText path).toList.splitOn '/' = path.map String.toList := by
  rw [Path.toRelativeText, String.toList_intercalate]
  exact List.splitOn_intercalate '/' (List.forall_mem_map.mpr h) (by simpa using hne)

/-- Different paths have different texts, if no name holds a slash. -/
theorem toRelativeText_injective {path path' : Path} (hne : path ≠ []) (hne' : path' ≠ [])
    (h : ∀ name ∈ path, '/' ∉ name.toList) (h' : ∀ name ∈ path', '/' ∉ name.toList)
    (heq : Path.toRelativeText path = Path.toRelativeText path') : path = path' := by
  have hnames := splitOn_toRelativeText hne h
  rw [heq, splitOn_toRelativeText hne' h'] at hnames
  exact (List.map_injective_iff.mpr (fun _ _ => String.toList_injective) hnames).symm

/-- The sheets below a directory have different names. -/
theorem nodup_toRelativeText {entries : List (String × Entry)}
    (h : (Entry.directory entries).WellNamed) :
    ((Entry.directory entries).sheets.map fun file => Path.toRelativeText file.1).Nodup := by
  -- the names on the way hold no slash, so the texts of paths tell them apart
  have hpath : ∀ file ∈ (Entry.directory entries).sheets,
      file.1 ≠ [] ∧ ∀ name ∈ file.1, '/' ∉ name.toList := by
    intro file hfile
    have hholds := (Entry.mem_sheets_iff.mp hfile).1
    exact ⟨hholds.ne_nil, hholds.slash_notMem h⟩
  rw [List.Nodup, List.pairwise_map]
  refine (Entry.pairwise_sheets h).imp_of_mem fun {a b} ha hb hab heq => ?_
  have hsame := toRelativeText_injective (hpath a ha).1 (hpath b hb).1 (hpath a ha).2
    (hpath b hb).2 heq
  rw [hsame] at hab
  exact List.lex_irrefl (fun name => Entry.nameBefore_iff_lt.not.mpr (lt_irrefl name)) _ hab

/-! ## The sheets at a path -/

/-- The text of the way that a path stands for is no longer than a file system takes.  What lies
    below the directory at its end may have paths of any length. -/
def FileSystem.CanWalk (fs : FileSystem) (path : String) : Prop :=
  (Path.locatedText fs.workingDirectory path).utf8ByteSize ≤ maxPathSize

instance (fs : FileSystem) (path : String) : Decidable (fs.CanWalk path) :=
  inferInstanceAs (Decidable (_ ≤ _))

/-- A path that leads to a directory lists the sheets below it. -/
theorem listSheets_of_find {fs : FileSystem} {path : String} {entries : List (String × Entry)}
    (hnull : '\x00' ∉ path.toList) (hsize : fs.CanWalk path)
    (hfound : fs.root.find (Path.locate fs.workingDirectory path) = .entry (.directory entries)) :
    fs.listSheets path =
      .ok ((Entry.directory entries).sheets.map fun file => Path.toRelativeText file.1) := by
  have hnull' : path.toList.contains '\x00' = false := by simpa using hnull
  have hsize' : ¬maxPathSize < (Path.locatedText fs.workingDirectory path).utf8ByteSize :=
    not_lt.mpr hsize
  rw [FileSystem.listSheets]
  simp only [hnull', hsize', hfound, Bool.false_eq_true, if_false]

/-- The sheets below a directory are the files of its tree with the name of a stylesheet that no
    hidden directory and none with installed packages holds, in the order of their paths; the name
    of the directory itself does not matter.  So a path to the directory lists them, and collects
    them under different names. -/
theorem sheets_complete_sorted (entries : List (String × Entry))
    (h : (Entry.directory entries).WellNamed) :
    (∀ (path : Path) (bytes : ByteArray), (path, bytes) ∈ (Entry.directory entries).sheets ↔
      (Entry.directory entries).HasFile path bytes ∧ IsListed path) ∧
    (Entry.directory entries).sheets.Pairwise (fun a b => List.Lex NameBefore a.1 b.1) ∧
    (∀ (fs : FileSystem) (path : String), '\x00' ∉ path.toList → fs.CanWalk path →
      fs.root.find (Path.locate fs.workingDirectory path) = .entry (.directory entries) →
      fs.listSheets path =
        .ok ((Entry.directory entries).sheets.map fun file => Path.toRelativeText file.1)) ∧
    (∀ (fs : FileSystem) (path : String), '\x00' ∉ path.toList →
      fs.find (fs.resolve path) = .entry (.directory entries) →
      ∃ sources, fs.collect path = .ok sources ∧
        List.Forall₂ (fun s file => s.name = Path.toRelativeText file.1 ∧
          s.content = fileText file.2) sources (Entry.directory entries).sheets ∧
        (sources.map (·.name)).Nodup) := by
  refine ⟨fun path bytes => Entry.mem_sheets_iff, Entry.pairwise_sheets h,
    fun fs path hnull hsize hfound => listSheets_of_find hnull hsize hfound,
    fun fs path hnull hfound => ⟨_, collect_of_find hnull hfound, ?_, ?_⟩⟩
  · rw [Entry.sheetFiles, List.map_map, List.forall₂_map_left_iff, List.forall₂_same]
    exact fun file _ => ⟨rfl, rfl⟩
  · rw [Entry.sheetFiles, List.map_map, List.map_map]
    exact nodup_toRelativeText h

/-- A hidden directory is searched when it is asked for.  One below it is passed over, as are
    packages; a directory with the name of a sheet is searched, and a hidden file is listed. -/
theorem sheets_complete_sorted_nested :
    let entries : List (String × Entry) :=
      [("x.css", .directory [(".y.css", .file .empty)]), ("b.css", .file .empty),
        ("node_modules", .directory [("m.css", .file .empty)]),
        ("b", .directory [("z.txt", .file .empty), ("z.css", .file .empty)]),
        (".git", .directory [("g.css", .file .empty)])]
    let fs : FileSystem := ⟨.directory [(".d", .directory entries)], []⟩
    (Entry.directory entries).WellNamed ∧
      fs.listSheets ".d" = .ok ["b/z.css", "b.css", "x.css/.y.css"] ∧
      (∀ bytes, ¬((Entry.directory entries).HasFile [".git", "g.css"] bytes ∧
        IsListed [".git", "g.css"])) ∧
      ∃ sources, fs.collect ".d" = .ok sources ∧ sources.length = 3 ∧
        (sources.map (·.name)).Nodup := by
  intro entries fs
  have hnames : (Entry.directory entries).WellNamed := by
    refine .directory (by decide) (by decide +kernel) ?_
    simp only [entries, List.forall_mem_cons, List.not_mem_nil, false_implies, implies_true,
      and_true]
    refine ⟨.directory (by decide) (by decide +kernel) ?_, .file _,
      .directory (by decide) (by decide +kernel) ?_,
      .directory (by decide) (by decide +kernel) ?_,
      .directory (by decide) (by decide +kernel) ?_⟩ <;>
      simp [Entry.WellNamed.file]
  -- the walk, with the directories below it looked at first
  have hsheets : (Entry.directory entries).sheets =
      [(["b", "z.css"], .empty), (["b.css"], .empty), (["x.css", ".y.css"], .empty)] := by
    have hb : (Entry.directory [("z.txt", .file .empty), ("z.css", .file .empty)]).sheets =
        [(["z.css"], .empty)] := by
      rw [Entry.sheets_directory]
      simp +decide [Entry.sorted, List.mergeSort, List.MergeSort.Internal.splitInTwo,
        Entry.sheetsAt]
    have hx : (Entry.directory [(".y.css", .file .empty)]).sheets = [([".y.css"], .empty)] := by
      rw [Entry.sheets_directory]
      simp +decide [Entry.sorted, Entry.sheetsAt]
    rw [Entry.sheets_directory]
    simp +decide [entries, Entry.sorted, List.mergeSort, List.MergeSort.Internal.splitInTwo,
      Entry.sheetsAt, hb, hx]
  obtain ⟨hmem, -, hlist, hcollect⟩ := sheets_complete_sorted entries hnames
  obtain ⟨sources, hsources, hpairs, hnodup⟩ := hcollect fs ".d" (by decide) rfl
  refine ⟨hnames, ?_, fun bytes hlisted => ?_, sources, hsources, ?_, hnodup⟩
  · rw [hlist fs ".d" (by decide) (by decide) rfl, hsheets]
    rfl
  · have := (hmem _ _).mpr hlisted
    simp [hsheets] at this
  · rw [hpairs.length_eq, hsheets]
    rfl

end SheetAudit.Files
