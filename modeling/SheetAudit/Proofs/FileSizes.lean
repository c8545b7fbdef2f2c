import Mathlib.Data.List.Forall2
import Mathlib.Data.List.Permutation
import SheetAudit.Files.Tree
import SheetAudit.Proofs.Decoding
import SheetAudit.Proofs.SheetOrder

/-!
# The sizes of files

A report gives the size of the text of a sheet, and the text of a file is read with unified line
breaks.  So the size that is reported for a file of valid UTF-8 is its size on disk less one byte
for each carriage return that a line feed follows.

## Key results

- `utf8ByteSize_fileText`: the size of the text of a file
- `collect_of_find`: the sheets at a path where there is something
- `audit_collect_sizes`: the sizes in the report of the sheets at a path
- `audit_collect_smaller`: a file that is larger than its report says
-/

namespace SheetAudit

open Stylesheet
open Text

/-! ## The text of a file -/

namespace Files

/-- What is read of an array of bytes from a place on. -/
private theorem toList_loop_eq (bytes : ByteArray) (i : Nat) (read : List UInt8) :
    ByteArray.toList.loop bytes i read = read.reverse ++ bytes.data.toList.drop i := by
  -- on the steps of the loop, which carries what it has read last one first
  fun_induction ByteArray.toList.loop bytes i read with
  | case1 i read h ih =>
    have hi : i < bytes.data.toList.length := by simpa using h
    rw [ih, List.reverse_cons, List.append_assoc, List.drop_eq_getElem_cons hi]
    simp [ByteArray.get!, h]
  | case2 i read h =>
    rw [List.drop_eq_nil_of_le (by simpa using h), List.append_nil]

/-- An array of bytes made from a list has the bytes of the list. -/
private theorem toList_toByteArray (bytes : List UInt8) : bytes.toByteArray.toList = bytes := by
  rw [ByteArray.toList, toList_loop_eq, List.data_toByteArray]
  rfl

/-- The text of a file of valid UTF-8 is smaller than the file by its pairs of carriage return and
    line feed. -/
theorem utf8ByteSize_fileText {bytes : ByteArray} (h : bytes.IsValidUTF8) :
    (fileText bytes).utf8ByteSize + breakPairs bytes.toList = bytes.size := by
  -- valid bytes encode some text, which is what is read before its line breaks are unified
  obtain ⟨cs, rfl⟩ := h
  have hsize : ∀ cs : List Char, cs.utf8Encode.size = (encodeUtf8 cs).length :=
    fun cs => List.size_toByteArray
  have hbytes : cs.utf8Encode.toList = encodeUtf8 cs := toList_toByteArray _
  rw [fileText, String.utf8ByteSize, String.toByteArray_ofList, hsize, hsize, hbytes,
    decodeUtf8_encode]
  exact length_encode_unifyNewlines cs

/-! ## The sheets at a path -/

/-- The stylesheets that an entry holds, each under the name by which it is reported; `name` is the
    name of the entry itself. -/
def Entry.sheetFiles (name : String) : Entry → List (String × ByteArray)
  | .file bytes => [(name, bytes)]
  | .directory entries =>
    (Entry.directory entries).sheets.map fun (below, bytes) => (Path.toRelativeText below, bytes)

/-- The sheet that is read from a file. -/
def sheetOf (file : String × ByteArray) : Source :=
  ⟨file.1, fileText file.2⟩

/-- The last name of the path that a text stands for. -/
def FileSystem.baseName (fs : FileSystem) (path : String) : String :=
  (fs.resolve path).getLast?.getD ""

/-- The sheets at a path where there is a file or a directory. -/
theorem collect_of_find {fs : FileSystem} {path : String} {e : Entry}
    (hnull : '\x00' ∉ path.toList) (hfound : fs.find (fs.resolve path) = .entry e) :
    fs.collect path = .ok ((e.sheetFiles (fs.baseName path)).map sheetOf) := by
  have hnull' : path.toList.contains '\x00' = false := by simpa using hnull
  rw [FileSystem.collect]
  simp only [hnull', hfound, Bool.false_eq_true, if_false]
  -- a file is one sheet, and a directory has those that are found in it
  cases e with
  | file bytes => rfl
  | directory entries => simp [Entry.sheetFiles, sheetOf, List.map_map, Function.comp_def]

end Files

open Files

/-! ## Reported sizes -/

/-- What the sizes in a report are, in terms of the files. -/
structure Report.SizesOf (report : Report) (files : List (String × ByteArray)) : Prop where
  /-- A file is reported under its name, and with its pairs of carriage return and line feed its
      size is that on disk. -/
  files_eq : List.Forall₂ (fun stats file => stats.name = file.1 ∧
    stats.size + breakPairs file.2.toList = (file.2.size : Int)) report.files files
  /-- So is the total size. -/
  total_eq : report.totals.size + ((files.map fun file => breakPairs file.2.toList).sum : Nat) =
    ((files.map fun file => file.2.size).sum : Nat)

/-- The reported size of a file and its pairs of carriage return and line feed make up its size. -/
theorem size_fileStats {file : String × ByteArray} (h : file.2.IsValidUTF8) (rules : List Rule) :
    (FileStats.of (sheetOf file) rules).size + breakPairs file.2.toList = file.2.size := by
  have hsize : (fileText file.2).utf8ByteSize + breakPairs file.2.toList = file.2.size :=
    utf8ByteSize_fileText h
  rw [← hsize]
  exact (Nat.cast_add _ _).symm

/-- The files are reported in order, each with its name and its size. -/
private theorem forall₂_fileStats {files : List (String × ByteArray)}
    (hutf8 : ∀ file ∈ files, file.2.IsValidUTF8) :
    List.Forall₂ (fun stats file => stats.name = file.1 ∧
        stats.size + breakPairs file.2.toList = (file.2.size : Int))
      ((files.map sheetOf).map fun s => FileStats.of s s.rules) files := by
  -- file by file; the report of one file does not depend on the others
  induction files with
  | nil => exact .nil
  | cons file files ih =>
    obtain ⟨hfile, hfiles⟩ := List.forall_mem_cons.mp hutf8
    exact .cons ⟨rfl, size_fileStats hfile _⟩ (ih hfiles)

/-- The sizes add up to the reported total, with the pairs of carriage return and line feed. -/
theorem size_totals {files : List (String × ByteArray)}
    (hutf8 : ∀ file ∈ files, file.2.IsValidUTF8) :
    (Totals.ofFiles ((files.map sheetOf).map fun s => FileStats.of s s.rules)).size +
      ((files.map fun file => breakPairs file.2.toList).sum : Nat) =
    ((files.map fun file => file.2.size).sum : Nat) := by
  induction files with
  | nil => rfl
  | cons file files ih =>
    obtain ⟨hfile, hfiles⟩ := List.forall_mem_cons.mp hutf8
    have hsize := size_fileStats hfile (sheetOf file).rules
    have hsum := ih hfiles
    simp only [Totals.ofFiles, List.map_cons, List.foldr_cons, List.sum_cons] at hsum ⊢
    omega

/-- The report of the sheets at a path where there is a file or a directory.  Only sheets with at
    least 2^1000 selectors may have no report. -/
theorem audit_collect_sizes (fs : FileSystem) (path : String) (threshold : Int) (e : Entry)
    (hnull : '\x00' ∉ path.toList) (hfound : fs.find (fs.resolve path) = .entry e)
    (hne : e.sheetFiles (fs.baseName path) ≠ [])
    (hutf8 : ∀ file ∈ e.sheetFiles (fs.baseName path), file.2.IsValidUTF8) :
    ∃ sources, fs.collect path = .ok sources ∧
      ((∃ report, audit sources threshold = .ok report ∧
        report.SizesOf (e.sheetFiles (fs.baseName path))) ∨
      2 ^ 1000 ≤ selectorCount (sources.flatMap Source.rules) ∧
        ∃ error, audit sources threshold = .error (.number error)) := by
  have hsources : (e.sheetFiles (fs.baseName path)).map sheetOf ≠ [] := by simpa using hne
  refine ⟨_, collect_of_find hnull hfound, ?_⟩
  rcases audit_cases hsources threshold with ⟨scores, h⟩ | hlarge
  · exact .inl ⟨_, h, forall₂_fileStats hutf8, size_totals hutf8⟩
  · exact .inr hlarge

/-- A directory with a file that has a pair and a lone carriage return, and a file without any. -/
theorem audit_collect_sizes_directory :
    ∃ (fs : FileSystem) (sources : List Source) (report : Report),
      fs.root = .directory [("d", .directory [("b.css", .file "b\x7b\x7d".toUTF8),
        ("a.css", .file "/*é*/\r\na\x7b\x7d\r".toUTF8)])] ∧
      fs.collect "d" = .ok sources ∧
      sources = [⟨"a.css", "/*é*/\na\x7b\x7d\n"⟩, ⟨"b.css", "b\x7b\x7d"⟩] ∧
      audit sources 60 = .ok report ∧
      report.SizesOf [("a.css", "/*é*/\r\na\x7b\x7d\r".toUTF8), ("b.css", "b\x7b\x7d".toUTF8)] := by
  let d : Entry := .directory [("b.css", .file "b\x7b\x7d".toUTF8),
    ("a.css", .file "/*é*/\r\na\x7b\x7d\r".toUTF8)]
  let fs : FileSystem := ⟨.directory [("d", d)], []⟩
  have hfound : fs.find (fs.resolve "d") = .entry d := rfl
  -- the walk is computed once, whatever the bytes of the two files are
  have hsheets : ∀ a b : ByteArray,
      (Entry.directory [("b.css", .file b), ("a.css", .file a)]).sheets =
        [(["a.css"], a), (["b.css"], b)] := by
    intro a b
    cbv
  have hfiles : d.sheetFiles (fs.baseName "d") =
      [("a.css", "/*é*/\r\na\x7b\x7d\r".toUTF8), ("b.css", "b\x7b\x7d".toUTF8)] := by
    rw [Entry.sheetFiles, hsheets]
    rfl
  obtain ⟨sources, hsources, h⟩ := audit_collect_sizes fs "d" 60 d (by decide) hfound
    (by rw [hfiles]; simp) (by rw [hfiles]; simp [String.isValidUTF8])
  -- what is read of a file has its line breaks made one
  have hread : fs.collect "d" =
      .ok [⟨"a.css", "/*é*/\na\x7b\x7d\n"⟩, ⟨"b.css", "b\x7b\x7d"⟩] := by
    have ha : fileText "/*é*/\r\na\x7b\x7d\r".toUTF8 = "/*é*/\na\x7b\x7d\n" := by decide +kernel
    have hb : fileText "b\x7b\x7d".toUTF8 = "b\x7b\x7d" := by decide +kernel
    rw [collect_of_find (by decide) hfound, hfiles]
    simp only [List.map_cons, List.map_nil, sheetOf, ha, hb]
  obtain rfl := Except.ok.inj (hsources.symm.trans hread)
  -- there is a report, so the other case of the theorem does not arise
  have hreport :
      (audit [⟨"a.css", "/*é*/\na\x7b\x7d\n"⟩, ⟨"b.css", "b\x7b\x7d"⟩] 60).isOk = true := by
    decide +kernel
  rcases h with ⟨report, h, hsizes⟩ | ⟨-, error, h⟩
  · rw [hfiles] at hsizes
    exact ⟨fs, _, report, rfl, hread, rfl, h, hsizes⟩
  · rw [h] at hreport
    cases hreport

/-- A file that is larger than its report says: the text has five bytes and a pair of carriage
    return and line feed. -/
theorem audit_collect_smaller :
    ∃ sources report,
      FileSystem.collect ⟨.directory [("a.css", .file "a\x7b\x7d\r\n".toUTF8)], []⟩ "a.css" =
        .ok sources ∧
      audit sources 60 = .ok report ∧ report.files.map (·.size) = [4] ∧ report.totals.size = 4 ∧
      "a\x7b\x7d\r\n".toUTF8.IsValidUTF8 ∧ "a\x7b\x7d\r\n".toUTF8.size = 5 := by
  have hsources : FileSystem.collect ⟨.directory [("a.css", .file "a\x7b\x7d\r\n".toUTF8)], []⟩
      "a.css" = .ok [⟨"a.css", "a\x7b\x7d\n"⟩] := by
    -- reading turns the pair at the end into one line break
    have htext : fileText "a\x7b\x7d\r\n".toUTF8 = "a\x7b\x7d\n" := by decide +kernel
    rw [collect_of_find (by decide) rfl, Entry.sheetFiles, List.map_singleton, sheetOf, htext]
    rfl
  have hsizes : (audit [⟨"a.css", "a\x7b\x7d\n"⟩] 60).map
      (fun report => (report.files.map (·.size), report.totals.size)) = .ok ([4], 4) := by
    decide +kernel
  cases h : audit [⟨"a.css", "a\x7b\x7d\n"⟩] 60 with
  | error e =>
    rw [h] at hsizes
    cases hsizes
  | ok report =>
    rw [h] at hsizes
    obtain ⟨hfiles, htotal⟩ := Prod.mk.inj (Except.ok.inj hsizes)
    exact ⟨_, report, hsources, h, hfiles, htotal, String.isValidUTF8 _, by decide⟩

end SheetAudit
