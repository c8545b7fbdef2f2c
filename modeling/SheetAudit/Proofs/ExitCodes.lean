import SheetAudit.Proofs.CommandLines
import SheetAudit.Proofs.FileSizes
import SheetAudit.Proofs.Showing

/-!
# Exit codes

The exit code of the scan of a path: 3 if there is nothing at the path, 4 if there is no sheet, else
0 or 1, as the overall score reaches the threshold or not.  A scan gives no other code, whatever is
written about it; but it gives one only if what it writes can be shown.  Names of sheets and paths
are read as markup there, so a name with a closing tag in it ends a report for readers with a fault
where JSON has a code.  Command lines and markup may be read in any way that does as it is meant for
the lines that are written out (`LineReader.ReadsLines`, `Screen.ReadsMarkup`).

## Key results

- `finish_cases` / `scanPath_cases`: all the ways in which a scan ends
- `documentedCode?_of_scanPath`: a code is the documented one
- `exists_exit_scanPath`: when there is a code
- `run_exit_documentedCode`: the codes of the command lines for a path
- `run_fault_closing`: names and paths with closing tags
-/

namespace SheetAudit.Command

open Console Console.Markup
open Files (FileSystem)
open Stylesheet (Source)

/-! ## The documented codes -/

/-- The exit code that is documented for sheets: 4 if there are none, else 0 or 1, as their overall
    score reaches the threshold or not; none if they have no score. -/
def sheetsCode? (sources : List Source) (threshold : Int) : Option Nat :=
  if sources.isEmpty then some 4
  else
    match audit sources threshold with
    | .ok report => some (if threshold ≤ report.scores.overall then 0 else 1)
    | .error _ => none

/-- The exit code that is documented for a path: 3 if there is nothing, else that of the sheets
    which are read from there. -/
def documentedCode? (fs : FileSystem) (path : String) (threshold : Int) : Option Nat :=
  match fs.find (fs.resolve path) with
  | .entry _ =>
    match fs.collect path with
    | .ok sources => sheetsCode? sources threshold
    | .error _ => none
  | _ => some 3

/-! ## How a scan ends -/

section Endings

variable {around : Surroundings} {s : ScanSettings} {path : String} {sources : List Source}
  {threshold : Int} {report : Report} {output errors : List Char} {screen : Screen}

/-- A complaint gives no other code than its own. -/
private theorem exit_of_complain {message : String} {code code' : Nat}
    (h : (complain screen output errors message code).ending = .exit code') : code' = code := by
  unfold complain at h
  split at h
  · exact (Ending.exit.inj h).symm
  · cases h

/-- A complaint in which no tag starts gives its code. -/
private theorem ending_complain (hmarkup : screen.ReadsMarkup) {message : String}
    (h : FreeOfTags message.toList) (output errors : List Char) (code : Nat) :
    (complain screen output errors message code).ending = .exit code := by
  obtain ⟨text, htext⟩ := exists_complaint hmarkup h
  unfold complain
  rw [htext]

/-- Only sheets have a report. -/
private theorem ne_nil_of_audit (h : audit sources threshold = .ok report) : sources ≠ [] := by
  rintro rfl
  cases h

/-- The code of a report is the documented one. -/
theorem sheetsCode?_of_audit (h : audit sources threshold = .ok report) :
    sheetsCode? sources threshold = some (exitCode report) := by
  have hne := ne_nil_of_audit h
  -- the verdict of the report compares the same score with the same threshold
  have hcode : exitCode report = if threshold ≤ report.scores.overall then 0 else 1 := by
    rcases audit_cases hne threshold with ⟨scores, haudit⟩ | ⟨-, e, haudit⟩
    · cases haudit.symm.trans h
      simp [exitCode, Report.passed, Verdict.passed, exitOk, exitBelowThreshold]
    · cases haudit.symm.trans h
  rw [sheetsCode?, h, hcode]
  simp [hne]

/-- How the audit of sheets ends: there are none, they have no score, or their report is written as
    far as it can be shown. -/
theorem finish_cases (screen : Screen) (s : ScanSettings) (output errors : List Char)
    (sources : List Source) :
    (sources = [] ∧ finish screen s output errors sources =
      complain screen output errors "No CSS files found." exitNoSheets) ∨
    (∃ e, audit sources s.threshold = .error (.number e) ∧
      (finish screen s output errors sources).ending = .fault (.number e)) ∨
    ∃ report, audit sources s.threshold = .ok report ∧
      ((∃ e, (write (reportPieces screen s report)).error = some e ∧
        (finish screen s output errors sources).ending = .fault (.console e)) ∨
      ((write (reportPieces screen s report)).error = none ∧
        (finish screen s output errors sources).ending = .exit (exitCode report))) := by
  -- without sheets the scan complains; else the audit gives a report or fails
  by_cases hne : sources = []
  · subst hne
    exact .inl ⟨rfl, rfl⟩
  · right
    rcases audit_cases hne s.threshold with ⟨scores, h⟩ | ⟨-, e, h⟩
    · refine .inr ⟨_, h, ?_⟩
      simp only [finish, h]
      split
      · next text hwrite => simp [hwrite]
      · next text e hwrite => simp [hwrite]
    · refine .inl ⟨e, h, ?_⟩
      simp only [finish, h]

/-- The pieces that are written before the sheets of a path are audited. -/
def openingPieces (around : Surroundings) (s : ScanSettings) (path : String) : List Piece :=
  if s.json then [] else heading around.screen "Auditing" (around.files.resolve path).toText

/-- The scan of a path where there are files. -/
private theorem scanPath_of_collect (hcollect : around.files.collect path = .ok sources) :
    scanPath around s path =
      match write (openingPieces around s path) with
      | ⟨text, none⟩ => finish around.screen s text [] sources
      | ⟨text, some e⟩ => ⟨text, [], .fault (.console e)⟩ := by
  rw [scanPath, hcollect]
  rfl

/-- How the scan of a path ends: the path cannot be looked up, there is nothing, the panel cannot be
    shown, or the sheets are audited. -/
theorem scanPath_cases (around : Surroundings) (s : ScanSettings) (path : String) :
    (('\x00' ∈ path.toList ∨ around.files.find (around.files.resolve path) = .tooLong) ∧
      ∃ e, (scanPath around s path).ending = .fault (.files e)) ∨
    ((∀ e, around.files.find (around.files.resolve path) ≠ .entry e) ∧
      documentedCode? around.files path s.threshold = some exitNotFound ∧
      scanPath around s path = complain around.screen [] []
        (Files.FilesError.pathNotFound (around.files.resolve path).toText).message exitNotFound) ∨
    ∃ sources, around.files.collect path = .ok sources ∧
      documentedCode? around.files path s.threshold = sheetsCode? sources s.threshold ∧
      ((∃ e, (write (openingPieces around s path)).error = some e ∧
        (scanPath around s path).ending = .fault (.console e)) ∨
      (write (openingPieces around s path)).error = none ∧
        ∃ text, scanPath around s path = finish around.screen s text [] sources) := by
  -- a null character is found before anything is looked up
  by_cases hnull : '\x00' ∈ path.toList
  · have hcollect : around.files.collect path = .error .nullInPath := by
      simp [FileSystem.collect, hnull]
    exact .inl ⟨.inl hnull, .nullInPath, by rw [scanPath, hcollect]⟩
  · cases hfound : around.files.find (around.files.resolve path) with
    | tooLong =>
      have hcollect : around.files.collect path =
          .error (.nameTooLong (around.files.resolve path).toText) := by
        simp [FileSystem.collect, hnull, hfound]
      exact .inl ⟨.inr rfl, _, by rw [scanPath, hcollect]⟩
    | missing | insideFile =>
      have hcollect : around.files.collect path =
          .error (.pathNotFound (around.files.resolve path).toText) := by
        simp [FileSystem.collect, hnull, hfound]
      refine .inr (.inl ⟨by simp, by rw [documentedCode?, hfound]; rfl, ?_⟩)
      rw [scanPath, hcollect]
    | entry e =>
      have hcollect := Files.collect_of_find hnull hfound
      refine .inr (.inr ⟨_, hcollect, by rw [documentedCode?, hfound, hcollect], ?_⟩)
      rw [scanPath_of_collect hcollect]
      cases write (openingPieces around s path) with
      | mk text error =>
        cases error with
        | none => exact .inr ⟨rfl, text, rfl⟩
        | some e => exact .inl ⟨e, rfl, rfl⟩

/-- A complaint that cannot be shown is a fault. -/
private theorem ending_complain_of_error {message : String} {e : ConsoleError}
    (h : complaint screen message = .error e) (output errors : List Char) (code : Nat) :
    (complain screen output errors message code).ending = .fault (.console e) := by
  unfold complain
  rw [h]

/-- A report that cannot be shown is a fault. -/
private theorem ending_scanPath_of_error {e : ConsoleError}
    (hcollect : around.files.collect path = .ok sources)
    (hopening : (write (openingPieces around s path)).error = none)
    (haudit : audit sources s.threshold = .ok report)
    (herror : (write (reportPieces around.screen s report)).error = some e) :
    (scanPath around s path).ending = .fault (.console e) := by
  rw [scanPath_of_collect hcollect]
  cases hwrite : write (openingPieces around s path) with
  | mk text error =>
    rw [hwrite] at hopening
    obtain rfl : error = none := hopening
    -- of the ways in which a scan ends, only that with an error in the report is left
    rcases finish_cases around.screen s text [] sources with
      ⟨rfl, -⟩ | ⟨e', haudit', -⟩ | ⟨report', haudit', ⟨e', herror', h⟩ | ⟨herror', -⟩⟩
    · cases haudit
    · cases haudit.symm.trans haudit'
    · cases haudit.symm.trans haudit'
      cases herror.symm.trans herror'
      exact h
    · cases haudit.symm.trans haudit'
      cases herror.symm.trans herror'

/-! ## Codes that are given are the documented ones -/

/-- The audit of sheets gives no other code than the documented one. -/
theorem sheetsCode?_of_finish {code : Nat}
    (h : (finish screen s output errors sources).ending = .exit code) :
    sheetsCode? sources s.threshold = some code := by
  rcases finish_cases screen s output errors sources with
    ⟨rfl, hfinish⟩ | ⟨e, -, hfinish⟩ | ⟨report, haudit, ⟨e, -, hfinish⟩ | ⟨-, hfinish⟩⟩
  · rw [hfinish] at h
    rw [exit_of_complain h]
    rfl
  · cases hfinish.symm.trans h
  · cases hfinish.symm.trans h
  · cases hfinish.symm.trans h
    exact sheetsCode?_of_audit haudit

/-- The scan of a path gives no other code than the documented one. -/
theorem documentedCode?_of_scanPath {code : Nat}
    (h : (scanPath around s path).ending = .exit code) :
    documentedCode? around.files path s.threshold = some code := by
  rcases scanPath_cases around s path with
    ⟨-, e, hscan⟩ | ⟨-, hcode, hscan⟩ | ⟨sources, -, hcode, ⟨e, -, hscan⟩ | ⟨-, text, hscan⟩⟩
  · cases hscan.symm.trans h
  · rw [hscan] at h
    rw [hcode, exit_of_complain h]
  · cases hscan.symm.trans h
  · rw [hscan] at h
    rw [hcode, sheetsCode?_of_finish h]

/-! ## When a scan gives a code -/

/-- Whether the files at a path can be looked up, and have a score. -/
structure CanBeRead (fs : FileSystem) (path : String) : Prop where
  /-- There is no null character in the path. -/
  noNull : '\x00' ∉ path.toList
  /-- The path and its names are short enough for a file system.  Nothing is said about the paths
      below it: a walk has no limits there. -/
  notTooLong : fs.find (fs.resolve path) ≠ .tooLong
  /-- The selectors can be counted in floating point. -/
  selectors : ∀ sources, fs.collect path = .ok sources →
    Stylesheet.selectorCount (sources.flatMap Source.rules) < 2 ^ 1000

/-- Whether the files at a path can be shown in a report for readers. -/
structure CanBeShown (fs : FileSystem) (path : String) : Prop where
  /-- No tag starts in the absolute path. -/
  place : FreeOfTags (fs.resolve path).toText.toList
  /-- No tag starts in the name of a sheet. -/
  names : ∀ sources, fs.collect path = .ok sources → ∀ source ∈ sources,
    FreeOfTags source.name.toList
  /-- The sizes can be shown in floating point. -/
  sizes : ∀ sources, fs.collect path = .ok sources →
    (sources.map (·.content.utf8ByteSize)).sum ≤ 2 ^ 1000

/-- The sheets that are found at a path without a null character can be read, if they are few. -/
theorem canBeRead_of_collect {fs : FileSystem} {e : Files.Entry} {k : Nat}
    (hnull : '\x00' ∉ path.toList)
    (hfound : fs.find (fs.resolve path) = .entry e) (hcollect : fs.collect path = .ok sources)
    (hk : k ≤ 1000) (h : Stylesheet.selectorCount (sources.flatMap Source.rules) < 2 ^ k) :
    CanBeRead fs path := by
  refine ⟨hnull, by rw [hfound]; simp, fun sources' hsources' => ?_⟩
  obtain rfl := Except.ok.inj (hcollect.symm.trans hsources')
  have hpow : ∀ n, k ≤ n → 2 ^ k ≤ 2 ^ n := fun n hn => Nat.pow_le_pow_right (by decide) hn
  exact h.trans_le (hpow 1000 hk)

/-- The report of sheets in whose names no tag starts can be shown. -/
theorem error_write_report (hmarkup : screen.ReadsMarkup)
    (h : audit sources threshold = .ok report)
    (hnames : ∀ source ∈ sources, FreeOfTags source.name.toList)
    (hsizes : (sources.map (·.content.utf8ByteSize)).sum ≤ 2 ^ 1000) (verbose : Bool) :
    (write (screen.summaryPieces report verbose)).error = none := by
  rw [audit_eq (ne_nil_of_audit h)] at h
  split at h
  · cases h
  · next scores hscores =>
    cases h
    -- each line about a sheet can be shown, and so can the total
    refine error_write_summaryPieces (k := 1000) ?_ ?_ (by norm_num)
      (abs_le_of_scores hscores) verbose
    · intro f hf
      obtain ⟨source, hsource, rfl⟩ := List.mem_map.mp hf
      have hmem := List.mem_map_of_mem (f := fun s : Source => s.content.utf8ByteSize) hsource
      have hsize := (List.single_le_sum (fun _ _ => Nat.zero_le _) _ hmem).trans hsizes
      exact exists_fileLine hmarkup (hnames source hsource) (abs_natCast_le hsize) (by norm_num)
    · rw [size_totals_ofFiles]
      exact abs_natCast_le hsizes

/-- The audit of sheets gives a code if their report can be shown. -/
private theorem exists_exit_finish (hmarkup : screen.ReadsMarkup)
    (hselectors : Stylesheet.selectorCount (sources.flatMap Source.rules) < 2 ^ 1000)
    (hshow : ∀ report, audit sources s.threshold = .ok report →
      (write (reportPieces screen s report)).error = none) :
    ∃ code, (finish screen s output errors sources).ending = .exit code := by
  rcases finish_cases screen s output errors sources with
    ⟨-, hfinish⟩ | ⟨e, haudit, -⟩ | ⟨report, haudit, ⟨e, herror, -⟩ | ⟨-, hfinish⟩⟩
  · rw [hfinish]
    exact ⟨_, ending_complain hmarkup (freeOfTags_of_not_mem (by decide)) _ _ _⟩
  -- sheets have no score only if they have too many selectors
  · by_cases hne : sources = []
    · subst hne
      cases haudit
    · rcases audit_cases hne s.threshold with ⟨scores, h⟩ | ⟨hmany, -⟩
      · cases h.symm.trans haudit
      · exact absurd hmany (not_le.mpr hselectors)
  · rw [hshow report haudit] at herror
    cases herror
  · exact ⟨_, hfinish⟩

/-- No tag starts in the complaint about a path, if none starts in the path. -/
private theorem freeOfTags_pathNotFound {place : String} (h : FreeOfTags place.toList) :
    FreeOfTags (Files.FilesError.pathNotFound place).message.toList := by
  have htext : (Files.FilesError.pathNotFound place).message.toList =
      "Path not found: ".toList ++ place.toList := by
    rw [← String.toList_append]
    rfl
  have hlabel : '[' ∉ "Path not found: ".toList := by decide
  rw [htext]
  exact freeOfTags_append hlabel h

/-- The scan of a path gives a code if what it writes can be shown; as JSON, this is only in doubt
    where there is nothing at the path. -/
theorem exists_exit_scanPath (hmarkup : around.screen.ReadsMarkup)
    (hread : CanBeRead around.files path)
    (hshow : CanBeShown around.files path ∨
      s.json = true ∧ ∃ e, around.files.find (around.files.resolve path) = .entry e) :
    ∃ code, (scanPath around s path).ending = .exit code := by
  rcases scanPath_cases around s path with
    ⟨hlook, -⟩ | ⟨hnothing, -, hscan⟩ |
    ⟨sources, hcollect, -, ⟨e, herror, -⟩ | ⟨-, text, hscan⟩⟩
  · exact (hlook.elim hread.noNull hread.notTooLong).elim
  · -- the complaint is written in every mode, so JSON does not help here
    rw [hscan]
    rcases hshow with hshow | ⟨-, e, he⟩
    · exact ⟨exitNotFound,
        ending_complain hmarkup (freeOfTags_pathNotFound hshow.place) [] [] exitNotFound⟩
    · exact absurd he (hnothing e)
  · -- the panel is written for readers only
    have hopening : (write (openingPieces around s path)).error = none := by
      rw [openingPieces]
      rcases hshow with hshow | ⟨hjson, -⟩
      · split
        · rfl
        · exact error_write_heading hmarkup (by decide) hshow.place
      · rw [if_pos hjson]
        rfl
    rw [hopening] at herror
    cases herror
  · rw [hscan]
    refine exists_exit_finish hmarkup (hread.selectors sources hcollect) fun report haudit => ?_
    rw [reportPieces]
    rcases hshow with hshow | ⟨hjson, -⟩
    · split
      · rfl
      · exact error_write_report hmarkup haudit (hshow.names sources hcollect)
          (hshow.sizes sources hcollect) s.verbose
    · rw [if_pos hjson]
      rfl

end Endings

/-! ## Command lines and their codes -/

section Run

variable {around : Surroundings} (hlines : around.reader.ReadsLines) {path : String}
  {threshold : Nat}
include hlines

/-- A line with a path runs the scan of the path. -/
private theorem run_scanLine (hne : path ≠ "") (hurl : Url.isUrl path = false)
    (ht : threshold ≤ 100) (flags : List OutputFlag) :
    run around (scanLine flags threshold path) =
      scanPath around (scanSettings flags threshold path) path := by
  have htarget : (scanSettings flags threshold path).target = .path path := by
    simp [ScanSettings.target, scanSettings, hne, hurl]
  rw [run, call_scanLine hlines _ _ ht, Call.run, scan, htarget]

/-- The code of a run is the documented one. -/
theorem documentedCode?_of_run (hne : path ≠ "") (hurl : Url.isUrl path = false)
    (ht : threshold ≤ 100) {flags : List OutputFlag} {code : Nat}
    (h : (run around (scanLine flags threshold path)).ending = .exit code) :
    documentedCode? around.files path threshold = some code := by
  rw [run_scanLine hlines hne hurl ht] at h
  exact documentedCode?_of_scanPath h

/-- The command lines of a kind that all give a code all give the same one. -/
private theorem exists_code_of_exists_exit (hne : path ≠ "") (hurl : Url.isUrl path = false)
    (ht : threshold ≤ 100) {P : List OutputFlag → Prop} (hP : ∃ flags, P flags)
    (hexit : ∀ flags, P flags →
      ∃ code, (scanPath around (scanSettings flags threshold path) path).ending = .exit code) :
    ∃ code, documentedCode? around.files path threshold = some code ∧
      ∀ flags, P flags → (run around (scanLine flags threshold path)).ending = .exit code := by
  -- each line gives a code, and its code is documented
  have hcode : ∀ flags, P flags → ∃ code,
      (run around (scanLine flags threshold path)).ending = .exit code ∧
        documentedCode? around.files path threshold = some code := by
    intro flags hflags
    obtain ⟨code, h⟩ := hexit flags hflags
    rw [← run_scanLine hlines hne hurl ht] at h
    exact ⟨code, h, documentedCode?_of_run hlines hne hurl ht h⟩
  obtain ⟨flags₀, hflags₀⟩ := hP
  obtain ⟨code, -, hdocumented⟩ := hcode flags₀ hflags₀
  refine ⟨code, hdocumented, fun flags hflags => ?_⟩
  -- both are the documented one
  obtain ⟨code', h, hdocumented'⟩ := hcode flags hflags
  rw [h, Option.some.inj (hdocumented'.symm.trans hdocumented)]

end Run

/-- The exit codes of the scan of a path, with any reader of command lines and on any console.  A
    code is never another than the documented one.  Where the console reads markup, every command
    line gives the code if no tag starts in the path and in the names of the sheets; those with
    `--json` give it whatever the names are, if the path exists. -/
theorem run_exit_documentedCode (around : Surroundings) (hlines : around.reader.ReadsLines)
    (path : String) (hne : path ≠ "") (hurl : Url.isUrl path = false) (threshold : Nat)
    (ht : threshold ≤ 100) :
    (∀ flags code, (run around (scanLine flags threshold path)).ending = .exit code →
      documentedCode? around.files path threshold = some code) ∧
    (around.screen.ReadsMarkup → CanBeRead around.files path → CanBeShown around.files path →
      ∃ code, documentedCode? around.files path threshold = some code ∧
        ∀ flags, (run around (scanLine flags threshold path)).ending = .exit code) ∧
    (around.screen.ReadsMarkup → CanBeRead around.files path →
      (∃ e, around.files.find (around.files.resolve path) = .entry e) →
      ∃ code, documentedCode? around.files path threshold = some code ∧
        ∀ flags, .json ∈ flags →
          (run around (scanLine flags threshold path)).ending = .exit code) := by
  -- the first part needs nothing of the files; for the others the scan gives some code
  refine ⟨fun flags code h => documentedCode?_of_run hlines hne hurl ht h,
    fun hmarkup hread hshow => ?_, fun hmarkup hread hentry => ?_⟩
  · obtain ⟨code, hdocumented, hflags⟩ :=
      exists_code_of_exists_exit (P := fun _ => True) hlines hne hurl ht ⟨[], trivial⟩
        fun flags _ => exists_exit_scanPath hmarkup hread (.inl hshow)
    exact ⟨code, hdocumented, fun flags => hflags flags trivial⟩
  · refine exists_code_of_exists_exit hlines hne hurl ht ⟨[.json], by simp⟩ fun flags hjson => ?_
    exact exists_exit_scanPath hmarkup hread (.inr ⟨by simpa [scanSettings] using hjson, hentry⟩)

/-- A directory with one sheet below it. -/
private theorem collect_singleton {fs : FileSystem} {path : String}
    {entries : List (String × Files.Entry)}
    {below : Files.Path} {bytes : ByteArray} {content : String} (hnull : '\x00' ∉ path.toList)
    (hfound : fs.find (fs.resolve path) = .entry (.directory entries))
    (hsheets : (Files.Entry.directory entries).sheets = [(below, bytes)])
    (hcontent : Files.fileText bytes = content) :
    fs.collect path = .ok [⟨Files.Path.toRelativeText below, content⟩] := by
  rw [Files.collect_of_find hnull hfound, Files.Entry.sheetFiles, hsheets, List.map_singleton,
    List.map_singleton, Files.sheetOf, hcontent]

/-- Files and nothing else around the program. -/
def Surroundings.ofFiles (root : Files.Entry) : Surroundings :=
  { files := ⟨root, []⟩, web := Web.ofTable [], time := "", threshold := none }

/-- A sheet that is read from a directory. -/
theorem run_exit_documentedCode_sheet :
    ∃ around : Surroundings,
      around.files.root = .directory [("d", .directory [("a.css", .file "a\x7b\x7d".toUTF8)])] ∧
      CanBeRead around.files "d" ∧ CanBeShown around.files "d" ∧
      documentedCode? around.files "d" 60 = some 0 ∧
      ∀ flags, (run around (scanLine flags 60 "d")).ending = .exit 0 := by
  let d : Files.Entry := .directory [("a.css", .file "a\x7b\x7d".toUTF8)]
  let around : Surroundings := .ofFiles (.directory [("d", d)])
  have hfound : around.files.find (around.files.resolve "d") = .entry d := rfl
  -- the walk is computed once, whatever the bytes of the file are
  have hsheets : ∀ bytes : ByteArray,
      (Files.Entry.directory [("a.css", .file bytes)]).sheets = [(["a.css"], bytes)] := by
    intro bytes
    cbv
  have hcollect : around.files.collect "d" = .ok [⟨"a.css", "a\x7b\x7d"⟩] :=
    collect_singleton (by decide) hfound (hsheets _) (by decide +kernel)
  have hread : CanBeRead around.files "d" :=
    canBeRead_of_collect (k := 1) (by decide) hfound hcollect (by decide) (by decide +kernel)
  -- no tag starts in the path or the name, and a text of three bytes is small
  have hshow : CanBeShown around.files "d" := by
    refine ⟨freeOfTags_of_not_mem (by decide), fun sources h => ?_, fun sources h => ?_⟩
    · cases hcollect.symm.trans h
      simpa using freeOfTags_of_not_mem (by decide)
    · obtain rfl := Except.ok.inj (hcollect.symm.trans h)
      have hlarge : ∀ k, 2 ≤ k → 3 ≤ 2 ^ k := fun k hk =>
        (by decide : 3 ≤ 2 ^ 2).trans (Nat.pow_le_pow_right (by decide) hk)
      exact hlarge 1000 (by decide)
  have hzero : documentedCode? around.files "d" (60 : Nat) = some 0 := by
    rw [documentedCode?, hfound, hcollect]
    decide +kernel
  -- the theorem gives one code for all flags; the documented one is 0
  obtain ⟨code, hcode, hflags⟩ :=
    (run_exit_documentedCode around readsLines_builtIn "d" (by decide) (by decide) 60
      (by decide)).2.1 readsMarkup_wide hread hshow
  cases hcode.symm.trans hzero
  exact ⟨around, rfl, hread, hshow, hzero, hflags⟩

/-- The line about a sheet whose name starts with a closing tag. -/
theorem fileLine_closing {screen : Screen} (hmarkup : screen.ReadsMarkup) {f : FileStats}
    (hf : f = ⟨"[/dim].css", 3, 1, 1⟩) :
    screen.fileLine f = .error (.markup (.unmatched "[/dim]" 8)) := by
  have hsize : shownSize f.size = .ok "3 B" := by
    rw [hf]
    rfl
  let line := "  [cyan][/dim].css[/cyan] [dim](3 B, 1 rules, 1 selectors)[/dim]".toList
  have hline : screen.fileLine f = screen.displayMarkup line := by
    rw [fileLine_eq hsize, hf]
    refine congrArg screen.displayMarkup ?_
    decide +kernel
  -- the name closes a style before the tags of the line do
  have htokens : tokens line = [.text "  ".toList, .tag 2 "cyan".toList] ++
      .tag 8 ('/' :: "dim".toList) :: (tokens line).drop 3 := by
    decide +kernel
  rw [hline]
  exact hmarkup.displayMarkup_unmatched htokens (.opening isStyle_cyan (.stop _)) isStyle_dim
    (by decide)

/-- The complaint about a path that is a closing tag. -/
private theorem complaint_closing {screen : Screen} (hmarkup : screen.ReadsMarkup) :
    complaint screen (Files.FilesError.pathNotFound "/[/dim]").message =
      .error (.markup (.unmatched "[/dim]" 45)) := by
  let line := "[bold red]Error:[/bold red] Path not found: /[/dim]".toList
  have hline : complaint screen (Files.FilesError.pathNotFound "/[/dim]").message =
      screen.displayMarkup line := by
    unfold complaint
    refine congrArg screen.displayMarkup ?_
    decide +kernel
  -- in the complaint the path stands behind tags that pair up
  have htokens : tokens line = [.tag 0 "bold red".toList, .text "Error:".toList,
      .tag 16 ('/' :: "bold red".toList), .text " Path not found: /".toList] ++
      .tag 45 ('/' :: "dim".toList) :: (tokens line).drop 5 := by
    decide +kernel
  rw [hline]
  exact hmarkup.displayMarkup_unmatched htokens (pairUp_styled isStyle_boldRed) isStyle_dim
    (by decide)

/-- A sheet in a directory whose name makes a closing tag together with that of the sheet: the scan
    has a code as JSON, and a fault for readers.  A path that is a closing tag and does not exist is
    a fault in every mode. -/
theorem run_fault_closing :
    ∃ around : Surroundings,
      documentedCode? around.files "d" 60 = some 0 ∧
      (run around (scanLine [.json] 60 "d")).ending = .exit 0 ∧
      (run around (scanLine [] 60 "d")).ending =
        .fault (.console (.markup (.unmatched "[/dim]" 8))) ∧
      documentedCode? around.files "[/dim]" 60 = some 3 ∧
      ∀ flags, (run around (scanLine flags 60 "[/dim]")).ending =
        .fault (.console (.markup (.unmatched "[/dim]" 45))) := by
  let d : Files.Entry := .directory [("[", .directory [("dim].css", .file "a\x7b\x7d".toUTF8)])]
  let around : Surroundings := .ofFiles (.directory [("d", d)])
  have hfound : around.files.find (around.files.resolve "d") = .entry d := rfl
  have hsheets : ∀ bytes : ByteArray,
      (Files.Entry.directory [("[", .directory [("dim].css", .file bytes)])]).sheets =
        [(["[", "dim].css"], bytes)] := by
    intro bytes
    cbv
  have hcollect : around.files.collect "d" = .ok [⟨"[/dim].css", "a\x7b\x7d"⟩] :=
    collect_singleton (by decide) hfound (hsheets _) (by decide +kernel)
  have hmissing : around.files.collect "[/dim]" = .error (.pathNotFound "/[/dim]") := rfl
  have hzero : documentedCode? around.files "d" (60 : Nat) = some 0 := by
    rw [documentedCode?, hfound, hcollect]
    decide +kernel
  have hread : CanBeRead around.files "d" :=
    canBeRead_of_collect (k := 1) (by decide) hfound hcollect (by decide) (by decide +kernel)
  have hmarkup : around.screen.ReadsMarkup := readsMarkup_wide
  refine ⟨around, hzero, ?_, ?_, by decide +kernel, fun flags => ?_⟩
  -- as JSON nothing is shown as markup
  · rw [run_scanLine readsLines_builtIn (by decide) (by decide) (by decide)]
    obtain ⟨code, hcode⟩ := exists_exit_scanPath (s := scanSettings [.json] 60 "d") hmarkup
      hread (.inr ⟨rfl, _, hfound⟩)
    rw [hcode]
    cases (documentedCode?_of_scanPath hcode).symm.trans hzero
    rfl
  · rw [run_scanLine readsLines_builtIn (by decide) (by decide) (by decide)]
    -- for readers the summary begins with the line about the sheet
    have hfiles : (audit [⟨"[/dim].css", "a\x7b\x7d"⟩] 60).map (·.files) =
        .ok [⟨"[/dim].css", 3, 1, 1⟩] := by
      decide +kernel
    cases haudit : audit [⟨"[/dim].css", "a\x7b\x7d"⟩] 60 with
    | error e =>
      rw [haudit] at hfiles
      cases hfiles
    | ok report =>
      rw [haudit] at hfiles
      have hshow : write (reportPieces around.screen (scanSettings [] 60 "d") report) =
          ⟨around.screen.display "Files Analyzed:".toList,
            some (.markup (.unmatched "[/dim]" 8))⟩ := by
        have hjson : (scanSettings [] 60 "d").json = false := rfl
        simp [reportPieces, hjson, Screen.summaryPieces, Except.ok.inj hfiles,
          fileLine_closing hmarkup rfl]
      exact ending_scanPath_of_error hcollect
        (error_write_heading hmarkup (by decide) (freeOfTags_of_not_mem (by decide))) haudit
        (by rw [hshow])
  · rw [run_scanLine readsLines_builtIn (by decide) (by decide) (by decide), scanPath, hmissing]
    exact ending_complain_of_error (complaint_closing hmarkup) _ _ _

end SheetAudit.Command
