import SheetAudit.Command.Call
import SheetAudit.Proofs.Cut

/-!
# Command lines

The lines by which the scan of a path is called: flags that only change what is written, a threshold
and the path behind two dashes.  Any reader that takes options and arguments apart as they are
written out reads such a line as the settings that it stands for, and the reader of the program is
one.

## Key results

- `parseFrom_written` / `parseFrom_flatMap_words`: options that are written out, one by one and all
- `readsLines_builtIn`: the reader of the program
- `call_scanLine`: what a command line with flags, a threshold and a path asks for
-/

namespace SheetAudit.Command

/-! ## Lines for a path -/

/-- An option that only changes what is written. -/
inductive OutputFlag where
  /-- The report is written as JSON. -/
  | json
  /-- Nothing is coloured. -/
  | noColor
  /-- All issues are shown. -/
  | verbose
  /-- All log records are shown. -/
  | debug
  deriving DecidableEq, Repr

/-- The option that a flag is. -/
def OutputFlag.option : OutputFlag → ScanOption
  | .json => .json
  | .noColor => .noColor
  | .verbose => .verbose
  | .debug => .debug

/-- The word by which a flag is given. -/
def OutputFlag.word : OutputFlag → String
  | .json => "--json"
  | .noColor => "--no-color"
  | .verbose => "--verbose"
  | .debug => "--debug"

/-- The words of a scan of a path.  The path stands behind `--`, so it may start with a dash. -/
def scanLine (flags : List OutputFlag) (threshold : Nat) (path : String) : List String :=
  "scan" :: (flags.map OutputFlag.word ++ ["--threshold", toString threshold, "--", path])

/-- What is read of a line with flags, a threshold and a path. -/
def parsedLine (flags : List OutputFlag) (threshold : Nat) (path : String) : Parsed ScanOption :=
  ⟨(flags.map fun f => (f.option, none)) ++ [(.threshold, some (toString threshold))], [path]⟩

/-- The settings that a line of flags, a threshold and a path stands for. -/
def scanSettings (flags : List OutputFlag) (threshold : Nat) (path : String) : ScanSettings :=
  { input := some path, url := none, threshold, json := flags.contains .json,
    verbose := flags.contains .verbose, debug := flags.contains .debug }

/-! ## Readers of lines -/

/-- An option as it is written out: by its long name, with its value in the next word. -/
structure WrittenOption (ι : Type) where
  /-- The option. -/
  option : ι
  /-- The name by which it is given. -/
  name : String
  /-- Its value, if it takes one. -/
  value : Option String

namespace WrittenOption

variable {ι : Type}

/-- The words of an option. -/
def words (o : WrittenOption ι) : List String :=
  o.name :: o.value.toList

/-- What is read of an option. -/
def read (o : WrittenOption ι) : ι × Option String :=
  (o.option, o.value)

/-- An option is one of a grammar: its name is long and known there, and it has a value exactly if
    it takes one. -/
structure IsOf (g : Grammar ι) (o : WrittenOption ι) : Prop where
  /-- The name starts with a dash. -/
  dash : o.name.toList.head? = some '-'
  /-- It is longer than a dash and a letter, and so are the dashes that end the options. -/
  long : Grammar.isLong o.name = true
  /-- No value is attached to the name. -/
  noEquals : '=' ∉ o.name.toList
  /-- The grammar has the option under this name. -/
  known : g.find? o.name = some o.option
  /-- There is a value if the option takes one. -/
  value_isSome : o.value.isSome = g.takesValue o.option

end WrittenOption

/-- A reader takes command lines apart as it is meant. -/
structure LineReader.ReadsLines (reader : LineReader) : Prop where
  /-- The first word ends the options of the main command, if it is none. -/
  command : ∀ (word : String) (rest : List String), Grammar.isOption word = false →
    reader.main (word :: rest) = .ok ⟨[], word :: rest⟩
  /-- Options of `scan` are read up to two dashes, behind which all words are arguments. -/
  options : ∀ (given : List (WrittenOption ScanOption)) (arguments : List String),
    (∀ o ∈ given, o.IsOf scanGrammar) →
      reader.scan (given.flatMap WrittenOption.words ++ "--" :: arguments) =
        .ok ⟨given.map WrittenOption.read, arguments⟩

/-- A word that is no option ends the options where options and arguments do not mix. -/
theorem parse_command {ι : Type} {g : Grammar ι} (hmixed : g.mixed = false) {word : String}
    (hword : Grammar.isOption word = false) (rest : List String) :
    g.parse (word :: rest) = .ok ⟨[], word :: rest⟩ := by
  have hdashes : word ≠ "--" := by
    rintro rfl
    exact absurd hword (by decide)
  rw [Grammar.parse, Grammar.parseFrom]
  simp only [if_neg hdashes, hword, hmixed]
  rfl

/-- The word of an option is read as the option, which waits for the next word if it takes a
    value. -/
private theorem readWord_written {ι : Type} {g : Grammar ι} {o : WrittenOption ι} (h : o.IsOf g) :
    g.readWord o.name =
      .ok (if o.value.isSome then { given := [], waiting := some (o.option, o.name) }
        else { given := [(o.option, none)] }) := by
  have hcut : Grammar.cutValue o.name = (o.name, none) := by
    have hrest : o.name.toList.dropWhile (· != '=') = [] :=
      List.dropWhile_eq_nil_iff.mpr (Text.bne_of_notMem h.noEquals)
    simp only [Grammar.cutValue, hrest]
  rw [Grammar.readWord, hcut, h.value_isSome]
  simp only [h.long, if_true, h.known]
  cases g.takesValue o.option <;> rfl

/-- One option is read, with its value. -/
theorem parseFrom_written {ι : Type} {g : Grammar ι} {o : WrittenOption ι} (h : o.IsOf g)
    (given : List (ι × Option String)) (rest : List String) :
    g.parseFrom none given [] (o.words ++ rest) = g.parseFrom none (o.read :: given) [] rest := by
  have hlong : 2 < o.name.toList.length := by
    rw [String.length_toList]
    simpa [Grammar.isLong] using h.long
  have hdashes : o.name ≠ "--" := by
    intro hname
    rw [hname] at hlong
    exact absurd hlong (by decide)
  have hoption : Grammar.isOption o.name = true := by
    have hdash := h.dash
    unfold Grammar.isOption
    match hname : o.name.toList with
    | [] => simp [hname] at hlong
    | [_] => simp [hname] at hlong
    | c :: d :: cs =>
      obtain rfl : c = '-' := by simpa [hname] using hdash
      rfl
  rw [WrittenOption.words, WrittenOption.read, List.cons_append, Grammar.parseFrom]
  simp only [if_neg hdashes, hoption, readWord_written h]
  -- an option with a value waits for it, and the next word is the value
  cases o.value <;> rfl

/-- Options are read one after the other. -/
theorem parseFrom_flatMap_words {ι : Type} {g : Grammar ι} {options : List (WrittenOption ι)}
    (h : ∀ o ∈ options, o.IsOf g) (given : List (ι × Option String)) (rest : List String) :
    g.parseFrom none given [] (options.flatMap WrittenOption.words ++ rest) =
      g.parseFrom none ((options.map WrittenOption.read).reverse ++ given) [] rest := by
  -- by induction on the options, which are gathered last one first
  induction options generalizing given with
  | nil => rfl
  | cons o options ih =>
    obtain ⟨ho, hoptions⟩ := List.forall_mem_cons.mp h
    rw [List.flatMap_cons, List.append_assoc, parseFrom_written ho, ih hoptions]
    simp

/-- The reader of the program takes command lines apart. -/
theorem readsLines_builtIn : LineReader.builtIn.ReadsLines where
  command word rest hword := parse_command rfl hword rest
  options given arguments h := by
    have hend : ∀ read : List (ScanOption × Option String),
        scanGrammar.parseFrom none read [] ("--" :: arguments) = .ok ⟨read.reverse, arguments⟩ :=
      fun read => rfl
    show scanGrammar.parseFrom none [] [] _ = _
    rw [parseFrom_flatMap_words h, hend]
    simp

/-- The long names of `scan` are names of its options. -/
theorem isOf_scanGrammar {option : ScanOption} {name : String} {value : Option String}
    (hname : name ∈ option.names ∧ Grammar.isLong name = true)
    (hvalue : value.isSome = option.takesValue) :
    WrittenOption.IsOf scanGrammar ⟨option, name, value⟩ := by
  have hall : ∀ o : ScanOption, ∀ n ∈ o.names, Grammar.isLong n = true →
      n.toList.head? = some '-' ∧ '=' ∉ n.toList ∧ scanGrammar.find? n = some o := by
    intro o
    cases o <;> decide
  obtain ⟨hmem, hlong⟩ := hname
  obtain ⟨hdash, hequals, hknown⟩ := hall option name hmem hlong
  exact ⟨hdash, hlong, hequals, hknown, hvalue⟩

/-- The words behind the command are read as the flags, the threshold and the path. -/
theorem LineReader.ReadsLines.scan_words {reader : LineReader} (hlines : reader.ReadsLines)
    (flags : List OutputFlag) (threshold : Nat) (path : String) :
    reader.scan (flags.map OutputFlag.word ++ ["--threshold", toString threshold, "--", path]) =
      .ok (parsedLine flags threshold path) := by
  -- the flags are options without values, and the threshold is one with a value
  let given : List (WrittenOption ScanOption) :=
    flags.map (fun flag => ⟨flag.option, flag.word, none⟩) ++
      [⟨.threshold, "--threshold", some (toString threshold)⟩]
  have hgiven : ∀ o ∈ given, o.IsOf scanGrammar := by
    intro o ho
    rcases List.mem_append.mp ho with ho | ho
    · obtain ⟨flag, -, rfl⟩ := List.mem_map.mp ho
      exact isOf_scanGrammar (by cases flag <;> decide) (by cases flag <;> rfl)
    · obtain rfl := List.mem_singleton.mp ho
      exact isOf_scanGrammar (by decide) rfl
  have hread := hlines.options given [path] hgiven
  -- written out, the options are the words of the line up to the two dashes
  have hwords : given.flatMap WrittenOption.words =
      flags.map OutputFlag.word ++ ["--threshold", toString threshold] := by
    rw [List.flatMap_append, List.flatMap_map, List.map_eq_flatMap]
    rfl
  have hread' : given.map WrittenOption.read =
      (flags.map fun flag => (flag.option, none)) ++ [(.threshold, some (toString threshold))] := by
    simp [given, WrittenOption.read, Function.comp_def]
  rw [hwords, List.append_assoc, hread'] at hread
  exact hread

/-! ## What a line asks for -/

/-- A threshold in decimal digits is read back. -/
theorem readThreshold_toString {threshold : Nat} (h : threshold ≤ 100) :
    readThreshold (toString threshold) = .ok threshold := by
  -- there are only so many thresholds
  have hall : ∀ n : Fin 101, Number.readInt? (toString n.val).toList = some (n.val : Int) := by
    decide +kernel
  have hread := hall ⟨threshold, by omega⟩
  simp only [readThreshold, hread]
  rw [if_pos (by omega)]

/-- A flag is among the options of a line exactly if it was given. -/
private theorem has_parsedLine (flags : List OutputFlag) (threshold : Nat) (path : String)
    (flag : OutputFlag) :
    (parsedLine flags threshold path).has flag.option = flags.contains flag := by
  have hoption : ∀ f : OutputFlag, (f.option == flag.option) = (flag == f) := by
    intro f
    cases f <;> cases flag <;> rfl
  have hthreshold : (ScanOption.threshold == flag.option) = false := by
    cases flag <;> rfl
  simp only [Parsed.has, parsedLine, List.any_append, List.any_map, Function.comp_def, hoption,
    List.any_cons, hthreshold, List.any_nil, Bool.or_false, List.contains_eq_any_beq]

/-- No line of this kind asks for help. -/
private theorem has_help_parsedLine (flags : List OutputFlag) (threshold : Nat) (path : String) :
    (parsedLine flags threshold path).has .help = false := by
  have hoption : ∀ f : OutputFlag, (f.option == .help) = false := by
    intro f
    cases f <;> rfl
  simp [Parsed.has, parsedLine, hoption]

/-- Only the threshold has a value. -/
private theorem value?_parsedLine (flags : List OutputFlag) (threshold : Nat) (path : String)
    (o : ScanOption) : (parsedLine flags threshold path).value? o =
      if o = .threshold then some (toString threshold) else none := by
  rw [Parsed.value?, parsedLine, List.reverse_append, List.reverse_singleton,
    List.singleton_append]
  by_cases ho : o = .threshold
  · simp [ho]
  · have hthreshold : (ScanOption.threshold == o) = false := by simpa using Ne.symm ho
    simp only [List.find?_cons, hthreshold, if_neg ho]
    -- a flag that was found has no value
    cases hfind :
        (flags.map fun f => (f.option, (none : Option String))).reverse.find? (·.1 == o) with
    | none => rfl
    | some found =>
      have hmem := List.mem_of_find?_eq_some hfind
      rw [List.mem_reverse, List.mem_map] at hmem
      obtain ⟨f, -, rfl⟩ := hmem
      rfl

/-- Every value of a line can be read. -/
private theorem checkValue_parsedLine (flags : List OutputFlag) {threshold : Nat}
    (h : threshold ≤ 100) (path : String) (o : ScanOption) :
    checkValue (parsedLine flags threshold path) o = .ok () := by
  cases o with
  | threshold =>
    simp only [checkValue, value?_parsedLine, if_true, readThreshold_toString h]
    rfl
  | _ => simp [checkValue, value?_parsedLine]

/-- A line of this kind stands for its settings. -/
private theorem ofParsed_parsedLine (preset : Option String) (flags : List OutputFlag)
    {threshold : Nat} (h : threshold ≤ 100) (path : String) :
    ScanSettings.ofParsed preset (parsedLine flags threshold path) =
      .ok (scanSettings flags threshold path) := by
  -- no option has a value that cannot be read
  have hcheck : ∀ options : List ScanOption,
      options.forM (checkValue (parsedLine flags threshold path)) = .ok () := by
    intro options
    induction options with
    | nil => rfl
    | cons o options ih =>
      rw [List.forM, checkValue_parsedLine flags h path o]
      exact ih
  have harguments : (parsedLine flags threshold path).arguments = [path] := rfl
  have hjson := has_parsedLine flags threshold path .json
  have hverbose := has_parsedLine flags threshold path .verbose
  have hdebug := has_parsedLine flags threshold path .debug
  simp only [OutputFlag.option] at hjson hverbose hdebug
  simp only [ScanSettings.ofParsed, hcheck, value?_parsedLine, chosenThreshold, if_true,
    readThreshold_toString h, harguments, hjson, hverbose, hdebug]
  rfl

/-- A command line with flags, a threshold and a path asks for the scan of the path with these
settings. -/
theorem call_scanLine {reader : LineReader} (hlines : reader.ReadsLines) (preset : Option String)
    (flags : List OutputFlag) {threshold : Nat} (h : threshold ≤ 100) (path : String) :
    reader.call preset (scanLine flags threshold path) =
      .scan (scanSettings flags threshold path) := by
  have hmain : ∀ words, reader.call preset ("scan" :: words) = reader.scanCall preset words := by
    intro words
    show reader.mainCall preset ("scan" :: words) = _
    rw [LineReader.mainCall, hlines.command "scan" words (by decide)]
  rw [scanLine, hmain, LineReader.scanCall, hlines.scan_words]
  simp only [has_help_parsedLine, ofParsed_parsedLine preset flags h path, Bool.false_eq_true,
    if_false]

end SheetAudit.Command
