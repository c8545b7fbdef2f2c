import SheetAudit.Text.Similarity

/-!
# The grammar of command lines

A command line is read from left to right.  A long option `--name` may have its value attached as
`--name=value`; short options `-a` may be joined as `-abc`, and what follows the letter of one that
takes a value is its value.  Otherwise the value is the next word, whatever it looks like.  `--`
ends the options.  Words that are no options are arguments; where options and arguments do not mix,
the first of them ends the options as well.

`Grammar.parse` gives the options in the order in which they were given and the arguments, or the
first error.  The program runs with this reading of command lines; there may be others.
-/

namespace SheetAudit.Command

/-- The options of a command. -/
structure Grammar (ι : Type) where
  /-- The options with their names. -/
  options : List (ι × List String)
  /-- Whether an option takes a value. -/
  takesValue : ι → Bool
  /-- Whether options may stand behind arguments. -/
  mixed : Bool

/-- Why a command line cannot be read. -/
inductive GrammarError where
  /-- There is no such option; some names are close to it. -/
  | noSuchOption (name : String) (close : List String)
  /-- An option lacks its value. -/
  | valueMissing (name : String)
  /-- A value is attached to an option that takes none. -/
  | valueUnwanted (name : String)
  deriving DecidableEq, Repr

/-- A command line as read. -/
structure Parsed (ι : Type) where
  /-- The options in the order in which they were given, with their values. -/
  given : List (ι × Option String)
  /-- The arguments. -/
  arguments : List String

namespace Grammar

variable {ι : Type}

/-- Whether a name is one of a long option, that is, longer than a dash and a character. -/
def isLong (name : String) : Bool :=
  2 < name.length

/-- The option with a name. -/
def find? (g : Grammar ι) (name : String) : Option ι :=
  (g.options.find? fun (_, names) => names.contains name).map (·.1)

/-- The names of the long options. -/
def longNames (g : Grammar ι) : List String :=
  (g.options.flatMap (·.2)).filter isLong

/-- Whether a word is one or more options. -/
def isOption (word : String) : Bool :=
  match word.toList with
  | '-' :: _ :: _ => true
  | _ => false

/-- What a word says: options with their values, and perhaps one whose value is the next word. -/
structure Reading (ι : Type) where
  /-- The complete options. -/
  given : List (ι × Option String)
  /-- The option that waits for the next word, with the name by which it was given. -/
  waiting : Option (ι × String) := none

/-- The options of joined letters; `done` holds those read, last one first. -/
def readLetters (g : Grammar ι) (done : List (ι × Option String)) :
    List Char → Except GrammarError (Reading ι)
  | [] => .ok { given := done.reverse }
  | c :: rest =>
    let name := String.ofList ['-', c]
    match g.find? name with
    | none => .error (.noSuchOption name [])
    | some o =>
      if !g.takesValue o then g.readLetters ((o, none) :: done) rest
      else if rest.isEmpty then .ok { given := done.reverse, waiting := some (o, name) }
      else .ok { given := ((o, some (String.ofList rest)) :: done).reverse }

/-- A word cut at its first equals sign: a name, and the value attached to it. -/
def cutValue (word : String) : String × Option String :=
  let cs := word.toList
  match cs.dropWhile (· != '=') with
  | [] => (word, none)
  | _ :: value => (String.ofList (cs.takeWhile (· != '=')), some (String.ofList value))

/-- The options of a word. -/
def readWord (g : Grammar ι) (word : String) : Except GrammarError (Reading ι) :=
  let (name, value) := cutValue word
  -- a name with one dash and one letter is left to the joined letters, where `=` is part of a value
  match if isLong name then g.find? name else none with
  | some o =>
    match g.takesValue o, value with
    | true, some v => .ok { given := [(o, some v)] }
    | true, none => .ok { given := [], waiting := some (o, name) }
    | false, some _ => .error (.valueUnwanted name)
    | false, none => .ok { given := [(o, none)] }
  | none =>
    if "--".toList.isPrefixOf word.toList then
      .error (.noSuchOption name (Text.closeNames name g.longNames))
    else g.readLetters [] (word.toList.drop 1)

/-- Reads words; `waiting` is the option that waits for the next word, and `given` and `arguments`
hold what was read, last one first. -/
def parseFrom (g : Grammar ι) (waiting : Option (ι × String)) (given : List (ι × Option String))
    (arguments : List String) : List String → Except GrammarError (Parsed ι)
  | [] =>
    match waiting with
    | some (_, name) => .error (.valueMissing name)
    | none => .ok ⟨given.reverse, arguments.reverse⟩
  | word :: rest =>
    match waiting with
    -- an option that waits takes the next word, even one that looks like an option
    | some (o, _) => g.parseFrom none ((o, some word) :: given) arguments rest
    | none =>
      if word = "--" then .ok ⟨given.reverse, arguments.reverse ++ rest⟩
      else if !isOption word then
        if g.mixed then g.parseFrom none given (word :: arguments) rest
        else .ok ⟨given.reverse, arguments.reverse ++ word :: rest⟩
      else
        match g.readWord word with
        | .error e => .error e
        | .ok r => g.parseFrom r.waiting (r.given.reverse ++ given) arguments rest

/-- Reads a command line. -/
def parse (g : Grammar ι) (words : List String) : Except GrammarError (Parsed ι) :=
  g.parseFrom none [] [] words

end Grammar

namespace Parsed

variable {ι : Type} [DecidableEq ι]

/-- Whether an option was given. -/
def has (p : Parsed ι) (o : ι) : Bool :=
  p.given.any (·.1 == o)

/-- The value of an option: the last one given. -/
def value? (p : Parsed ι) (o : ι) : Option String :=
  (p.given.reverse.find? (·.1 == o)).bind (·.2)

/-- The options that were given, in the order in which each was given first. -/
def order (p : Parsed ι) : List ι :=
  (p.given.map (·.1)).eraseDups

end Parsed

end SheetAudit.Command
