import SheetAudit.Number.Reading
import SheetAudit.Text.Cut
import SheetAudit.Text.LowerCase
import SheetAudit.Text.Word

/-!
# Style names

A style is named by words: attributes such as `bold`, of which some have short names, each perhaps
after `not`; a colour; a background colour after `on`; a target after `link`.  `normalize` brings
the words into a fixed order, so that two names of one style are equal texts.  A text that names no
style is only trimmed and put in lower case.  A colour that is given by three numbers, of which one
has no digits or too many, is an error of its own.
-/

namespace SheetAudit.Console

/-- Why a part of a colour is not a number. -/
inductive ColourError where
  /-- It has no digits. -/
  | missingNumber
  /-- It has too many digits. -/
  | numberTooLong (digits : Nat)
  deriving DecidableEq, Repr

/-- What an error says. -/
def ColourError.message : ColourError → String
  | .missingNumber => "invalid literal for int() with base 10: ''"
  | .numberTooLong digits =>
    s!"Exceeds the limit ({Number.maxIntegerDigits} digits) for integer string conversion: " ++
      s!"value has {digits} digits; use sys.set_int_max_str_digits() to increase the limit"

namespace Style

open SheetAudit.Text

/-- The attributes in the order in which they are named. -/
def attributes : List String :=
  ["bold", "dim", "italic", "underline", "blink", "blink2", "reverse", "conceal", "strike",
    "underline2", "frame", "encircle", "overline"]

/-- The short names of attributes. -/
def shortNames : List (String × String) :=
  [("d", "dim"), ("b", "bold"), ("i", "italic"), ("u", "underline"), ("r", "reverse"),
    ("c", "conceal"), ("s", "strike"), ("uu", "underline2"), ("o", "overline")]

/-- The attribute that a word names. -/
def attribute? (word : String) : Option String :=
  if attributes.contains word then some word else shortNames.lookup word

/-- The names of colours. -/
def colourNames : List String :=
  ("default black red green yellow blue magenta cyan white bright_black bright_red bright_green " ++
  "bright_yellow bright_blue bright_magenta bright_cyan bright_white grey0 gray0 navy_blue " ++
  "dark_blue blue3 blue1 dark_green deep_sky_blue4 dodger_blue3 dodger_blue2 green4 " ++
  "spring_green4 turquoise4 deep_sky_blue3 dodger_blue1 green3 spring_green3 dark_cyan " ++
  "light_sea_green deep_sky_blue2 deep_sky_blue1 spring_green2 cyan3 dark_turquoise turquoise2 " ++
  "green1 spring_green1 medium_spring_green cyan2 cyan1 dark_red deep_pink4 purple4 purple3 " ++
  "blue_violet orange4 grey37 gray37 medium_purple4 slate_blue3 royal_blue1 chartreuse4 " ++
  "dark_sea_green4 pale_turquoise4 steel_blue steel_blue3 cornflower_blue chartreuse3 " ++
  "cadet_blue sky_blue3 steel_blue1 pale_green3 sea_green3 aquamarine3 medium_turquoise " ++
  "chartreuse2 sea_green2 sea_green1 aquamarine1 dark_slate_gray2 dark_magenta dark_violet " ++
  "purple light_pink4 plum4 medium_purple3 slate_blue1 yellow4 wheat4 grey53 gray53 " ++
  "light_slate_grey light_slate_gray medium_purple light_slate_blue dark_olive_green3 " ++
  "dark_sea_green light_sky_blue3 sky_blue2 dark_sea_green3 dark_slate_gray3 sky_blue1 " ++
  "chartreuse1 light_green pale_green1 dark_slate_gray1 red3 medium_violet_red magenta3 " ++
  "dark_orange3 indian_red hot_pink3 medium_orchid3 medium_orchid medium_purple2 dark_goldenrod " ++
  "light_salmon3 rosy_brown grey63 gray63 medium_purple1 gold3 dark_khaki navajo_white3 grey69 " ++
  "gray69 light_steel_blue3 light_steel_blue yellow3 dark_sea_green2 light_cyan3 " ++
  "light_sky_blue1 green_yellow dark_olive_green2 dark_sea_green1 pale_turquoise1 deep_pink3 " ++
  "magenta2 hot_pink2 orchid medium_orchid1 orange3 light_pink3 pink3 plum3 violet " ++
  "light_goldenrod3 tan misty_rose3 thistle3 plum2 khaki3 light_goldenrod2 light_yellow3 grey84 " ++
  "gray84 light_steel_blue1 yellow2 dark_olive_green1 honeydew2 light_cyan1 red1 deep_pink2 " ++
  "deep_pink1 magenta1 orange_red1 indian_red1 hot_pink dark_orange salmon1 light_coral " ++
  "pale_violet_red1 orchid2 orchid1 orange1 sandy_brown light_salmon1 light_pink1 pink1 plum1 " ++
  "gold1 navajo_white1 misty_rose1 thistle1 yellow1 light_goldenrod1 khaki1 wheat1 cornsilk1 " ++
  "grey100 gray100 grey3 gray3 grey7 gray7 grey11 gray11 grey15 gray15 grey19 gray19 grey23 " ++
  "gray23 grey27 gray27 grey30 gray30 grey35 gray35 grey39 gray39 grey42 gray42 grey46 gray46 " ++
  "grey50 gray50 grey54 gray54 grey58 gray58 grey62 gray62 grey66 gray66 grey70 gray70 grey74 " ++
  "gray74 grey78 gray78 grey82 gray82 grey85 " ++
  "gray85 grey89 gray89 grey93 gray93").toList.splitOn ' ' |>.map String.ofList

/-- Whether a text is a number of at most three digits that fits in a byte. -/
def isByte (cs : List Char) : Bool :=
  !cs.isEmpty && cs.all isDigit && cs.length ≤ 3 &&
    cs.foldl (fun n c => 10 * n + (c.toNat - 48)) 0 ≤ 255

/-- The text between a head and a closing bracket that ends it. -/
def argument? (head : String) (word : List Char) : Option (List Char) := do
  let inside ← behind? head.toList word
  if inside.getLast? = some ')' then some inside.dropLast else none

/-- The number that digits of any script stand for. -/
def readPart (cs : List Char) : Except ColourError Nat :=
  if cs.isEmpty then .error .missingNumber
  else if Number.maxIntegerDigits < cs.length then .error (.numberTooLong cs.length)
  else .ok ((cs.filterMap digitValue?).foldl (fun n d => 10 * n + d) 0)

/-- Whether the parts of a colour are three numbers that fit in a byte. -/
def areParts (parts : List (List Char)) : Except ColourError Bool :=
  if parts.length = 3 then return (← parts.mapM readPart).all (· ≤ 255)
  else return false

/-- Whether a word in lower case names a colour. -/
def isColour (word : List Char) : Except ColourError Bool :=
  if colourNames.contains (String.ofList word) then return true
  else
    match word with
    | '#' :: digits =>
      return digits.length == 6 && digits.all fun c => isDigit c || ('a' ≤ c && c ≤ 'f')
    | _ =>
      match argument? "color(" word, argument? "rgb(" word with
      | some number, _ => return isByte number
      | none, some parts =>
        if !parts.isEmpty && parts.all (fun c => c == ',' || (digitValue? c).isSome) then
          areParts (parts.splitOn ',')
        else return false
      | none, none => return false

/-- A style as its name describes it. -/
structure Description where
  /-- The attributes that are set, and whether they are on. -/
  attributes : List (String × Bool) := []
  /-- The colour. -/
  colour : Option (List Char) := none
  /-- The background colour. -/
  background : Option (List Char) := none
  /-- The target of a link. -/
  link : Option (List Char) := none

/-- Reads the words of a style name, up to the first one that does not fit. -/
def describe? (d : Description) : List (List Char) → Except ColourError (Option Description)
  | [] => return some d
  | word :: rest =>
    let small := lowerCase word
    if small = "on".toList then
      match rest with
      | colour :: rest => do
        if ← isColour (lowerCase colour) then
          describe? { d with background := some (lowerCase colour) } rest
        else return none
      | [] => return none
    else if small = "not".toList then
      match rest with
      | name :: rest =>
        match attribute? (String.ofList name) with
        | some a => describe? { d with attributes := (a, false) :: d.attributes } rest
        | none => return none
      | [] => return none
    else if small = "link".toList then
      match rest with
      | target :: rest => describe? { d with link := some target } rest
      | [] => return none
    else
      match attribute? (String.ofList small) with
      | some a => describe? { d with attributes := (a, true) :: d.attributes } rest
      | none => do
        if ← isColour small then describe? { d with colour := some small } rest else return none

/-- The words of a style in their fixed order. -/
def Description.words (d : Description) : List (List Char) :=
  (Style.attributes.flatMap fun a =>
    match d.attributes.lookup a with
    | some true => [a.toList]
    | some false => ["not".toList, a.toList]
    | none => []) ++
  d.colour.toList ++
  (match d.background with
    | some colour => ["on".toList, colour]
    | none => []) ++
  (match d.link with
    | some target => ["link".toList, target]
    | none => [])

/-- The fixed form of a style name. -/
def normalize (name : List Char) : Except ColourError (List Char) := do
  match ← describe? {} (words name) with
  | some d => return if d.words.isEmpty then "none".toList else [' '].intercalate d.words
  | none => return lowerCase (trim name)

/-- Checks that the numbers in a style name are numbers. -/
def check (name : List Char) : Except ColourError Unit := do
  discard <| describe? {} (words name)

end Style

end SheetAudit.Console
