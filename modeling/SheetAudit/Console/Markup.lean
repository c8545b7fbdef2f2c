import SheetAudit.Console.Emoji
import SheetAudit.Console.Event
import SheetAudit.Console.Line
import SheetAudit.Console.Style

/-!
# Console markup

A tag in square brackets sets a style for the text that follows, up to a closing tag that names the
style or, without a name, closes the last one.  A tag starts with a lower-case letter or one of
`#`, `/`, `@`, and holds no opening bracket; other brackets are text.  A backslash before a tag
makes it text, and two backslashes stand for one.  A tag with an at sign ties an event to its text,
with arguments that are read when it is closed.

`render` gives the text with its emoji and the spans of its styles, or the complaint about a tag.
Since nothing here is coloured, tags only vanish, and of the spans only their ends show: text is
measured in the segments between them.  The program runs with this reading; a console may have
another.
-/

namespace SheetAudit.Console

open SheetAudit.Text

/-- Why markup has no text. -/
inductive MarkupError where
  /-- A closing tag names a style that is not open. -/
  | unmatched (tag : String) (position : Nat)
  /-- A closing tag without a name stands where nothing is open. -/
  | nothingToClose (position : Nat)
  /-- The arguments of an event cannot be read. -/
  | arguments (e : ArgumentError)
  /-- The name of a style has a colour that cannot be read. -/
  | colour (e : ColourError)
  deriving DecidableEq, Repr

/-- What an error says. -/
def MarkupError.message : MarkupError → String
  | .unmatched tag position =>
    s!"closing tag '{tag}' at position {position} doesn't match any open tag"
  | .nothingToClose position => s!"closing tag '[/]' at position {position} has nothing to close"
  | .arguments e => e.message
  | .colour e => e.message

namespace Markup

/-- A part of a text with markup. -/
inductive Token where
  /-- Text to be shown. -/
  | text (cs : List Char)
  /-- A tag and the position of its opening bracket. -/
  | tag (position : Nat) (content : List Char)
  deriving DecidableEq, Repr

/-- Whether a tag may start with a character. -/
def isTagStart (c : Char) : Bool :=
  ('a' ≤ c && c ≤ 'z') || c == '#' || c == '/' || c == '@'

/-- The content of the tag at the start of a text, and what follows it. -/
def tag? : List Char → Option (List Char × List Char)
  | '[' :: c :: cs =>
    if isTagStart c then
      let inside := cs.takeWhile fun d => d != '[' && d != ']'
      match cs.dropWhile fun d => d != '[' && d != ']' with
      | ']' :: rest => some (c :: inside, rest)
      | _ => none
    else none
  | _ => none

/-- Text in which a backslash no longer shields the opening bracket after it. -/
def unshield (cs : List Char) : List Char :=
  go [] cs
where
  /-- Walks through the text; `out` holds the result so far, last character first. -/
  go (out : List Char) : List Char → List Char
    | [] => out.reverse
    | '\\' :: '[' :: cs => go ('[' :: out) cs
    | c :: cs => go (c :: out) cs

/-- The token of plain text passed, if there is any; `passed` holds it, last character first. -/
def plain (passed : List Char) : List Token :=
  if passed.isEmpty then [] else [.text (unshield passed.reverse)]

/-- Cuts a text into tokens.  `fuel` is at least the length of the text, `position` the number of
characters before it, `passed` the plain text before it and `done` the tokens before that, both last
one first. -/
def tokensFrom : (fuel : Nat) → (position : Nat) → (passed : List Char) → (done : List Token) →
    List Char → List Token
  | 0, _, passed, done, _ => (plain passed ++ done).reverse
  | _, _, passed, done, [] => (plain passed ++ done).reverse
  | fuel + 1, position, passed, done, c :: cs =>
    let text := c :: cs
    let slashes := (text.takeWhile (· == '\\')).length
    match tag? (text.dropWhile (· == '\\')) with
    | none => tokensFrom fuel (position + 1) (c :: passed) done cs
    | some (content, rest) =>
      -- each pair of backslashes is one; a single one left over makes the tag text
      let kept : List Token :=
        if 2 ≤ slashes then [.text (List.replicate (slashes / 2) '\\')] else []
      let here : Token :=
        if slashes % 2 = 1 then .text ('[' :: content ++ [']'])
        else .tag (position + slashes) content
      tokensFrom fuel (position + slashes + content.length + 2) []
        (here :: kept ++ plain passed ++ done) rest

/-- The tokens of a text with markup. -/
def tokens (cs : List Char) : List Token :=
  tokensFrom cs.length 0 [] [] cs

/-! ## Text and spans -/

/-- A tag that has been opened. -/
structure OpenTag where
  /-- The length of the text before it. -/
  start : Nat
  /-- The name, in the fixed form of a style name. -/
  name : List Char
  /-- What follows the first equals sign, if there is one. -/
  argument : Option (List Char)

/-- The text that names the style of a tag. -/
def OpenTag.style (t : OpenTag) : List Char :=
  match t.argument with
  | some argument => t.name ++ ' ' :: argument
  | none => t.name

/-- A stretch of text with a style. -/
structure Span where
  /-- The position where it starts. -/
  start : Nat
  /-- The position behind its end. -/
  stop : Nat
  /-- The text that names the style; the span of an event has none. -/
  style : Option (List Char)

/-- Text with spans. -/
structure Marked where
  /-- The text. -/
  text : List Char
  /-- The spans. -/
  spans : List Span

/-- The state of reading tags. -/
structure Reading where
  /-- The open tags, last one first. -/
  opened : List OpenTag := []
  /-- The spans of the tags that have been closed, last one first. -/
  spans : List Span := []
  /-- The length of the text so far. -/
  length : Nat := 0
  /-- The parts of the text, last one first. -/
  parts : List (List Char) := []

namespace Reading

/-- Goes on with text. -/
def addText (r : Reading) (cs : List Char) : Reading :=
  let shown := (Emoji.replace cs).filter (!movesCursor ·)
  { r with length := r.length + shown.length, parts := shown :: r.parts }

/-- Closes a tag, and leaves the others open. -/
def close (r : Reading) (tag : OpenTag) (others : List OpenTag) : Except MarkupError Reading := do
  let isEvent := tag.name.head? = some '@'
  if isEvent then
    if let .error e := checkArguments (tag.argument.getD []) then throw (.arguments e)
  let span : Span := ⟨tag.start, r.length, if isEvent then none else some tag.style⟩
  return { r with opened := others, spans := span :: r.spans }

/-- The fixed form of the name of a style. -/
def normalizeName (name : List Char) : Except MarkupError (List Char) :=
  (Style.normalize name).mapError .colour

/-- Goes on with a tag. -/
def addTag (r : Reading) (position : Nat) (content : List Char) : Except MarkupError Reading := do
  let (name, argument) := match cut? ['='] content with
    | some (name, argument) => (name, some argument)
    | none => (content, none)
  match name with
  | '/' :: name =>
    if (trim name).isEmpty then
      match r.opened with
      | [] => throw (.nothingToClose position)
      | last :: others => r.close last others
    else
      let style ← normalizeName name
      match r.opened.find? (·.name == style) with
      | some tag => r.close tag (r.opened.eraseP (·.name == style))
      | none => throw (.unmatched (String.ofList ('[' :: content ++ [']'])) position)
  | name =>
    let name ← normalizeName name
    return { r with opened := ⟨r.length, name, argument⟩ :: r.opened }

/-- Goes on with tokens. -/
def addTokens (r : Reading) : List Token → Except MarkupError Reading
  | [] => .ok r
  | .text cs :: rest => (r.addText cs).addTokens rest
  | .tag position content :: rest =>
    match r.addTag position content with
    | .ok r => r.addTokens rest
    | .error e => .error e

/-- The text with its spans; what is still open goes on to the end. -/
def finish (r : Reading) : Marked :=
  { text := r.parts.reverse.flatten
    spans := r.spans.reverse ++ r.opened.map fun t => ⟨t.start, r.length, some t.style⟩ }

end Reading

/-- The text that is shown for a text with markup, and its spans. -/
def render (cs : List Char) : Except MarkupError Marked := do
  return (← ({} : Reading).addTokens (tokens cs)).finish

namespace Marked

/-- Whether a span has a part in what is shown.  In a text of several lines or with tabs, which is
taken apart, spans without text get lost. -/
def shows (m : Marked) (s : Span) : Bool :=
  if m.text.contains '\n' then ((m.text.drop s.start).take (s.stop - s.start)).any (· != '\n')
  else if m.text.contains '\t' then s.start < s.stop
  else true

/-- Checks the names of the styles. -/
def check (m : Marked) : Except MarkupError Unit :=
  (m.spans.filter m.shows).forM fun s =>
    ((s.style.map Style.check).getD (.ok ())).mapError .colour

/-- Cuts a text where one of the ends of the spans lies.  `position` is the position of the text,
`segment` the current segment and `done` those before it, both last one first. -/
def cutFrom (ends : List Nat) (position : Nat) (segment : List Char) (done : List (List Char)) :
    List Char → List (List Char)
  | [] => (segment.reverse :: done).reverse
  | c :: cs =>
    if ends.contains position then cutFrom ends (position + 1) [c] (segment.reverse :: done) cs
    else cutFrom ends (position + 1) (c :: segment) done cs

/-- The lines of a text, each with its segments.  `position` is the position of the first line. -/
def segmentLines (ends : List Nat) (position : Nat) : List (List Char) → List (List (List Char))
  | [] => []
  | line :: rest =>
    cutFrom ends position [] [] line :: segmentLines ends (position + line.length + 1) rest

/-- The lines of a text, each with its segments. -/
def lines (m : Marked) : List (List (List Char)) :=
  let shown := m.spans.filter m.shows
  segmentLines (shown.map (·.start) ++ shown.map (·.stop)) 0 (m.text.splitOn '\n')

end Marked

end Markup

/-- The text of segments as it appears in a line. -/
def segmentText (segments : List (List Char)) : List Char :=
  expandTabs segments.flatten

/-- The number of columns that segments take; each is measured alone.  The spaces that tabs bring in
count one each. -/
def segmentWidth (segments : List (List Char)) : Nat :=
  let widths := segments.map fun s => textWidth (s.map fun c => if c == '\t' then ' ' else c)
  widths.foldr (· + ·) 0 + ((segmentText segments).length - segments.flatten.length)

end SheetAudit.Console
