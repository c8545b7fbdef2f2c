import SheetAudit.Page.Token

/-!
# How the elements of a page nest

Reading a page keeps the names of the open elements, innermost first.  A start tag may end the
elements that cannot hold it and may bring in elements that must be around it; an end tag ends the
innermost element with its name and those inside, unless one of them has a higher rank.  `tags`
gives the start tags of a page with the text of their elements.  Blank text shrinks to one
character, except inside an element whose blanks count.
-/

namespace SheetAudit.Page

/-! ## Which element ends where -/

/-- Elements without content. -/
def voidElements : List String :=
  ["area", "base", "basefont", "br", "col", "frame", "hr", "img", "input", "isindex", "link",
    "meta", "param"]

/-- The headings. -/
def headingElements : List String :=
  ["h1", "h2", "h3", "h4", "h5", "h6"]

/-- Elements that end what stands in the head of a page. -/
def bodyElements : List String :=
  ["a", "abbr", "acronym", "address", "b", "bdo", "big", "blockquote", "body", "br", "center",
    "cite", "code", "dd", "dfn", "dir", "div", "dl", "dt", "em", "fieldset", "font", "form",
    "frameset", "hr", "i", "iframe", "img", "kbd", "li", "listing", "map", "menu", "ol", "p", "pre",
    "q", "s", "samp", "small", "span", "strike", "strong", "sub", "sup", "table", "tt", "u", "ul",
    "var", "xmp"] ++
    headingElements

/-- Elements that end a paragraph. -/
def paragraphEnds : List String :=
  ["address", "blockquote", "body", "caption", "center", "col", "colgroup", "dd", "dir", "div",
    "dl", "dt", "fieldset", "form", "frameset", "head", "hr", "li", "listing", "menu", "multicol",
    "ol", "p", "pre", "table", "tbody", "td", "tfoot", "th", "title", "tr", "ul", "xmp"] ++
    headingElements

/-- Elements that end preformatted text. -/
def preformattedEnds : List String :=
  ["dd", "dl", "dt", "fieldset", "form", "li", "table", "ul"]

/-- Elements that end an entry of a list of names or a menu. -/
def menuEnds : List String :=
  ["dd", "dl", "dt", "form", "ul"]

/-- Elements that end the parts of a table before its rows. -/
def rowStarts : List String :=
  ["colgroup", "tbody", "tfoot", "thead", "tr"]

/-- The elements whose start ends an innermost element. -/
def endedBy (name : String) : List String :=
  if headingElements.contains name then ["fieldset", "form", "li", "p", "table"]
  else
    match name with
    | "a" => ["a", "fieldset", "table", "td", "th"]
    | "address" => ["dd", "dl", "dt", "form", "li", "ul"]
    | "b" => ["center", "p", "td", "th"]
    | "caption" | "col" => "col" :: rowStarts
    | "colgroup" => rowStarts
    | "dd" => ["dt"]
    | "dir" | "menu" => menuEnds
    | "dl" => ["form", "li"]
    | "dt" => ["dd", "dl"]
    | "font" => ["center", "td", "th"]
    | "form" | "hr" | "ol" => ["form"]
    | "head" => bodyElements
    | "i" => ["center"]
    | "legend" => ["fieldset"]
    | "li" => ["li"]
    | "link" | "style" | "title" => ["body", "frameset"]
    | "listing" | "pre" | "xmp" => preformattedEnds
    | "option" => ["optgroup", "option"]
    | "p" => paragraphEnds
    | "big" | "s" | "small" | "strike" | "tt" => ["p"]
    | "script" => ["noscript"]
    | "span" => ["td", "th"]
    | "tbody" => ["tbody", "tfoot"]
    | "td" | "th" => ["tbody", "td", "tfoot", "th", "tr"]
    | "tfoot" => ["tbody"]
    | "thead" => ["tbody", "tfoot"]
    | "tr" => ["tbody", "tfoot", "tr"]
    | "u" => ["p", "td", "th"]
    | "ul" => ["address", "form", "menu", "pre"]
    | _ => []

/-- The rank of an element: an end tag does not end elements of a higher rank than its own. -/
def rank (name : String) : Nat :=
  match name with
  | "div" => 150
  | "td" | "th" => 160
  | "tr" => 170
  | "thead" | "tbody" | "tfoot" => 180
  | "table" => 190
  | "head" | "body" => 200
  | "html" => 220
  | _ => 100

/-! ## Open elements -/

/-- The state of reading a page. -/
structure Nesting where
  /-- The names of the open elements, innermost first. -/
  names : List String := []
  /-- Whether there has been a head. -/
  hadHead : Bool := false
  /-- Whether there has been a body. -/
  hadBody : Bool := false
  /-- The number of start tags that were out of place, less the end tags that belong to them. -/
  misplaced : Nat := 0
  deriving DecidableEq, Repr

namespace Nesting

/-- Opens an element. -/
def push (n : Nesting) (name : String) : Nesting :=
  { n with
    names := name :: n.names
    hadHead := n.hadHead || name == "head"
    hadBody := n.hadBody || name == "body" }

/-- Ends the innermost elements that cannot hold an element. -/
def endFor (n : Nesting) (name : String) : Nesting :=
  { n with names := n.names.dropWhile fun old => (endedBy old).contains name }

/-- Opens the elements that must be around an element: the page, and its head or its body. -/
def imply (n : Nesting) (name : String) : Nesting :=
  if name = "html" then n
  else
    let n := if n.names.isEmpty then n.push "html" else n
    if name = "body" ∨ name = "head" then n
    else if n.names.tail.isEmpty ∧
        ["script", "style", "meta", "link", "title", "base"].contains name then
      if n.hadHead || n.hadBody then n else n.push "head"
    else if ["noframes", "frame", "frameset"].contains name then n
    else if n.hadBody || n.names.contains "body" || n.names.contains "head" then n
    else n.push "body"

/-- Whether an element cannot stand where it starts: a second page or body, or a head that is not
the first part of a page. -/
def isMisplaced (n : Nesting) (name : String) : Bool :=
  match name with
  | "html" => !n.names.isEmpty
  | "head" => n.names.length != 1
  | "body" => n.names.contains "body"
  | _ => false

/-- Goes on over a start tag. -/
def start (n : Nesting) (name : String) (isClosed : Bool) : Nesting :=
  let n := (n.endFor name).imply name
  if n.isMisplaced name then { n with misplaced := n.misplaced + 1 }
  else if isClosed || voidElements.contains name then
    { n.push name with names := n.names }
  else n.push name

/-- Goes on over an end tag. -/
def finish (n : Nesting) (name : String) : Nesting :=
  if 0 < n.misplaced ∧ ["html", "body", "head"].contains name then
    { n with misplaced := n.misplaced - 1 }
  else if n.names.contains name then
    let inside := n.names.takeWhile (· != name)
    if inside.any fun other => rank name < rank other then n
    else { n with names := n.names.drop (inside.length + 1) }
  else n

/-- Goes on over text.  Text outside the body starts a paragraph. -/
def text (n : Nesting) : Nesting :=
  match n.names with
  | [] | ["html"] | "head" :: _ => n.start "p" false
  | _ => n

/-- Whether the blanks of a text count. -/
def keepsBlanks (n : Nesting) : Bool :=
  n.names.any fun name => name == "pre" || name == "textarea"

end Nesting

/-- The text of an element: of blanks alone a line feed is left if there is one, else a space. -/
def shrinkBlanks (cs : List Char) : List Char :=
  if cs.isEmpty || !cs.all isSpace then cs
  else if cs.contains '\n' then ['\n'] else [' ']

/-- Goes on over a token; `tags` holds the start tags so far, last one first. -/
def placeToken (n : Nesting) (tags : List Tag) : Token → Nesting × List Tag
  | .opening tag isClosed =>
    let n := n.start (String.ofList tag.name) isClosed
    let keeps := tag.text.isEmpty || n.keepsBlanks
    (n, (if keeps then tag else { tag with text := shrinkBlanks tag.text }) :: tags)
  | .closing name => (n.finish (String.ofList name), tags)
  | .text => (n.text, tags)

/-- The start tags of a page, in order, with the text of their elements. -/
def tags (cs : List Char) : List Tag :=
  ((tokens cs).foldl (fun (n, tags) token => placeToken n tags token) ({}, [])).2.reverse

end SheetAudit.Page
