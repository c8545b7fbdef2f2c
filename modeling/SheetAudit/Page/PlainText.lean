import SheetAudit.Page.Tag

/-!
# Elements that hold plain text

The content of some elements is plain text up to their end tag, so that tags in it do not count.  In
a script an end tag inside a comment does not count either, once a second script was started there.
-/

namespace SheetAudit.Page

open SheetAudit.Text

/-- Elements whose content is plain text up to their end tag. -/
def textElements : List String :=
  ["script", "style", "title", "textarea", "xmp", "iframe", "noembed", "noframes", "plaintext"]

/-- Whether a name and the end of a name stand at the start of a text. -/
def startsName (name cs : List Char) : Bool :=
  lower (cs.take name.length) == name &&
    match cs.drop name.length with
    | c :: _ => !isTagNameChar c
    | [] => false

/-- Whether an end tag with the given name stands at the start of a text. -/
def startsEndTag (name cs : List Char) : Bool :=
  match cs with
  | '<' :: '/' :: rest => startsName name rest
  | _ => false

/-- Whether a start tag with the given name stands at the start of a text. -/
def startsStartTag (name cs : List Char) : Bool :=
  match cs with
  | '<' :: rest => startsName name rest
  | _ => false

/-- Reads the text of an element up to its end tag, or to the end of the page; `taken` holds what
was read, last character first. -/
def readTextFrom (name taken : List Char) : List Char → List Char × List Char
  | [] => (taken.reverse, [])
  | c :: cs =>
    if c == '<' && startsEndTag name (c :: cs) then (taken.reverse, c :: cs)
    else readTextFrom name (c :: taken) cs

/-! ## Scripts -/

/-- Where in the text of a script a character stands. -/
inductive ScriptPhase where
  /-- Outside comments. -/
  | plain
  /-- In a comment. -/
  | comment
  /-- In a script that started in a comment. -/
  | inner
  deriving DecidableEq, Repr

/-- The name of the element that holds a script. -/
def scriptName : List Char := "script".toList

/-- The phase behind the first character of a text.  The marks of a comment overlap: the hyphens
that open it may be those that close it. -/
def ScriptPhase.next (phase : ScriptPhase) (cs : List Char) : ScriptPhase :=
  match phase, cs with
  | .plain, '<' :: '!' :: '-' :: '-' :: _ => .comment
  | .plain, _ => .plain
  | _, '-' :: '-' :: '>' :: _ => .plain
  | .comment, cs => if startsStartTag scriptName cs then .inner else .comment
  | .inner, cs => if startsEndTag scriptName cs then .comment else .inner

/-- Reads the text of a script up to the end tag that counts; `taken` holds what was read, last
character first. -/
def readScriptFrom (phase : ScriptPhase) (taken : List Char) : List Char → List Char × List Char
  | [] => (taken.reverse, [])
  | c :: cs =>
    if c == '<' && phase != .inner && startsEndTag scriptName (c :: cs) then
      (taken.reverse, c :: cs)
    else readScriptFrom (phase.next (c :: cs)) (c :: taken) cs

/-- Reads the text of an element. -/
def readText (name cs : List Char) : List Char × List Char :=
  if name = "plaintext".toList then (cs, [])
  else if name = scriptName then readScriptFrom .plain [] cs
  else readTextFrom name [] cs

/-! ## Every part of a text is read once -/

/-- Nothing is put back when the text of an element is read. -/
theorem length_readTextFrom (name taken cs : List Char) :
    (readTextFrom name taken cs).2.length ≤ cs.length := by
  fun_induction readTextFrom name taken cs <;> simp only [List.length_cons, List.length_nil] <;>
    omega

/-- Nothing is put back when a script is read. -/
theorem length_readScriptFrom (phase : ScriptPhase) (taken cs : List Char) :
    (readScriptFrom phase taken cs).2.length ≤ cs.length := by
  fun_induction readScriptFrom phase taken cs <;> simp only [List.length_cons, List.length_nil] <;>
    omega

/-- What follows the text of an element is no longer than the text with all that follows. -/
theorem length_readText (name cs : List Char) : (readText name cs).2.length ≤ cs.length := by
  unfold readText
  split
  · simp
  · split
    · exact length_readScriptFrom ..
    · exact length_readTextFrom ..

end SheetAudit.Page
