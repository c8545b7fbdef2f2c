import SheetAudit.Page.PlainText
import SheetAudit.Text.Decoding

/-!
# The tokens of a page

`tokens` cuts a page into start tags, end tags and stretches of text.  Comments and declarations are
passed over, and so are the tags inside plain text.  Any text has tokens: a tag that does not end is
none, and a bracket that opens no tag is text.
-/

namespace SheetAudit.Page

open SheetAudit.Text

/-- A piece of a page. -/
inductive Token where
  /-- A start tag; `isClosed` says that a slash ends its element at once. -/
  | opening (tag : Tag) (isClosed : Bool)
  /-- An end tag. -/
  | closing (name : List Char)
  /-- Text that is more than spaces. -/
  | text
  deriving DecidableEq, Repr

/-! ## Markup that holds no tag -/

/-- The text behind the next `>`. -/
def skipDeclaration (cs : List Char) : List Char :=
  (cs.dropWhile (· != '>')).drop 1

/-- The text behind the end of a comment. -/
def skipCommentBody : List Char → List Char
  | '-' :: '-' :: '>' :: cs => cs
  | '-' :: '-' :: '!' :: '>' :: cs => cs
  | _ :: cs => skipCommentBody cs
  | [] => []

/-- The text behind a comment whose opening mark has been passed. -/
def skipComment : List Char → List Char
  | '>' :: cs => cs
  | '-' :: '>' :: cs => cs
  | cs => skipCommentBody cs

/-! ## Tags -/

/-- Reads the start tag whose opening bracket has been passed, and the text of its element. -/
def readOpening? (cs : List Char) : Option (Token × List Char) :=
  let name := lower (cs.takeWhile isTagNameChar)
  match readBody? [] (cs.dropWhile isTagNameChar) with
  | none => none
  | some body =>
    if textElements.contains (String.ofList name) && !body.closed then
      let (text, rest) := readText name body.rest
      some (.opening ⟨name, body.attributes, text⟩ false, rest)
    else some (.opening ⟨name, body.attributes, []⟩ body.closed, body.rest)

/-- Reads the end tag whose opening mark has been passed.  One without a name is passed over. -/
def readClosing (cs : List Char) : Option Token × List Char :=
  match cs with
  | [] => (none, [])
  | c :: _ =>
    if isLetter c then
      match readBody? [] (cs.dropWhile isTagNameChar) with
      | some body => (some (.closing (lower (cs.takeWhile isTagNameChar))), body.rest)
      | none => (none, [])
    else (none, skipDeclaration cs)

/-- Reads the markup whose opening bracket has been passed, with what follows it. -/
def readMarkup (cs : List Char) : Option Token × List Char :=
  match cs with
  | '!' :: '-' :: '-' :: rest => (none, skipComment rest)
  | '!' :: rest => (none, skipDeclaration rest)
  | '?' :: rest => (none, skipDeclaration rest)
  | '/' :: rest => readClosing rest
  | c :: rest =>
    if isLetter c then
      match readOpening? (c :: rest) with
      | some (token, after) => (some token, after)
      | none => (none, [])
    -- a bracket before anything else is text
    else (some .text, c :: rest)
  | [] => (some .text, [])

/-! ## Every part of a page is read once -/

/-- Nothing is put back when a declaration is passed over. -/
theorem length_skipDeclaration (cs : List Char) : (skipDeclaration cs).length ≤ cs.length := by
  have : (cs.dropWhile (· != '>')).length ≤ cs.length := (List.dropWhile_sublist _).length_le
  simp only [skipDeclaration, List.length_drop]
  omega

/-- Nothing is put back in a comment. -/
theorem length_skipCommentBody (cs : List Char) : (skipCommentBody cs).length ≤ cs.length := by
  fun_induction skipCommentBody cs <;> simp only [List.length_cons, List.length_nil] <;> omega

/-- Nothing is put back when a comment is passed over. -/
theorem length_skipComment (cs : List Char) : (skipComment cs).length ≤ cs.length := by
  unfold skipComment
  split
  · simp
  · simp only [List.length_cons]; omega
  · exact length_skipCommentBody _

/-- Nothing is put back when an opening tag is read. -/
theorem length_readOpening? {cs rest : List Char} {t : Token}
    (h : readOpening? cs = some (t, rest)) : rest.length ≤ cs.length := by
  simp only [readOpening?] at h
  split at h
  · simp at h
  · next body hb =>
    have h₁ := length_readBody? hb
    have h₂ := length_dropTagName cs
    have h₃ := length_readText (lower (cs.takeWhile isTagNameChar)) body.rest
    split at h
    · simp only [Option.some.injEq, Prod.mk.injEq] at h
      rw [← h.2]
      omega
    · simp only [Option.some.injEq, Prod.mk.injEq] at h
      rw [← h.2]
      omega

/-- Nothing is put back when a closing tag is read. -/
theorem length_readClosing (cs : List Char) : (readClosing cs).2.length ≤ cs.length := by
  unfold readClosing
  split
  · simp
  · next c cs =>
    split
    · split
      · next body hb =>
        exact Nat.le_trans (length_readBody? hb) (length_dropTagName (c :: cs))
      · simp
    · exact length_skipDeclaration _

/-- What follows a piece of markup is no longer than what follows its opening bracket. -/
theorem length_readMarkup (cs : List Char) : (readMarkup cs).2.length ≤ cs.length := by
  unfold readMarkup
  split
  · next rest =>
    have := length_skipComment rest
    simp only [List.length_cons]; omega
  · next rest _ =>
    have := length_skipDeclaration rest
    simp only [List.length_cons]; omega
  · next rest =>
    have := length_skipDeclaration rest
    simp only [List.length_cons]; omega
  · next rest =>
    have := length_readClosing rest
    simp only [List.length_cons]; omega
  · split
    · split
      · next h => exact length_readOpening? h
      · simp
    · simp
  · simp

/-- The token for a stretch of text. -/
def textToken? (cs : List Char) : Option Token :=
  if cs.all isSpace then none else some .text

/-- Collects the tokens of a page; `done` holds those already found, last one first. -/
def tokensFrom (done : List Token) (cs : List Char) : List Token :=
  match cs with
  | [] => done.reverse
  | c :: rest =>
    if c = '<' then tokensFrom ((readMarkup rest).1.toList ++ done) (readMarkup rest).2
    else
      tokensFrom ((textToken? (c :: rest.takeWhile (· != '<'))).toList ++ done)
        (rest.dropWhile (· != '<'))
termination_by cs.length
decreasing_by
  · have := length_readMarkup rest
    simp only [List.length_cons]; omega
  · have : (rest.dropWhile (· != '<')).length ≤ rest.length := (List.dropWhile_sublist _).length_le
    simp only [List.length_cons]; omega

/-- The text as it is read: one line feed for each line break, and nothing that is no character. -/
def prepare (cs : List Char) : List Char :=
  let unified := unifyNewlines (cs.map fun c => if c = '\x00' then replacementChar else c)
  match unified with
  | '\uFEFF' :: rest => rest
  | _ => unified

/-- The tokens of a page, in order. -/
def tokens (cs : List Char) : List Token :=
  tokensFrom [] (prepare cs)

end SheetAudit.Page
