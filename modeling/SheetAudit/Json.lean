import SheetAudit.Text.Quoted

/-!
# JSON values

A JSON value with its fields in order, and its text: indented by two spaces, in ASCII, where every
other character is an escape of its UTF-16 units.
-/

namespace SheetAudit

/-- A JSON value. -/
inductive Json where
  | null
  | bool (b : Bool)
  | int (n : Int)
  | str (s : String)
  | arr (items : List Json)
  | obj (fields : List (String × Json))

namespace Json

/-- The escape of a UTF-16 unit. -/
def unitEscape (unit : Nat) : List Char :=
  '\\' :: 'u' :: Text.hexDigits 4 unit

/-- A character inside a JSON string. -/
def escapeChar (c : Char) : List Char :=
  let n := c.toNat
  if c == '"' || c == '\\' then ['\\', c]
  else if c == '\n' then ['\\', 'n']
  else if c == '\r' then ['\\', 'r']
  else if c == '\t' then ['\\', 't']
  else if n == 8 then ['\\', 'b']
  else if n == 12 then ['\\', 'f']
  else if 32 ≤ n && n ≤ 126 then [c]
  else if n < 0x10000 then unitEscape n
  else unitEscape (0xD800 + (n - 0x10000) / 0x400) ++ unitEscape (0xDC00 + (n - 0x10000) % 0x400)

/-- A JSON string with its quotes. -/
def quote (s : String) : String :=
  String.ofList ('"' :: s.toList.flatMap escapeChar ++ ['"'])

/-- A line break and the indentation of the next line. -/
def newline (indent : Nat) : String :=
  String.ofList ('\n' :: List.replicate indent ' ')

/-- Items between brackets, each on a line of its own. -/
def bracketed (first last : String) (indent : Nat) (items : List String) : String :=
  if items.isEmpty then first ++ last
  else
    first ++ newline (indent + 2) ++ ("," ++ newline (indent + 2)).intercalate items ++
      newline indent ++ last

/-- The text of a value that starts on a line with the given indentation. -/
def render (indent : Nat) : Json → String
  | .null => "null"
  | .bool b => if b then "true" else "false"
  | .int n => toString n
  | .str s => quote s
  | .arr items =>
    bracketed "[" "]" indent (items.attach.map fun ⟨item, _⟩ => item.render (indent + 2))
  | .obj fields =>
    bracketed "\x7b" "\x7d" indent (fields.attach.map fun ⟨(key, value), _⟩ =>
      quote key ++ ": " ++ value.render (indent + 2))
termination_by j => j
decreasing_by
  · have := List.sizeOf_lt_of_mem ‹_›
    simp only [Json.arr.sizeOf_spec]
    omega
  · have := List.sizeOf_lt_of_mem ‹_›
    simp only [Json.obj.sizeOf_spec, Prod.mk.sizeOf_spec] at *
    omega

end Json

end SheetAudit
