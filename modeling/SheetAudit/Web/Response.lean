import SheetAudit.Text.Decoding
import SheetAudit.Web.ContentType

/-!
# Responses

What a server answers: a status, headers and a body.

The charset of the content type says how the body is read.  The built-in way to read it knows four
charsets, and takes a body in any other one for UTF-8.  A client may know more of them and may
refuse a body; a `Reader` of answers may have its own way.
-/

namespace SheetAudit.Web

open SheetAudit.Text

/-- An answer of a server. -/
structure Response where
  /-- The status code. -/
  status : Int
  /-- The headers, in order. -/
  headers : List (String × String)
  /-- The body. -/
  body : ByteArray

/-- Why a request has no answer. -/
inductive TransportError where
  /-- It took too long. -/
  | timeout
  /-- Something else went wrong. -/
  | failed (message : String)
  deriving DecidableEq, Repr

/-- The web: what comes back for the URL of a request. -/
abbrev Transport := String → Except TransportError Response

/-- The web that knows the pages of a table; for any other URL nothing is found. -/
def ofTable (table : List (String × Except TransportError Response)) : Transport := fun url =>
  (table.lookup url).getD (.ok { status := 404, headers := [], body := .empty })

namespace Response

/-- The value of a header, whatever the case of its name; several values are joined. -/
def header? (r : Response) (name : String) : Option String :=
  let values := (r.headers.filter fun (n, _) => lower n.toList == lower name.toList).map (·.2)
  if values.isEmpty then none else some (", ".intercalate values)

/-- Whether the request was met. -/
def isSuccess (r : Response) : Bool :=
  200 ≤ r.status && r.status ≤ 299

/-- Where a redirecting answer sends the request. -/
def redirect? (r : Response) : Option String :=
  if [301, 302, 303, 307, 308].contains r.status then r.header? "location" else none

end Response

/-- How the bytes of a body stand for text. -/
inductive Charset where
  /-- As UTF-8. -/
  | utf8
  /-- As UTF-8 with a mark at its start. -/
  | markedUtf8
  /-- As code points. -/
  | latin1
  /-- As code points of seven bits. -/
  | ascii
  deriving DecidableEq, Repr

namespace Charset

/-- The names of the charsets. -/
def properNames : List (String × Charset) :=
  [("utf_8", .utf8), ("utf_8_sig", .markedUtf8), ("latin_1", .latin1), ("ascii", .ascii)]

/-- Other names of the charsets. -/
def otherNames : List (String × Charset) :=
  (["8859", "cp819", "csisolatin1", "ibm819", "iso8859", "iso8859_1", "iso_8859_1",
    "iso_8859_1_1987", "iso_ir_100", "l1", "latin", "latin1"].map (·, latin1)) ++
  (["646", "ansi_x3.4_1968", "ansi_x3.4_1986", "ansi_x3_4_1968", "cp367", "csascii", "ibm367",
    "iso646_us", "iso_646.irv_1991", "iso_ir_6", "us", "us_ascii"].map (·, ascii))

/-- The charset with a name; one that is not known is taken for UTF-8.  In the other names a dot may
stand for a low line. -/
def ofName (name : String) : Charset :=
  let undotted := String.ofList (name.toList.map fun c => if c == '.' then '_' else c)
  (((otherNames.lookup name).or (otherNames.lookup undotted)).or
    (properNames.lookup name)).getD utf8

end Charset

/-- The bytes without the mark that says that they are UTF-8, or without a part of it that is all
there is. -/
def dropMark (bytes : List UInt8) : List UInt8 :=
  match bytes with
  | 0xEF :: 0xBB :: 0xBF :: rest => rest
  | [0xEF, 0xBB] | [0xEF] => []
  | _ => bytes

/-- The text of bytes in a charset. -/
def Charset.decode (charset : Charset) (bytes : List UInt8) : List Char :=
  match charset with
  | .utf8 => decodeUtf8 bytes
  | .markedUtf8 => decodeUtf8 (dropMark bytes)
  | .latin1 => decodeLatin1 bytes
  | .ascii => bytes.map fun b => if b < 0x80 then Char.ofNat b.toNat else replacementChar

/-- The charset of an answer. -/
def Response.charset (r : Response) : Charset :=
  match (r.header? "content-type").bind charset? with
  | some name => .ofName name
  | none => .utf8

/-- The text of an answer. -/
def Response.text (r : Response) : String :=
  String.ofList (r.charset.decode r.body.toList)

/-- The phrases for status codes. -/
def reasonPhrases : List (Int × String) :=
  [(100, "Continue"), (101, "Switching Protocols"), (102, "Processing"), (103, "Early Hints"),
    (200, "OK"), (201, "Created"), (202, "Accepted"), (203, "Non-Authoritative Information"),
    (204, "No Content"), (205, "Reset Content"), (206, "Partial Content"), (207, "Multi-Status"),
    (208, "Already Reported"), (226, "IM Used"), (300, "Multiple Choices"),
    (301, "Moved Permanently"), (302, "Found"), (303, "See Other"), (304, "Not Modified"),
    (305, "Use Proxy"), (307, "Temporary Redirect"), (308, "Permanent Redirect"),
    (400, "Bad Request"), (401, "Unauthorized"), (402, "Payment Required"), (403, "Forbidden"),
    (404, "Not Found"), (405, "Method Not Allowed"), (406, "Not Acceptable"),
    (407, "Proxy Authentication Required"), (408, "Request Timeout"), (409, "Conflict"),
    (410, "Gone"), (411, "Length Required"), (412, "Precondition Failed"),
    (413, "Request Entity Too Large"), (414, "Request-URI Too Long"),
    (415, "Unsupported Media Type"), (416, "Requested Range Not Satisfiable"),
    (417, "Expectation Failed"), (418, "I'm a teapot"), (421, "Misdirected Request"),
    (422, "Unprocessable Entity"), (423, "Locked"), (424, "Failed Dependency"), (425, "Too Early"),
    (426, "Upgrade Required"), (428, "Precondition Required"), (429, "Too Many Requests"),
    (431, "Request Header Fields Too Large"), (451, "Unavailable For Legal Reasons"),
    (500, "Internal Server Error"), (501, "Not Implemented"), (502, "Bad Gateway"),
    (503, "Service Unavailable"), (504, "Gateway Timeout"), (505, "HTTP Version Not Supported"),
    (506, "Variant Also Negotiates"), (507, "Insufficient Storage"), (508, "Loop Detected"),
    (510, "Not Extended"), (511, "Network Authentication Required")]

/-- The phrase for a status code. -/
def reasonPhrase (status : Int) : String :=
  (reasonPhrases.lookup status).getD ""

end SheetAudit.Web
