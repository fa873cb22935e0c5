import TimedRelease.Dialogue
import TimedRelease.Text.Numeral

/-!
# Posting over HTTP

A service on the network is spoken to by posting JSON to an address.  Whether an
answer arrives, and what it says, is up to the network.
-/

namespace TimedRelease.Http

/-- A JSON text posted to an address. -/
structure Post where
  url : String
  body : String
  deriving DecidableEq, Repr

/-- What comes of a post. -/
inductive Reply where
  /-- No answer began to arrive. -/
  | unreachable (reason : String)
  /-- The body of an answer did not arrive whole. -/
  | broken (status : Nat) (reason : String)
  /-- A whole answer arrived. -/
  | complete (status : Nat) (body : String)
  deriving DecidableEq, Repr

/-- A computation that posts. -/
abbrev Posting (α : Type) : Type := Dialogue Post (fun _ => Reply) α

/-- The reasons that are registered for a status. -/
def reasons : List (Nat × String) :=
  [(100, "Continue"), (101, "Switching Protocols"), (102, "Processing"), (200, "OK"),
    (201, "Created"), (202, "Accepted"), (203, "Non Authoritative Information"),
    (204, "No Content"), (205, "Reset Content"), (206, "Partial Content"),
    (207, "Multi-Status"), (208, "Already Reported"), (226, "IM Used"),
    (300, "Multiple Choices"), (301, "Moved Permanently"), (302, "Found"), (303, "See Other"),
    (304, "Not Modified"), (305, "Use Proxy"), (307, "Temporary Redirect"),
    (308, "Permanent Redirect"), (400, "Bad Request"), (401, "Unauthorized"),
    (402, "Payment Required"), (403, "Forbidden"), (404, "Not Found"),
    (405, "Method Not Allowed"), (406, "Not Acceptable"),
    (407, "Proxy Authentication Required"), (408, "Request Timeout"), (409, "Conflict"),
    (410, "Gone"), (411, "Length Required"), (412, "Precondition Failed"),
    (413, "Payload Too Large"), (414, "URI Too Long"), (415, "Unsupported Media Type"),
    (416, "Range Not Satisfiable"), (417, "Expectation Failed"), (418, "I'm a teapot"),
    (421, "Misdirected Request"), (422, "Unprocessable Entity"), (423, "Locked"),
    (424, "Failed Dependency"), (425, "Too Early"), (426, "Upgrade Required"),
    (428, "Precondition Required"), (429, "Too Many Requests"),
    (431, "Request Header Fields Too Large"), (451, "Unavailable For Legal Reasons"),
    (500, "Internal Server Error"), (501, "Not Implemented"), (502, "Bad Gateway"),
    (503, "Service Unavailable"), (504, "Gateway Timeout"),
    (505, "HTTP Version Not Supported"), (506, "Variant Also Negotiates"),
    (507, "Insufficient Storage"), (508, "Loop Detected"), (510, "Not Extended"),
    (511, "Network Authentication Required")]

/-- The reason shown for a status without a registered one. -/
def unknownReason : String := "<unknown status code>"

/-- A status and its reason. -/
def statusText (status : Nat) : String :=
  Text.decimalText status ++ " " ++ (reasons.lookup status).getD unknownReason

/-- The request was carried out. -/
def isSuccess (status : Nat) : Bool :=
  200 ≤ status && status < 300

end TimedRelease.Http
