import InstanceLifecycle.Text.Letters

/-!
# Requests and replies

The few notions of the hypertext protocol that probes and reports need: methods, schemes and status
codes with their standard reason phrases.

Results:

* `Scheme.ofText?_name`: a scheme is found by its name.
-/

namespace InstanceLifecycle.Http

/-! ## Methods -/

/-- The characters that a method may consist of. -/
def isTokenChar (c : Char) : Bool :=
  c.isAlphanum || "!#$%&'*+-.^_`|~".toList.contains c

/-- A method is a text of at least one such character. -/
def isMethod (s : String) : Bool :=
  !s.isEmpty && s.toList.all isTokenChar

/-! ## Paths -/

/-- Whether a path starts at the root. -/
def isAbsolute (path : String) : Bool := path.toList.head? == some '/'

/-! ## Schemes -/

/-- How an instance is asked for its health: in plain text or encrypted. -/
inductive Scheme
  | plain
  | secure
  deriving DecidableEq, Repr

namespace Scheme

/-- The name of a scheme in settings. -/
def name : Scheme → String
  | plain => "HTTP"
  | secure => "HTTPS"

/-- The name of a scheme in an address. -/
def label : Scheme → String
  | plain => "http"
  | secure => "https"

/-- The scheme with this name; the case does not matter. -/
def ofText? (s : String) : Option Scheme :=
  let s := Text.upper s
  if s = plain.name then some plain else if s = secure.name then some secure else none

/-- All schemes. -/
def all : List Scheme := [plain, secure]

theorem ofText?_name (s : Scheme) : ofText? s.name = some s := by
  cases s <;> decide +kernel

end Scheme

/-! ## Status codes -/

/-- The status code of a reply. -/
structure Status where
  code : Nat
  deriving DecidableEq, Repr

namespace Status

/-- Whether the request was fulfilled. -/
def isSuccess (s : Status) : Bool := 200 ≤ s.code && s.code < 300

/-- The standard phrases, by code. -/
def phrases : List (Nat × String) :=
  [(100, "Continue"), (101, "Switching Protocols"), (102, "Processing"), (103, "Early Hints"),
    (200, "OK"), (201, "Created"), (202, "Accepted"), (203, "Non Authoritative Information"),
    (204, "No Content"), (205, "Reset Content"), (206, "Partial Content"), (207, "Multi-Status"),
    (208, "Already Reported"), (226, "IM Used"),
    (300, "Multiple Choices"), (301, "Moved Permanently"), (302, "Found"), (303, "See Other"),
    (304, "Not Modified"), (305, "Use Proxy"), (307, "Temporary Redirect"),
    (308, "Permanent Redirect"),
    (400, "Bad Request"), (401, "Unauthorized"), (402, "Payment Required"), (403, "Forbidden"),
    (404, "Not Found"), (405, "Method Not Allowed"), (406, "Not Acceptable"),
    (407, "Proxy Authentication Required"), (408, "Request Timeout"), (409, "Conflict"),
    (410, "Gone"), (411, "Length Required"), (412, "Precondition Failed"),
    (413, "Payload Too Large"), (414, "URI Too Long"), (415, "Unsupported Media Type"),
    (416, "Range Not Satisfiable"), (417, "Expectation Failed"), (418, "I'm a teapot"),
    (421, "Misdirected Request"), (422, "Unprocessable Entity"), (423, "Locked"),
    (424, "Failed Dependency"), (425, "Too Early"), (426, "Upgrade Required"),
    (428, "Precondition Required"), (429, "Too Many Requests"),
    (431, "Request Header Fields Too Large"), (451, "Unavailable For Legal Reasons"),
    (500, "Internal Server Error"), (501, "Not Implemented"), (502, "Bad Gateway"),
    (503, "Service Unavailable"), (504, "Gateway Timeout"), (505, "HTTP Version Not Supported"),
    (506, "Variant Also Negotiates"), (507, "Insufficient Storage"), (508, "Loop Detected"),
    (510, "Not Extended"), (511, "Network Authentication Required")]

/-- The code with its standard phrase. -/
def render (s : Status) : String :=
  s!"{s.code} " ++ (phrases.lookup s.code).getD "<unknown status code>"

end Status

end InstanceLifecycle.Http
