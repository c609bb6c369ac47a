/-
# The network

Origins that are far away are asked over HTTP. A network answers one request at a time: it
may not reach the server, or the answer may break off before its end. Redirections are its
own affair; what it reports is the last answer.
-/

import Federation.Origin.Basic
import Federation.Text.Blank

namespace Federation.Origin

/-- A request for the document at an address. -/
structure Request where
  address : String
  accept : String
  /-- The entity tag of the copy at hand. -/
  ifNoneMatch : Option String
  /-- The date of the copy at hand. -/
  ifModifiedSince : Option String
deriving DecidableEq, Repr

/-- An answer from a server. -/
structure Response where
  status : Nat
  headers : List (String × String)
  /-- The body, unless it broke off. -/
  body : Except String (List UInt8)

/-- A network with a state of some type. -/
structure Network (ν : Type) where
  /-- The answer to a request, or why there is none. -/
  exchange : Request → ν → Except String Response × ν

namespace Response

/-- Is the answer one of success? -/
def isSuccess (r : Response) : Bool := 200 ≤ r.status && r.status < 300

/-- Characters that may stand in a header that is read as text. -/
def isHeaderChar (c : Char) : Bool := c = '\t' || (32 ≤ c.toNat && c.toNat < 127)

/-- The value of a header, if there is one and it can be read as text. -/
def header? (r : Response) (name : String) : Option String :=
  match r.headers.find? fun (other, _) => Text.asciiLower other == Text.asciiLower name with
  | some (_, value) => if value.toList.all isHeaderChar then some (Text.trim value) else none
  | none => none

/-- The words that go with a status, by the registry of HTTP. -/
def reasons : List (Nat × String) :=
  [(100, "Continue"), (101, "Switching Protocols"), (102, "Processing"), (200, "OK"),
    (201, "Created"), (202, "Accepted"), (203, "Non Authoritative Information"),
    (204, "No Content"), (205, "Reset Content"), (206, "Partial Content"), (207, "Multi-Status"),
    (208, "Already Reported"), (226, "IM Used"), (300, "Multiple Choices"),
    (301, "Moved Permanently"), (302, "Found"), (303, "See Other"), (304, "Not Modified"),
    (305, "Use Proxy"), (307, "Temporary Redirect"), (308, "Permanent Redirect"),
    (400, "Bad Request"), (401, "Unauthorized"), (402, "Payment Required"), (403, "Forbidden"),
    (404, "Not Found"), (405, "Method Not Allowed"), (406, "Not Acceptable"),
    (407, "Proxy Authentication Required"), (408, "Request Timeout"), (409, "Conflict"),
    (410, "Gone"), (411, "Length Required"), (412, "Precondition Failed"),
    (413, "Payload Too Large"), (414, "URI Too Long"), (415, "Unsupported Media Type"),
    (416, "Range Not Satisfiable"), (417, "Expectation Failed"), (418, "I'm a teapot"),
    (421, "Misdirected Request"), (422, "Unprocessable Entity"), (423, "Locked"),
    (424, "Failed Dependency"), (425, "Too Early"), (426, "Upgrade Required"),
    (428, "Precondition Required"), (429, "Too Many Requests"),
    (431, "Request Header Fields Too Large"), (451, "Unavailable For Legal Reasons"),
    (500, "Internal Server Error"), (501, "Not Implemented"), (502, "Bad Gateway"),
    (503, "Service Unavailable"), (504, "Gateway Timeout"), (505, "HTTP Version Not Supported"),
    (506, "Variant Also Negotiates"), (507, "Insufficient Storage"), (508, "Loop Detected"),
    (510, "Not Extended"), (511, "Network Authentication Required")]

/-- A status with its words. -/
def statusText (r : Response) : String :=
  toString r.status ++ " " ++ (reasons.lookup r.status).getD "<unknown status code>"

end Response

/-- The failure of a request that got no answer. -/
def unreached (address reason : String) : Failure :=
  .fetchFailed ("GET " ++ address ++ " failed: " ++ reason)

/-- The failure of an answer that is not one of success. -/
def refused (address : String) (r : Response) : Failure :=
  .fetchFailed ("GET " ++ address ++ " returned " ++ r.statusText)

/-- The failure of an answer that broke off. -/
def brokenOff (address reason : String) : Failure :=
  .fetchFailed ("Reading " ++ address ++ " failed: " ++ reason)

/-- The failure of an answer that is no document. -/
def malformed (address : String) (cause : Failure) : Failure :=
  .fetchFailed ("Malformed metadata from " ++ address ++ ": " ++ cause.message)

/-- Sends a request, while others may run, and waits for the answer. -/
def send {ν : Type} (network : Network ν) (request : Request) : Task (OriginScope ν) Response := do
  .pauseIf true
  let answer ← .perform fun s =>
    let (answer, state) := network.exchange request s.state
    (answer, { s with state })
  match answer with
  | .ok response => return response
  | .error reason => .fail (unreached request.address reason)

/-- The body of an answer. -/
def bodyOf {σ : Type} (address : String) (r : Response) : Task σ (List UInt8) :=
  match r.body with
  | .ok bytes => pure bytes
  | .error reason => .fail (brokenOff address reason)

end Federation.Origin
