/-!
# Responses

A response is a status, headers in the order in which they are sent, and a body.  Of a status, the
customary reason is known where its code has one.
-/

namespace WalletGateway.Http

/-! ## Status codes -/

/-- A status code. -/
structure Status where
  code : Nat
  isLegal : 100 ≤ code ∧ code ≤ 999 := by decide
  deriving DecidableEq

namespace Status

/-- The status with a given code, if it is legal. -/
def ofCode? (code : Nat) : Option Status :=
  if h : 100 ≤ code ∧ code ≤ 999 then some ⟨code, h⟩ else none

/-- Codes with their reasons. -/
def reasons : List (Nat × String) :=
  [(100, "Continue"), (101, "Switching Protocols"), (102, "Processing"), (103, "Early Hints"),
    (200, "OK"), (201, "Created"), (202, "Accepted"), (203, "Non Authoritative Information"),
    (204, "No Content"), (205, "Reset Content"), (206, "Partial Content"), (207, "Multi-Status"),
    (208, "Already Reported"), (226, "IM Used"),
    (300, "Multiple Choices"), (301, "Moved Permanently"), (302, "Found"), (303, "See Other"),
    (304, "Not Modified"), (305, "Use Proxy"), (307, "Temporary Redirect"),
    (308, "Permanent Redirect"),
    (400, "Bad Request"), (401, "Unauthorized"), (402, "Payment Required"), (403, "Forbidden"),
    (404, "Not Found"), (405, "Method Not Allowed"), (406, "Not Acceptable"),
    (407, "Proxy Authentication Required"), (408, "Request Timeout"), (409, "Conflict"),
    (410, "Gone"), (411, "Length Required"), (412, "Precondition Failed"),
    (413, "Payload Too Large"), (414, "URI Too Long"), (415, "Unsupported Media Type"),
    (416, "Range Not Satisfiable"), (417, "Expectation Failed"), (418, "I'm a teapot"),
    (421, "Misdirected Request"), (422, "Unprocessable Entity"), (423, "Locked"),
    (424, "Failed Dependency"), (425, "Too Early"), (426, "Upgrade Required"),
    (428, "Precondition Required"), (429, "Too Many Requests"),
    (431, "Request Header Fields Too Large"), (451, "Unavailable For Legal Reasons"),
    (500, "Internal Server Error"), (501, "Not Implemented"), (502, "Bad Gateway"),
    (503, "Service Unavailable"), (504, "Gateway Timeout"), (505, "HTTP Version Not Supported"),
    (506, "Variant Also Negotiates"), (507, "Insufficient Storage"), (508, "Loop Detected"),
    (510, "Not Extended"), (511, "Network Authentication Required")]

/-- The reason of a status; empty where there is none. -/
def reason (status : Status) : String :=
  (reasons.lookup status.code).getD ""

/-- The request was answered. -/
def ok : Status := ⟨200, by decide⟩

/-- The request is malformed. -/
def badRequest : Status := ⟨400, by decide⟩

/-- The device's answer could not be trusted. -/
def unauthorized : Status := ⟨401, by decide⟩

/-- The request is not allowed. -/
def forbidden : Status := ⟨403, by decide⟩

/-- There is nothing at the path. -/
def notFound : Status := ⟨404, by decide⟩

/-- The path does not take the method. -/
def methodNotAllowed : Status := ⟨405, by decide⟩

/-- The device refuses. -/
def conflict : Status := ⟨409, by decide⟩

/-- The body is not JSON. -/
def unsupportedMediaType : Status := ⟨415, by decide⟩

/-- The request has a value that is not allowed. -/
def unprocessable : Status := ⟨422, by decide⟩

/-- The client has gone. -/
def clientClosed : Status := ⟨499, by decide⟩

/-- The device has failed. -/
def serverError : Status := ⟨500, by decide⟩

end Status

/-! ## Responses -/

/-- A response.  Header names are in lower case. -/
structure Response where
  status : Status
  headers : List (String × String)
  body : String
  deriving DecidableEq

namespace Response

/-- The values of a header, in order. -/
def header (response : Response) (name : String) : List String :=
  response.headers.filterMap fun (other, value) => if other = name then some value else none

end Response

end WalletGateway.Http
