import WalletGateway.Text.Basic
import WalletGateway.Text.Hex

/-!
# Requests

A request is a method, a target, headers in the order in which they came, and a body.  Of a header
that comes more than once, the first one counts.
-/

namespace WalletGateway.Http

/-- What a request wants to do. -/
inductive Method where
  | get | head | post | put | delete | options
  | other (name : String)
  deriving DecidableEq

/-- The method of a name.  Names are in capitals. -/
def Method.ofName (name : String) : Method :=
  match name with
  | "GET" => get
  | "HEAD" => head
  | "POST" => post
  | "PUT" => put
  | "DELETE" => delete
  | "OPTIONS" => options
  | _ => other name

/-- What a request is about. -/
structure Target where
  path : String
  query : String := ""
  deriving DecidableEq

namespace Target

/-- A target without the scheme and the host that may stand before the path. -/
def withoutOrigin (text : List Char) : List Char :=
  match text with
  | '/' :: _ => text
  | ['*'] => text
  | _ =>
    let rest := text.dropWhile (· != ':')
    match rest with
    | ':' :: '/' :: '/' :: rest => rest.dropWhile fun c => c != '/' && c != '?' && c != '#'
    | _ => []

/-- The path and the query of a target; an empty path is the root. -/
def ofText (text : String) : Target :=
  let rest := (withoutOrigin text.toList).takeWhile (· != '#')
  let (path, query) := Text.cut '?' rest
  { path := if path.isEmpty then "/" else String.ofList path
    query := String.ofList query }

/-- The names and values of a form in the query: pieces between `&`, cut at the first `=`.  `+` is a
blank. -/
def form (target : Target) : List (List UInt8 × List UInt8) :=
  let plain (bytes : List UInt8) : List UInt8 :=
    Percent.decode (bytes.map fun byte => if byte = Text.ascii '+' then Text.ascii ' ' else byte)
  ((Text.split (Text.ascii '&') (Text.utf8 target.query)).filter fun piece => !piece.isEmpty).map
    fun piece =>
      let (name, value) := Text.cut (Text.ascii '=') piece
      (plain name, plain value)

end Target

/-- A request. -/
structure Request where
  method : Method
  target : Target
  /-- Names and values, in order. -/
  headers : List (String × String) := []
  body : List UInt8 := []

namespace Request

/-- The first value of a header.  Its name is given in lower case. -/
def header? (request : Request) (name : String) : Option String :=
  (request.headers.find? fun header => header.1.toLower = name).map (·.2)

end Request

/-- Whether a header value is plain text: visible ASCII characters, blanks and tabs. -/
def isPlain (value : String) : Bool :=
  value.toList.all fun c => (0x20 ≤ c.toNat && c.toNat < 0x7f) || c == '\t'

/-- Whether a header can have a value: no controls but tabs. -/
def isHeaderValue (value : String) : Bool :=
  value.toList.all fun c => (0x20 ≤ c.toNat && c.toNat != 0x7f) || c == '\t'

namespace Request

/-- The first value of a header, if it is plain text. -/
def plainHeader? (request : Request) (name : String) : Option String :=
  (request.header? name).filter isPlain

end Request

end WalletGateway.Http
