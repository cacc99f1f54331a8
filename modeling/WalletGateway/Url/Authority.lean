import WalletGateway.Url.Host

/-!
# The authority of a URL

`Url.authority?` reads the part of a URL that says which host it belongs to, and at which port if
that is not the customary one of the scheme.  Where the URL is malformed up to there, or has no
host, there is nothing.

A URL is read without the blanks around it and without tabs and line ends.  Everything before the
last `@` of the authority is about the user.  The web's own schemes take `\` like `/`, and any
number of them before the authority.
-/

namespace WalletGateway.Url

/-- A host, and the port if it is not the customary one. -/
structure Authority where
  host : Host
  port : Option Nat
  deriving DecidableEq

/-- The text of an authority. -/
def Authority.text (authority : Authority) : String :=
  match authority.port with
  | none => authority.host.text
  | some port => authority.host.text ++ ":" ++ toString port

/-- The kinds of schemes that are read differently. -/
inductive SchemeKind where
  /-- A scheme of the web, with its customary port. -/
  | web (port : Nat)
  | file
  | other
  deriving DecidableEq

/-- The kind of a scheme in lower case. -/
def SchemeKind.of (scheme : String) : SchemeKind :=
  match scheme with
  | "http" | "ws" => .web 80
  | "https" | "wss" => .web 443
  | "ftp" => .web 21
  | "file" => .file
  | _ => .other

/-- Whether `\` counts as `/`. -/
def SchemeKind.takesBackslash : SchemeKind → Bool
  | .other => false
  | _ => true

/-- A URL without the blanks around it and without tabs and line ends. -/
def clean (text : List Char) : List Char :=
  let isEdge (c : Char) : Bool := c.toNat ≤ 0x20
  ((text.dropWhile isEdge).reverse.dropWhile isEdge).reverse.filter fun c =>
    c != '\t' && c != '\n' && c != '\r'

/-- Whether a character may stand in a scheme after the first one. -/
def isSchemeChar (c : Char) : Bool :=
  c.isAlphanum || c == '+' || c == '-' || c == '.'

/-- The scheme, in lower case, and what stands behind its colon. -/
def scheme? (text : List Char) : Option (String × List Char) :=
  let scheme := text.takeWhile isSchemeChar
  match text.head?, text.drop scheme.length with
  | some c, ':' :: rest =>
    if c.isAlpha then some (String.ofList (scheme.map Char.toLower), rest) else none
  | _, _ => none

/-- Whether a character ends an authority. -/
def isEnd (kind : SchemeKind) (c : Char) : Bool :=
  c == '/' || c == '?' || c == '#' || (kind.takesBackslash && c == '\\')

/-- What stands behind the last `@`, or all of it. -/
def hostPart (authority : List Char) : List Char :=
  (authority.reverse.takeWhile (· != '@')).reverse

/-- Cuts a host from its port: at the first colon outside of brackets. -/
def cutPort (bracket : Bool) : List Char → List Char × Option (List Char)
  | [] => ([], none)
  | c :: rest =>
    if c = ':' ∧ !bracket then ([], some rest)
    else
      let inside := if c = '[' then true else if c = ']' then false else bracket
      let (host, port) := cutPort inside rest
      (c :: host, port)

/-- Reads a port; nothing is left of the customary port and of no digits at all. -/
def port? (kind : SchemeKind) (digits : List Char) : Option (Option Nat) :=
  if digits.isEmpty then some none
  else if !Decimal.isNumeral digits then none
  else
    let port := Decimal.value digits
    if port > 65535 then none
    else if kind = .web port then some none
    else some (some port)

/-- Reads the authority up to its end. -/
def authorityOf? (kind : SchemeKind) (text : List Char) : Option Authority := do
  let (host, digits) := cutPort false (hostPart (text.takeWhile fun c => !isEnd kind c))
  if host.isEmpty then none
  else
    let host ← if kind = .other then Host.ofOpaque? host else Host.ofText? host
    let port ← port? kind ((digits.getD []).takeWhile (· != '\\'))
    return ⟨host, port⟩

/-- Whether a text is the letter of a drive, with a colon or a bar. -/
def isDrive : List Char → Bool
  | [letter, mark] => letter.isAlpha && (mark == ':' || mark == '|')
  | _ => false

/-- Whether a segment of a path leads nowhere. -/
def isHere (segment : List Char) : Bool :=
  [".", "%2e"].contains (String.ofList (segment.map Char.toLower))

/-- Whether a segment of a path leads up. -/
def isUp (segment : List Char) : Bool :=
  ["..", ".%2e", "%2e.", "%2e%2e"].contains (String.ofList (segment.map Char.toLower))

/-- Whether a path begins with a drive, once the segments that lead nowhere or up are followed.
`depth` is the number of segments passed. -/
def opensDrive (depth : Nat) : List (List Char) → Bool
  | [] => false
  | segment :: segments =>
    if isUp segment then opensDrive (depth - 1) segments
    else if isHere segment then opensDrive depth segments
    else (depth == 0 && isDrive segment) || opensDrive (depth + 1) segments

/-- Reads the host of a file.  The local host is none, and so is every host before a drive. -/
def fileAuthority? (text : List Char) : Option Authority :=
  let isSlash (c : Char) : Bool := c == '/' || c == '\\'
  match text with
  | first :: second :: rest =>
    if isSlash first && isSlash second then
      let part := rest.takeWhile fun c => !isEnd .file c
      let path := ((rest.drop part.length).takeWhile fun c => c != '?' && c != '#').drop 1
      if part.isEmpty || isDrive part then none
      else
        match Host.ofText? part with
        | none => none
        | some host =>
          let segments := Text.split '/' (path.map fun c => if c = '\\' then '/' else c)
          if host = .name "localhost" || opensDrive 0 segments then none else some ⟨host, none⟩
    else none
  | _ => none

/-- The authority of a URL. -/
def authority? (text : String) : Option Authority := do
  let (scheme, rest) ← scheme? (clean text.toList)
  let kind := SchemeKind.of scheme
  match kind with
  | .file => fileAuthority? rest
  | .web _ => authorityOf? kind (rest.dropWhile fun c => c == '/' || c == '\\')
  | .other =>
    match rest with
    | '/' :: '/' :: rest => authorityOf? kind rest
    | _ => none

end WalletGateway.Url
