import WalletGateway.Encoding.Base64
import WalletGateway.Hash.Hmac
import WalletGateway.Json.Record
import WalletGateway.Json.Value

/-!
# CSRF tokens

A token is a signed statement of when it expires: the statement and its keyed digest, both in
base64 for URLs, with a point between them.  A nonce makes every token different.

`Csrf.verify` looks at the form of the token, then at the signature, then at the statement and its
time.
-/

namespace WalletGateway.Api

/-- A moment, in nanoseconds since the start of 1970. -/
structure Instant where
  nanoseconds : Int
  deriving DecidableEq

/-- Whole milliseconds since the start of 1970, modulo `2 ^ 64`; zero before. -/
def Instant.milliseconds (instant : Instant) : UInt64 :=
  if instant.nanoseconds < 0 then 0
  else UInt64.ofNat (instant.nanoseconds / 1000000).toNat

/-- The moment some seconds later. -/
def Instant.addSeconds (instant : Instant) (seconds : Nat) : Instant :=
  ⟨instant.nanoseconds + seconds * 1000000000⟩

namespace Csrf

/-- For how many seconds a token is valid. -/
def maxAge : Nat := 30

/-- The length of a nonce in bytes. -/
def nonceSize : Nat := 64

/-- The header that carries a token. -/
def headerName : String := "X-CSRF-Token"

/-- What a token states. -/
structure Statement where
  nonce : String
  /-- The first millisecond at which the token is no longer valid. -/
  expiresAt : UInt64
  deriving DecidableEq

/-- The text of a statement. -/
def Statement.print (statement : Statement) : String :=
  (Json.Value.object [("nonce", .text statement.nonce),
    ("expiresAt", .number statement.expiresAt.toNat)]).print

/-- The members of a statement, as far as they are there. -/
structure Members where
  nonce : Option String := none
  expiresAt : Option UInt64 := none

/-- Reads the members of a statement. -/
def Members.reader : Json.Reader Members :=
  .record "CsrfToken" {}
    [.of "nonce" .text fun value members => { members with nonce := some value },
      .of "expiresAt" .word64 fun value members => { members with expiresAt := some value }]

/-- The statement that a text makes, if it makes one. -/
def Statement.parse? (text : List UInt8) : Option Statement :=
  match Json.decode Members.reader text with
  | .ok ⟨some nonce, some expiresAt⟩ => some ⟨nonce, expiresAt⟩
  | _ => none

/-- Why a token is refused. -/
inductive TokenError where
  | malformed
  | wrongSignature
  | expired
  deriving DecidableEq

/-- The text of a refusal. -/
def TokenError.message : TokenError → String
  | malformed => "invalid CSRF token"
  | wrongSignature => "invalid CSRF token signature"
  | expired => "CSRF token expired"

/-- The token for a statement. -/
def token (secret : Hmac.Key) (statement : List UInt8) : String :=
  String.ofList
    (Base64.encodeUrl statement ++ '.' :: Base64.encodeUrl (Hmac.sign secret statement))

/-- Issues a token with the given nonce. -/
def issue (secret : Hmac.Key) (nonce : List UInt8) (now : Instant) : String :=
  let statement : Statement :=
    { nonce := String.ofList (Base64.encodeStandard nonce)
      expiresAt := (now.addSeconds maxAge).milliseconds }
  token secret (Text.utf8 statement.print)

/-- The two halves of a token: what stands before and after its only point. -/
def halves? (token : List Char) : Option (List Char × List Char) :=
  match token.dropWhile (· != '.') with
  | [] => none
  | _ :: signature =>
    if signature.contains '.' then none else some (token.takeWhile (· != '.'), signature)

/-- Checks that a token is valid at a moment. -/
def verify (secret : Hmac.Key) (token : String) (now : Instant) : Except TokenError Unit :=
  match halves? token.toList with
  | none => .error .malformed
  | some (statement, signature) =>
    match Base64.decodeUrl? statement with
    | none => .error .malformed
    | some statement =>
      if Base64.decodeUrl? signature ≠ some (Hmac.sign secret statement) then
        .error .wrongSignature
      else
        match Statement.parse? statement with
        | none => .error .malformed
        | some statement =>
          if statement.expiresAt ≤ now.milliseconds then .error .expired else .ok ()

end Csrf

end WalletGateway.Api
