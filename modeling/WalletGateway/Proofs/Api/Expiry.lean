import WalletGateway.Proofs.Api.Tokens
import WalletGateway.Proofs.Json.Typed

/-!
# How long a token is valid

An issued token makes its statement as it was issued (`Statement.parse?_print`), so nothing but the
time decides about it: `issued_token_is_valid_for_its_age`.

Moments are compared by their milliseconds.  These begin again at zero after `2 ^ 64`, and are zero
before 1970.
-/

namespace WalletGateway.Api

/-- Milliseconds are whole ones, of which 64 bits are kept. -/
theorem Instant.toNat_milliseconds (instant : Instant) :
    instant.milliseconds.toNat = (instant.nanoseconds / 1000000).toNat % UInt64.size := by
  unfold milliseconds
  split
  · rename_i hbefore
    have hnone : (instant.nanoseconds / 1000000).toNat = 0 := by omega
    rw [hnone]
    rfl
  · exact UInt64.toNat_ofNat'

namespace Csrf

/-- A statement is read from its own text. -/
theorem Statement.parse?_print (statement : Statement) :
    Statement.parse? (Text.utf8 statement.print) = some statement := by
  obtain ⟨nonce, expiresAt⟩ := statement
  have hreads : Members.reader.Reads
      (.object [("nonce", .text nonce), ("expiresAt", .number expiresAt.toNat)])
      ⟨some nonce, some expiresAt⟩ :=
    Json.Reader.record_reads <|
      .cons _ rfl (by decide) (Json.Member.of_reads (Json.Reader.text_reads nonce) _ _ _) <|
      .cons _ rfl (by decide) (Json.Member.of_reads (Json.Reader.word64_reads expiresAt) _ _ _) <|
      .nil _ _
  rw [Statement.parse?, Statement.print, Json.decode_print hreads]

/-- An issued token is valid until thirty seconds after its issue, and has expired from then on.  It
is never refused for its form or its signature. -/
theorem issued_token_is_valid_for_its_age (secret : Hmac.Key) (nonce : List UInt8)
    (issued now : Instant) :
    let milliseconds (nanoseconds : Int) : Nat := (nanoseconds / 1000000).toNat % UInt64.size
    verify secret (issue secret nonce issued) now
      = if milliseconds now.nanoseconds < milliseconds (issued.nanoseconds + 30 * 1000000000) then
          .ok ()
        else .error .expired := by
  intro milliseconds
  have hend : (issued.addSeconds maxAge).milliseconds.toNat
      = milliseconds (issued.nanoseconds + 30 * 1000000000) :=
    Instant.toNat_milliseconds _
  have hbefore : milliseconds now.nanoseconds = now.milliseconds.toNat :=
    (Instant.toNat_milliseconds now).symm
  rw [issue, verify_token, Statement.parse?_print, hbefore, ← hend]
  simp only [judge, UInt64.le_iff_toNat_le]
  split
  · rename_i hpast
    rw [if_neg (Nat.not_lt.2 hpast)]
  · rename_i hvalid
    rw [if_pos (Nat.lt_of_not_le hvalid)]

end Csrf

end WalletGateway.Api
