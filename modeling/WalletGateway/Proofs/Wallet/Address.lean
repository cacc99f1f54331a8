import WalletGateway.Proofs.Encoding.Base58
import WalletGateway.Wallet.Address

/-!
# Addresses are checksummed keys

An address is the text of 21 bytes and their checksum.

* `checkAddress_eq_ok_iff` says that exactly these texts are accepted, and `key?_addressOf` that the
  bytes can be had back from one, so that no two strings of 21 bytes have the same address.
* `checkAddress_eq_notBase58_iff`, `checkAddress_eq_wrongLength_iff` and
  `checkAddress_eq_wrongChecksum_iff` say for which of three reasons a text is refused.
-/

namespace WalletGateway.Wallet

/-! ## Reading an address -/

theorem length_checksum (body : List UInt8) : (checksum body).length = 4 := by
  simp [checksum]

theorem checkAddress_encode (bytes : List UInt8) :
    checkAddress (Base58.encode bytes)
      = if bytes.length ≠ addressSize then .error .wrongLength
        else if checksum (bytes.take addressBodySize) ≠ bytes.drop addressBodySize then
          .error .wrongChecksum
        else .ok () := by
  unfold checkAddress
  rw [Base58.decode?_eq_some_iff.2 rfl]

/-- A text is that of some bytes, or has a character that no such text has. -/
theorem eq_encode_or_foreign (text : String) :
    (∃ bytes, text = Base58.encode bytes) ∨ ∃ c ∈ text.toList, c ∉ Base58.alphabet := by
  cases hread : Base58.decode? text with
  | none => exact Or.inr (Base58.decode?_eq_none_iff.1 hread)
  | some bytes => exact Or.inl ⟨bytes, Base58.decode?_eq_some_iff.1 hread⟩

theorem checkAddress_of_foreign {text : String} (h : ∃ c ∈ text.toList, c ∉ Base58.alphabet) :
    checkAddress text = .error .notBase58 := by
  unfold checkAddress
  rw [Base58.decode?_eq_none_iff.2 h]

/-! ## The three faults -/

theorem checkAddress_eq_notBase58_iff {text : String} :
    checkAddress text = .error .notBase58 ↔ ∃ c ∈ text.toList, c ∉ Base58.alphabet := by
  constructor
  · intro h
    rcases eq_encode_or_foreign text with ⟨bytes, rfl⟩ | hforeign
    · rw [checkAddress_encode] at h
      split at h
      · simp at h
      · split at h <;> simp at h
    · exact hforeign
  · exact checkAddress_of_foreign

theorem checkAddress_eq_wrongLength_iff {text : String} :
    checkAddress text = .error .wrongLength ↔
      ∃ bytes, text = Base58.encode bytes ∧ bytes.length ≠ addressSize := by
  constructor
  · intro h
    rcases eq_encode_or_foreign text with ⟨bytes, rfl⟩ | hforeign
    · rw [checkAddress_encode] at h
      split at h
      · rename_i hlength
        exact ⟨bytes, rfl, hlength⟩
      · split at h <;> simp at h
    · simp [checkAddress_of_foreign hforeign] at h
  · rintro ⟨bytes, rfl, hlength⟩
    rw [checkAddress_encode, if_pos hlength]

theorem checkAddress_eq_wrongChecksum_iff {text : String} :
    checkAddress text = .error .wrongChecksum ↔
      ∃ bytes, text = Base58.encode bytes ∧ bytes.length = addressSize ∧
        checksum (bytes.take addressBodySize) ≠ bytes.drop addressBodySize := by
  constructor
  · intro h
    rcases eq_encode_or_foreign text with ⟨bytes, rfl⟩ | hforeign
    · rw [checkAddress_encode] at h
      split at h
      · simp at h
      · rename_i hlength
        split at h
        · rename_i hsum
          exact ⟨bytes, rfl, not_not.1 hlength, hsum⟩
        · simp at h
    · simp [checkAddress_of_foreign hforeign] at h
  · rintro ⟨bytes, rfl, hlength, hsum⟩
    rw [checkAddress_encode, if_neg (not_not.2 hlength), if_pos hsum]

/-! ## Accepted addresses -/

/-- What has passed the checks are the bytes of a key with its checksum. -/
theorem checkAddress_eq_ok_iff {text : String} :
    checkAddress text = .ok () ↔
      ∃ body : List UInt8, body.length = addressBodySize ∧ text = addressOf body := by
  constructor
  · intro h
    rcases eq_encode_or_foreign text with ⟨bytes, rfl⟩ | hforeign
    · rw [checkAddress_encode] at h
      split at h
      · simp at h
      · rename_i hlength
        split at h
        · simp at h
        · rename_i hsum
          have hbody : (bytes.take addressBodySize).length = addressBodySize := by
            rw [List.length_take, not_not.1 hlength]
            rfl
          refine ⟨bytes.take addressBodySize, hbody, ?_⟩
          rw [addressOf, not_not.1 hsum, List.take_append_drop]
    · simp [checkAddress_of_foreign hforeign] at h
  · rintro ⟨body, hbody, rfl⟩
    have hlength : (body ++ checksum body).length = addressSize := by
      rw [List.length_append, hbody, length_checksum]
      rfl
    rw [addressOf, checkAddress_encode, if_neg (not_not.2 hlength), if_neg (not_not.2 ?_)]
    rw [← hbody, List.take_left, List.drop_left]

/-- The key that a text stands for, if it can be read. -/
def key? (text : String) : Option (List UInt8) :=
  (Base58.decode? text).map (·.take addressBodySize)

theorem key?_addressOf {body : List UInt8} (h : body.length = addressBodySize) :
    key? (addressOf body) = some body := by
  rw [key?, addressOf, Base58.decode?_eq_some_iff.2 rfl, Option.map_some, ← h, List.take_left]

/-- The texts that are accepted as addresses are exactly those of 21 bytes with the first four bytes
of their SHA-256 digest behind them, in base 58; and each string of 21 bytes has exactly one text
that is accepted and stands for it.  A text is refused for a character outside the alphabet first,
then for its length, then for its checksum. -/
theorem accepted_addresses_are_canonical :
    (∀ text, checkAddress text = .ok () ↔
        ∃ key : List UInt8, key.length = 21 ∧
          text = Base58.encode (key ++ (Sha256.hash key).take 4)) ∧
      (∀ key : { key : List UInt8 // key.length = 21 },
        ∃! text, checkAddress text = .ok () ∧ key? text = some key.1) ∧
      ∀ text,
        (checkAddress text = .error .notBase58 ↔ ∃ c ∈ text.toList, c ∉ Base58.alphabet) ∧
        (checkAddress text = .error .wrongLength ↔
          ∃ bytes, text = Base58.encode bytes ∧ bytes.length ≠ 25) ∧
        (checkAddress text = .error .wrongChecksum ↔
          ∃ bytes, text = Base58.encode bytes ∧ bytes.length = 25 ∧
            (Sha256.hash (bytes.take 21)).take 4 ≠ bytes.drop 21) := by
  refine ⟨fun text => checkAddress_eq_ok_iff, fun key => ?_, fun text =>
    ⟨checkAddress_eq_notBase58_iff, checkAddress_eq_wrongLength_iff,
      checkAddress_eq_wrongChecksum_iff⟩⟩
  refine ⟨addressOf key.1, ⟨checkAddress_eq_ok_iff.2 ⟨key.1, key.2, rfl⟩,
    key?_addressOf key.2⟩, ?_⟩
  rintro text ⟨haccepted, hkey⟩
  obtain ⟨body, hbody, rfl⟩ := checkAddress_eq_ok_iff.1 haccepted
  rw [key?_addressOf hbody, Option.some.injEq] at hkey
  rw [hkey]

end WalletGateway.Wallet
