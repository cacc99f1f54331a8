import WalletGateway.Api.Csrf
import WalletGateway.Proofs.Encoding.Base64

/-!
# Which tokens are accepted

A text is accepted as a token exactly when it is the signed text of a statement that has not
expired, and it has expired exactly when it is the signed text of one that has.  For every statement
there is one signed text, because base64 is canonical: any other signature behind the same statement
is a wrong one, however it differs.

`verify_token` says what becomes of a signed text, and `refused_of_not_signed` that no other text
gets as far as the statement.
-/

namespace WalletGateway.Api.Csrf

/-- The two halves of a text are what stands before and after its only point. -/
theorem halves?_eq_some_iff {text first second : List Char} :
    halves? text = some (first, second) ↔
      text = first ++ '.' :: second ∧ '.' ∉ first ∧ '.' ∉ second := by
  unfold halves?
  constructor
  · intro h
    have htext : text.takeWhile (· != '.') ++ text.dropWhile (· != '.') = text :=
      List.takeWhile_append_dropWhile
    split at h
    · contradiction
    · rename_i point rest hrest
      split at h
      · contradiction
      · rename_i hsecond
        obtain ⟨rfl, rfl⟩ := Prod.mk.inj (Option.some.inj h)
        -- The list that is left begins where the predicate fails.
        have hpoint : point = '.' := by
          have hhead := List.head?_dropWhile_not (· != '.') text
          rw [hrest] at hhead
          simpa using hhead
        refine ⟨?_, ?_, by simpa using hsecond⟩
        · rw [hrest, hpoint] at htext
          exact htext.symm
        · intro hmem
          have hfirst := List.all_eq_true.1 List.all_takeWhile '.' hmem
          simp at hfirst
  · rintro ⟨rfl, hfirst, hsecond⟩
    have hplain : ∀ c ∈ first, (c != '.') = true := by
      intro c hc
      have hne : c ≠ '.' := fun heq => hfirst (heq ▸ hc)
      simpa using hne
    have htake : (first ++ '.' :: second).takeWhile (· != '.') = first := by
      rw [List.takeWhile_append_of_pos hplain]
      simp
    have hdrop : (first ++ '.' :: second).dropWhile (· != '.') = '.' :: second := by
      rw [List.dropWhile_append_of_pos hplain]
      simp
    rw [htake, hdrop]
    simp [hsecond]

/-- The text with a statement in its first half, and any other half behind it. -/
theorem halves?_encodeUrl (payload : List UInt8) {signature : List Char} (h : '.' ∉ signature) :
    halves? (Base64.encodeUrl payload ++ '.' :: signature)
      = some (Base64.encodeUrl payload, signature) :=
  halves?_eq_some_iff.2 ⟨rfl, Base64.point_notMem_encodeUrl payload, h⟩

/-- What is said of a signed text, by the statement that it makes. -/
def judge (statement : Option Statement) (now : Instant) : Except TokenError Unit :=
  match statement with
  | none => .error .malformed
  | some statement => if statement.expiresAt ≤ now.milliseconds then .error .expired else .ok ()

variable {secret : Hmac.Key} {now : Instant}

/-- A signed text is judged by its statement. -/
theorem verify_token (payload : List UInt8) :
    verify secret (token secret payload) now = judge (Statement.parse? payload) now := by
  have hhalves := halves?_encodeUrl payload
    (Base64.point_notMem_encodeUrl (Hmac.sign secret payload))
  unfold verify token
  simp only [String.toList_ofList, hhalves, Base64.decodeUrl?_encodeUrl, ne_eq, not_true_eq_false,
    if_false]
  rfl

/-- Behind a statement, every half but the one is a wrong signature. -/
theorem verify_of_other_signature (payload : List UInt8) {signature : List Char}
    (hpoint : '.' ∉ signature)
    (hother : signature ≠ Base64.encodeUrl (Hmac.sign secret payload)) :
    verify secret (String.ofList (Base64.encodeUrl payload ++ '.' :: signature)) now
      = .error .wrongSignature := by
  have hdecode : Base64.decodeUrl? signature ≠ some (Hmac.sign secret payload) :=
    fun h => hother (Base64.decodeUrl?_eq_some_iff.1 h)
  unfold verify
  simp only [String.toList_ofList, halves?_encodeUrl payload hpoint, Base64.decodeUrl?_encodeUrl,
    ne_eq, hdecode, not_false_eq_true, if_true]

/-- A text that is not signed is refused before its statement is looked at. -/
theorem refused_of_not_signed {text : String} (h : ∀ payload, text ≠ token secret payload) :
    verify secret text now = .error .malformed ∨
      verify secret text now = .error .wrongSignature := by
  unfold verify
  split
  · exact Or.inl rfl
  · rename_i first second hhalves
    split
    · exact Or.inl rfl
    · rename_i payload hpayload
      split
      · exact Or.inr rfl
      · rename_i hsignature
        obtain ⟨htext, -, -⟩ := halves?_eq_some_iff.1 hhalves
        obtain rfl := Base64.decodeUrl?_eq_some_iff.1 hpayload
        obtain rfl := Base64.decodeUrl?_eq_some_iff.1 (Decidable.not_not.1 hsignature)
        refine absurd ?_ (h payload)
        rw [token, ← htext, String.ofList_toList]

theorem judge_eq_ok_iff {statement : Option Statement} :
    judge statement now = .ok () ↔
      ∃ made, statement = some made ∧ now.milliseconds < made.expiresAt := by
  cases statement with
  | none => simp [judge]
  | some made => simp [judge, UInt64.not_le]

theorem judge_eq_expired_iff {statement : Option Statement} :
    judge statement now = .error .expired ↔
      ∃ made, statement = some made ∧ made.expiresAt ≤ now.milliseconds := by
  cases statement with
  | none => simp [judge]
  | some made => simp [judge]

/-- Any answer but the first two refusals is given to a signed text, for its statement. -/
theorem verify_eq_iff_of_ne {text : String} {answer : Except TokenError Unit}
    (hmalformed : answer ≠ .error .malformed) (hsignature : answer ≠ .error .wrongSignature) :
    verify secret text now = answer ↔
      ∃ payload, text = token secret payload ∧ judge (Statement.parse? payload) now = answer := by
  constructor
  · intro h
    by_cases hsigned : ∃ payload, text = token secret payload
    · obtain ⟨payload, rfl⟩ := hsigned
      exact ⟨payload, rfl, (verify_token payload).symm.trans h⟩
    · rcases refused_of_not_signed (not_exists.1 hsigned) with hrefused | hrefused
      · exact absurd (h.symm.trans hrefused) hmalformed
      · exact absurd (h.symm.trans hrefused) hsignature
  · rintro ⟨payload, rfl, h⟩
    exact (verify_token payload).trans h

/-- A text is accepted at a moment exactly when it is a statement in base64 with its signature, and
the statement expires later; it has expired exactly when it is such a text and the statement expires
at that moment or before.  Behind a statement there is one signature only: every other half without
a point is a wrong signature. -/
theorem accepted_texts_are_signed_statements (secret : Hmac.Key) (text : String) (now : Instant) :
    (verify secret text now = .ok () ↔ ∃ payload statement,
        text = String.ofList
          (Base64.encodeUrl payload ++ '.' :: Base64.encodeUrl (Hmac.sign secret payload)) ∧
        Statement.parse? payload = some statement ∧ now.milliseconds < statement.expiresAt) ∧
      (verify secret text now = .error .expired ↔ ∃ payload statement,
        text = String.ofList
          (Base64.encodeUrl payload ++ '.' :: Base64.encodeUrl (Hmac.sign secret payload)) ∧
        Statement.parse? payload = some statement ∧ statement.expiresAt ≤ now.milliseconds) ∧
      ∀ payload signature, '.' ∉ signature →
        signature ≠ Base64.encodeUrl (Hmac.sign secret payload) →
        text = String.ofList (Base64.encodeUrl payload ++ '.' :: signature) →
        verify secret text now = .error .wrongSignature := by
  refine ⟨?_, ?_, ?_⟩
  · rw [verify_eq_iff_of_ne (by simp) (by simp)]
    simp only [judge_eq_ok_iff, token, exists_and_left]
  · rw [verify_eq_iff_of_ne (by simp) (by simp)]
    simp only [judge_eq_expired_iff, token, exists_and_left]
  · rintro payload signature hpoint hother rfl
    exact verify_of_other_signature payload hpoint hother

/-- A signature that is filled up is a wrong one. -/
theorem padded_signature_is_wrong :
    let secret : Hmac.Key := ⟨List.replicate 64 0x5a, rfl⟩
    let payload := Text.utf8 "\x7b\"nonce\":\"\",\"expiresAt\":30000\x7d"
    let signature := Base64.encodeUrl (Hmac.sign secret payload) ++ ['=']
    '.' ∉ signature ∧ signature ≠ Base64.encodeUrl (Hmac.sign secret payload) ∧
      verify secret (String.ofList (Base64.encodeUrl payload ++ '.' :: signature)) ⟨0⟩
        = .error .wrongSignature := by
  intro secret payload signature
  have hpoint : '.' ∉ signature := by
    simp [signature, Base64.point_notMem_encodeUrl]
  have hother : signature ≠ Base64.encodeUrl (Hmac.sign secret payload) := by
    simp [signature]
  exact ⟨hpoint, hother,
    (accepted_texts_are_signed_statements secret _ ⟨0⟩).2.2 payload signature hpoint hother rfl⟩

end WalletGateway.Api.Csrf
