import WalletGateway.Proofs.Payload.Table

/-!
# Payloads with bounded texts

A payload is read back from its message if it is not too long, which it is not when none of its
texts is.  `Field.Fits` says of a field that it takes no more room than a text of the given length,
with a lemma for each kind of field, and `Field.AllFit` says it of all fields of a record.
`Payload.IsCarried.carries` is the conclusion for the message.
-/

namespace WalletGateway

namespace Protobuf

variable {α γ : Type} {codec : Codec γ} {tag bound : Nat} {name : String} {record : α}

/-- The field takes no more room than a text of the given length. -/
def Field.Fits (bound : Nat) (record : α) (field : Field α) : Prop :=
  (field.write record).length ≤ bound + 20

namespace Field.Fits

theorem required {get : α → γ} {set : γ → α → α} (htag : tag * 8 + 8 ≤ UInt32.size)
    (h : (codec.write (get record)).length ≤ bound + 10) :
    (Field.required tag name codec get set).Fits bound record :=
  length_required_le htag h

theorem optional {get : α → Option γ} {set : Option γ → α → α}
    (htag : tag * 8 + 8 ≤ UInt32.size)
    (h : ∀ value, get record = some value → (codec.write value).length ≤ bound + 10) :
    (Field.optional tag name codec get set).Fits bound record := by
  cases hvalue : get record with
  | none => simp [Field.Fits, Field.optional, hvalue]
  | some value =>
    have hentry := length_entry_le htag (h value hvalue)
    simpa [Field.Fits, Field.optional, hvalue] using hentry

theorem text {get : α → String} {set : String → α → α}
    (h : (Text.utf8 (get record)).length ≤ bound)
    (htag : tag * 8 + 8 ≤ UInt32.size := by decide)
    (hbound : bound < UInt64.size := by decide) :
    (Field.required tag name .text get set).Fits bound record :=
  required htag (Codec.length_text_le hbound h)

theorem optionalText {get : α → Option String} {set : Option String → α → α}
    (h : ∀ value, get record = some value → (Text.utf8 value).length ≤ bound)
    (htag : tag * 8 + 8 ≤ UInt32.size := by decide)
    (hbound : bound < UInt64.size := by decide) :
    (Field.optional tag name .text get set).Fits bound record :=
  optional htag fun value hvalue => Codec.length_text_le hbound (h value hvalue)

theorem word32 {get : α → UInt32} {set : UInt32 → α → α}
    (htag : tag * 8 + 8 ≤ UInt32.size := by decide) :
    (Field.required tag name .word32 get set).Fits bound record :=
  required htag (Nat.le_trans (Codec.length_word32_le _) (Nat.le_add_left _ _))

theorem optionalWord32 {get : α → Option UInt32} {set : Option UInt32 → α → α}
    (htag : tag * 8 + 8 ≤ UInt32.size := by decide) :
    (Field.optional tag name .word32 get set).Fits bound record :=
  optional htag fun _ _ => Nat.le_trans (Codec.length_word32_le _) (Nat.le_add_left _ _)

theorem optionalFlag {get : α → Option Bool} {set : Option Bool → α → α}
    (htag : tag * 8 + 8 ≤ UInt32.size := by decide) :
    (Field.optional tag name .flag get set).Fits bound record := by
  refine optional htag fun value _ => ?_
  have hsmall : (if value then 1 else 0) < UInt64.size := by cases value <;> decide
  exact Nat.le_trans (length_varint_le hsmall) (Nat.le_add_left _ _)

end Field.Fits

/-- Every field takes no more room than a text of the given length. -/
def Field.AllFit (bound : Nat) (record : α) (fields : List (Field α)) : Prop :=
  ∀ field ∈ fields, field.Fits bound record

namespace Field.AllFit

theorem nil : AllFit bound record [] := by
  simp [AllFit]

theorem cons {field : Field α} {fields : List (Field α)} (h : field.Fits bound record)
    (hfields : AllFit bound record fields) : AllFit bound record (field :: fields) :=
  List.forall_mem_cons.2 ⟨h, hfields⟩

end Field.AllFit

/-- A record takes as much room as its fields. -/
theorem Record.length_encode_le [Record α]
    (h : Field.AllFit bound record Record.fields) :
    (Record.encode record).length ≤ (Record.fields (α := α)).length * (bound + 20) := by
  unfold Record.encode
  generalize Record.fields (α := α) = fields at h
  induction fields with
  | nil => simp
  | cons field fields ih =>
    have hfirst : (field.write record).length ≤ bound + 20 := h field (by simp)
    have hrest := ih fun other hother => h other (List.mem_cons_of_mem _ hother)
    rw [List.flatMap_cons, List.length_append, List.length_cons, Nat.succ_mul]
    omega

end Protobuf

/-- A message carries a payload whose fields are short. -/
theorem Payload.IsCarried.carries {α : Type} [Payload α] (h : IsCarried α) (payload : α)
    (bound : Nat) (hfits : Protobuf.Field.AllFit bound payload Protobuf.Record.fields)
    (hshort : (Protobuf.Record.fields (α := α)).length * (bound + 20) < UInt64.size) :
    (Message.of payload).kind? = some (Payload.kind α) ∧
      (Message.of payload).decode α = .ok payload := by
  have hlength := Nat.lt_of_le_of_lt (Protobuf.Record.length_encode_le hfits) hshort
  exact ⟨Message.Kind.ofCode?_code _, h.isFaithful.decode_encode (by decide) hlength⟩

end WalletGateway
