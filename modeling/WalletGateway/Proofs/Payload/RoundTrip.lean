import WalletGateway.Payload.Order
import WalletGateway.Proofs.Protobuf.RoundTrip

/-!
# Reading payloads that were written

Payloads that carry other records, and those records, are read back as they were written.  A proof
goes through the fields of the type in their order.

Reading needs a length below `2 ^ 64`.  `TransactionSign.length_encode_le` is the bound for a
transaction whose texts are bounded.
-/

namespace WalletGateway.Payload

open Protobuf Field

/-! ## Transactions -/

theorem SkycoinTransactionInput.isFaithful {depth : Nat} :
    Record.IsFaithful SkycoinTransactionInput depth :=
  .of_copies ⟨by decide, by decide⟩ fun _ =>
    .required Codec.text_isFaithful <|
    .optional Codec.word32_isFaithful rfl <|
    .nil _

theorem SkycoinTransactionOutput.isFaithful {depth : Nat} :
    Record.IsFaithful SkycoinTransactionOutput depth :=
  .of_copies ⟨by decide, by decide⟩ fun _ =>
    .required Codec.text_isFaithful <|
    .optional Codec.word32_isFaithful rfl <|
    .required Codec.word64_isFaithful <|
    .required Codec.word64_isFaithful <|
    .nil _

theorem TransactionSign.isFaithful : Record.IsFaithful TransactionSign 1 :=
  .of_copies ⟨by decide, by decide⟩ fun _ =>
    .required Codec.word32_isFaithful <|
    .repeated SkycoinTransactionInput.isFaithful.codec rfl (fun _ => rfl) (fun _ _ => rfl) <|
    .required Codec.word32_isFaithful <|
    .repeated SkycoinTransactionOutput.isFaithful.codec rfl (fun _ => rfl) (fun _ _ => rfl) <|
    .nil _

theorem SkycoinTransactionInput.length_encode_le {input : SkycoinTransactionInput} {bound : Nat}
    (hbound : bound < UInt64.size) (hhash : (Text.utf8 input.hash).length ≤ bound) :
    (Record.encode input).length ≤ bound + 40 := by
  simp only [Record.encode, Record.fields, List.length_flatMap, List.map_cons, List.map_nil,
    List.sum_cons, List.sum_nil]
  refine Nat.le_trans (Nat.add_le_add
    (length_required_le (by decide) (Codec.length_text_le hbound hhash)) (Nat.add_le_add
    (length_optional_le (by decide) Codec.length_word32_le) (Nat.le_refl 0))) ?_
  omega

theorem SkycoinTransactionOutput.length_encode_le {output : SkycoinTransactionOutput}
    {bound : Nat} (hbound : bound < UInt64.size)
    (haddress : (Text.utf8 output.address).length ≤ bound) :
    (Record.encode output).length ≤ bound + 80 := by
  simp only [Record.encode, Record.fields, List.length_flatMap, List.map_cons, List.map_nil,
    List.sum_cons, List.sum_nil]
  refine Nat.le_trans (Nat.add_le_add
    (length_required_le (by decide) (Codec.length_text_le hbound haddress)) (Nat.add_le_add
    (length_optional_le (by decide) Codec.length_word32_le) (Nat.add_le_add
    (length_required_le (by decide) (Codec.length_word64_le _)) (Nat.add_le_add
    (length_required_le (by decide) (Codec.length_word64_le _)) (Nat.le_refl 0))))) ?_
  omega

/-- A transaction is as long as its inputs and outputs, each with its longest text. -/
theorem TransactionSign.length_encode_le {transaction : TransactionSign} {bound : Nat}
    (hbound : bound + 80 < UInt64.size)
    (hinputs : ∀ input ∈ transaction.inputs, (Text.utf8 input.hash).length ≤ bound)
    (houtputs : ∀ output ∈ transaction.outputs, (Text.utf8 output.address).length ≤ bound) :
    (Record.encode transaction).length
      ≤ (transaction.inputs.length + transaction.outputs.length) * (bound + 100) + 40 := by
  have hinput : ∀ input ∈ transaction.inputs,
      ((Codec.record SkycoinTransactionInput).write input).length ≤ bound + 50 := by
    intro input hmem
    have hcontent := SkycoinTransactionInput.length_encode_le (by omega) (hinputs input hmem)
    have := length_delimited_le (Nat.lt_of_le_of_lt hcontent (by omega))
    exact Nat.le_trans this (by omega)
  have houtput : ∀ output ∈ transaction.outputs,
      ((Codec.record SkycoinTransactionOutput).write output).length ≤ bound + 90 := by
    intro output hmem
    have hcontent := SkycoinTransactionOutput.length_encode_le (by omega) (houtputs output hmem)
    have := length_delimited_le (Nat.lt_of_le_of_lt hcontent (by omega))
    exact Nat.le_trans this (by omega)
  simp only [Record.encode, Record.fields, List.length_flatMap, List.map_cons, List.map_nil,
    List.sum_cons, List.sum_nil]
  refine Nat.le_trans (Nat.add_le_add
    (length_required_le (by decide) (Codec.length_word32_le _)) (Nat.add_le_add
    (length_repeated_le (by decide) hinput) (Nat.add_le_add
    (length_required_le (by decide) (Codec.length_word32_le _)) (Nat.add_le_add
    (length_repeated_le (by decide) houtput) (Nat.le_refl 0))))) ?_
  have hmore : transaction.inputs.length * (bound + 50 + 10)
      ≤ transaction.inputs.length * (bound + 100) := Nat.mul_le_mul_left _ (by omega)
  have hsame : transaction.outputs.length * (bound + 90 + 10)
      = transaction.outputs.length * (bound + 100) := rfl
  rw [Nat.add_mul]
  omega

end WalletGateway.Payload
