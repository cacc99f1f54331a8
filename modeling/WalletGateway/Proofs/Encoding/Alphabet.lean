/-!
# Texts over an alphabet

Where each character stands for one number below a bound, and each of these numbers is written as
one character, texts and lists of numbers correspond to each other.
-/

namespace WalletGateway

variable {value? : Char → Option Nat} {char : Nat → Char} {bound : Nat}

theorem mapM_eq_some_iff_eq_map
    (h : ∀ c value, value? c = some value ↔ value < bound ∧ c = char value) {text : List Char}
    {values : List Nat} :
    text.mapM value? = some values ↔
      (∀ value ∈ values, value < bound) ∧ text = values.map char := by
  induction text generalizing values with
  | nil =>
    cases values <;> simp [List.mapM_nil]
  | cons c text ih =>
    rw [List.mapM_cons]
    simp only [Option.pure_def, Option.bind_eq_bind, Option.bind_eq_some_iff]
    constructor
    · rintro ⟨value, hvalue, rest, hrest, hvalues⟩
      obtain rfl := Option.some.inj hvalues
      obtain ⟨hlt, hc⟩ := (h c value).1 hvalue
      obtain ⟨hlts, htext⟩ := ih.1 hrest
      refine ⟨?_, by rw [List.map_cons, ← hc, ← htext]⟩
      intro other hother
      rcases List.mem_cons.1 hother with rfl | hother
      · exact hlt
      · exact hlts other hother
    · rintro ⟨hlts, htext⟩
      cases values with
      | nil => contradiction
      | cons value rest =>
        obtain ⟨hc, hrest⟩ := List.cons.inj htext
        exact ⟨value, (h c value).2 ⟨hlts value List.mem_cons_self, hc⟩, rest,
          ih.2 ⟨fun other hother => hlts other (List.mem_cons_of_mem _ hother), hrest⟩, rfl⟩

/-- A text with a character that stands for nothing is the only kind that cannot be read. -/
theorem mapM_eq_none_iff_exists {text : List Char} :
    text.mapM value? = none ↔ ∃ c ∈ text, value? c = none := by
  induction text with
  | nil => simp [List.mapM_nil]
  | cons c text ih =>
    rw [List.mapM_cons]
    cases hc : value? c with
    | none => simp [hc]
    | some value =>
      cases hrest : text.mapM value? with
      | none => simpa [hc, hrest] using ih
      | some rest => simpa [hc, hrest] using ih

end WalletGateway
