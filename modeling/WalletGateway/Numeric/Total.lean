/-!
# Totals

The sum of a measure over the members of a list, and what becomes of it when one member changes.
-/

namespace WalletGateway

variable {α : Type}

/-- The sum of a measure over the members of a list. -/
def total (measure : α → Nat) : List α → Nat
  | [] => 0
  | first :: rest => measure first + total measure rest

theorem total_append (measure : α → Nat) (front back : List α) :
    total measure (front ++ back) = total measure front + total measure back := by
  induction front with
  | nil => simp [total]
  | cons first rest ih =>
    simp only [List.cons_append, total, ih]
    omega

/-- A member that is replaced takes its share with it. -/
theorem total_set (measure : α → Nat) (new : α) :
    ∀ {list : List α} {index : Nat} {old : α}, list[index]? = some old →
      total measure (list.set index new) + measure old = total measure list + measure new
  | [], _, _, h => by simp at h
  | first :: rest, 0, _, h => by
    obtain rfl : first = _ := by simpa using h
    simp only [List.set_cons_zero, total]
    omega
  | first :: rest, index + 1, _, h => by
    have := total_set measure new (show rest[index]? = some _ by simpa using h)
    simp only [List.set_cons_succ, total]
    omega

end WalletGateway
