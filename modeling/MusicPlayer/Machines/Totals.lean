import Mathlib.Data.List.Basic

/-!
# Totals over the parties of a machine

The parties of a machine are a list. A quantity of the whole is the sum of what each party has of
it, and it changes by what the one party that moves gains or loses.
-/
namespace Machines

variable {α : Type}

def total (weight : α → Nat) : List α → Nat
  | [] => 0
  | a :: as => weight a + total weight as

variable (weight : α → Nat)

@[simp] theorem total_nil : total weight [] = 0 := rfl

@[simp] theorem total_cons (a : α) (as : List α) :
    total weight (a :: as) = weight a + total weight as := rfl

@[simp] theorem total_append (as bs : List α) :
    total weight (as ++ bs) = total weight as + total weight bs := by
  induction as with
  | nil => simp
  | cons a as ih =>
    simp only [List.cons_append, total_cons, ih]
    omega

theorem total_modify {as : List α} {i : Nat} {a : α} (f : α → α) (found : as[i]? = some a) :
    total weight (as.modify i f) + weight a = total weight as + weight (f a) := by
  induction as generalizing i with
  | nil => simp at found
  | cons first rest ih =>
    cases i with
    | zero =>
      obtain rfl : first = a := by simpa using found
      simp only [List.modify_zero_cons, total_cons]
      omega
    | succ i =>
      have later := ih (i := i) (by simpa using found)
      simp only [List.modify_succ_cons, total_cons]
      omega

/-- Nothing is gained or lost by a party whose weight stays the same. -/
theorem total_modify_same {f : α → α} (same : ∀ a, weight (f a) = weight a) (as : List α)
    (i : Nat) : total weight (as.modify i f) = total weight as := by
  induction as generalizing i with
  | nil => simp
  | cons a as ih => cases i <;> simp [same, ih]

end Machines
