import Mathlib.Algebra.Order.BigOperators.Group.List
import Mathlib.Algebra.Order.Field.Basic
import Mathlib.Data.Nat.Cast.Order.Ring
import Mathlib.Order.Lattice.Nat
import Mathlib.Tactic.FieldSimp
import Mathlib.Tactic.Ring

/-!
# Means and extremes

The mean, the greatest and the least of a list of numbers, kept up as the list grows.
-/

namespace CopyTrader.Lib

section
variable {F : Type} [Field F] {l l' : List F} {b : F}

/-- Zero for no numbers. -/
def mean (l : List F) : F := l.sum / l.length

theorem mean_nil : mean ([] : List F) = 0 := by simp [mean]

theorem mean_perm (perm : l.Perm l') : mean l = mean l' := by
  unfold mean
  rw [perm.sum_eq, perm.length_eq]

/-- The next mean is made of the last one and the number of its elements. -/
theorem mean_snoc [CharZero F] (l : List F) (x : F) :
    mean (l ++ [x]) = (mean l * l.length + x) / (l.length + 1) := by
  unfold mean
  rw [List.sum_append, List.sum_singleton, List.length_append, List.length_singleton, Nat.cast_add, Nat.cast_one]
  cases l with
  | nil => simp
  | cons y ys =>
    have positive : ((y :: ys).length : F) ≠ 0 := by
      simp only [List.length_cons]
      exact Nat.cast_ne_zero.mpr (Nat.succ_ne_zero _)
    rw [div_mul_cancel₀ _ positive]

variable [LinearOrder F] [IsStrictOrderedRing F]

theorem sum_le_mul (bound : ∀ y ∈ l, y ≤ b) : l.sum ≤ l.length * b := by
  induction l with
  | nil => simp
  | cons y ys ih =>
    have here : y ≤ b := bound y List.mem_cons_self
    have later : ys.sum ≤ ys.length * b := ih fun z member => bound z (List.mem_cons_of_mem _ member)
    rw [List.sum_cons, List.length_cons, Nat.cast_succ, add_mul, one_mul, add_comm]
    exact add_le_add later here

theorem mul_le_sum (bound : ∀ y ∈ l, b ≤ y) : l.length * b ≤ l.sum := by
  induction l with
  | nil => simp
  | cons y ys ih =>
    have here : b ≤ y := bound y List.mem_cons_self
    have later : ys.length * b ≤ ys.sum := ih fun z member => bound z (List.mem_cons_of_mem _ member)
    rw [List.sum_cons, List.length_cons, Nat.cast_succ, add_mul, one_mul, add_comm]
    exact add_le_add here later

theorem length_pos_cast (nonempty : l ≠ []) : (0 : F) < l.length :=
  Nat.cast_pos.mpr (List.length_pos_iff.mpr nonempty)

theorem mean_le (nonempty : l ≠ []) (bound : ∀ y ∈ l, y ≤ b) : mean l ≤ b := by
  rw [mean, div_le_iff₀ (length_pos_cast nonempty), mul_comm]
  exact sum_le_mul bound

theorem le_mean (nonempty : l ≠ []) (bound : ∀ y ∈ l, b ≤ y) : b ≤ mean l := by
  rw [mean, le_div_iff₀ (length_pos_cast nonempty), mul_comm]
  exact mul_le_sum bound

end

section
variable {α : Type} [LinearOrder α] {l l' : List α}

theorem max?_snoc (l : List α) (x : α) : (l ++ [x]).max? = some ((l.max?.map (max · x)).getD x) := by
  cases l with
  | nil => rfl
  | cons y ys =>
    rw [List.cons_append, List.max?_cons', List.max?_cons', List.foldl_append]
    rfl

theorem min?_snoc (l : List α) (x : α) : (l ++ [x]).min? = some ((l.min?.map (min · x)).getD x) := by
  cases l with
  | nil => rfl
  | cons y ys =>
    rw [List.cons_append, List.min?_cons', List.min?_cons', List.foldl_append]
    rfl

theorem max?_perm (perm : l.Perm l') : l.max? = l'.max? := by
  cases found : l'.max? with
  | none =>
    rw [List.max?_eq_none_iff] at found ⊢
    exact List.perm_nil.mp (found ▸ perm)
  | some greatest =>
    rw [List.max?_eq_some_iff] at found ⊢
    exact ⟨perm.mem_iff.mpr found.1, fun b member => found.2 b (perm.mem_iff.mp member)⟩

theorem min?_perm (perm : l.Perm l') : l.min? = l'.min? := by
  cases found : l'.min? with
  | none =>
    rw [List.min?_eq_none_iff] at found ⊢
    exact List.perm_nil.mp (found ▸ perm)
  | some least =>
    rw [List.min?_eq_some_iff] at found ⊢
    exact ⟨perm.mem_iff.mpr found.1, fun b member => found.2 b (perm.mem_iff.mp member)⟩

end

end CopyTrader.Lib
