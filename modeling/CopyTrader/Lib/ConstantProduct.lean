import Mathlib.Order.Bounds.Basic

/-!
# Constant product

A pool holds `x` of what is paid and `y` of what is given. Rounding is down, so that the product of the two never
falls.
-/

namespace CopyTrader.Lib.ConstantProduct

/-- What the pool gives for `dx`. -/
def out (x y dx : ℕ) : ℕ := y * dx / (x + dx)

variable {x y dx dx' given : ℕ}

theorem out_mul_le : out x y dx * (x + dx) ≤ y * dx := Nat.div_mul_le_self _ _

theorem le_out_iff (pos : 0 < x) : given ≤ out x y dx ↔ given * (x + dx) ≤ y * dx :=
  Nat.le_div_iff_mul_le (Nat.add_pos_left pos dx)

/-- The product does not fall exactly when no more is given than the payment's share. -/
theorem keeps_iff (held : given ≤ y) : y * x ≤ (y - given) * (x + dx) ↔ given * (x + dx) ≤ y * dx := by
  have share : (y - given) * (x + dx) + given * (x + dx) = y * x + y * dx := by
    rw [← Nat.add_mul, Nat.sub_add_cancel held, Nat.mul_add]
  omega

theorem out_le : out x y dx ≤ y := by
  have whole : y * dx ≤ y * (x + dx) := Nat.mul_le_mul_left y (Nat.le_add_left dx x)
  exact Nat.div_le_of_le_mul (by rwa [Nat.mul_comm (x + dx)])

/-- The pool is never emptied. -/
theorem out_lt (pos : 0 < x) (held : 0 < y) : out x y dx < y := by
  have less : y * dx < y * (x + dx) := Nat.mul_lt_mul_of_pos_left (by omega) held
  exact Nat.div_lt_of_lt_mul (by rwa [Nat.mul_comm (x + dx)])

/-- The pool gives as much as it can without letting the product fall. -/
theorem out_isGreatest (pos : 0 < x) : IsGreatest {given | given ≤ y ∧ y * x ≤ (y - given) * (x + dx)} (out x y dx) := by
  constructor
  · exact ⟨out_le, (keeps_iff out_le).mpr out_mul_le⟩
  · rintro given ⟨held, keeps⟩
    exact (le_out_iff pos).mpr ((keeps_iff held).mp keeps)

theorem out_mono (pos : 0 < x) (more : dx ≤ dx') : out x y dx ≤ out x y dx' := by
  rw [le_out_iff pos]
  have kept : out x y dx * (x + dx) ≤ y * dx := out_mul_le
  have bound : out x y dx ≤ y := out_le
  calc out x y dx * (x + dx') = out x y dx * (x + dx) + out x y dx * (dx' - dx) := by
        rw [← Nat.mul_add]
        congr 1
        omega
    _ ≤ y * dx + y * (dx' - dx) := Nat.add_le_add kept (Nat.mul_le_mul_right _ bound)
    _ = y * dx' := by
        rw [← Nat.mul_add]
        congr 1
        omega

/-- Paying back what was given returns no more than was paid. -/
theorem out_back : out (y - out x y dx) (x + dx) (out x y dx) ≤ dx := by
  have bound : out x y dx ≤ y := out_le
  have kept : out x y dx * (x + dx) ≤ y * dx := out_mul_le
  refine Nat.div_le_of_le_mul ?_
  rw [Nat.sub_add_cancel bound]
  calc (x + dx) * out x y dx = out x y dx * (x + dx) := Nat.mul_comm _ _
    _ ≤ y * dx := kept

end CopyTrader.Lib.ConstantProduct
