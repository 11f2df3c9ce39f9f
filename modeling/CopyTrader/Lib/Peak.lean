import Mathlib.Order.Bounds.Basic
import Mathlib.Order.MinMax

/-!
# Peaks

The greatest of the values seen since the last reset, over any linear order.
-/

namespace CopyTrader.Lib

/-- The value of the last reset, and what was seen since. -/
structure Trail (α : Type) where
  anchor : α
  seen : List α
  deriving DecidableEq

namespace Trail

variable {α : Type}

def reset (anchor : α) : Trail α := ⟨anchor, []⟩

def see (trail : Trail α) (x : α) : Trail α := { trail with seen := trail.seen ++ [x] }

def marks (trail : Trail α) : Set α := { x | x = trail.anchor ∨ x ∈ trail.seen }

theorem mem_marks_see {trail : Trail α} {x y : α} : y ∈ (trail.see x).marks ↔ y ∈ trail.marks ∨ y = x := by
  simp [marks, see, or_assoc]

variable [LinearOrder α] {trail : Trail α} {peak : α}

theorem isGreatest_reset (anchor : α) : IsGreatest (reset anchor).marks anchor := by
  constructor
  · exact Or.inl rfl
  · rintro x (rfl | absurdity)
    · exact le_refl x
    · cases absurdity

/-- The next value raises the peak or leaves it. -/
theorem isGreatest_see (greatest : IsGreatest trail.marks peak) (x : α) : IsGreatest (trail.see x).marks (max peak x) := by
  constructor
  · rw [mem_marks_see]
    rcases max_choice peak x with same | same
    · exact Or.inl (same.symm ▸ greatest.1)
    · exact Or.inr same
  · intro y member
    rcases mem_marks_see.mp member with before | rfl
    · exact (greatest.2 before).trans (le_max_left peak x)
    · exact le_max_right peak y

end Trail

end CopyTrader.Lib
