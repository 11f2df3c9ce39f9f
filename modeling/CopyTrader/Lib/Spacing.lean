import Mathlib.Algebra.Order.BigOperators.Group.List
import Mathlib.Algebra.Order.Ring.Nat
import Mathlib.Data.List.Perm.Subperm

/-!
# Times that are spaced

Times that lie pairwise a pause apart fall into different slots of that length. So a window holds
no more of them than slots, and what happens at them is bounded by the slots as well.
-/

namespace CopyTrader.Lib

def Spaced (pause x y : ℕ) : Prop := x + pause ≤ y ∨ y + pause ≤ x

/-- The slot of a time, counted from the start of the window. -/
def slot (pause start x : ℕ) : ℕ := (x - start) / pause

variable {pause start stop : ℕ}

theorem slot_lt_of_spaced (positive : 0 < pause) {x y : ℕ} (inside : start ≤ x) (after : x + pause ≤ y) :
    slot pause start x < slot pause start y := by
  have next : slot pause start x + 1 = (x - start + pause) / pause := (Nat.add_div_right _ positive).symm
  have grows : (x - start + pause) / pause ≤ slot pause start y := Nat.div_le_div_right (by omega)
  omega

theorem slot_ne_of_spaced (positive : 0 < pause) {x y : ℕ} (insideX : start ≤ x) (insideY : start ≤ y)
    (spaced : Spaced pause x y) : slot pause start x ≠ slot pause start y := by
  rcases spaced with after | before
  · exact Nat.ne_of_lt (slot_lt_of_spaced positive insideX after)
  · exact Nat.ne_of_gt (slot_lt_of_spaced positive insideY before)

theorem length_le_of_spaced (positive : 0 < pause) {times : List ℕ} (spaced : times.Pairwise (Spaced pause))
    (inside : ∀ x ∈ times, start ≤ x ∧ x ≤ stop) : times.length ≤ (stop - start) / pause + 1 := by
  have distinct : (times.map (slot pause start)).Nodup := by
    refine List.pairwise_map.mpr (spaced.imp_of_mem fun x y apart => ?_)
    exact slot_ne_of_spaced positive (inside _ x).1 (inside _ y).1 apart
  have within : times.map (slot pause start) ⊆ List.range ((stop - start) / pause + 1) := by
    intro n member
    obtain ⟨x, present, rfl⟩ := List.mem_map.mp member
    have last : slot pause start x ≤ (stop - start) / pause :=
      Nat.div_le_div_right (Nat.sub_le_sub_right (inside x present).2 start)
    exact List.mem_range.mpr (Nat.lt_succ_of_le last)
  simpa using (distinct.subperm within).length_le

/-- What happens at spaced times adds up to at most the cap in every slot. -/
theorem sum_le_of_spaced {α : Type} (positive : 0 < pause) {items : List α} {time amount : α → ℕ} {cap : ℕ}
    (spaced : items.Pairwise fun a b => Spaced pause (time a) (time b))
    (inside : ∀ a ∈ items, start ≤ time a ∧ time a ≤ stop) (capped : ∀ a ∈ items, amount a ≤ cap) :
    (items.map amount).sum ≤ ((stop - start) / pause + 1) * cap := by
  have few : items.length ≤ (stop - start) / pause + 1 := by
    rw [← List.length_map time]
    refine length_le_of_spaced positive (List.pairwise_map.mpr spaced) fun x member => ?_
    obtain ⟨a, present, rfl⟩ := List.mem_map.mp member
    exact inside a present
  have total := List.sum_le_card_nsmul (items.map amount) cap (List.forall_mem_map.mpr capped)
  rw [List.length_map] at total
  calc (items.map amount).sum ≤ items.length * cap := total
    _ ≤ ((stop - start) / pause + 1) * cap := Nat.mul_le_mul_right cap few

end CopyTrader.Lib
