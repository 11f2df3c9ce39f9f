import Mathlib.Data.List.Destutter
import Mathlib.Data.List.Sort

/-!
# Sets as sorted lists

A list sorted by a key, with each element once. When no two elements share a key the list is determined by
the set of its elements.
-/

namespace CopyTrader.Lib

variable {α β : Type} [LinearOrder β]

theorem pairwise_sort (key : α → β) (l : List α) :
    (l.mergeSort fun x y => decide (key x ≤ key y)).Pairwise fun x y => key x ≤ key y := by
  have trans (x y z : α) (first : decide (key x ≤ key y) = true) (second : decide (key y ≤ key z) = true) :
      decide (key x ≤ key z) = true := by
    simpa using le_trans (of_decide_eq_true first) (of_decide_eq_true second)
  have total (x y : α) : (decide (key x ≤ key y) || decide (key y ≤ key x)) = true := by
    simpa using le_total (key x) (key y)
  exact (List.pairwise_mergeSort trans total l).imp of_decide_eq_true

variable [DecidableEq α]

/-- Sort by the key, then drop every element that equals the one before it. -/
def sortDedup (key : α → β) (l : List α) : List α :=
  (l.mergeSort fun x y => decide (key x ≤ key y)).destutter (· ≠ ·)

variable {key : α → β} {l l' : List α}

section Injective

variable (injective : key.Injective)
include injective

/-- Equal elements stand side by side once the list is sorted, so none is left twice. -/
theorem sortDedup_eq_dedup (l : List α) :
    sortDedup key l = (l.mergeSort fun x y => decide (key x ≤ key y)).dedup := by
  have : Std.Antisymm fun x y => key x ≤ key y := ⟨fun x y first second => injective (le_antisymm first second)⟩
  exact (pairwise_sort key l).destutter_eq_dedup

theorem mem_sortDedup {x : α} : x ∈ sortDedup key l ↔ x ∈ l := by
  rw [sortDedup_eq_dedup injective, List.mem_dedup, List.mem_mergeSort]

theorem nodup_sortDedup (l : List α) : (sortDedup key l).Nodup := by
  rw [sortDedup_eq_dedup injective]
  exact List.nodup_dedup _

theorem pairwise_sortDedup (l : List α) : (sortDedup key l).Pairwise fun x y => key x < key y := by
  have weak : (sortDedup key l).Pairwise fun x y => key x ≤ key y :=
    (pairwise_sort key l).sublist (List.destutter_sublist _ _)
  exact weak.imp₂ (fun x y below apart => lt_of_le_of_ne below (injective.ne apart)) (nodup_sortDedup injective l)

/-- Two lists have the same normal form if and only if they have the same elements. -/
theorem sortDedup_eq_iff : sortDedup key l = sortDedup key l' ↔ ∀ x, x ∈ l ↔ x ∈ l' := by
  constructor
  · intro same x
    rw [← mem_sortDedup injective, same, mem_sortDedup injective]
  · intro same
    have : Std.Antisymm fun x y => key x < key y := ⟨fun x y first second => absurd second first.asymm⟩
    have : Std.Irrefl fun x y => key x < key y := ⟨fun x => lt_irrefl (key x)⟩
    refine (pairwise_sortDedup injective l).eq_of_mem_iff (pairwise_sortDedup injective l') fun x => ?_
    rw [mem_sortDedup injective, mem_sortDedup injective]
    exact same x

end Injective

end CopyTrader.Lib
