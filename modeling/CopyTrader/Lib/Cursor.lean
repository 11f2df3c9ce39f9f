import Mathlib.Data.Int.Order.Basic
import Mathlib.Data.List.Infix

/-!
# A log read through a cursor

Entries carry ascending numbers. A reader asks for the entries from a number on and is given the
first few of them; the number after the last entry it has read is where it goes on.
-/

namespace CopyTrader.Lib.Cursor

variable {α : Type}

def Ascending (log : List (ℤ × α)) : Prop := log.Pairwise fun u v => u.1 < v.1

def before (log : List (ℤ × α)) (c : ℤ) : List (ℤ × α) := log.filter fun u => u.1 < c

def since (log : List (ℤ × α)) (c : ℤ) : List (ℤ × α) := log.filter fun u => c ≤ u.1

section
variable {log batch rest : List (ℤ × α)} {u v : ℤ × α} {c : ℤ}

@[simp] theorem mem_before : v ∈ before log c ↔ v ∈ log ∧ v.1 < c := by simp [before]

@[simp] theorem mem_since : v ∈ since log c ↔ v ∈ log ∧ c ≤ v.1 := by simp [since]

theorem Ascending.concat (ascending : Ascending log) (later : ∀ v ∈ log, v.1 < u.1) : Ascending (log ++ [u]) :=
  List.pairwise_append.mpr ⟨ascending, List.pairwise_singleton .., fun v member _ last =>
    List.mem_singleton.mp last ▸ later v member⟩

theorem Ascending.before_append_since (ascending : Ascending log) (c : ℤ) : before log c ++ since log c = log := by
  induction log with
  | nil => rfl
  | cons v log ih =>
    obtain ⟨least, ascending⟩ := List.pairwise_cons.mp ascending
    have all := ih ascending
    unfold before since at all ⊢
    by_cases small : v.1 < c
    · simp [small, all]
    · have none : before log c = [] := by
        rw [before, List.filter_eq_nil_iff]
        intro w member
        have larger := least w member
        simp only [decide_eq_true_eq]
        omega
      rw [before] at none
      rw [none, List.nil_append] at all
      simp [small, not_lt.mp small, none, all]

/-- Entries that are written later come after those that were given out. -/
theorem prefix_concat (given : batch <+: since log c) (u : ℤ × α) : batch <+: since (log ++ [u]) c := by
  rw [since, List.filter_append]
  exact given.trans (List.prefix_append ..)

theorem first_mem (given : u :: rest <+: since log c) : u ∈ log ∧ c ≤ u.1 :=
  mem_since.mp (given.subset List.mem_cons_self)

section
variable (ascending : Ascending log) (given : u :: rest <+: since log c)
include ascending given

theorem first_least (member : v ∈ since log c) : v = u ∨ u.1 < v.1 := by
  obtain ⟨more, all⟩ := given
  have sorted : Ascending (u :: rest ++ more) := all ▸ ascending.sublist List.filter_sublist
  rw [← all] at member
  rcases List.mem_cons.mp member with rfl | later
  · exact .inl rfl
  · exact .inr ((List.pairwise_cons.mp sorted).1 v later)

/-- Up to the first entry given out, there is nothing else than what the reader had left behind. -/
theorem mem_of_le (member : v ∈ log) (within : v.1 < u.1 + 1) : v.1 < c ∨ v = u := by
  by_cases behind : v.1 < c
  · exact .inl behind
  · rcases first_least ascending given (mem_since.mpr ⟨member, not_lt.mp behind⟩) with same | later
    · exact .inr same
    · omega

theorem since_succ : rest <+: since log (u.1 + 1) := by
  have reached : c ≤ u.1 := (first_mem given).2
  obtain ⟨more, all⟩ := given
  have sorted : Ascending (u :: rest ++ more) := all ▸ ascending.sublist List.filter_sublist
  have narrowed : since log (u.1 + 1) = since (since log c) (u.1 + 1) := by
    rw [since, since, since, List.filter_filter]
    apply List.filter_congr
    intro v _
    rw [Bool.eq_iff_iff]
    simp only [Bool.and_eq_true, decide_eq_true_eq]
    omega
  have larger : ∀ v ∈ rest ++ more, u.1 + 1 ≤ v.1 := fun v member => (List.pairwise_cons.mp sorted).1 v member
  rw [narrowed, ← all, List.cons_append, since, List.filter_cons_of_neg (by rw [decide_eq_true_eq]; omega),
    List.filter_eq_self.mpr fun v member => decide_eq_true (larger v member)]
  exact List.prefix_append ..

theorem before_succ : before log (u.1 + 1) = before log c ++ [u] := by
  have reached : c ≤ u.1 := (first_mem given).2
  have split := ascending.before_append_since c
  obtain ⟨more, all⟩ := given
  have sorted : Ascending (u :: rest ++ more) := all ▸ ascending.sublist List.filter_sublist
  have larger : ∀ v ∈ rest ++ more, ¬ v.1 < u.1 + 1 := by
    intro v member
    have later := (List.pairwise_cons.mp sorted).1 v member
    omega
  have smaller : ∀ v ∈ before log c, v.1 < u.1 + 1 := by
    intro v member
    have behind := (mem_before.mp member).2
    omega
  conv_lhs => rw [← split, ← all]
  rw [before, List.filter_append, List.filter_eq_self.mpr fun v member => decide_eq_true (smaller v member),
    List.cons_append, List.filter_cons_of_pos (by rw [decide_eq_true_eq]; omega),
    List.filter_eq_nil_iff.mpr fun v member => by simpa using larger v member]

end

end

end CopyTrader.Lib.Cursor
