import CopyTrader.Lib.DashMap
import CopyTrader.Lib.SortedSets

/-!
# Maps with ordered keys

The entries of a map in the order of their keys, and maps that are collected from values which carry
their keys. Both are settled by what is stored under each key.
-/

namespace CopyTrader.Lib.DashMap

variable {K V : Type}

theorem nodup_entries (m : DashMap K V) : m.entries.Nodup := m.distinct.of_map

section
variable [DecidableEq K]

theorem entries_perm {m n : DashMap K V} (same : ∀ k, m.get k = n.get k) : m.entries.Perm n.entries := by
  refine (List.perm_ext_iff_of_nodup m.nodup_entries n.nodup_entries).mpr fun (k, v) => ?_
  exact ⟨fun stored => mem_of_get ((same k).symm.trans (get_of_mem stored)),
    fun stored => mem_of_get ((same k).trans (get_of_mem stored))⟩

/-! ### Many writes -/

/-- Each item is written under its key, in order. -/
def insertAll {α : Type} (m : DashMap K V) (key : α → K) (value : α → V) (items : List α) : DashMap K V :=
  items.foldl (fun m item => m.insert (key item) (value item)) m

theorem get_insertAll {α : Type} (m : DashMap K V) (key : α → K) (value : α → V) (items : List α) (k : K) :
    (m.insertAll key value items).get k =
      ((items.reverse.find? fun item => key item = k).map value).or (m.get k) := by
  unfold insertAll
  induction items generalizing m with
  | nil => rfl
  | cons item items ih =>
    rw [List.foldl_cons, ih, get_insert, List.reverse_cons, List.find?_append, List.find?_singleton]
    cases found : items.reverse.find? fun item => key item = k with
    | some later => rfl
    | none =>
      by_cases same : key item = k
      · simp [same]
      · simp [same, Ne.symm (a := key item) same]

/-- Each entry is written unless its key is taken. -/
def fill (m : DashMap K V) (entries : List (K × V)) : DashMap K V :=
  entries.foldl (fun m e => if m.contains e.1 then m else m.insert e.1 e.2) m

theorem get_fill (m : DashMap K V) (entries : List (K × V)) (k : K) :
    (m.fill entries).get k = (m.get k).or (entries.lookup k) := by
  unfold fill
  induction entries generalizing m with
  | nil => simp
  | cons e entries ih =>
    obtain ⟨k', v⟩ := e
    rw [List.foldl_cons, ih, List.lookup_cons]
    by_cases same : k = k'
    · subst same
      cases stored : m.get k <;> simp [contains, stored]
    · have other : (k == k') = false := by simpa using same
      split <;> simp [get_insert_other, same, other]

/-- Values under the keys they carry; the last one stands. -/
def collect (key : V → K) (items : List V) : DashMap K V := empty.insertAll key id items

/-- A map whose values carry their keys is collected again from its values, in any order. -/
theorem get_collect {m : DashMap K V} {key : V → K} {items : List V}
    (keyed : ∀ k v, m.get k = some v → key v = k) (perm : items.Perm m.values) (k : K) :
    (collect key items).get k = m.get k := by
  rw [collect, get_insertAll, get_empty, Option.or_none, Option.map_id]
  have listed (v : V) : v ∈ items.reverse ↔ ∃ k, m.get k = some v := by
    rw [List.mem_reverse, perm.mem_iff, mem_values]
  cases found : items.reverse.find? fun v => key v = k with
  | some v =>
    obtain ⟨k', stored⟩ := (listed v).mp (List.mem_of_find?_eq_some found)
    have own : key v = k := by simpa using List.find?_some found
    rw [← own, keyed k' v stored, stored]
    rfl
  | none =>
    cases stored : m.get k with
    | none => rfl
    | some v =>
      have absent := List.find?_eq_none.mp found v ((listed v).mpr ⟨k, stored⟩)
      exact absurd (keyed k v stored) (by simpa using absent)

end

/-! ### In order -/

variable [LinearOrder K]

/-- The entries by ascending key. -/
def inOrder (m : DashMap K V) : List (K × V) := m.entries.mergeSort fun x y => decide (x.1 ≤ y.1)

theorem inOrder_perm (m : DashMap K V) : m.inOrder.Perm m.entries := List.mergeSort_perm _ _

theorem inOrder_congr {m n : DashMap K V} (same : ∀ k, m.get k = n.get k) : m.inOrder = n.inOrder := by
  have perm : m.inOrder.Perm n.inOrder :=
    (inOrder_perm m).trans ((entries_perm same).trans (inOrder_perm n).symm)
  refine perm.eq_of_pairwise ?_ (pairwise_sort Prod.fst m.entries) (pairwise_sort Prod.fst n.entries)
  rintro ⟨k, v⟩ ⟨k', v'⟩ first second below above
  obtain rfl : k = k' := le_antisymm below above
  have read := get_of_mem ((inOrder_perm m).mem_iff.mp first)
  have read' := get_of_mem ((inOrder_perm n).mem_iff.mp second)
  rw [same k, read'] at read
  rw [Option.some.inj read]

end CopyTrader.Lib.DashMap
