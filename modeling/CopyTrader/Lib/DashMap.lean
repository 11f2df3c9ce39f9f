import Mathlib.Data.List.Basic
import Mathlib.Data.List.Nodup

/-!
# Keyed stores

A concurrent map seen one operation at a time: entries with distinct keys, read by `get`,
written in place by `insert` and `modify`, swept by `retain`. Iteration order is the order
of the entries and carries no meaning.
-/

namespace CopyTrader.Lib

/-- A finite map. The keys are distinct by construction. -/
structure DashMap (K V : Type) where
  entries : List (K × V)
  distinct : (entries.map Prod.fst).Nodup

namespace DashMap

variable {K V : Type}

theorem ext {m n : DashMap K V} (h : m.entries = n.entries) : m = n := by
  cases m; cases n; cases h; rfl

def empty : DashMap K V := ⟨[], by simp⟩

instance : Inhabited (DashMap K V) := ⟨empty⟩

def keys (m : DashMap K V) : List K := m.entries.map Prod.fst

def values (m : DashMap K V) : List V := m.entries.map Prod.snd

/-- Visit every entry: `some v` keeps the entry with value `v`, `none` drops it. -/
def retainMut (m : DashMap K V) (f : K → V → Option V) : DashMap K V where
  entries := m.entries.filterMap fun e => (f e.1 e.2).map fun v => (e.1, v)
  distinct := by
    refine m.distinct.sublist ?_
    generalize m.entries = l
    induction l with
    | nil => simp
    | cons e l ih =>
      cases kept : f e.1 e.2 with
      | none => simpa [kept] using ih.cons e.1
      | some v => simpa [kept] using ih

def retain (m : DashMap K V) (p : K → V → Bool) : DashMap K V :=
  m.retainMut fun k v => if p k v then some v else none

variable [DecidableEq K]

def get (m : DashMap K V) (k : K) : Option V := m.entries.lookup k

def contains (m : DashMap K V) (k : K) : Bool := (m.get k).isSome

def modify (m : DashMap K V) (k : K) (f : V → V) : DashMap K V :=
  m.retainMut fun k' v => some (if k' = k then f v else v)

def remove (m : DashMap K V) (k : K) : DashMap K V := m.retain fun k' _ => decide (k' ≠ k)

theorem lookup_none_iff {l : List (K × V)} {k : K} : l.lookup k = none ↔ k ∉ l.map Prod.fst := by
  induction l with
  | nil => simp
  | cons e l ih =>
    obtain ⟨k', v⟩ := e
    by_cases h : k = k'
    · subst h; simp
    · simp only [List.lookup_cons, List.map_cons, List.mem_cons, h, false_or]
      rw [show (k == k') = false by simpa using h]
      exact ih

def insert (m : DashMap K V) (k : K) (v : V) : DashMap K V :=
  if h : m.get k = none then
    { entries := m.entries ++ [(k, v)]
      distinct := by
        rw [List.map_append, List.nodup_append]
        refine ⟨m.distinct, by simp, ?_⟩
        rintro a ha b hb rfl
        simp only [List.map_cons, List.map_nil, List.mem_singleton] at hb
        subst hb
        exact lookup_none_iff.mp h ha }
  else m.modify k fun _ => v

/-! ### Reading back -/

@[simp] theorem get_empty (k : K) : (empty : DashMap K V).get k = none := rfl

theorem lookup_retainMut (l : List (K × V)) (f : K → V → Option V) (k : K)
    (distinct : (l.map Prod.fst).Nodup) :
    (l.filterMap fun e => (f e.1 e.2).map fun v => (e.1, v)).lookup k = (l.lookup k).bind (f k) := by
  induction l with
  | nil => rfl
  | cons e l ih =>
    obtain ⟨k', v⟩ := e
    simp only [List.map_cons, List.nodup_cons] at distinct
    by_cases h : k = k'
    · subst h
      cases kept : f k v with
      | some v' => simp [kept]
      | none =>
        have absent : l.lookup k = none := lookup_none_iff.mpr distinct.1
        simp [kept, ih distinct.2, absent]
    · have hb : (k == k') = false := by simpa using h
      cases kept : f k' v with
      | some v' => simpa [kept, List.lookup_cons, hb] using ih distinct.2
      | none => simpa [kept, List.lookup_cons, hb] using ih distinct.2

theorem get_retainMut (m : DashMap K V) (f : K → V → Option V) (k : K) :
    (m.retainMut f).get k = (m.get k).bind (f k) := lookup_retainMut m.entries f k m.distinct

theorem get_retain (m : DashMap K V) (p : K → V → Bool) (k : K) :
    (m.retain p).get k = (m.get k).filter (p k) := by
  unfold retain
  rw [get_retainMut]
  cases m.get k <;> simp [Option.filter]

theorem get_modify (m : DashMap K V) (k k' : K) (f : V → V) :
    (m.modify k f).get k' = if k' = k then (m.get k').map f else m.get k' := by
  unfold modify
  rw [get_retainMut]
  by_cases h : k' = k <;> cases m.get k' <;> simp [h]

@[simp] theorem get_modify_same (m : DashMap K V) (k : K) (f : V → V) :
    (m.modify k f).get k = (m.get k).map f := by simp [get_modify]

theorem get_modify_other (m : DashMap K V) {k k' : K} (f : V → V) (h : k' ≠ k) :
    (m.modify k f).get k' = m.get k' := by simp [get_modify, h]

theorem lookup_append_single (l : List (K × V)) (k k' : K) (v : V) :
    (l ++ [(k, v)]).lookup k' = (l.lookup k').or (if k' = k then some v else none) := by
  induction l with
  | nil =>
    by_cases h : k' = k
    · subst h; simp
    · have hb : (k' == k) = false := by simpa using h
      simp [List.lookup_cons, hb, h]
  | cons e l ih =>
    obtain ⟨k₀, v₀⟩ := e
    cases hb : (k' == k₀) with
    | true => simp [List.lookup_cons, hb]
    | false => simpa [List.lookup_cons, hb] using ih

theorem get_insert (m : DashMap K V) (k k' : K) (v : V) :
    (m.insert k v).get k' = if k' = k then some v else m.get k' := by
  unfold insert
  split
  · rename_i absent
    change (m.entries ++ [(k, v)]).lookup k' = _
    rw [lookup_append_single]
    by_cases h : k' = k
    · subst h
      have := absent
      unfold get at this
      simp [this]
    · simp [h, get]
  · rename_i present
    obtain ⟨old, read⟩ := Option.ne_none_iff_exists'.mp present
    by_cases h : k' = k
    · subst h; simp [read]
    · simp [get_modify, h]

@[simp] theorem get_insert_same (m : DashMap K V) (k : K) (v : V) : (m.insert k v).get k = some v := by
  simp [get_insert]

theorem get_insert_other (m : DashMap K V) {k k' : K} (v : V) (h : k' ≠ k) :
    (m.insert k v).get k' = m.get k' := by simp [get_insert, h]

theorem get_remove (m : DashMap K V) (k k' : K) :
    (m.remove k).get k' = if k' = k then none else m.get k' := by
  unfold remove
  rw [get_retain]
  by_cases h : k' = k <;> cases m.get k' <;> simp [h, Option.filter]

theorem get_foldl_remove (m : DashMap K V) (ks : List K) (k : K) :
    (ks.foldl remove m).get k = if k ∈ ks then none else m.get k := by
  induction ks generalizing m with
  | nil => simp
  | cons k' ks ih =>
    rw [List.foldl_cons, ih, get_remove]
    by_cases later : k ∈ ks <;> by_cases here : k = k' <;> simp [later, here]

theorem entries_insert {m : DashMap K V} {k : K} {v : V} (absent : m.get k = none) :
    (m.insert k v).entries = m.entries ++ [(k, v)] := by
  unfold insert
  rw [dif_pos absent]

/-! ### Writes that change nothing -/

theorem get_of_mem {m : DashMap K V} {k : K} {v : V} (h : (k, v) ∈ m.entries) : m.get k = some v := by
  have distinct := m.distinct
  unfold get
  revert h distinct
  generalize m.entries = l
  intro h distinct
  induction l with
  | nil => simp at h
  | cons e l ih =>
    simp only [List.map_cons, List.nodup_cons] at distinct
    rcases List.mem_cons.mp h with rfl | later
    · simp
    · have differs : k ≠ e.1 := by
        rintro rfl
        exact distinct.1 (List.mem_map.mpr ⟨_, later, rfl⟩)
      have hb : (k == e.1) = false := by simpa using differs
      obtain ⟨k', v'⟩ := e
      simpa [List.lookup_cons, hb] using ih later distinct.2

theorem mem_of_get {m : DashMap K V} {k : K} {v : V} (h : m.get k = some v) : (k, v) ∈ m.entries := by
  obtain ⟨before, after, same, _⟩ := List.lookup_eq_some_iff.mp h
  simp [same]

theorem mem_values {m : DashMap K V} {v : V} : v ∈ m.values ↔ ∃ k, m.get k = some v := by
  constructor
  · intro member
    obtain ⟨⟨k, v⟩, entry, rfl⟩ := List.mem_map.mp member
    exact ⟨k, get_of_mem entry⟩
  · rintro ⟨k, stored⟩
    exact List.mem_map.mpr ⟨(k, v), mem_of_get stored, rfl⟩

theorem modify_congr {m : DashMap K V} {k : K} {f g : V → V} (agree : ∀ v, m.get k = some v → f v = g v) :
    m.modify k f = m.modify k g := by
  apply ext
  apply List.filterMap_congr
  rintro ⟨k', v⟩ member
  by_cases hk : k' = k
  · subst hk
    simp [agree v (get_of_mem member)]
  · simp [hk]

theorem modify_eq_self {m : DashMap K V} {k : K} {f : V → V} (h : ∀ v, m.get k = some v → f v = v) :
    m.modify k f = m := by
  apply ext
  change m.entries.filterMap _ = m.entries
  conv_rhs => rw [← List.filterMap_some (l := m.entries)]
  apply List.filterMap_congr
  rintro ⟨k', v⟩ member
  by_cases hk : k' = k
  · subst hk
    simp [h v (get_of_mem member)]
  · simp [hk]

theorem modify_eq_self_iff {m : DashMap K V} {k : K} {f : V → V} :
    m.modify k f = m ↔ ∀ v, m.get k = some v → f v = v := by
  refine ⟨fun same v read => ?_, modify_eq_self⟩
  have := congrArg (fun m' => DashMap.get m' k) same
  simpa [read] using this

/-! ### Collecting from the values -/

theorem modify_split {m : DashMap K V} {k : K} {v : V} (stored : m.get k = some v) :
    ∃ before after, m.entries = before ++ (k, v) :: after ∧
      ∀ f : V → V, (m.modify k f).entries = before ++ (k, f v) :: after := by
  obtain ⟨before, after, same, earlier⟩ := List.lookup_eq_some_iff.mp stored
  have distinct := m.distinct
  rw [same, List.map_append, List.map_cons, List.nodup_append, List.nodup_cons] at distinct
  have alone (f : V → V) (l : List (K × V)) (other : ∀ e ∈ l, e.1 ≠ k) :
      (l.filterMap fun e => (some (if e.1 = k then f e.2 else e.2)).map fun v => (e.1, v)) = l := by
    conv_rhs => rw [← List.filterMap_some (l := l)]
    exact List.filterMap_congr fun e member => by simp [other e member]
  refine ⟨before, after, same, fun f => ?_⟩
  change m.entries.filterMap _ = _
  rw [same, List.filterMap_append, List.filterMap_cons]
  rw [alone f before fun e member => ?_, alone f after fun e member => ?_]
  · simp
  · rintro rfl
    exact distinct.2.1.1 (List.mem_map.mpr ⟨e, member, rfl⟩)
  · rintro rfl
    exact absurd (earlier e member) (by simp)

variable {α : Type} (g : V → Option α)

/-- What is collected from the values is collected again after a write if and only if the written entry
gives what it gave. -/
theorem filterMap_modify_perm_iff {m : DashMap K V} {k : K} {v : V} (stored : m.get k = some v) (f : V → V) :
    ((m.modify k f).values.filterMap g).Perm (m.values.filterMap g) ↔ g (f v) = g v := by
  obtain ⟨before, after, same, written⟩ := modify_split stored
  have given (o o' : Option α) : o.toList.Perm o'.toList ↔ o = o' := by
    cases o <;> cases o' <;> simp
  simp only [values, same, written, List.map_append, List.map_cons, List.filterMap_eq_flatMap_toList,
    List.flatMap_append, List.flatMap_cons, List.perm_append_left_iff, List.perm_append_right_iff]
  exact given _ _

theorem filterMap_retain {m : DashMap K V} {keep : K → V → Bool}
    (dropped : ∀ k v, m.get k = some v → keep k v = false → g v = none) :
    (m.retain keep).values.filterMap g = m.values.filterMap g := by
  simp only [values, retain, retainMut, List.filterMap_map, List.filterMap_filterMap]
  apply List.filterMap_congr
  rintro ⟨k, v⟩ member
  cases kept : keep k v with
  | true => simp
  | false => simp [dropped k v (get_of_mem member) kept]

end DashMap

end CopyTrader.Lib
