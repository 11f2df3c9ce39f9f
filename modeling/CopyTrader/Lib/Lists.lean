import Mathlib.Algebra.Ring.Nat
import Mathlib.Data.List.Induction
import Mathlib.Data.List.Nodup
import Mathlib.Data.List.MinMax

/-!
# Lists edited at the first match
-/

namespace CopyTrader.Lib

variable {α β : Type}

/-- Put `x` in the place of the first element that passes the test. -/
def replaceFirst (p : α → Bool) (x : α) : List α → List α
  | [] => []
  | y :: ys => if p y then x :: ys else y :: replaceFirst p x ys

/-- A list that ends in `x`, split at `y`: there, or before. -/
theorem snoc_eq_append_cons {l before after : List α} {x y : α} (split : l ++ [x] = before ++ y :: after) :
    (before = l ∧ y = x ∧ after = []) ∨ ∃ after', after = after' ++ [x] ∧ l = before ++ y :: after' := by
  obtain rfl | ⟨after', last, rfl⟩ := List.eq_nil_or_concat after
  · obtain ⟨rfl, same⟩ := List.append_inj' split rfl
    exact Or.inl ⟨rfl, (List.cons.inj same).1.symm, rfl⟩
  · rw [List.concat_eq_append, ← List.cons_append, ← List.append_assoc] at split
    obtain ⟨old, same⟩ := List.append_inj' split rfl
    exact Or.inr ⟨after', by rw [List.concat_eq_append, same], old⟩

theorem sum_map_set {f : α → ℕ} {l : List α} {i : ℕ} {a : α} (here : l[i]? = some a) (b : α) :
    ((l.set i b).map f).sum + f a = (l.map f).sum + f b := by
  induction l generalizing i with
  | nil => simp at here
  | cons x xs ih =>
    cases i with
    | zero =>
      obtain rfl : x = a := by simpa using here
      simp only [List.set_cons_zero, List.map_cons, List.sum_cons]
      omega
    | succ i =>
      have later := ih (i := i) (by simpa using here)
      simp only [List.set_cons_succ, List.map_cons, List.sum_cons]
      omega

theorem sum_map_eq_add_countP {f g : α → ℕ} {p : α → Bool} {l : List α}
    (each : ∀ a ∈ l, f a = g a + if p a then 1 else 0) : (l.map f).sum = (l.map g).sum + l.countP p := by
  induction l with
  | nil => rfl
  | cons x xs ih =>
    have here := each x List.mem_cons_self
    have later := ih fun a member => each a (List.mem_cons_of_mem _ member)
    simp only [List.map_cons, List.sum_cons, List.countP_cons]
    omega

theorem sum_map_filter_add {f : α → ℕ} {p : α → Bool} (l : List α) :
    ((l.filter p).map f).sum + ((l.filter (!p ·)).map f).sum = (l.map f).sum := by
  induction l with
  | nil => rfl
  | cons x xs ih =>
    cases passes : p x with
    | true =>
      simp only [List.filter_cons, passes, Bool.not_true, if_true, Bool.false_eq_true, if_false, List.map_cons,
        List.sum_cons]
      omega
    | false =>
      simp only [List.filter_cons, passes, Bool.not_false, if_true, Bool.false_eq_true, if_false, List.map_cons,
        List.sum_cons]
      omega

/-- What a filter drops adds nothing exactly if it is all zero. -/
theorem sum_map_filter_eq_iff {f : α → ℕ} {p : α → Bool} {l : List α} :
    ((l.filter p).map f).sum = (l.map f).sum ↔ ∀ x ∈ l, f x ≠ 0 → p x = true := by
  rw [← sum_map_filter_add (f := f) (p := p) l, Nat.left_eq_add, List.sum_eq_zero_iff_forall_eq_nat, List.forall_mem_map]
  constructor
  · intro zero x member some
    by_contra drops
    exact some (zero x (List.mem_filter.mpr ⟨member, by simpa using drops⟩))
  · intro kept x dropped
    obtain ⟨member, drops⟩ := List.mem_filter.mp dropped
    by_contra some
    rw [kept x member some] at drops
    cases drops

theorem sum_map_flatMap {f : α → List β} {g : β → ℕ} (l : List α) :
    ((l.flatMap f).map g).sum = (l.map fun x => ((f x).map g).sum).sum := by
  induction l with
  | nil => rfl
  | cons x xs ih => rw [List.flatMap_cons, List.map_append, List.sum_append, ih, List.map_cons, List.sum_cons]

theorem sum_map_filterMap {f : α → Option β} {g : β → ℕ} (l : List α) :
    ((l.filterMap f).map g).sum = (l.map fun x => ((f x).map g).getD 0).sum := by
  induction l with
  | nil => rfl
  | cons x xs ih =>
    rw [List.map_cons, List.sum_cons, ← ih]
    cases found : f x with
    | none => simp [found]
    | some y => simp [found]

theorem mem_replaceFirst {p : α → Bool} {x z : α} {l : List α} (h : z ∈ replaceFirst p x l) :
    z = x ∨ z ∈ l := by
  induction l with
  | nil => simp [replaceFirst] at h
  | cons y ys ih =>
    unfold replaceFirst at h
    split at h
    · rcases List.mem_cons.mp h with rfl | later
      · exact Or.inl rfl
      · exact Or.inr (List.mem_cons_of_mem _ later)
    · rcases List.mem_cons.mp h with rfl | later
      · exact Or.inr List.mem_cons_self
      · exact (ih later).imp_right (List.mem_cons_of_mem _)

theorem map_replaceFirst {p : α → Bool} {x : α} {l : List α} (f : α → β)
    (same : ∀ y ∈ l, p y = true → f y = f x) : (replaceFirst p x l).map f = l.map f := by
  induction l with
  | nil => rfl
  | cons y ys ih =>
    unfold replaceFirst
    split
    · rename_i matched
      simp [same y List.mem_cons_self matched]
    · simpa using ih fun z member => same z (List.mem_cons_of_mem _ member)

theorem mem_replaceFirst_of_not {p : α → Bool} {x z : α} {l : List α} (member : z ∈ l)
    (fails : p z = false) : z ∈ replaceFirst p x l := by
  induction l with
  | nil => simp at member
  | cons y ys ih =>
    unfold replaceFirst
    rcases List.mem_cons.mp member with rfl | later
    · simp [fails]
    · split
      · exact List.mem_cons_of_mem _ later
      · exact List.mem_cons_of_mem _ (ih later)

theorem self_mem_replaceFirst {p : α → Bool} {x : α} {l : List α} (found : ∃ y ∈ l, p y = true) :
    x ∈ replaceFirst p x l := by
  induction l with
  | nil => simp at found
  | cons y ys ih =>
    unfold replaceFirst
    split
    · exact List.mem_cons_self
    · rename_i fails
      obtain ⟨z, member, passes⟩ := found
      rcases List.mem_cons.mp member with rfl | later
      · exact absurd passes fails
      · exact List.mem_cons_of_mem _ (ih ⟨z, later, passes⟩)

/-- The element with the greatest key, the last one when several tie. -/
def maxByKey (key : α → ℕ) (l : List α) : Option α := l.reverse.argmax key

/-- The element with the least key, the first one when several tie. -/
def minByKey (key : α → ℕ) (l : List α) : Option α := l.argmin key

theorem maxByKey_mem {key : α → ℕ} {l : List α} {x : α} (h : maxByKey key l = some x) : x ∈ l :=
  List.mem_reverse.mp (List.argmax_mem h)

theorem maxByKey_none {key : α → ℕ} {l : List α} : maxByKey key l = none ↔ l = [] := by
  simp [maxByKey]

def firstAppearances [DecidableEq α] (l : List α) : List α :=
  l.foldl (fun seen x => if x ∈ seen then seen else seen ++ [x]) []

theorem firstAppearances_append_single [DecidableEq α] (l : List α) (x : α) :
    firstAppearances (l ++ [x]) =
      if x ∈ firstAppearances l then firstAppearances l else firstAppearances l ++ [x] := by
  rw [firstAppearances, List.foldl_append]
  rfl

theorem mem_firstAppearances [DecidableEq α] {l : List α} {x : α} :
    x ∈ firstAppearances l ↔ x ∈ l := by
  induction l using List.reverseRecOn with
  | nil => simp [firstAppearances]
  | append_singleton l y ih =>
    rw [firstAppearances_append_single]
    by_cases seen : y ∈ firstAppearances l
    · rw [if_pos seen, ih, List.mem_append, List.mem_singleton]
      refine ⟨Or.inl, fun h => h.elim id ?_⟩
      rintro rfl
      exact ih.mp seen |> fun h => by simpa using h
    · rw [if_neg seen, List.mem_append, List.mem_append, ih]

/-- What one partial map finds, another one that agrees with it finds too. -/
theorem map_filterMap_sublist {γ : Type} {f : α → Option β} {g : α → Option γ} {k : β → γ}
    (agree : ∀ a b, f a = some b → g a = some (k b)) (l : List α) :
    ((l.filterMap f).map k).Sublist (l.filterMap g) := by
  induction l with
  | nil => exact List.Sublist.refl _
  | cons a rest ih =>
    cases found : f a with
    | some b =>
      rw [List.filterMap_cons_some found, List.filterMap_cons_some (agree a b found)]
      exact ih.cons_cons _
    | none =>
      rw [List.filterMap_cons_none found]
      cases other : g a with
      | none => rwa [List.filterMap_cons_none other]
      | some c =>
        rw [List.filterMap_cons_some other]
        exact ih.cons _

/-- An element of a list is its last one, or stands before it. -/
theorem eq_or_before_getLast {l : List α} {x y : α} (member : x ∈ l) (last : l.getLast? = some y) :
    x = y ∨ [x, y].Sublist l := by
  obtain ⟨init, rfl⟩ := List.getLast?_eq_some_iff.mp last
  rcases List.mem_append.mp member with earlier | same
  · exact Or.inr ((List.singleton_sublist.mpr earlier).append (List.Sublist.refl [y]))
  · exact Or.inl (List.mem_singleton.mp same)

/-- The element with a key, in a list without two of one key. -/
theorem filter_key_eq {κ : Type} [DecidableEq κ] {key : α → κ} {l : List α} (distinct : (l.map key).Nodup) {k : κ}
    {found : Option α} (mem : ∀ a, found = some a ↔ a ∈ l ∧ key a = k) :
    l.filter (fun a => key a = k) = found.toList := by
  cases found with
  | none =>
    refine List.filter_eq_nil_iff.mpr fun a member same => ?_
    exact nomatch (mem a).mpr ⟨member, of_decide_eq_true same⟩
  | some a =>
    obtain ⟨member, same⟩ := (mem a).mp rfl
    obtain ⟨before, after, rfl⟩ := List.append_of_mem member
    rw [List.map_append, List.map_cons, List.nodup_append, List.nodup_cons] at distinct
    obtain ⟨_, ⟨notAfter, _⟩, apart⟩ := distinct
    have others {b : α} (among : b ∈ before ∨ b ∈ after) : ¬ decide (key b = k) = true := by
      intro equal
      have equal : key b = key a := (of_decide_eq_true equal).trans same.symm
      rcases among with early | late
      · exact apart (key b) (List.mem_map_of_mem early) (key a) List.mem_cons_self equal
      · exact notAfter (equal ▸ List.mem_map_of_mem late)
    have early : before.filter (fun a => key a = k) = [] := List.filter_eq_nil_iff.mpr fun b among => others (.inl among)
    have late : after.filter (fun a => key a = k) = [] := List.filter_eq_nil_iff.mpr fun b among => others (.inr among)
    simp [early, late, same]

end CopyTrader.Lib
