import Mathlib.Data.List.Basic

/-!
# Searches in any order

The first hit of a search through a list whose order carries no meaning.
-/

namespace CopyTrader.Lib

variable {α β : Type} {f g : α → Option β} {l l' : List α} {a : α} {x : β}

/-- All hits of the search are the same. -/
def OneHit (f : α → Option β) (l : List α) : Prop :=
  ∀ a ∈ l, ∀ b ∈ l, ∀ x y, f a = some x → f b = some y → x = y

theorem oneHit_iff : OneHit f l ↔ ∀ x y, (∃ a ∈ l, f a = some x) → (∃ b ∈ l, f b = some y) → x = y := by
  constructor
  · rintro one x y ⟨a, member, hit⟩ ⟨b, member', hit'⟩
    exact one a member b member' x y hit hit'
  · intro same a member b member' x y hit hit'
    exact same x y ⟨a, member, hit⟩ ⟨b, member', hit'⟩

theorem no_hit_iff : (∀ a ∈ l, f a = none) ↔ ∀ x, ¬ ∃ a ∈ l, f a = some x := by
  constructor
  · rintro misses x ⟨a, member, hit⟩
    rw [misses a member] at hit
    cases hit
  · intro never a member
    rw [Option.eq_none_iff_forall_ne_some]
    exact fun x hit => never x ⟨a, member, hit⟩

theorem findSome?_perm_eq_none (perm : l'.Perm l) (misses : ∀ a ∈ l, f a = none) : l'.findSome? f = none := by
  rw [List.findSome?_eq_none_iff]
  intro a member
  exact misses a (perm.mem_iff.mp member)

theorem findSome?_of_oneHit (one : OneHit f l) (perm : l'.Perm l) (member : a ∈ l) (hit : f a = some x) :
    l'.findSome? f = some x := by
  cases found : l'.findSome? f with
  | none =>
    have missed := List.findSome?_eq_none_iff.mp found a (perm.mem_iff.mpr member)
    rw [hit] at missed
    cases missed
  | some y =>
    obtain ⟨b, among, hit'⟩ := List.exists_of_findSome?_eq_some found
    rw [one b (perm.mem_iff.mp among) a member y x hit' hit]

theorem findSome?_perm (one : OneHit f l) (perm : l'.Perm l) : l'.findSome? f = l.findSome? f := by
  cases found : l.findSome? f with
  | none => exact findSome?_perm_eq_none perm (List.findSome?_eq_none_iff.mp found)
  | some x =>
    obtain ⟨a, member, hit⟩ := List.exists_of_findSome?_eq_some found
    exact findSome?_of_oneHit one perm member hit

/-- Every hit comes first in some order. -/
theorem exists_perm_findSome? (member : a ∈ l) (hit : f a = some x) :
    ∃ l' : List α, l'.Perm l ∧ l'.findSome? f = some x := by
  obtain ⟨before, after, rfl⟩ := List.append_of_mem member
  refine ⟨a :: (before ++ after), List.perm_middle.symm, ?_⟩
  simp [hit]

/-- A search with a second choice ends the same in every order exactly if the hits of the first choice are all the
same, and those of the second one as well where there are none of the first. -/
theorem findSome?_or_orders_iff :
    (∀ l₁ l₂ : List α, l₁.Perm l → l₂.Perm l →
      (l₁.findSome? f).or (l₁.findSome? g) = (l₂.findSome? f).or (l₂.findSome? g)) ↔
    OneHit f l ∧ ((∀ a ∈ l, f a = none) → OneHit g l) := by
  constructor
  · intro same
    constructor
    · intro a member b member' x y hit hit'
      obtain ⟨l₁, perm₁, first₁⟩ := exists_perm_findSome? member hit
      obtain ⟨l₂, perm₂, first₂⟩ := exists_perm_findSome? member' hit'
      simpa [first₁, first₂] using same l₁ l₂ perm₁ perm₂
    · intro misses a member b member' x y hit hit'
      obtain ⟨l₁, perm₁, first₁⟩ := exists_perm_findSome? member hit
      obtain ⟨l₂, perm₂, first₂⟩ := exists_perm_findSome? member' hit'
      simpa [findSome?_perm_eq_none perm₁ misses, findSome?_perm_eq_none perm₂ misses, first₁, first₂] using
        same l₁ l₂ perm₁ perm₂
  · rintro ⟨one, second⟩ l₁ l₂ perm₁ perm₂
    by_cases misses : ∀ a ∈ l, f a = none
    · rw [findSome?_perm one perm₁, findSome?_perm one perm₂, findSome?_perm (second misses) perm₁,
        findSome?_perm (second misses) perm₂]
    · obtain ⟨a, member, hits⟩ : ∃ a ∈ l, f a ≠ none := by simpa using misses
      obtain ⟨x, hit⟩ := Option.ne_none_iff_exists'.mp hits
      rw [findSome?_of_oneHit one perm₁ member hit, findSome?_of_oneHit one perm₂ member hit]
      rfl

end CopyTrader.Lib
