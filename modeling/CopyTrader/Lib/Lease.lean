import Mathlib.Data.Nat.Notation
import Mathlib.Logic.Function.Basic

/-!
# Leases with a pause

A cell that one party at a time may hold. A party that has used its lease leaves the cell resting
for a pause; one that has not gives it back at once. Two parties that have used their leases then
held them at least the pause apart.
-/

namespace CopyTrader.Lib

/-- What one party has done: when it got the lease, whether it used it, when it gave it back. -/
structure Lease where
  since : Option ℕ
  used : Bool
  ended : Option ℕ
  deriving DecidableEq

namespace Lease

inductive Cell where
  | free | busy
  | resting (wake : ℕ)

def idle : Lease := ⟨none, false, none⟩

def Holds (l : Lease) : Prop := l.since.isSome = true ∧ l.ended = none

def Spent (l : Lease) : Prop := l.used = true ∧ l.ended.isSome = true

/-- `l` was given back at least the pause before `l'` was got. -/
def Before (pause : ℕ) (l l' : Lease) : Prop :=
  ∃ ended since, l.ended = some ended ∧ l'.since = some since ∧ ended + pause ≤ since

/-- What holds of the leases of all parties, the cell and the clock. -/
structure Sound {ι : Type} (pause : ℕ) (leases : ι → Lease) (cell : Cell) (clock : ℕ) : Prop where
  used_since : ∀ i, (leases i).used = true → (leases i).since.isSome = true
  busy : ∀ i, (leases i).Holds → cell = .busy
  alone : ∀ i j, (leases i).Holds → (leases j).Holds → i = j
  rests : ∀ i ended, (leases i).used = true → (leases i).ended = some ended →
    ended + pause ≤ clock ∨ ∃ wake, cell = .resting wake ∧ ended + pause ≤ wake
  apart : ∀ i j, (leases i).Spent → (leases j).Holds → Before pause (leases i) (leases j)
  ordered : ∀ i j, i ≠ j → (leases i).Spent → (leases j).Spent →
    Before pause (leases i) (leases j) ∨ Before pause (leases j) (leases i)

variable {ι : Type} {pause : ℕ} {leases : ι → Lease} {cell : Cell} {clock : ℕ}

theorem sound_idle (cell : Cell) (clock : ℕ) : Sound pause (fun _ : ι => idle) cell clock where
  used_since _ used := by cases used
  busy _ holds := by cases holds.1
  alone _ _ holds := by cases holds.1
  rests _ _ used := by cases used
  apart _ _ spent := by cases spent.1
  ordered _ _ _ spent := by cases spent.1

theorem Sound.tick {clock' : ℕ} (sound : Sound pause leases cell clock) (onward : clock ≤ clock') :
    Sound pause leases cell clock' where
  used_since := sound.used_since
  busy := sound.busy
  alone := sound.alone
  rests i ended used given := (sound.rests i ended used given).imp_left fun rested => Nat.le_trans rested onward
  apart := sound.apart
  ordered := sound.ordered

theorem Sound.not_holds (sound : Sound pause leases cell clock) (i : ι) (notBusy : cell ≠ .busy) :
    ¬ (leases i).Holds := fun holds => notBusy (sound.busy i holds)

theorem Sound.sweep {wake : ℕ} (sound : Sound pause leases (.resting wake) clock) (awake : wake ≤ clock) :
    Sound pause leases .free clock where
  used_since := sound.used_since
  busy i holds := absurd holds (sound.not_holds i nofun)
  alone := sound.alone
  rests i ended used given := by
    rcases sound.rests i ended used given with rested | ⟨wake', same, rested⟩
    · exact Or.inl rested
    · cases same
      exact Or.inl (Nat.le_trans rested awake)
  apart := sound.apart
  ordered := sound.ordered

/-- Two parties that have used their leases did so apart from each other. -/
theorem Sound.used_apart (sound : Sound pause leases cell clock) {i j : ι} (differs : i ≠ j)
    (hi : (leases i).used = true) (hj : (leases j).used = true) :
    Before pause (leases i) (leases j) ∨ Before pause (leases j) (leases i) := by
  have phase (k : ι) (used : (leases k).used = true) : (leases k).Holds ∨ (leases k).Spent := by
    cases ended : (leases k).ended with
    | none => exact Or.inl ⟨sound.used_since k used, ended⟩
    | some t => exact Or.inr ⟨used, by rw [ended]; rfl⟩
  rcases phase i hi with holdsI | spentI <;> rcases phase j hj with holdsJ | spentJ
  · exact absurd (sound.alone i j holdsI holdsJ) differs
  · exact Or.inr (sound.apart j i spentJ holdsI)
  · exact Or.inl (sound.apart i j spentI holdsJ)
  · exact sound.ordered i j differs spentI spentJ

variable [DecidableEq ι] {i : ι}

theorem Sound.acquire (sound : Sound pause leases cell clock) (notBusy : cell ≠ .busy)
    (awake : ∀ wake, cell = .resting wake → wake ≤ clock) :
    Sound pause (Function.update leases i ⟨some clock, false, none⟩) .busy clock := by
  have nobody := fun j => sound.not_holds j notBusy
  have others {j : ι} (differs : j ≠ i) :
      Function.update leases i ⟨some clock, false, none⟩ j = leases j := Function.update_of_ne differs ..
  have fresh {j : ι} (spent : (Function.update leases i ⟨some clock, false, none⟩ j).Spent) : j ≠ i := by
    rintro rfl
    rw [Function.update_self] at spent
    cases spent.1
  have rested {j : ι} (spent : (leases j).Spent) : ∃ ended, (leases j).ended = some ended ∧ ended + pause ≤ clock := by
    obtain ⟨ended, given⟩ := Option.isSome_iff_exists.mp spent.2
    rcases sound.rests j ended spent.1 given with rested | ⟨wake, same, rested⟩
    · exact ⟨ended, given, rested⟩
    · exact ⟨ended, given, Nat.le_trans rested (awake wake same)⟩
  have only {j : ι} (holds : (Function.update leases i ⟨some clock, false, none⟩ j).Holds) : j = i := by
    by_contra differs
    rw [others differs] at holds
    exact nobody j holds
  constructor
  case used_since =>
    intro j used
    by_cases same : j = i
    · subst same
      rw [Function.update_self] at used
      cases used
    · rw [others same] at used ⊢
      exact sound.used_since j used
  case busy => intros; rfl
  case alone =>
    intro j k hj hk
    exact (only hj).trans (only hk).symm
  case rests =>
    intro j ended used given
    have differs : j ≠ i := by
      rintro rfl
      rw [Function.update_self] at used
      cases used
    rw [others differs] at used given
    obtain ⟨ended', given', rested⟩ := rested ⟨used, by rw [given]; rfl⟩
    rw [given] at given'
    cases given'
    exact Or.inl rested
  case apart =>
    intro j k spent holds
    have differs := fresh spent
    obtain rfl := only holds
    rw [others differs] at spent ⊢
    rw [Function.update_self]
    obtain ⟨ended, given, rested⟩ := rested spent
    exact ⟨ended, clock, given, rfl, rested⟩
  case ordered =>
    intro j k differs hj hk
    have notJ := fresh hj
    have notK := fresh hk
    rw [others notJ] at hj ⊢
    rw [others notK] at hk ⊢
    exact sound.ordered j k differs hj hk

theorem Sound.use (sound : Sound pause leases cell clock) (holds : (leases i).Holds) :
    Sound pause (Function.update leases i { leases i with used := true }) cell clock := by
  have others {j : ι} (differs : j ≠ i) :
      Function.update leases i { leases i with used := true } j = leases j := Function.update_of_ne differs ..
  have held {j : ι} (holds' : (Function.update leases i { leases i with used := true } j).Holds) :
      (leases j).Holds := by
    by_cases same : j = i
    · exact same ▸ holds
    · rwa [others same] at holds'
  have since (j : ι) :
      (Function.update leases i { leases i with used := true } j).since = (leases j).since := by
    by_cases same : j = i
    · subst same
      rw [Function.update_self]
    · rw [others same]
  have other {j : ι} (given : (Function.update leases i { leases i with used := true } j).ended.isSome = true) :
      j ≠ i := by
    rintro rfl
    rw [Function.update_self] at given
    simp [holds.2] at given
  constructor
  case used_since =>
    intro j used
    rw [since]
    by_cases same : j = i
    · exact same ▸ holds.1
    · rw [others same] at used
      exact sound.used_since j used
  case busy =>
    intro j hj
    exact sound.busy j (held hj)
  case alone =>
    intro j k hj hk
    exact sound.alone j k (held hj) (held hk)
  case rests =>
    intro j ended used given
    have differs := other (by rw [given]; rfl)
    rw [others differs] at used given
    exact sound.rests j ended used given
  case apart =>
    intro j k spent hk
    have differs := other spent.2
    rw [others differs] at spent ⊢
    obtain ⟨ended, start, given, got, rested⟩ := sound.apart j k spent (held hk)
    exact ⟨ended, start, given, (since k).trans got, rested⟩
  case ordered =>
    intro j k differs hj hk
    have notJ := other hj.2
    have notK := other hk.2
    rw [others notJ] at hj ⊢
    rw [others notK] at hk ⊢
    exact sound.ordered j k differs hj hk

theorem Sound.release (sound : Sound pause leases cell clock) (holds : (leases i).Holds) :
    Sound pause (Function.update leases i { leases i with ended := some clock })
      (if (leases i).used then .resting (clock + pause) else .free) clock := by
  have others {j : ι} (differs : j ≠ i) :
      Function.update leases i { leases i with ended := some clock } j = leases j :=
    Function.update_of_ne differs ..
  have nobody (j : ι) : ¬ (Function.update leases i { leases i with ended := some clock } j).Holds := by
    intro hj
    by_cases same : j = i
    · subst same
      rw [Function.update_self] at hj
      cases hj.2
    · rw [others same] at hj
      exact same (sound.alone j i hj holds)
  have earlier {j : ι} (spent : (leases j).Spent) :
      Before pause (leases j) { leases i with ended := some clock } := sound.apart j i spent holds
  constructor
  case used_since =>
    intro j used
    by_cases same : j = i
    · subst same
      rw [Function.update_self]
      exact holds.1
    · rw [others same] at used ⊢
      exact sound.used_since j used
  case busy =>
    intro j hj
    exact absurd hj (nobody j)
  case alone =>
    intro j _ hj
    exact absurd hj (nobody j)
  case rests =>
    intro j ended used given
    by_cases same : j = i
    · subst same
      rw [Function.update_self] at used given
      cases given
      exact Or.inr ⟨clock + pause, if_pos used, Nat.le_refl _⟩
    · rw [others same] at used given
      rcases sound.rests j ended used given with rested | ⟨wake, resting, _⟩
      · exact Or.inl rested
      · rw [sound.busy i holds] at resting
        cases resting
  case apart =>
    intro _ k _ hk
    exact absurd hk (nobody k)
  case ordered =>
    intro j k differs hj hk
    by_cases notJ : j = i
    · subst notJ
      rw [others differs.symm] at hk ⊢
      rw [Function.update_self]
      exact Or.inr (earlier hk)
    · rw [others notJ] at hj ⊢
      by_cases notK : k = i
      · subst notK
        rw [Function.update_self]
        exact Or.inl (earlier hj)
      · rw [others notK] at hk ⊢
        exact sound.ordered j k differs hj hk

end Lease

end CopyTrader.Lib
