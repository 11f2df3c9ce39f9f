import CopyTrader.Lib.Machine
import CopyTrader.Lib.SortedSets
import CopyTrader.Solana
import Mathlib.Data.Finset.Dedup
import Mathlib.Data.String.Basic

/-!
# The monitored wallets

The wallets that the stream asks for can be exchanged while it runs. They are kept in a normal form, by
which an update and the stream tell whether anything has changed.
-/

namespace CopyTrader.Grpc
open Lib

/-- The wallets, and how often the streams were notified. -/
structure GrpcSubscriber where
  targetWallets : List Pubkey
  notifications : ℕ

namespace GrpcSubscriber

def normalizeWallets (wallets : List Pubkey) : List Pubkey := sortDedup Pubkey.toText wallets

def new (targetWallets : List Pubkey) : GrpcSubscriber := ⟨normalizeWallets targetWallets, 0⟩

def updateTargetWallets : Machine GrpcSubscriber (List Pubkey) Bool := fun subscriber wallets =>
  let normalized := normalizeWallets wallets
  if subscriber.targetWallets = normalized then (subscriber, false)
  else ({ targetWallets := normalized, notifications := subscriber.notifications + 1 }, true)

/-- What a stream does when it is notified, and every 200 ms: the wallets that it remembers, and the
request. It remembers the old ones when the request cannot be sent. -/
def resubscribe (subscriber : GrpcSubscriber) (lastWallets : List Pubkey) (sent : Bool) :
    List Pubkey × Option (List Pubkey) :=
  let currentWallets := subscriber.targetWallets
  if currentWallets ≠ lastWallets then (if sent then currentWallets else lastWallets, some currentWallets)
  else (lastWallets, none)

/-- The wallets are stored in normal form, and a change of the set is answered with true, notified and
requested by a stream that served the wallets before. -/
structure Updated (before after : GrpcSubscriber) (wallets : List Pubkey) (changed : Bool) : Prop where
  sorted : after.targetWallets.Pairwise (·.toText < ·.toText)
  nodup : after.targetWallets.Nodup
  elements : ∀ wallet, wallet ∈ after.targetWallets ↔ wallet ∈ wallets
  answer : changed = true ↔ wallets.toFinset ≠ before.targetWallets.toFinset
  notified : after.notifications = before.notifications + if changed then 1 else 0
  requested : ∀ sent,
    (after.resubscribe before.targetWallets sent).2 = if changed then some after.targetWallets else none

/-! ### The normal form -/

theorem toText_injective : Function.Injective Pubkey.toText := by
  intro key key' same
  have read := congrArg Pubkey.fromStr same
  rw [Pubkey.fromStr_toText, Pubkey.fromStr_toText] at read
  exact Option.some.inj read

theorem mem_normalizeWallets {wallets : List Pubkey} {wallet : Pubkey} :
    wallet ∈ normalizeWallets wallets ↔ wallet ∈ wallets := mem_sortDedup toText_injective

theorem normalizeWallets_eq_iff {wallets wallets' : List Pubkey} :
    normalizeWallets wallets = normalizeWallets wallets' ↔ wallets.toFinset = wallets'.toFinset := by
  simp only [normalizeWallets, sortDedup_eq_iff toText_injective, Finset.ext_iff, List.mem_toFinset]

theorem toFinset_normalizeWallets (wallets : List Pubkey) : (normalizeWallets wallets).toFinset = wallets.toFinset := by
  ext wallet
  rw [List.mem_toFinset, List.mem_toFinset, mem_normalizeWallets]

/-! ### Updates -/

def Normalized (subscriber : GrpcSubscriber) : Prop :=
  ∃ wallets, subscriber.targetWallets = normalizeWallets wallets

variable {subscriber : GrpcSubscriber}

theorem update_targetWallets (subscriber : GrpcSubscriber) (wallets : List Pubkey) :
    (updateTargetWallets subscriber wallets).1.targetWallets = normalizeWallets wallets := by
  unfold updateTargetWallets
  dsimp only
  split
  · assumption
  · rfl

theorem update_answer (subscriber : GrpcSubscriber) (wallets : List Pubkey) :
    (updateTargetWallets subscriber wallets).2 = true ↔ subscriber.targetWallets ≠ normalizeWallets wallets := by
  unfold updateTargetWallets
  by_cases same : subscriber.targetWallets = normalizeWallets wallets
  · simp [same]
  · simp [same]

theorem update_notifications (subscriber : GrpcSubscriber) (wallets : List Pubkey) :
    (updateTargetWallets subscriber wallets).1.notifications =
      subscriber.notifications + if (updateTargetWallets subscriber wallets).2 then 1 else 0 := by
  unfold updateTargetWallets
  dsimp only
  split <;> rfl

theorem normalized_after (initial : List Pubkey) (updates : List (List Pubkey)) :
    (Machine.after updateTargetWallets (new initial) updates).Normalized :=
  Machine.invariant (P := Normalized) updateTargetWallets
    (fun subscriber wallets _ _ => ⟨wallets, update_targetWallets subscriber wallets⟩) ⟨initial, rfl⟩

/-- One update of a subscriber whose wallets are in normal form. -/
theorem updated_of_normalized (normalized : subscriber.Normalized) (wallets : List Pubkey) :
    Updated subscriber (updateTargetWallets subscriber wallets).1 wallets (updateTargetWallets subscriber wallets).2 := by
  obtain ⟨before, stored⟩ := normalized
  have after := update_targetWallets subscriber wallets
  have answer := update_answer subscriber wallets
  constructor
  case sorted =>
    rw [after]
    exact pairwise_sortDedup toText_injective wallets
  case nodup =>
    rw [after]
    exact nodup_sortDedup toText_injective wallets
  case elements =>
    intro wallet
    rw [after, mem_normalizeWallets]
  case answer =>
    rw [answer, stored, toFinset_normalizeWallets, Ne, normalizeWallets_eq_iff]
    exact not_congr eq_comm
  case notified => exact update_notifications subscriber wallets
  case requested =>
    intro sent
    unfold resubscribe
    rw [after]
    by_cases changed : (updateTargetWallets subscriber wallets).2 = true
    · rw [if_pos changed, if_pos (answer.mp changed).symm]
    · have same : subscriber.targetWallets = normalizeWallets wallets :=
        not_not.mp fun differs => changed (answer.mpr differs)
      rw [if_neg changed, if_neg (not_not.mpr same.symm)]

/-- Every update of a run answers true exactly if the set of wallets is not the stored one. -/
theorem updates_on_change (initial : List Pubkey) (updates : List (List Pubkey)) (wallets : List Pubkey) :
    let before := Machine.after updateTargetWallets (new initial) updates
    Updated before (updateTargetWallets before wallets).1 wallets (updateTargetWallets before wallets).2 :=
  updated_of_normalized (normalized_after initial updates) wallets

end GrpcSubscriber

end CopyTrader.Grpc
