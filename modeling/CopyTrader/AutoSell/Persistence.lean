import CopyTrader.AutoSell.Locking
import CopyTrader.Lib.Machine

/-!
# The positions file

The calls on the store, one after another. Some rewrite the file at their end and some do not.
-/

namespace CopyTrader.AutoSell
open Lib Processor StoreProg

/-- What a line of the file says of the life of its position. -/
structure Lifecycle where
  groupId : String
  tokenMint : Pubkey
  state : PositionState
  tokenAmount : ℕ
  sellAttempts : ℕ
  buySignature : Signature
  deriving DecidableEq, Repr

def SavedPosition.lifecycle (saved : SavedPosition) : Lifecycle := { saved with }

/-- The line that a stored position is to have. -/
def Position.line (p : Position) : Option Lifecycle :=
  if p.state.isSaved then some (SavedPosition.of p).lifecycle else none

/-- The file lists the stored positions that it keeps, each as it is. -/
def AutoSellManager.Synced (manager : AutoSellManager) : Prop :=
  (manager.file.map (·.lifecycle)).Perm (manager.positions.values.filterMap (·.line))

namespace StoreCall

/-- One call, run alone. A call that waits for a lock it holds has written nothing and never ends, and its
shard stays locked: what the calls after it do is said of those that get the lock they need. -/
def perform : Machine AutoSellManager StoreCall Unit := fun manager call =>
  match exec call.code manager.positions none with
  | some ((_, file), store, _) => (⟨store, file.getD manager.file⟩, ())
  | none => (manager, ())

/-- The calls that rewrite the file. -/
def Saves (manager : AutoSellManager) : StoreCall → Prop
  | .addPosition _ | .markClosed .. | .revertToActive _ | .restoreAfterSellAttempt .. | .suspendAutoSell ..
  | .applyPartialSell .. | .confirmFailed _ => True
  | .recordZeroBalanceSellSkip key => (manager.getPosition key).isSome = true
  | _ => False

/-- A call that changes a life without rewriting the file finds no position, or one that it refuses. The confirm
step of the fallback monitor hangs on a gain, and may give up what the file does not list. -/
def LeavesFile (manager : AutoSellManager) : StoreCall → Prop
  | .markSubmitted key _ => ∀ p, manager.getPosition key = some p → p.state ≠ .pending
  | .markConfirming key => ∀ p, manager.getPosition key = some p → p.state ≠ .submitted
  | .confirmSuccess key .. => ∀ p, manager.getPosition key = some p → p.state ≠ .confirming ∧ p.state ≠ .submitted
  | .markSelling key => ∀ p, manager.getPosition key = some p →
    p.state ≠ .active ∧ p.state ≠ .confirming ∧ p.state ≠ .submitted
  | .fallbackConfirm key balance .. => ∀ p, manager.getPosition key = some p →
    p.preBuyAtaBalance < balance ∨ p.state.isSaved = false
  | _ => True

/-! ### Lines -/

variable {p : Position}

/-- A move to another state, and one that the file keeps, shows in the line. -/
theorem line_ne {q : Position} (saved : q.state.isSaved = true) (moved : q.state ≠ p.state) : q.line ≠ p.line := by
  unfold Position.line
  rw [if_pos saved]
  split
  · exact fun same => moved (congrArg Lifecycle.state (Option.some.inj same))
  · exact fun same => by cases same

theorem line_markSubmitted (signature : Signature) :
    (p.markSubmitted signature).1.line = p.line ↔ p.state ≠ .pending := by
  unfold Position.markSubmitted
  by_cases pending : p.state = .pending
  · rw [if_neg (not_not.mpr pending)]
    exact iff_of_false (line_ne rfl (by simp [pending])) (not_not.mpr pending)
  · rw [if_pos pending]
    exact iff_of_true rfl pending

theorem line_markConfirming : p.markConfirming.1.line = p.line ↔ p.state ≠ .submitted := by
  unfold Position.markConfirming
  by_cases submitted : p.state = .submitted
  · rw [if_neg (not_not.mpr submitted)]
    exact iff_of_false (line_ne rfl (by simp [submitted])) (not_not.mpr submitted)
  · rw [if_pos submitted]
    exact iff_of_true rfl submitted

theorem line_markActive (amount : ℕ) (price : Option ℚ) (now : Instant) :
    (p.markActive amount price now).1.line = p.line ↔ p.state ≠ .confirming ∧ p.state ≠ .submitted := by
  by_cases refused : p.state ≠ .confirming ∧ p.state ≠ .submitted
  · refine iff_of_true ?_ refused
    unfold Position.markActive
    rw [if_pos refused]
  · have waits : p.state = .confirming ∨ p.state = .submitted := by
      by_contra none
      exact refused (not_or.mp none)
    have active : (p.markActive amount price now).1.state = .active := by
      rw [Position.markActive_state, if_pos waits]
    refine iff_of_false (line_ne (by rw [active]; rfl) ?_) refused
    rcases waits with confirming | submitted
    · simp [active, confirming]
    · simp [active, submitted]

theorem line_markSelling : p.markSelling.1.line = p.line ↔
    p.state ≠ .active ∧ p.state ≠ .confirming ∧ p.state ≠ .submitted := by
  unfold Position.markSelling
  by_cases refused : p.state ≠ .active ∧ p.state ≠ .confirming ∧ p.state ≠ .submitted
  · rw [if_pos refused]
    exact iff_of_true rfl refused
  · rw [if_neg refused]
    refine iff_of_false (line_ne rfl fun selling => refused ?_) refused
    simp [← selling]

theorem line_markFailed : p.markFailed.line = p.line ↔ p.state.isSaved = false := by
  unfold Position.markFailed Position.line
  cases p.state <;> simp [PositionState.isSaved]

theorem line_of_prices (highest current : ℚ) :
    ({ p with highestPrice := highest, currentPrice := current } : Position).line = p.line := rfl

/-! ### What the calls do to the file -/

variable {m : AutoSellManager} {key : PositionKey}

theorem save_synced : m.save.Synced := by
  have listed : (m.save.file.map (·.lifecycle)) = m.positions.values.filterMap (·.line) := by
    rw [AutoSellManager.save, ← List.filterMap_eq_map, ← List.filterMap_eq_map, List.filterMap_filterMap,
      List.filterMap_filter]
    exact List.filterMap_congr fun p _ => rfl
  exact .of_eq listed

/-- A write without a save keeps the file current if and only if the line of its position stays. -/
theorem update_synced_iff (synced : m.Synced) (f : Position → Position) :
    (m.update key f).Synced ↔ ∀ p, m.getPosition key = some p → (f p).line = p.line := by
  cases read : m.getPosition key with
  | none =>
    rw [Locked.update_absent f read]
    exact iff_of_true synced fun p stored => by cases stored
  | some p =>
    have written := DashMap.filterMap_modify_perm_iff (·.line) read f
    calc (m.update key f).Synced
        ↔ ((m.positions.modify key f).values.filterMap (·.line)).Perm (m.positions.values.filterMap (·.line)) :=
          ⟨fun current => current.symm.trans synced, fun same => synced.trans same.symm⟩
      _ ↔ (f p).line = p.line := written
      _ ↔ ∀ p', some p = some p' → (f p').line = p'.line :=
          ⟨fun same p' stored => Option.some.inj stored ▸ same, fun all => all p rfl⟩

theorem update_synced (synced : m.Synced) {f : Position → Position} (same : ∀ p, (f p).line = p.line) :
    (m.update key f).Synced := (update_synced_iff synced f).mpr fun p _ => same p

/-- What the pruning drops is closed or failed, and not in the file. -/
theorem prune_synced (synced : m.Synced) (now : Instant) : (m.prune now).Synced := by
  have kept : (m.prune now).positions.values.filterMap (·.line) = m.positions.values.filterMap (·.line) := by
    refine DashMap.filterMap_retain Position.line fun key p _ dropped => ?_
    have closed : p.state.isOpen = false := (Bool.or_eq_false_iff.mp dropped).1
    unfold Position.line
    cases state : p.state <;> simp [state, PositionState.isOpen, PositionState.isSaved] at closed ⊢
  exact synced.trans (.of_eq kept.symm)

/-! ### A call that completes is one step -/

theorem perform_clear {call : StoreCall} (clear : call.Clear m.positions) : (perform m call).1 = (call.eval m).2 := by
  obtain ⟨file, ran, rewritten⟩ := call.answers m clear
  simp only [perform, ran, rewritten]

/-- With a gain the confirm step waits for its own lock, before it has written. -/
theorem perform_gain {p : Position} {balance : ℕ} (read : m.getPosition key = some p)
    (gain : p.preBuyAtaBalance < balance) (curve : Option BondingCurveState) (now : Instant) :
    (perform m (.fallbackConfirm key balance curve now)).1 = m := by
  have hangs : exec (StoreCall.fallbackConfirm key balance curve now).code m.positions none = none := by
    show exec (Locked.unsaved (Locked.fallbackConfirm key balance curve now)) m.positions none = none
    rw [Locked.unsaved, Locked.fallbackConfirm, exec_bind, exec_unguarded, StoreOp.answer,
      show m.positions.get key = some p from read]
    show (exec (Locked.confirmGuarded p balance curve now >>= fun _ => ask .release) m.positions
      (some key)).bind _ = none
    unfold Locked.confirmGuarded Locked.fallbackAlone
    rw [if_pos gain]
    dsimp only
    rw [if_pos (Nat.sub_pos_of_lt gain)]
    rfl
  simp only [perform, hangs]

theorem markSelling_update : (m.markSelling key).1 = m.update key fun p => p.markSelling.1 := by
  unfold AutoSellManager.markSelling
  cases read : m.getPosition key with
  | some p => rfl
  | none => exact (Locked.update_absent _ read).symm

/-! ### What one call keeps -/

theorem eval_saves {call : StoreCall} (saves : call.Saves m) : (call.eval m).2.Synced := by
  cases call with
  | addPosition | markClosed | revertToActive | restoreAfterSellAttempt | suspendAutoSell | applyPartialSell
      | confirmFailed => exact save_synced
  | recordZeroBalanceSellSkip key =>
    obtain ⟨p, stored⟩ := Option.isSome_iff_exists.mp saves
    show (m.recordZeroBalanceSellSkip key).1.Synced
    rw [AutoSellManager.recordZeroBalanceSellSkip, stored]
    exact save_synced
  | _ => exact saves.elim

theorem eval_synced_iff (synced : m.Synced) {call : StoreCall} (clear : call.Clear m.positions) :
    (call.eval m).2.Synced ↔ call.LeavesFile m := by
  cases call with
  | addPosition | markClosed | revertToActive | restoreAfterSellAttempt | suspendAutoSell | applyPartialSell
      | confirmFailed => exact iff_of_true (eval_saves trivial) trivial
  | recordZeroBalanceSellSkip key =>
    refine iff_of_true ?_ trivial
    show (m.recordZeroBalanceSellSkip key).1.Synced
    cases read : m.getPosition key with
    | some p =>
      rw [AutoSellManager.recordZeroBalanceSellSkip, read]
      exact save_synced
    | none => rwa [AutoSellManager.recordZeroBalanceSellSkip, read]
  | markSubmitted key signature =>
    exact (update_synced_iff synced _).trans (forall₂_congr fun p _ => line_markSubmitted signature)
  | markConfirming key =>
    exact (update_synced_iff synced _).trans (forall₂_congr fun p _ => line_markConfirming)
  | confirmSuccess key amount price now =>
    exact (update_synced_iff synced _).trans (forall₂_congr fun p _ => line_markActive amount price now)
  | markSelling key =>
    show (m.markSelling key).1.Synced ↔ _
    rw [markSelling_update]
    exact (update_synced_iff synced _).trans (forall₂_congr fun p _ => line_markSelling)
  | fallbackConfirm key balance curve now =>
    refine (update_synced_iff synced _).trans (forall₂_congr fun p stored => ?_)
    have none_gained : ¬ p.preBuyAtaBalance < balance := Nat.not_lt.mpr (clear p stored)
    rw [Position.fallbackConfirm, if_neg none_gained, line_markFailed]
    simp [none_gained]
  | updateEntryPrice | updateTokenInfo => exact iff_of_true (update_synced synced fun p => rfl) trivial
  | grpcExit key state now =>
    refine iff_of_true (update_synced synced fun p => ?_) trivial
    obtain ⟨highest, current, priced⟩ := p.grpcExit_prices state now
    rw [priced, line_of_prices]
  | fallbackExit key curve quote now =>
    refine iff_of_true (update_synced synced fun p => ?_) trivial
    obtain ⟨highest, current, priced⟩ := p.fallbackExit_prices curve quote now
    rw [priced, line_of_prices]
  | prune now => exact iff_of_true (prune_synced synced now) trivial
  | getPosition | getPositionByGroupMint | getPositionsForMint | openPositionCountForMint | positionCount
      | getOpenPositionMints | getActivePositions | getGroupPositions | getSellablePositions | keysForMint
      | ataUpdate | fallbackKeys | fallbackSnapshot => exact iff_of_true synced trivial

theorem not_clear {call : StoreCall} (blocked : ¬ call.Clear m.positions) :
    ∃ key balance curve now p, call = .fallbackConfirm key balance curve now ∧
      m.getPosition key = some p ∧ p.preBuyAtaBalance < balance := by
  cases call with
  | fallbackConfirm key balance curve now =>
    obtain ⟨p, stored, gain⟩ : ∃ p, m.getPosition key = some p ∧ p.preBuyAtaBalance < balance := by
      simpa [Clear, AutoSellManager.getPosition] using blocked
    exact ⟨key, balance, curve, now, p, rfl, stored, gain⟩
  | _ => exact absurd trivial blocked

/-- A call on a store whose file is current leaves the file current if and only if it rewrites the file or
leaves the lives alone. -/
theorem perform_synced_iff (synced : m.Synced) (call : StoreCall) :
    (perform m call).1.Synced ↔ call.LeavesFile m := by
  by_cases clear : call.Clear m.positions
  · rw [perform_clear clear]
    exact eval_synced_iff synced clear
  · obtain ⟨key, balance, curve, now, p, rfl, stored, gain⟩ := not_clear clear
    rw [perform_gain stored gain]
    refine iff_of_true synced fun p' stored' => ?_
    obtain rfl := Option.some.inj (stored.symm.trans stored')
    exact .inl gain

theorem perform_saves {call : StoreCall} (saves : call.Saves m) : (perform m call).1.Synced := by
  by_cases clear : call.Clear m.positions
  · rw [perform_clear clear]
    exact eval_saves saves
  · obtain ⟨key, balance, curve, now, p, rfl, -⟩ := not_clear clear
    exact saves.elim

/-- On an empty store only a save writes. -/
theorem perform_new {file : List SavedPosition} {call : StoreCall} (unsaved : ¬ call.Saves (.new file)) :
    (perform (.new file) call).1 = .new file := by
  cases call with
  | addPosition | markClosed | revertToActive | restoreAfterSellAttempt | suspendAutoSell | applyPartialSell
      | confirmFailed => exact absurd trivial unsaved
  | _ => rfl

theorem new_synced_iff {file : List SavedPosition} : (AutoSellManager.new file).Synced ↔ file = [] :=
  List.perm_nil.trans List.map_eq_nil_iff

theorem leavesFile_new (file : List SavedPosition) (call : StoreCall) : call.LeavesFile (.new file) := by
  cases call with
  | markSubmitted | markConfirming | confirmSuccess | markSelling | fallbackConfirm =>
    intro p stored
    cases stored
  | _ => trivial

theorem perform_new_synced_iff (file : List SavedPosition) (call : StoreCall) :
    (perform (.new file) call).1.Synced ↔ file = [] ∨ call.Saves (.new file) := by
  constructor
  · intro synced
    by_contra neither
    obtain ⟨listed, unsaved⟩ := not_or.mp neither
    rw [perform_new unsaved] at synced
    exact listed (new_synced_iff.mp synced)
  · rintro (rfl | saves)
    · exact (perform_synced_iff (new_synced_iff.mpr rfl) call).mpr (leavesFile_new [] call)
    · exact perform_saves saves

/-! ### All along a run -/

/-- The file is current after every call of a run if and only if each call, on the store it finds, rewrites the
file or leaves the lives alone, and nothing was listed before the first call or the first call saves. -/
theorem file_current_iff (file : List SavedPosition) (calls : List StoreCall) :
    (∀ g, g <+: calls → g ≠ [] → (Machine.after perform (.new file) g).Synced) ↔
      (∀ call, [call] <+: calls → file = [] ∨ call.Saves (.new file)) ∧
        ∀ g call, g ++ [call] <+: calls → call.LeavesFile (Machine.after perform (.new file) g) := by
  cases calls with
  | nil => simp
  | cons first rest =>
    have later (start : (perform (.new file) first).1.Synced) :
        (∀ g, g <+: rest → (Machine.after perform (perform (.new file) first).1 g).Synced) ↔
          ∀ g call, g ++ [call] <+: rest →
            call.LeavesFile (Machine.after perform (perform (.new file) first).1 g) :=
      Machine.always_iff (P := AutoSellManager.Synced) perform
        (fun _ call synced => perform_synced_iff synced call) start rest
    constructor
    · intro current
      have start : (perform (.new file) first).1.Synced := current [first] (by simp) (by simp)
      refine ⟨fun call short => ?_, fun g call short => ?_⟩
      · obtain ⟨rfl, -⟩ := List.cons_prefix_cons.mp short
        exact (perform_new_synced_iff file call).mp start
      · cases g with
        | nil => exact leavesFile_new file call
        | cons first' g =>
          obtain ⟨rfl, within⟩ := List.cons_prefix_cons.mp short
          exact (later start).mp (fun g short => current (first' :: g) (by simpa using short) (by simp)) g call within
    · rintro ⟨fresh, leaves⟩ g short nonempty
      obtain ⟨first', g, rfl⟩ := List.exists_cons_of_ne_nil nonempty
      obtain ⟨rfl, within⟩ := List.cons_prefix_cons.mp short
      have start := (perform_new_synced_iff file first').mpr (fresh first' (by simp))
      exact (later start).mpr (fun g call short => leaves (first' :: g) call (by simpa using short)) g within

/-- A confirmed position, and the file still says that it confirms, with no tokens. -/
theorem confirmation_unsaved :
    let calls : List StoreCall := [.addPosition sampleUnconfirmed, .confirmSuccess ⟨"g1", 5⟩ 1000 none 0]
    ¬ (Machine.after perform (.new []) calls).Synced ∧
      (Machine.after perform (.new []) calls).file.map (fun saved => (saved.state, saved.tokenAmount)) =
        [(.confirming, 0)] ∧
      (Machine.after perform (.new []) calls).positions.values.map (fun p => (p.state, p.tokenAmount)) =
        [(.active, 1000)] := by
  unfold AutoSellManager.Synced
  decide +kernel

end StoreCall

end CopyTrader.AutoSell
