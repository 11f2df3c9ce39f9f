import CopyTrader.AutoSell.Monitor
import CopyTrader.Lib.Guards
import CopyTrader.Tasks.World

/-!
# The locks of the position store

The operations of the manager and the steps of its monitors once more, as they ask for the locks of
the positions map. All of them release the guard of an entry before they ask for another lock, but
for one: the confirm step of the fallback monitor counts the open positions of the mint while it
holds the guard of the position it confirms.
-/

namespace CopyTrader.AutoSell
open Lib Processor StoreProg

abbrev Locked : Type → Type := StoreProg PositionKey Position

/-- What an operation answers, and the positions file when it rewrites it. -/
abbrev Answered (α : Type) : Type := α × Option (List SavedPosition)

namespace Locked

/-! ### Parts of the operations -/

/-- `save_positions` walks over the whole map. -/
def savePositions : Locked (List SavedPosition) := do
  let entries ← ask .iter
  return ((entries.map Prod.snd).filter (·.state.isSaved)).map SavedPosition.of

variable {α : Type}

def unsaved (x : Locked α) : Locked (Answered α) := do
  let a ← x
  return (a, none)

def saved (x : Locked α) : Locked (Answered α) := do
  let a ← x
  let file ← savePositions
  return (a, some file)

def write (key : PositionKey) (f : Position → Position) : Locked Unit := do
  let _ ← update key fun p => (f p, ())
  return ()

/-- Walk over the positions and collect. -/
def collect (f : List (PositionKey × Position) → α) : Locked α := do
  let entries ← ask .iter
  return f entries

def openCount (mint : Pubkey) (entries : List (PositionKey × Position)) : ℕ :=
  entries.countP fun e => e.1.tokenMint = mint && e.2.state.isOpen

/-! ### Operations that look at the store in their own way -/

def markSelling (key : PositionKey) : Locked Bool := do
  let marked ← update key (·.markSelling)
  return marked.getD false

def recordZeroBalanceSellSkip (key : PositionKey) : Locked (Answered (Option ℕ)) := do
  let skips ← update key (·.recordZeroBalanceSellSkip)
  if skips.isSome then saved (pure skips) else unsaved (pure skips)

/-- The push monitor on one position: it reads the position again for its log line. -/
def grpcExit (key : PositionKey) (state : BondingCurveState) (now : Instant) :
    Locked (Option SellSignal) := do
  let found ← update key (·.grpcExit state now)
  match found.join with
  | some signal =>
    let _ ← ask (.get signal.positionKey)
    return some signal
  | none => return none

def fallbackExit (key : PositionKey) (curve : Option BondingCurveState) (quote : Option ℕ) (now : Instant) :
    Locked (Option SellSignal) := do
  let found ← update key (·.fallbackExit curve quote now)
  return found.join

def fallbackKeys : Locked (List PositionKey) := do
  let entries ← ask .iter
  if entries.isEmpty then return []
  else collect (·.map Prod.fst)

/-- Whether the position is the only open one of its mint; nothing is counted without a gain. -/
def fallbackAlone (p : Position) (actualDelta : ℕ) : Locked Bool := do
  if 0 < actualDelta then
    let openPositions ← collect (openCount p.tokenMint)
    return decide (openPositions ≤ 1)
  else return false

/-- Write the position that was confirmed, under its guard. -/
def confirmGuarded (p : Position) (balance : ℕ) (curve : Option BondingCurveState) (now : Instant) :
    Locked Unit := do
  if p.preBuyAtaBalance < balance then
    let actualDelta := balance - p.preBuyAtaBalance
    let alone ← fallbackAlone p actualDelta
    let assignedAmount :=
      if alone then actualDelta else if 0 < p.tokenAmount then p.tokenAmount else actualDelta
    ask (.put (p.markActive assignedAmount (curve.map (·.priceSol)) now).1)
  else ask (.put p.markFailed)

/-- The confirm step of the fallback monitor. -/
def fallbackConfirm (key : PositionKey) (balance : ℕ) (curve : Option BondingCurveState) (now : Instant) :
    Locked Unit := do
  match ← ask (.getMut key) with
  | some p =>
    confirmGuarded p balance curve now
    ask .release
  | none => return ()

end Locked

/-! ### All calls -/

/-- The operations of the manager, and the steps its monitors take between two waits. -/
inductive StoreCall where
  | addPosition (p : Position)
  | markSubmitted (key : PositionKey) (signature : Signature)
  | markConfirming (key : PositionKey)
  | confirmSuccess (key : PositionKey) (actualTokenAmount : ℕ) (bcPriceSol : Option ℚ) (now : Instant)
  | updateEntryPrice (key : PositionKey) (realPrice : ℚ)
  | updateTokenInfo (key : PositionKey) (tokenName : String) (entryMcapSol : ℚ)
  | markSelling (key : PositionKey)
  | markClosed (key : PositionKey) (sellSignature : Signature)
  | revertToActive (key : PositionKey)
  | restoreAfterSellAttempt (key : PositionKey) (previousState : PositionState)
  | suspendAutoSell (key : PositionKey) (previousState : PositionState) (maxAttempts : ℕ)
  | applyPartialSell (key : PositionKey) (soldAmount : ℕ) (now : Instant)
  | confirmFailed (key : PositionKey)
  | recordZeroBalanceSellSkip (key : PositionKey)
  | getPosition (key : PositionKey)
  | getPositionByGroupMint (groupId : String) (mint : Pubkey)
  | getPositionsForMint (mint : Pubkey)
  | openPositionCountForMint (mint : Pubkey)
  | positionCount
  | getOpenPositionMints
  | getActivePositions
  | getGroupPositions (groupId : String)
  | getSellablePositions
  | keysForMint (mint : Pubkey)
  | grpcExit (key : PositionKey) (state : BondingCurveState) (now : Instant)
  | ataUpdate (key : PositionKey)
  | fallbackKeys
  | fallbackSnapshot (key : PositionKey)
  | fallbackConfirm (key : PositionKey) (balance : ℕ) (curve : Option BondingCurveState) (now : Instant)
  | fallbackExit (key : PositionKey) (curve : Option BondingCurveState) (quote : Option ℕ) (now : Instant)
  | prune (now : Instant)

namespace StoreCall

abbrev Ans : StoreCall → Type
  | .markSelling _ => Bool
  | .recordZeroBalanceSellSkip _ => Option ℕ
  | .getPosition _ | .getPositionByGroupMint .. | .ataUpdate _ | .fallbackSnapshot _ => Option Position
  | .getPositionsForMint _ | .getActivePositions | .getGroupPositions _ => List Position
  | .openPositionCountForMint _ | .positionCount => ℕ
  | .getOpenPositionMints => List Pubkey
  | .getSellablePositions | .keysForMint _ | .fallbackKeys => List PositionKey
  | .grpcExit .. | .fallbackExit .. => Option SellSignal
  | _ => Unit

/-- Open and not being sold. -/
def resting (state : PositionState) : Bool := state.isOpen && state ≠ .selling

def openMints (entries : List (PositionKey × Position)) : List Pubkey :=
  ((entries.filter (·.2.state.isOpen)).map (·.1.tokenMint)).dedup

open Locked in
/-- How each call asks for the locks. -/
def code : (call : StoreCall) → Locked (Answered call.Ans)
  | .addPosition p => saved (ask (.insert p.key p))
  | .markSubmitted key signature => unsaved (write key fun p => (p.markSubmitted signature).1)
  | .markConfirming key => unsaved (write key fun p => p.markConfirming.1)
  | .confirmSuccess key actualTokenAmount bcPriceSol now =>
    unsaved (write key fun p => (p.markActive actualTokenAmount bcPriceSol now).1)
  | .updateEntryPrice key realPrice =>
    unsaved (write key fun p =>
      { p with entryPriceSol := realPrice, highestPrice := max p.highestPrice realPrice })
  | .updateTokenInfo key tokenName entryMcapSol =>
    unsaved (write key fun p => { p with tokenName, entryMcapSol })
  | .markSelling key => unsaved (Locked.markSelling key)
  | .markClosed key sellSignature => saved (write key fun p => (p.markClosed sellSignature).1)
  | .revertToActive key => saved (write key fun p => p.revertToActive.1)
  | .restoreAfterSellAttempt key previousState =>
    saved (write key fun p => p.restoreAfterSellAttempt previousState)
  | .suspendAutoSell key previousState maxAttempts =>
    saved (write key fun p =>
      { p with state := previousState, sellAttempts := max p.sellAttempts maxAttempts })
  | .applyPartialSell key soldAmount now => saved (write key fun p => (p.applyPartialSell soldAmount now).1)
  | .confirmFailed key => saved (write key Position.markFailed)
  | .recordZeroBalanceSellSkip key => Locked.recordZeroBalanceSellSkip key
  | .getPosition key | .ataUpdate key | .fallbackSnapshot key => unsaved (ask (.get key))
  | .getPositionByGroupMint groupId mint => unsaved (ask (.get ⟨groupId, mint⟩))
  | .getPositionsForMint mint => unsaved (collect fun l => (l.filter (·.1.tokenMint = mint)).map Prod.snd)
  | .openPositionCountForMint mint => unsaved (collect (openCount mint))
  | .positionCount => unsaved (collect List.length)
  | .getOpenPositionMints => unsaved (collect openMints)
  | .getActivePositions => unsaved (collect fun l => (l.filter fun e => resting e.2.state).map Prod.snd)
  | .getGroupPositions groupId =>
    unsaved (collect fun l => (l.filter fun e => e.1.groupId = groupId && resting e.2.state).map Prod.snd)
  | .getSellablePositions => unsaved (collect fun l => (l.filter (·.2.canSell)).map Prod.fst)
  | .keysForMint mint => unsaved (collect fun l => (l.map Prod.fst).filter (·.tokenMint = mint))
  | .grpcExit key state now => unsaved (Locked.grpcExit key state now)
  | .fallbackKeys => unsaved Locked.fallbackKeys
  | .fallbackConfirm key balance curve now => unsaved (Locked.fallbackConfirm key balance curve now)
  | .fallbackExit key curve quote now => unsaved (Locked.fallbackExit key curve quote now)
  | .prune now =>
    unsaved (ask (.retain fun _ p => p.state.isOpen || decide (p.heldSeconds now < 60)))

/-- What each call does when it is one step on the store. -/
def eval (m : AutoSellManager) : (call : StoreCall) → call.Ans × AutoSellManager
  | .addPosition p => ((), m.addPosition p)
  | .markSubmitted key signature => ((), m.update key fun p => (p.markSubmitted signature).1)
  | .markConfirming key => ((), m.update key fun p => p.markConfirming.1)
  | .confirmSuccess key actualTokenAmount bcPriceSol now =>
    ((), m.confirmSuccess key actualTokenAmount bcPriceSol now)
  | .updateEntryPrice key realPrice => ((), m.updateEntryPrice key realPrice)
  | .updateTokenInfo key tokenName entryMcapSol => ((), m.updateTokenInfo key tokenName entryMcapSol)
  | .markSelling key => ((m.markSelling key).2, (m.markSelling key).1)
  | .markClosed key sellSignature => ((), m.markClosed key sellSignature)
  | .revertToActive key => ((), (m.update key fun p => p.revertToActive.1).save)
  | .restoreAfterSellAttempt key previousState => ((), m.restoreAfterSellAttempt key previousState)
  | .suspendAutoSell key previousState maxAttempts => ((), m.suspendAutoSell key previousState maxAttempts)
  | .applyPartialSell key soldAmount now => ((), m.applyPartialSell key soldAmount now)
  | .confirmFailed key => ((), m.confirmFailed key)
  | .recordZeroBalanceSellSkip key =>
    ((m.recordZeroBalanceSellSkip key).2, (m.recordZeroBalanceSellSkip key).1)
  | .getPosition key | .ataUpdate key | .fallbackSnapshot key => (m.getPosition key, m)
  | .getPositionByGroupMint groupId mint => (m.getPositionByGroupMint groupId mint, m)
  | .getPositionsForMint mint =>
    ((m.positions.entries.filter (·.1.tokenMint = mint)).map Prod.snd, m)
  | .openPositionCountForMint mint => (m.openPositionCountForMint mint, m)
  | .positionCount => (m.positions.entries.length, m)
  | .getOpenPositionMints => (openMints m.positions.entries, m)
  | .getActivePositions => ((m.positions.entries.filter fun e => resting e.2.state).map Prod.snd, m)
  | .getGroupPositions groupId =>
    ((m.positions.entries.filter fun e => e.1.groupId = groupId && resting e.2.state).map Prod.snd, m)
  | .getSellablePositions => ((m.positions.entries.filter (·.2.canSell)).map Prod.fst, m)
  | .keysForMint mint => (m.keysForMint mint, m)
  | .grpcExit key state now => ((m.grpcExit key state now).2, (m.grpcExit key state now).1)
  | .fallbackKeys => (m.keys, m)
  | .fallbackConfirm key balance curve now => ((), m.fallbackConfirm key balance curve now)
  | .fallbackExit key curve quote now => ((m.fallbackExit key curve quote now).2, (m.fallbackExit key curve quote now).1)
  | .prune now => ((), m.prune now)

/-- The confirm step finds nothing to confirm, or no gain. -/
def Clear (store : DashMap PositionKey Position) : StoreCall → Prop
  | .fallbackConfirm key balance .. => ∀ p, store.get key = some p → balance ≤ p.preBuyAtaBalance
  | _ => True

end StoreCall

/-! ### No lock is asked for under a guard, except by the confirm step -/

namespace Locked

variable {α : Type} {stores : Set (DashMap PositionKey Position)} {x : Locked α}

theorem completes_unsaved_iff : Completes stores (unsaved x) ↔ Completes stores x := Program.wp_bind

theorem completes_savePositions : Completes stores savePositions :=
  completes_bind (completes_ask fun _ => rfl) fun _ => completes_pure _

theorem completes_saved (completes : Completes stores x) : Completes stores (saved x) :=
  completes_bind completes fun _ => completes_bind completes_savePositions fun _ => completes_pure _

theorem completes_write (key : PositionKey) (f : Position → Position) : Completes stores (write key f) :=
  completes_bind (completes_update key _) fun _ => completes_pure _

theorem completes_collect (f : List (PositionKey × Position) → α) : Completes stores (collect f) :=
  completes_bind (completes_ask fun _ => rfl) fun _ => completes_pure _

theorem completes_recordZeroBalanceSellSkip (key : PositionKey) :
    Completes stores (recordZeroBalanceSellSkip key) := by
  refine completes_bind (completes_update key _) fun skips => completes_ite ?_ ?_
  · exact completes_saved (completes_pure _)
  · exact completes_unsaved_iff.mpr (completes_pure _)

theorem completes_grpcExit (key : PositionKey) (state : BondingCurveState) (now : Instant) :
    Completes stores (grpcExit key state now) := by
  refine completes_bind (completes_update key _) fun found => ?_
  cases found.join with
  | none => exact completes_pure _
  | some signal => exact completes_bind (completes_ask fun _ => rfl) fun _ => completes_pure _

theorem completes_fallbackKeys : Completes stores fallbackKeys := by
  refine completes_bind (completes_ask fun _ => rfl) fun entries => completes_ite ?_ ?_
  · exact completes_pure _
  · exact completes_collect _

theorem confirmGuarded_gain {p : Position} {balance : ℕ} {curve : Option BondingCurveState} {now : Instant}
    {key : PositionKey} {post : Unit → Option PositionKey → Prop} (gain : p.preBuyAtaBalance < balance) :
    ¬ (confirmGuarded p balance curve now).wp (guardMonitor stores) post (some key) := by
  intro holds
  unfold confirmGuarded fallbackAlone at holds
  rw [if_pos gain] at holds
  dsimp only at holds
  rw [if_pos (Nat.sub_pos_of_lt gain)] at holds
  -- the guard is held, and the count asks for a lock
  cases holds.1 rfl

/-- The confirm step completes exactly when it finds no position with a gain. -/
theorem completes_fallbackConfirm_iff (key : PositionKey) (balance : ℕ) (curve : Option BondingCurveState)
    (now : Instant) : Completes stores (fallbackConfirm key balance curve now) ↔
      ∀ store ∈ stores, ∀ p, store.get key = some p → balance ≤ p.preBuyAtaBalance := by
  constructor
  · intro completes store member p stored
    by_contra gain
    have body : (do
        confirmGuarded p balance curve now
        ask .release).wp (guardMonitor stores) (fun _ held => held = none) (some key) :=
      completes.2 store (some p) fun _ => ⟨member, stored.symm⟩
    exact confirmGuarded_gain (Nat.not_le.mp gain) (Program.wp_bind.mp body)
  · intro clear
    refine Program.wp_perform (fun _ => rfl) fun store found trusted => ?_
    cases found with
    | none => exact rfl
    | some p =>
      obtain ⟨member, read⟩ := trusted rfl
      have none_gained : ¬ p.preBuyAtaBalance < balance := Nat.not_lt.mpr (clear store member p read.symm)
      show (confirmGuarded p balance curve now >>= fun _ => ask .release).wp _ _ _
      unfold confirmGuarded
      rw [if_neg none_gained]
      exact ⟨nofun, fun _ _ _ => ⟨nofun, fun _ _ _ => rfl⟩⟩

end Locked

namespace StoreCall
open Locked

/-- A call completes without asking for a lock under a guard, whatever the others do to the store
meanwhile, if and only if it is clear. -/
theorem completes_iff_clear (call : StoreCall) (stores : Set (DashMap PositionKey Position)) :
    Completes stores call.code ↔ ∀ store ∈ stores, call.Clear store := by
  have always (completes : Completes stores call.code) (clear : ∀ store, call.Clear store) :
      Completes stores call.code ↔ ∀ store ∈ stores, call.Clear store :=
    ⟨fun _ store _ => clear store, fun _ => completes⟩
  cases call with
  | fallbackConfirm key balance curve now =>
    exact completes_unsaved_iff.trans (completes_fallbackConfirm_iff key balance curve now)
  | addPosition p => exact always (completes_saved (completes_ask fun _ => rfl)) fun _ => trivial
  | markClosed | revertToActive | restoreAfterSellAttempt | suspendAutoSell | applyPartialSell | confirmFailed =>
    exact always (completes_saved (completes_write ..)) fun _ => trivial
  | markSubmitted | markConfirming | confirmSuccess | updateEntryPrice | updateTokenInfo =>
    exact always (completes_unsaved_iff.mpr (completes_write ..)) fun _ => trivial
  | recordZeroBalanceSellSkip key => exact always (completes_recordZeroBalanceSellSkip key) fun _ => trivial
  | markSelling | fallbackExit =>
    refine always (completes_unsaved_iff.mpr ?_) fun _ => trivial
    exact completes_bind (completes_update ..) fun _ => completes_pure _
  | grpcExit key state now =>
    exact always (completes_unsaved_iff.mpr (completes_grpcExit key state now)) fun _ => trivial
  | fallbackKeys => exact always (completes_unsaved_iff.mpr completes_fallbackKeys) fun _ => trivial
  | getPosition | getPositionByGroupMint | ataUpdate | fallbackSnapshot | prune =>
    exact always (completes_unsaved_iff.mpr (completes_ask fun _ => rfl)) fun _ => trivial
  | getPositionsForMint | openPositionCountForMint | positionCount | getOpenPositionMints |
      getActivePositions | getGroupPositions | getSellablePositions | keysForMint =>
    exact always (completes_unsaved_iff.mpr (completes_collect _)) fun _ => trivial

/-- A position that was sent half a minute ago, with nothing of its mint in the wallet before. -/
def sampleUnconfirmed : Position := { Position.new Tasks.sampleGroup 5 1 1 7 0 0 with state := .confirming }

/-- The tokens show up, and the confirm step waits for the lock it holds. -/
theorem fallback_confirm_blocks :
    let store : DashMap PositionKey Position := DashMap.empty.insert ⟨"g1", 5⟩ sampleUnconfirmed
    let call : StoreCall := .fallbackConfirm ⟨"g1", 5⟩ 10 none 30000000000
    ¬ Completes {store} call.code ∧ (exec call.code store none).isNone = true := by
  refine ⟨?_, by decide +kernel⟩
  intro completes
  have clear := (completes_fallbackConfirm_iff ..).mp (completes_unsaved_iff.mp completes)
  exact absurd (clear _ rfl sampleUnconfirmed rfl) (by decide)

end StoreCall

/-! ### Alone, each call is the one step that the manager describes -/

namespace Locked

variable {α : Type} {m m' : AutoSellManager} {a : α} {x : Locked α}

/-- Run alone on the store of `m`, the part of an operation answers `a` and leaves the store of `m'`. -/
def Runs (x : Locked α) (m : AutoSellManager) (a : α) (m' : AutoSellManager) : Prop :=
  exec x m.positions none = some (a, m'.positions, none) ∧ m'.file = m.file

/-- The same for a whole operation, which may rewrite the file. -/
def Answers (x : Locked (Answered α)) (m : AutoSellManager) (r : α × AutoSellManager) : Prop :=
  ∃ file, exec x m.positions none = some ((r.1, file), r.2.positions, none) ∧ file.getD m.file = r.2.file

theorem answers_unsaved (runs : Runs x m a m') : Answers (unsaved x) m (a, m') := by
  refine ⟨none, ?_, runs.2.symm⟩
  rw [unsaved, exec_bind, runs.1]
  rfl

theorem answers_saved (runs : Runs x m a m') : Answers (saved x) m (a, m'.save) := by
  refine ⟨some m'.save.file, ?_, rfl⟩
  rw [saved, exec_bind, runs.1]
  rfl

theorem runs_update {β : Type} (m : AutoSellManager) (key : PositionKey) (f : Position → Position × β)
    {g : Option β → α} : Runs (do
      let found ← update key f
      return g found) m (g ((m.getPosition key).map fun p => (f p).2)) (m.update key fun p => (f p).1) := by
  refine ⟨?_, rfl⟩
  rw [exec_bind, exec_update]
  rfl

theorem runs_write (m : AutoSellManager) (key : PositionKey) (f : Position → Position) :
    Runs (write key f) m () (m.update key f) :=
  runs_update m key fun p => (f p, ())

theorem runs_collect (m : AutoSellManager) (f : List (PositionKey × Position) → α) :
    Runs (collect f) m (f m.positions.entries) m := ⟨rfl, rfl⟩

theorem runs_get (m : AutoSellManager) (key : PositionKey) : Runs (ask (.get key)) m (m.getPosition key) m :=
  ⟨rfl, rfl⟩

theorem update_absent {key : PositionKey} (f : Position → Position) (absent : m.getPosition key = none) :
    m.update key f = m := by
  have same : m.positions.modify key f = m.positions :=
    DashMap.modify_eq_self fun p stored => by simp [AutoSellManager.getPosition, stored] at absent
  rw [AutoSellManager.update, same]

theorem runs_markSelling (key : PositionKey) :
    Runs (markSelling key) m (m.markSelling key).2 (m.markSelling key).1 := by
  have runs : Runs (markSelling key) m _ _ := runs_update m key (·.markSelling)
  unfold AutoSellManager.markSelling
  cases read : m.getPosition key with
  | some p => rwa [read] at runs
  | none => rwa [read, update_absent _ read] at runs

theorem answers_recordZeroBalanceSellSkip (key : PositionKey) :
    Answers (recordZeroBalanceSellSkip key) m
      ((m.recordZeroBalanceSellSkip key).2, (m.recordZeroBalanceSellSkip key).1) := by
  have counts := exec_update key Position.recordZeroBalanceSellSkip m.positions
  unfold AutoSellManager.recordZeroBalanceSellSkip
  cases read : m.getPosition key with
  | some p =>
    refine ⟨some _, ?_, rfl⟩
    rw [recordZeroBalanceSellSkip, exec_bind, counts, show m.positions.get key = some p from read]
    rfl
  | none =>
    have same : m.positions.modify key (fun p => p.recordZeroBalanceSellSkip.1) = m.positions :=
      congrArg (·.positions) (update_absent (fun p => p.recordZeroBalanceSellSkip.1) read)
    refine ⟨none, ?_, rfl⟩
    rw [recordZeroBalanceSellSkip, exec_bind, counts, show m.positions.get key = none from read, same]
    rfl

theorem join_map {β : Type} (found : Option β) (f : β → Option α) : (found.map f).join = found.bind f := by
  cases found <;> rfl

theorem runs_fallbackExit (key : PositionKey) (curve : Option BondingCurveState) (quote : Option ℕ)
    (now : Instant) : Runs (fallbackExit key curve quote now) m (m.fallbackExit key curve quote now).2
      (m.fallbackExit key curve quote now).1 := by
  have runs : Runs (fallbackExit key curve quote now) m _ _ :=
    runs_update m key (·.fallbackExit curve quote now)
  rwa [join_map] at runs

theorem runs_grpcExit (key : PositionKey) (state : BondingCurveState) (now : Instant) :
    Runs (grpcExit key state now) m (m.grpcExit key state now).2 (m.grpcExit key state now).1 := by
  refine ⟨?_, rfl⟩
  rw [grpcExit, exec_bind, exec_update, Option.bind_some, join_map]
  show _ = some ((m.positions.get key).bind fun p => (p.grpcExit state now).2, _, none)
  cases (m.positions.get key).bind fun p => (p.grpcExit state now).2 <;> rfl

theorem runs_fallbackKeys : Runs fallbackKeys m m.keys m := by
  refine ⟨?_, rfl⟩
  rw [fallbackKeys, exec_unguarded]
  show exec (if m.positions.entries.isEmpty then _ else _) m.positions none = some (m.positions.entries.map Prod.fst, _)
  split
  · rename_i empty
    rw [List.isEmpty_iff.mp empty]
    rfl
  · rfl

theorem runs_fallbackConfirm (key : PositionKey) (balance : ℕ) (curve : Option BondingCurveState)
    (now : Instant) (clear : ∀ p, m.getPosition key = some p → balance ≤ p.preBuyAtaBalance) :
    Runs (fallbackConfirm key balance curve now) m () (m.fallbackConfirm key balance curve now) := by
  refine ⟨?_, rfl⟩
  rw [fallbackConfirm, exec_unguarded, StoreOp.answer]
  cases read : m.getPosition key with
  | none =>
    have same := update_absent (fun p => p.fallbackConfirm balance (m.openPositionCountForMint p.tokenMint) curve now) read
    rw [AutoSellManager.fallbackConfirm, same, show m.positions.get key = none from read]
    rfl
  | some p =>
    have none_gained : ¬ p.preBuyAtaBalance < balance := Nat.not_lt.mpr (clear p read)
    have failed : m.positions.modify key (fun _ => p.markFailed) = m.positions.modify key fun p =>
        p.fallbackConfirm balance (m.openPositionCountForMint p.tokenMint) curve now := by
      apply DashMap.modify_congr
      intro p' stored
      obtain rfl := Option.some.inj (read.symm.trans stored)
      rw [Position.fallbackConfirm, if_neg none_gained]
    rw [show m.positions.get key = some p from read]
    show exec (confirmGuarded p balance curve now >>= fun _ => ask .release) m.positions (some key) = _
    rw [confirmGuarded, if_neg none_gained]
    show some ((), m.positions.modify key (fun _ => p.markFailed), none) = _
    rw [failed]
    rfl

end Locked

/-- Alone on the store, a clear call answers and writes what the manager describes in one step. -/
theorem StoreCall.answers (m : AutoSellManager) (call : StoreCall) (clear : call.Clear m.positions) :
    Locked.Answers call.code m (call.eval m) := by
  open Locked in
  cases call with
  | addPosition p =>
    have runs : Runs (ask (.insert p.key p)) m () { m with positions := m.positions.insert p.key p } := ⟨rfl, rfl⟩
    exact answers_saved runs
  | markClosed | revertToActive | restoreAfterSellAttempt | suspendAutoSell | applyPartialSell | confirmFailed =>
    exact answers_saved (runs_write ..)
  | markSubmitted | markConfirming | confirmSuccess | updateEntryPrice | updateTokenInfo =>
    exact answers_unsaved (runs_write ..)
  | markSelling key => exact answers_unsaved (runs_markSelling key)
  | recordZeroBalanceSellSkip key => exact answers_recordZeroBalanceSellSkip key
  | getPosition | getPositionByGroupMint | ataUpdate | fallbackSnapshot => exact answers_unsaved (runs_get ..)
  | getPositionsForMint | openPositionCountForMint | positionCount | getOpenPositionMints |
      getActivePositions | getGroupPositions | getSellablePositions | keysForMint =>
    exact answers_unsaved (runs_collect ..)
  | grpcExit key state now => exact answers_unsaved (runs_grpcExit key state now)
  | fallbackKeys => exact answers_unsaved runs_fallbackKeys
  | fallbackConfirm key balance curve now => exact answers_unsaved (runs_fallbackConfirm key balance curve now clear)
  | fallbackExit key curve quote now => exact answers_unsaved (runs_fallbackExit key curve quote now)
  | prune now =>
    have runs : Runs (ask (.retain fun _ p => p.state.isOpen || decide (p.heldSeconds now < 60))) m ()
        (m.prune now) := ⟨rfl, rfl⟩
    exact answers_unsaved runs

end CopyTrader.AutoSell
