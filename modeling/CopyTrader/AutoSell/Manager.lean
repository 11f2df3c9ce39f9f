import CopyTrader.AutoSell.Position

/-!
# The position store

Every operation on a stored position holds the guard of its entry, so each is one step on the
store. The operations that save rewrite the positions file at their end.
-/

namespace CopyTrader.AutoSell
open Lib

/-- A position as the positions file lists it. -/
structure SavedPosition where
  groupId : String
  groupName : String
  tokenMint : Pubkey
  state : PositionState
  entrySolAmount : ℕ
  tokenAmount : ℕ
  entryPriceSol : ℚ
  highestPrice : ℚ
  currentPrice : ℚ
  sourceWallet : Pubkey
  buySignature : Signature
  sellAttempts : ℕ
  zeroBalanceSellSkips : ℕ
  tokenName : String
  entryMcapSol : ℚ
  route : PositionRoute
  tokenProgram : Option Pubkey
  deriving DecidableEq, Repr

def SavedPosition.of (p : Position) : SavedPosition where
  groupId := p.group.id
  groupName := p.group.name
  tokenMint := p.tokenMint
  state := p.state
  entrySolAmount := p.entrySolAmount
  tokenAmount := p.tokenAmount
  entryPriceSol := p.entryPriceSol
  highestPrice := p.highestPrice
  currentPrice := p.currentPrice
  sourceWallet := p.sourceWallet
  buySignature := p.buySignature
  sellAttempts := p.sellAttempts
  zeroBalanceSellSkips := p.zeroBalanceSellSkips
  tokenName := p.tokenName
  entryMcapSol := p.entryMcapSol
  route := p.route
  tokenProgram := p.tokenProgram

/-- The states the positions file keeps. -/
def PositionState.isSaved : PositionState → Bool
  | .submitted | .confirming | .active | .selling => true
  | .pending | .closed | .failed => false

structure AutoSellManager where
  positions : DashMap PositionKey Position
  file : List SavedPosition

namespace AutoSellManager

def new (file : List SavedPosition) : AutoSellManager := ⟨DashMap.empty, file⟩

variable (manager : AutoSellManager)

def save : AutoSellManager :=
  { manager with file := (manager.positions.values.filter (·.state.isSaved)).map SavedPosition.of }

def update (key : PositionKey) (f : Position → Position) : AutoSellManager :=
  { manager with positions := manager.positions.modify key f }

def getPosition (key : PositionKey) : Option Position := manager.positions.get key

def getPositionByGroupMint (groupId : String) (mint : Pubkey) : Option Position :=
  manager.getPosition ⟨groupId, mint⟩

def keys : List PositionKey := manager.positions.keys

def keysForMint (mint : Pubkey) : List PositionKey := manager.keys.filter (·.tokenMint = mint)

def openPositionCountForMint (mint : Pubkey) : ℕ :=
  manager.positions.entries.countP fun e => e.1.tokenMint = mint && e.2.state.isOpen

/-- `get_open_position_mints`, as a set. -/
def openPositionMints : List Pubkey :=
  (manager.positions.entries.filter (·.2.state.isOpen)).map (·.1.tokenMint)

def addPosition (p : Position) : AutoSellManager :=
  { manager with positions := manager.positions.insert p.key p }.save

def confirmSuccess (key : PositionKey) (actualTokenAmount : ℕ) (bcPriceSol : Option ℚ) (now : Instant) :
    AutoSellManager :=
  manager.update key fun p => (p.markActive actualTokenAmount bcPriceSol now).1

def updateEntryPrice (key : PositionKey) (realPrice : ℚ) : AutoSellManager :=
  manager.update key fun p =>
    { p with entryPriceSol := realPrice, highestPrice := max p.highestPrice realPrice }

def updateTokenInfo (key : PositionKey) (tokenName : String) (entryMcapSol : ℚ) : AutoSellManager :=
  manager.update key fun p => { p with tokenName, entryMcapSol }

def markSelling (key : PositionKey) : AutoSellManager × Bool :=
  match manager.getPosition key with
  | some p => (manager.update key fun p => p.markSelling.1, p.markSelling.2)
  | none => (manager, false)

def markClosed (key : PositionKey) (sellSignature : Signature) : AutoSellManager :=
  (manager.update key fun p => (p.markClosed sellSignature).1).save

def restoreAfterSellAttempt (key : PositionKey) (previousState : PositionState) : AutoSellManager :=
  (manager.update key fun p => p.restoreAfterSellAttempt previousState).save

def suspendAutoSell (key : PositionKey) (previousState : PositionState) (maxAttempts : ℕ) :
    AutoSellManager :=
  (manager.update key fun p =>
    { p with state := previousState, sellAttempts := max p.sellAttempts maxAttempts }).save

def applyPartialSell (key : PositionKey) (soldAmount : ℕ) (now : Instant) : AutoSellManager :=
  (manager.update key fun p => (p.applyPartialSell soldAmount now).1).save

def confirmFailed (key : PositionKey) : AutoSellManager :=
  (manager.update key Position.markFailed).save

def recordZeroBalanceSellSkip (key : PositionKey) : AutoSellManager × Option ℕ :=
  match manager.getPosition key with
  | some p =>
    ((manager.update key fun p => p.recordZeroBalanceSellSkip.1).save, some p.recordZeroBalanceSellSkip.2)
  | none => (manager, none)

/-! ### Reading back -/

@[simp] theorem update_positions (key : PositionKey) (f : Position → Position) :
    (manager.update key f).positions = manager.positions.modify key f := rfl

theorem markSelling_positions (key : PositionKey) :
    (manager.markSelling key).1.positions = manager.positions.modify key fun p => p.markSelling.1 := by
  unfold markSelling getPosition
  cases read : manager.positions.get key with
  | some p => rfl
  | none => exact (DashMap.modify_eq_self fun v stored => by simp [read] at stored).symm

theorem recordZeroBalanceSellSkip_positions (key : PositionKey) :
    (manager.recordZeroBalanceSellSkip key).1.positions =
      manager.positions.modify key fun p => p.recordZeroBalanceSellSkip.1 := by
  unfold recordZeroBalanceSellSkip getPosition
  cases read : manager.positions.get key with
  | some p => rfl
  | none => exact (DashMap.modify_eq_self fun v stored => by simp [read] at stored).symm

end AutoSellManager

end CopyTrader.AutoSell
