import CopyTrader.AutoSell.Manager
import CopyTrader.Processor.Pumpfun

/-!
# Exit monitors

The sections of the two monitors that hold a position's guard, and the pruning at the end of a
fallback pass.
-/

namespace CopyTrader.AutoSell
open Lib Processor

def MAX_AUTO_SELL_SIGNAL_ATTEMPTS : ℕ := 5

namespace Position

def signalFor (p : Position) (reason : SellReason) : SellSignal where
  positionKey := p.key
  groupName := p.group.name
  reason := reason
  currentPrice := p.currentPrice
  pnlPercent := p.pnlPercent

def lifetimeReached (p : Position) (now : Instant) : Bool :=
  0 < p.group.maxHoldSeconds && p.group.maxHoldSeconds ≤ p.heldSeconds now && p.canSell &&
    !p.maxSellAttemptsReached MAX_AUTO_SELL_SIGNAL_ATTEMPTS

def checkExitConditions (p : Position) (now : Instant) : Option SellSignal :=
  if p.lifetimeReached now then some (p.signalFor .maxLifetime)
  else if p.group.followSellMode then none
  else if p.canCheckStopLoss && p.pnlPercent ≤ -p.group.stopLossPercent then some (p.signalFor .stopLoss)
  else if p.canCheckTakeProfit && p.group.takeProfitPercent ≤ p.pnlPercent then
    some (p.signalFor .takeProfit)
  else if p.canCheckTakeProfit && 0 < p.group.trailingStopPercent && 0 < p.highestPrice &&
      0 < p.pnlPercent && p.group.trailingStopPercent ≤ p.drawdownPercent then
    some (p.signalFor .trailingStop)
  else none

def observePrice (p : Position) (price : ℚ) : Position := if 0 < price then (p.updatePrice price).1 else p

/-- The push monitor on one position. -/
def grpcExit (p : Position) (state : BondingCurveState) (now : Instant) : Position × Option SellSignal :=
  let p := p.observePrice state.priceSol
  (p, if 0 < state.priceSol then p.checkExitConditions now else none)

/-- The fallback monitor on one position, with the cached curve and, for positions bought
elsewhere, a quote for the whole position in lamports. -/
def fallbackExit (p : Position) (curve : Option BondingCurveState) (quote : Option ℕ) (now : Instant) :
    Position × Option SellSignal :=
  if p.lifetimeReached now then (p, some (p.signalFor .maxLifetime))
  else
    match curve, quote with
    | some state, _ =>
      let p := p.observePrice state.priceSol
      (p, p.checkExitConditions now)
    | none, some outLamports =>
      let p := if 0 < p.tokenAmount then
          p.observePrice (lamportsToSol outLamports / displayTokens p.tokenAmount)
        else p
      (p, p.checkExitConditions now)
    | none, none => (p, none)

def needsConfirmCheck (p : Position) (confirmTimeoutSecs : ℕ) (now : Instant) : Bool :=
  (p.state = .submitted || p.state = .confirming) && confirmTimeoutSecs ≤ p.heldSeconds now

def fallbackAssigned (p : Position) (balance openCount : ℕ) : ℕ :=
  let actualDelta := balance - p.preBuyAtaBalance
  if 0 < actualDelta ∧ openCount ≤ 1 then actualDelta
  else if 0 < p.tokenAmount then p.tokenAmount
  else actualDelta

/-- The balance check of the fallback monitor. `openCount` is the number of open positions of the
mint, counted under the guard. -/
def fallbackConfirm (p : Position) (balance openCount : ℕ) (curve : Option BondingCurveState)
    (now : Instant) : Position :=
  if p.preBuyAtaBalance < balance then
    (p.markActive (p.fallbackAssigned balance openCount) (curve.map (·.priceSol)) now).1
  else p.markFailed

/-! ### The exit tests only touch prices -/

theorem observePrice_prices (p : Position) (price : ℚ) :
    ∃ highest current, p.observePrice price = { p with highestPrice := highest, currentPrice := current } := by
  unfold observePrice updatePrice
  split
  · split <;> exact ⟨_, _, rfl⟩
  · exact ⟨_, _, rfl⟩

theorem grpcExit_prices (p : Position) (state : BondingCurveState) (now : Instant) :
    ∃ highest current, (p.grpcExit state now).1 =
      { p with highestPrice := highest, currentPrice := current } := observePrice_prices ..

theorem fallbackExit_prices (p : Position) (curve : Option BondingCurveState) (quote : Option ℕ)
    (now : Instant) : ∃ highest current, (p.fallbackExit curve quote now).1 =
      { p with highestPrice := highest, currentPrice := current } := by
  unfold fallbackExit
  split
  · exact ⟨_, _, rfl⟩
  · split
    · exact observePrice_prices ..
    · dsimp only
      split
      · exact observePrice_prices ..
      · exact ⟨_, _, rfl⟩
    · exact ⟨_, _, rfl⟩

theorem fallbackConfirm_deal (p : Position) (balance openCount : ℕ) (curve : Option BondingCurveState)
    (now : Instant) : (p.fallbackConfirm balance openCount curve now).SameDeal p := by
  unfold fallbackConfirm
  split
  · exact markActive_deal ..
  · exact ⟨rfl, rfl, rfl, rfl, rfl, rfl, rfl⟩

end Position

namespace AutoSellManager

variable (manager : AutoSellManager)

def grpcExit (key : PositionKey) (state : BondingCurveState) (now : Instant) :
    AutoSellManager × Option SellSignal :=
  (manager.update key fun p => (p.grpcExit state now).1,
    (manager.getPosition key).bind fun p => (p.grpcExit state now).2)

def fallbackExit (key : PositionKey) (curve : Option BondingCurveState) (quote : Option ℕ) (now : Instant) :
    AutoSellManager × Option SellSignal :=
  (manager.update key fun p => (p.fallbackExit curve quote now).1,
    (manager.getPosition key).bind fun p => (p.fallbackExit curve quote now).2)

def fallbackConfirm (key : PositionKey) (balance : ℕ) (curve : Option BondingCurveState) (now : Instant) :
    AutoSellManager :=
  manager.update key fun p =>
    p.fallbackConfirm balance (manager.openPositionCountForMint p.tokenMint) curve now

/-- Drop closed and failed positions a minute after their creation. -/
def prune (now : Instant) : AutoSellManager :=
  { manager with
    positions := manager.positions.retain fun _ p => p.state.isOpen || decide (p.heldSeconds now < 60) }

end AutoSellManager

end CopyTrader.AutoSell
