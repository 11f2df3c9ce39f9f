import CopyTrader.Groups

/-!
# Positions

A position and its state transitions. A transition that refuses leaves the position alone and
answers `false`. `now` is the clock reading of the transition.
-/

namespace CopyTrader.AutoSell

inductive PositionState where
  | pending | submitted | confirming | active | selling | closed | failed
  deriving DecidableEq, Repr

def PositionState.isOpen (state : PositionState) : Bool := state ≠ .closed && state ≠ .failed

structure SellAccountSnapshot where
  bondingCurve : Pubkey
  associatedBondingCurve : Pubkey
  userAta : Pubkey
  tokenProgram : Pubkey
  mirrorAccounts : List Pubkey
  sourceWallet : Pubkey
  deriving DecidableEq, Repr

inductive PositionRoute where
  | pumpfun | externalJupiter
  deriving DecidableEq, Repr

structure PositionKey where
  groupId : String
  tokenMint : Pubkey
  deriving DecidableEq, Repr

structure Position where
  group : CopyGroup
  tokenMint : Pubkey
  state : PositionState
  entrySolAmount : ℕ
  tokenAmount : ℕ
  entryPriceSol : ℚ
  tokenName : String
  entryMcapSol : ℚ
  highestPrice : ℚ
  currentPrice : ℚ
  createdAt : Instant
  confirmedAt : Option Instant
  sourceWallet : Pubkey
  buySignature : Signature
  sellSignature : Option Signature
  sellSnapshot : Option SellAccountSnapshot
  route : PositionRoute
  tokenProgram : Option Pubkey
  preBuyAtaBalance : ℕ
  sellAttempts : ℕ
  zeroBalanceSellSkips : ℕ
  partialSellCount : ℕ
  lastPartialSellAt : Option Instant
  deriving DecidableEq, Repr

namespace Position

def new (group : CopyGroup) (tokenMint : Pubkey) (entrySolAmount : ℕ) (entryPriceSol : ℚ)
    (sourceWallet : Pubkey) (preBuyAtaBalance : ℕ) (now : Instant) : Position where
  group := group
  tokenMint := tokenMint
  state := .pending
  entrySolAmount := entrySolAmount
  tokenAmount := 0
  entryPriceSol := entryPriceSol
  tokenName := ""
  entryMcapSol := 0
  highestPrice := entryPriceSol
  currentPrice := entryPriceSol
  createdAt := now
  confirmedAt := none
  sourceWallet := sourceWallet
  buySignature := ""
  sellSignature := none
  sellSnapshot := none
  route := .pumpfun
  tokenProgram := none
  preBuyAtaBalance := preBuyAtaBalance
  sellAttempts := 0
  zeroBalanceSellSkips := 0
  partialSellCount := 0
  lastPartialSellAt := none

def key (p : Position) : PositionKey := ⟨p.group.id, p.tokenMint⟩

def isExternalJupiter (p : Position) : Bool := p.route = .externalJupiter

def setTokenAmountEstimate (p : Position) (tokenAmount : ℕ) : Position :=
  if p.tokenAmount = 0 ∧ 0 < tokenAmount then { p with tokenAmount } else p

/-! ### Prices -/

def updatePrice (p : Position) (price : ℚ) : Position × Bool :=
  if p.highestPrice < price then ({ p with currentPrice := price, highestPrice := price }, true)
  else ({ p with currentPrice := price }, false)

def pnlPercent (p : Position) : ℚ :=
  if 0 < p.entryPriceSol then (p.currentPrice - p.entryPriceSol) / p.entryPriceSol * 100 else 0

def drawdownPercent (p : Position) : ℚ :=
  if 0 < p.highestPrice then (p.highestPrice - p.currentPrice) / p.highestPrice * 100 else 0

def heldSeconds (p : Position) (now : Instant) : ℕ := (now.durationSince p.createdAt).asSecs

/-! ### Transitions -/

def markSubmitted (p : Position) (signature : Signature) : Position × Bool :=
  if p.state ≠ .pending then (p, false)
  else ({ p with buySignature := signature, state := .submitted }, true)

def markConfirming (p : Position) : Position × Bool :=
  if p.state ≠ .submitted then (p, false) else ({ p with state := .confirming }, true)

def activationPrice (p : Position) (actualTokenAmount : ℕ) (bcPriceSol : Option ℚ) : ℚ :=
  match bcPriceSol with
  | some price =>
    if 0 < price then price
    else if 0 < p.entrySolAmount then lamportsToSol p.entrySolAmount / displayTokens actualTokenAmount
    else 0
  | none =>
    if 0 < p.entrySolAmount then lamportsToSol p.entrySolAmount / displayTokens actualTokenAmount
    else 0

def markActive (p : Position) (actualTokenAmount : ℕ) (bcPriceSol : Option ℚ) (now : Instant) :
    Position × Bool :=
  if p.state ≠ .confirming ∧ p.state ≠ .submitted then (p, false)
  else
    let price := p.activationPrice actualTokenAmount bcPriceSol
    let priced := if 0 < actualTokenAmount then
        { p with entryPriceSol := price, highestPrice := price, currentPrice := price }
      else p
    ({ priced with tokenAmount := actualTokenAmount, state := .active, confirmedAt := some now }, true)

def markSelling (p : Position) : Position × Bool :=
  if p.state ≠ .active ∧ p.state ≠ .confirming ∧ p.state ≠ .submitted then (p, false)
  else
    ({ p with state := .selling, sellAttempts := p.sellAttempts + 1, zeroBalanceSellSkips := 0 }, true)

def markClosed (p : Position) (sellSignature : Signature) : Position × Bool :=
  if p.state ≠ .selling then (p, false)
  else ({ p with sellSignature := some sellSignature, state := .closed }, true)

/-- From any state. -/
def markFailed (p : Position) : Position := { p with state := .failed }

def revertToActive (p : Position) : Position × Bool :=
  if p.state ≠ .selling then (p, false) else ({ p with state := .active }, true)

/-- From any state, and to whatever state the caller remembers. -/
def restoreAfterSellAttempt (p : Position) (previousState : PositionState) : Position :=
  { p with state := previousState }

def recordZeroBalanceSellSkip (p : Position) : Position × ℕ :=
  let skips := min (p.zeroBalanceSellSkips + 1) (2 ^ 32 - 1)
  ({ p with zeroBalanceSellSkips := skips }, skips)

def applyPartialSell (p : Position) (soldAmount : ℕ) (now : Instant) : Position × Bool :=
  if soldAmount = 0 ∨ p.tokenAmount < soldAmount then (p, false)
  else
    ({ p with
        tokenAmount := p.tokenAmount - soldAmount
        partialSellCount := min (p.partialSellCount + 1) (2 ^ 32 - 1)
        lastPartialSellAt := some now
        highestPrice := p.currentPrice
        state := .active }, true)

/-! ### Tests -/

def canCheckStopLoss (p : Position) : Bool := p.state = .active

def canCheckTakeProfit (p : Position) : Bool := p.state = .active

def canSell (p : Position) : Bool := p.state = .active || p.state = .confirming

def maxSellAttemptsReached (p : Position) (max : ℕ) : Bool := max ≤ p.sellAttempts

/-! ### Where the transitions lead -/

theorem markActive_state (p : Position) (amount : ℕ) (price : Option ℚ) (now : Instant) :
    (p.markActive amount price now).1.state =
      if p.state = .confirming ∨ p.state = .submitted then .active else p.state := by
  unfold markActive
  by_cases confirming : p.state = .confirming <;> by_cases submitted : p.state = .submitted <;>
    simp [confirming, submitted]

theorem markSelling_state (p : Position) :
    p.markSelling.1.state = if p.markSelling.2 then .selling else p.state := by
  unfold markSelling
  split <;> rfl

theorem markClosed_state (p : Position) (sig : Signature) :
    (p.markClosed sig).1.state = if p.state = .selling then .closed else p.state := by
  unfold markClosed
  by_cases selling : p.state = .selling <;> simp [selling]

theorem applyPartialSell_state (p : Position) (sold : ℕ) (now : Instant) :
    (p.applyPartialSell sold now).1.state =
      if 0 < sold ∧ sold ≤ p.tokenAmount then .active else p.state := by
  unfold applyPartialSell
  by_cases refused : sold = 0 ∨ p.tokenAmount < sold
  · rw [if_pos refused, if_neg (by omega)]
  · rw [if_neg refused, if_pos (by omega)]

/-- What is fixed about a position when its buy is sent. -/
structure SameDeal (p q : Position) : Prop where
  group : p.group = q.group
  tokenMint : p.tokenMint = q.tokenMint
  route : p.route = q.route
  createdAt : p.createdAt = q.createdAt
  buySignature : p.buySignature = q.buySignature
  sellSnapshot : p.sellSnapshot = q.sellSnapshot
  preBuyAtaBalance : p.preBuyAtaBalance = q.preBuyAtaBalance

theorem SameDeal.refl (p : Position) : p.SameDeal p := ⟨rfl, rfl, rfl, rfl, rfl, rfl, rfl⟩

theorem markActive_deal (p : Position) (amount : ℕ) (price : Option ℚ) (now : Instant) :
    (p.markActive amount price now).1.SameDeal p := by
  unfold markActive
  split
  · exact .refl p
  · dsimp only
    split <;> exact ⟨rfl, rfl, rfl, rfl, rfl, rfl, rfl⟩

theorem markSelling_deal (p : Position) : p.markSelling.1.SameDeal p := by
  unfold markSelling
  split <;> exact ⟨rfl, rfl, rfl, rfl, rfl, rfl, rfl⟩

theorem markClosed_deal (p : Position) (sig : Signature) : (p.markClosed sig).1.SameDeal p := by
  unfold markClosed
  split <;> exact ⟨rfl, rfl, rfl, rfl, rfl, rfl, rfl⟩

theorem applyPartialSell_deal (p : Position) (sold : ℕ) (now : Instant) :
    (p.applyPartialSell sold now).1.SameDeal p := by
  unfold applyPartialSell
  split <;> exact ⟨rfl, rfl, rfl, rfl, rfl, rfl, rfl⟩

theorem markSelling_tokenAmount (p : Position) : p.markSelling.1.tokenAmount = p.tokenAmount := by
  unfold markSelling
  split <;> rfl

theorem markClosed_tokenAmount (p : Position) (sig : Signature) :
    (p.markClosed sig).1.tokenAmount = p.tokenAmount := by
  unfold markClosed
  split <;> rfl

end Position

inductive SellReason where
  | takeProfit | stopLoss | trailingStop | maxLifetime | manual | followSell
  deriving DecidableEq, Repr

def SellReason.display : SellReason → String
  | .takeProfit => "TAKE_PROFIT"
  | .stopLoss => "STOP_LOSS"
  | .trailingStop => "TRAILING_STOP"
  | .maxLifetime => "MAX_LIFETIME"
  | .manual => "MANUAL"
  | .followSell => "FOLLOW_SELL"

structure SellSignal where
  positionKey : PositionKey
  groupName : String
  reason : SellReason
  currentPrice : ℚ
  pnlPercent : ℚ
  deriving DecidableEq, Repr

end CopyTrader.AutoSell
