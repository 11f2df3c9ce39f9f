import CopyTrader.Tasks.Op

/-!
# Confirming a buy

The task that follows a submitted buy. A polling round sleeps at least 25 ms, so ten seconds
take at most 400 of them. In a round the balance request is under way together with the status
request; either may answer first.
-/

namespace CopyTrader.Tx
open Lib AutoSell Processor Tasks

def BUY_CONFIRM_FAST_POLL_MS : ℕ := 25
def BUY_CONFIRM_SLOW_POLL_MS : ℕ := 80
def BUY_CONFIRM_FAST_WINDOW_MS : ℕ := 400

def BUY_CONFIRM_MAX_WAIT_MS : ℕ := 10000

def pollInterval (elapsed : Duration) : Duration :=
  if elapsed < Duration.fromMillis BUY_CONFIRM_FAST_WINDOW_MS then
    Duration.fromMillis BUY_CONFIRM_FAST_POLL_MS
  else Duration.fromMillis BUY_CONFIRM_SLOW_POLL_MS

/-- Take a cached balance that lies above the remembered one, while none is known. -/
def pollCachedBalance (mint : Pubkey) (preBuyAtaBalance tokenBalance : ℕ) : Prog ℕ := do
  if tokenBalance = 0 then
    match ← perform (.ataCacheGet mint) with
    | some cached => if preBuyAtaBalance < cached.val then return cached.val else return tokenBalance
    | none => return tokenBalance
  else return tokenBalance

/-- Whether the buy's signature has been seen; its error when it failed on chain. -/
def pollBuySignature (signature : Signature) (signatureConfirmed : Bool) : Prog (Except String Bool) := do
  if signatureConfirmed then return .ok true
  else
    match ← perform (.rpcSignatureStatus signature) with
    | .ok (some status) =>
      match status.err with
      | some err => return .error err
      | none => return .ok true
    | _ => return .ok false

def takeRpcBalance (preBuyAtaBalance tokenBalance : ℕ) : BalanceAnswer → ℕ
  | .ok amount =>
    let parsed := (amount.map (·.val)).getD 0
    if preBuyAtaBalance < parsed then parsed else tokenBalance
  | _ => tokenBalance

/-- The balance request of a round, when it answers before the status request. -/
def earlyBalance (c : ConfirmTask) (tokenBalance : ℕ) : Prog (Option BalanceAnswer) := do
  if c.preBuyAtaBalance < tokenBalance then return none
  else
    let early ← perform .overtakes
    if early then
      let answer ← perform (.rpcTokenBalance c.userAta)
      return some answer
    else return none

/-- The balance request of a round as it is awaited after the status request. -/
def awaitBalance (c : ConfirmTask) (early : Option BalanceAnswer) (tokenBalance : ℕ) : Prog ℕ := do
  if tokenBalance ≤ c.preBuyAtaBalance then
    match early with
    | some answer => return takeRpcBalance c.preBuyAtaBalance tokenBalance answer
    | none =>
      let answer ← perform (.rpcTokenBalance c.userAta)
      return takeRpcBalance c.preBuyAtaBalance tokenBalance answer
  else return tokenBalance

/-- One polling round: what is known of the signature and the balance, or the error on chain. -/
def buyConfirmRound (c : ConfirmTask) (signatureConfirmed : Bool) (tokenBalance : ℕ) :
    Prog (Except String (Bool × ℕ)) := do
  let tokenBalance ← pollCachedBalance c.mint c.preBuyAtaBalance tokenBalance
  let early ← earlyBalance c tokenBalance
  match ← pollBuySignature c.signature signatureConfirmed with
  | .error err => return .error err
  | .ok signatureConfirmed =>
    let tokenBalance ← pollCachedBalance c.mint c.preBuyAtaBalance tokenBalance
    let tokenBalance ← awaitBalance c early tokenBalance
    return .ok (signatureConfirmed, tokenBalance)

def buyConfirmLoop (c : ConfirmTask) (start : Instant) :
    (rounds : ℕ) → (signatureConfirmed : Bool) → (tokenBalance : ℕ) → Prog (Except String (Bool × ℕ))
  | 0, signatureConfirmed, tokenBalance => return .ok (signatureConfirmed, tokenBalance)
  | rounds + 1, signatureConfirmed, tokenBalance => do
    let waited ← elapsed start
    if waited < Duration.fromMillis BUY_CONFIRM_MAX_WAIT_MS then
      match ← buyConfirmRound c signatureConfirmed tokenBalance with
      | .error err => return .error err
      | .ok (signatureConfirmed, tokenBalance) =>
        if c.preBuyAtaBalance < tokenBalance then return .ok (true, tokenBalance)
        else
          let waited ← elapsed start
          sleep (pollInterval waited)
          buyConfirmLoop c start rounds signatureConfirmed tokenBalance
    else return .ok (signatureConfirmed, tokenBalance)

/-- The first of the wallet's balances after the transaction that lies above the remembered one. -/
def detailBalance (c : ConfirmTask) (balances : List TokenBalance) : Option ℕ :=
  balances.findSome? fun tb =>
    if tb.owner = some c.userPubkey then
      match tb.amount with
      | some amount => if c.preBuyAtaBalance < amount.val then some amount.val else none
      | none => none
    else none

def pollTransaction (c : ConfirmTask) (signatureConfirmed : Bool) (tokenBalance : ℕ) : Prog ℕ := do
  if signatureConfirmed && tokenBalance ≤ c.preBuyAtaBalance then
    match ← perform (.rpcTransaction c.signature) with
    | .ok (some balances) => return (detailBalance c balances).getD tokenBalance
    | _ => return tokenBalance
  else return tokenBalance

def assignedAmount (openPositions actualDelta estimatedTokensRaw : ℕ) : ℕ :=
  if openPositions ≤ 1 ∧ 0 < actualDelta then actualDelta
  else if 0 < estimatedTokensRaw then estimatedTokensRaw
  else actualDelta

def confirmBought (c : ConfirmTask) (tokenBalance : ℕ) : Prog Unit := do
  let actualDelta := tokenBalance - c.preBuyAtaBalance
  let tokens := displayTokens actualDelta
  let buySol := lamportsToSol c.entrySolAmount
  let curve ← perform (.bcCacheGet c.mint)
  let bcPrice := (curve.map (·.priceSol)).filter (0 < ·)
  let entryPrice := bcPrice.getD (if 0 < tokens then buySol / tokens else 0)
  let entryPriceForPosition := if 0 < entryPrice then some entryPrice else bcPrice
  let openPositions ← perform (.openPositionCountForMint c.mint)
  perform (.confirmSuccess c.positionKey (max (assignedAmount openPositions actualDelta c.estimatedTokensRaw) 1)
    entryPriceForPosition)
  perform (.spawnTokenInfo c.positionKey (bcPrice.getD 0 * PUMP_TOTAL_SUPPLY))
  perform (.tgSend (.buyConfirmed c.positionKey.groupId c.groupName c.mint buySol))
  perform (.spawnEntryPrice c.positionKey c.signature tokens)

def confirmLost (c : ConfirmTask) (reason tgReason : String) : Prog Unit := do
  perform (.confirmFailed c.positionKey reason)
  perform (.tgSend (.buyFailed c.positionKey.groupId c.groupName c.mint tgReason))

def finishConfirm (c : ConfirmTask) (signatureConfirmed : Bool) (tokenBalance : ℕ) : Prog Unit :=
  if c.preBuyAtaBalance < tokenBalance then confirmBought c tokenBalance
  else if signatureConfirmed then
    confirmLost c "confirmed but zero balance"
      "transaction confirmed but ATA balance did not increase"
  else
    confirmLost c "timeout with zero balance"
      "buy confirmation timed out and ATA balance stayed unchanged"

/-- The task of `spawn_confirm_task`. -/
def buyConfirm (c : ConfirmTask) : Prog Unit := do
  let start ← perform .now
  match ← buyConfirmLoop c start (BUY_CONFIRM_MAX_WAIT_MS / BUY_CONFIRM_FAST_POLL_MS + 1) false 0 with
  | .error err => confirmLost c "tx failed on-chain" ("tx failed on-chain: " ++ err)
  | .ok (signatureConfirmed, tokenBalance) =>
    let tokenBalance ← pollTransaction c signatureConfirmed tokenBalance
    finishConfirm c signatureConfirmed tokenBalance

/-- The task that fetches the token's name after a confirmation. -/
def tokenInfo (key : PositionKey) (entryMcapSol : ℚ) : Prog Unit := do
  let name ← perform .fetchTokenName
  perform (.updateTokenInfo key (name.getD "") entryMcapSol)

/-- The task that corrects the entry price by the SOL actually spent. -/
def entryPrice (key : PositionKey) (signature : Signature) (tokens : ℚ) : Prog Unit := do
  match ← perform (.actualSolSpent signature) with
  | some actualSol =>
    let realPrice := if 0 < tokens then actualSol / tokens else 0
    if 0 < realPrice then perform (.updateEntryPrice key realPrice)
  | none => return ()

/-! ### What a confirmation asks for -/

section
variable {p : Op → Prop} {c : ConfirmTask}

theorem pollCachedBalance_uses {mint : Pubkey} {preBuyAtaBalance tokenBalance : ℕ} (cached : p (.ataCacheGet mint)) :
    Program.Uses p (pollCachedBalance mint preBuyAtaBalance tokenBalance) := by
  unfold pollCachedBalance
  split
  · refine Program.uses_bind (Program.uses_call.mpr cached) fun found => ?_
    split
    · split <;> trivial
    · trivial
  · trivial

theorem earlyBalance_uses {tokenBalance : ℕ} (races : p .overtakes) (asks : p (.rpcTokenBalance c.userAta)) :
    Program.Uses p (earlyBalance c tokenBalance) := by
  unfold earlyBalance
  split
  · trivial
  · refine Program.uses_bind (Program.uses_call.mpr races) fun early => ?_
    split
    · exact Program.uses_bind (Program.uses_call.mpr asks) fun answer => trivial
    · trivial

theorem pollBuySignature_uses {seen : Bool} (queries : p (.rpcSignatureStatus c.signature)) :
    Program.Uses p (pollBuySignature c.signature seen) := by
  unfold pollBuySignature
  split
  · trivial
  · refine Program.uses_bind (Program.uses_call.mpr queries) fun answer => ?_
    split
    · split <;> trivial
    · trivial

theorem awaitBalance_uses {early : Option BalanceAnswer} {tokenBalance : ℕ} (asks : p (.rpcTokenBalance c.userAta)) :
    Program.Uses p (awaitBalance c early tokenBalance) := by
  unfold awaitBalance
  split
  · split
    · trivial
    · exact Program.uses_bind (Program.uses_call.mpr asks) fun answer => trivial
  · trivial

theorem buyConfirmRound_uses {seen : Bool} {tokenBalance : ℕ} (cached : p (.ataCacheGet c.mint)) (races : p .overtakes)
    (asks : p (.rpcTokenBalance c.userAta)) (queries : p (.rpcSignatureStatus c.signature)) :
    Program.Uses p (buyConfirmRound c seen tokenBalance) := by
  refine Program.uses_bind (pollCachedBalance_uses cached) fun tokenBalance =>
    Program.uses_bind (earlyBalance_uses races asks) fun early =>
      Program.uses_bind (pollBuySignature_uses queries) fun known => ?_
  split
  · trivial
  · exact Program.uses_bind (pollCachedBalance_uses cached) fun tokenBalance =>
      Program.uses_bind (awaitBalance_uses asks) fun _ => trivial

theorem buyConfirmLoop_uses {start : Instant} {rounds : ℕ} {seen : Bool} {tokenBalance : ℕ} (reads : p .now)
    (waits : ∀ deadline, p (.sleepUntil deadline))
    (round : ∀ seen tokenBalance, Program.Uses p (buyConfirmRound c seen tokenBalance)) :
    Program.Uses p (buyConfirmLoop c start rounds seen tokenBalance) := by
  induction rounds generalizing seen tokenBalance with
  | zero => trivial
  | succ rounds ih =>
    refine Program.uses_bind (elapsed_uses reads) fun waited => ?_
    split
    case isFalse => trivial
    refine Program.uses_bind (round _ _) fun known => ?_
    split
    · trivial
    · split
      · trivial
      · exact Program.uses_bind (elapsed_uses reads) fun waited =>
          Program.uses_bind (sleep_uses reads waits) fun _ => ih

theorem pollTransaction_uses {seen : Bool} {tokenBalance : ℕ} (queries : p (.rpcTransaction c.signature)) :
    Program.Uses p (pollTransaction c seen tokenBalance) := by
  unfold pollTransaction
  split
  · refine Program.uses_bind (Program.uses_call.mpr queries) fun answer => ?_
    split <;> trivial
  · trivial

/-- A confirmation polls, and then writes what it has found. -/
theorem buyConfirm_uses (reads : p .now) (waits : ∀ deadline, p (.sleepUntil deadline))
    (round : ∀ seen tokenBalance, Program.Uses p (buyConfirmRound c seen tokenBalance))
    (queries : p (.rpcTransaction c.signature)) (lost : ∀ reason tgReason, Program.Uses p (confirmLost c reason tgReason))
    (bought : ∀ tokenBalance, Program.Uses p (confirmBought c tokenBalance)) : Program.Uses p (buyConfirm c) := by
  refine Program.uses_bind (Program.uses_call.mpr reads) fun start =>
    Program.uses_bind (buyConfirmLoop_uses reads waits round) fun known => ?_
  split
  · exact lost _ _
  · refine Program.uses_bind (pollTransaction_uses queries) fun tokenBalance => ?_
    unfold finishConfirm
    split
    · exact bought _
    · split
      · exact lost _ _
      · exact lost _ _

end

end CopyTrader.Tx
