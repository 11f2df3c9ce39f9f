import CopyTrader.Grpc.Tracking
import CopyTrader.Solana

/-!
# Selling a position

The handlers of a sell signal and of a manual partial sale. A polling round of
`wait_sell_confirm` sleeps 80 ms, so its loop is unrolled as often as its time allows; the
latencies that the source only logs are left out.
-/

namespace CopyTrader.Tx
open Lib AutoSell Grpc Processor Tasks

def MAX_SELL_RETRIES : ℕ := 3
def MAX_ZERO_BALANCE_SKIPS : ℕ := 5
def FAST_FIRST_CONFIRM_MS : ℕ := 1500
def RETRY_CONFIRM_MS : ℕ := 2500
def DEFAULT_CONFIRM_MS : ℕ := 3000

def SELL_POLL_MS : ℕ := 80

inductive SellConfirmSource where
  | cacheAtaTarget | signatureError | rpcAtaTarget | signatureSeen | timeout
  deriving DecidableEq, Repr

structure SellConfirmTrace where
  confirmed : Bool
  source : SellConfirmSource
  deriving DecidableEq, Repr

def confirmTimeoutMs (reason : SellReason) (attempt : ℕ) : ℕ :=
  match reason with
  | .followSell => if attempt = 1 then FAST_FIRST_CONFIRM_MS else RETRY_CONFIRM_MS
  | _ => DEFAULT_CONFIRM_MS

def resolveSellSnapshot (position : Position) : Prog (Option SellAccountSnapshot) :=
  match position.sellSnapshot with
  | some snapshot => return some snapshot
  | none => do
    let prefetched ← perform (.prefetchGet position.tokenMint)
    return prefetched.map fun token =>
      { bondingCurve := token.bondingCurve
        associatedBondingCurve := token.associatedBondingCurve
        userAta := token.userAta
        tokenProgram := token.tokenProgram
        mirrorAccounts := token.mirrorAccounts
        sourceWallet := token.sourceWallet }

/-- `get_token_balance_rpc`. -/
def getTokenBalanceRpc (account : Pubkey) : Prog ℕ := do
  let answer ← perform (.rpcTokenBalance account)
  return directBalance answer

def cleanupMintIfUnused (mint : Pubkey) : Prog Unit := do
  let openCount ← perform (.openPositionCountForMint mint)
  if openCount = 0 then
    perform (.ataCacheRemove mint)
    untrackMint mint
    perform (.prefetchRemove mint)

def tryPumpfunSell (position : Position) (tokenAmount : ℕ) : Prog (Except String Signature) := do
  let some snapshot ← resolveSellSnapshot position | return .error "no sell snapshot"
  perform (.sendPumpfunSell position snapshot tokenAmount)

def tryJupiterSell (position : Position) (tokenAmount : ℕ) : Prog (Except String Signature) :=
  perform (.sendJupiterSell position.tokenMint tokenAmount position.group.sellSlippageBps)

def shouldRouteSellToJupiter (snapshot : SellAccountSnapshot) : Prog Bool := do
  let migrated ← perform (.isBondingCurveMigrated snapshot.bondingCurve)
  return migrated = some true

/-- A balance polled for confirmation: a failed join reads as the largest balance, any other
error as zero. -/
def polledBalance : BalanceAnswer → ℕ
  | .joinError => 2 ^ 64 - 1
  | .ok (some amount) => amount
  | _ => 0

/-- The status query of one round: whether the signature has been seen, `none` on an error of the
transaction. It is made until the signature is seen. -/
def pollSellSignature (sig : Signature) (signatureSeen : Bool) : Prog (Option Bool) := do
  if signatureSeen then return some true
  else
    match ← perform (.rpcSignatureStatus sig) with
    | .ok (some status) => if status.err.isSome then return none else return some true
    | _ => return some false

def waitSellConfirmLoop (mint userAta : Pubkey) (sig : Signature) (start : Instant) (maxWait : Duration)
    (expectedAfterBalance : ℕ) : (rounds : ℕ) → (signatureSeen : Bool) → Prog SellConfirmTrace
  | 0, _ => return ⟨false, .timeout⟩
  | rounds + 1, signatureSeen => do
    let waited ← elapsed start
    if waited < maxWait then
      let cached ← perform (.ataCacheGet mint)
      if cached.any (·.val ≤ expectedAfterBalance) then return ⟨true, .cacheAtaTarget⟩
      else
        sleep (Duration.fromMillis SELL_POLL_MS)
        let some seen ← pollSellSignature sig signatureSeen | return ⟨false, .signatureError⟩
        let answer ← perform (.rpcTokenBalance userAta)
        let rpcBalance := polledBalance answer
        if rpcBalance ≤ expectedAfterBalance then return ⟨true, .rpcAtaTarget⟩
        else if seen && expectedAfterBalance = rpcBalance then return ⟨true, .signatureSeen⟩
        else waitSellConfirmLoop mint userAta sig start maxWait expectedAfterBalance rounds seen
    else return ⟨false, .timeout⟩

section
variable (setup : Setup)

def waitSellConfirm (position : Position) (sig : Signature) (maxWaitMs expectedAfterBalance : ℕ) :
    Prog SellConfirmTrace := do
  let start ← perform .now
  waitSellConfirmLoop position.tokenMint (setup.snapshotAta position) sig start
    (Duration.fromMillis maxWaitMs) expectedAfterBalance (maxWaitMs / SELL_POLL_MS + 1) false

def tryJupiterSellWithConfirm (position : Position) (tokenAmount confirmTimeoutMs expectedAfterBalance : ℕ) :
    Prog (Except String (Signature × SellConfirmTrace)) := do
  match ← tryJupiterSell position tokenAmount with
  | .error err => return .error err
  | .ok sig =>
    let trace ← waitSellConfirm setup position sig confirmTimeoutMs expectedAfterBalance
    return .ok (sig, trace)

/-- How one attempt ends; a retry may bring a new failure reason. -/
inductive SellAttempt where
  | confirmed (sig : Signature)
  | onChainFailure (reason : String)
  | retry (reason : Option String)

def jupiterSellAttempt (position : Position) (tokenAmount confirmTimeoutMs expectedAfterBalance : ℕ)
    (unconfirmed : SellAttempt) (failed : String → SellAttempt) : Prog SellAttempt := do
  match ← tryJupiterSellWithConfirm setup position tokenAmount confirmTimeoutMs expectedAfterBalance with
  | .ok (sig, trace) =>
    if trace.confirmed then return .confirmed sig
    else if trace.source = .signatureError then return .onChainFailure "jupiter sell failed on-chain"
    else return unconfirmed
  | .error err => return failed err

def pumpfunSellAttempt (position : Position) (tokenAmount confirmTimeoutMs expectedAfterBalance : ℕ) :
    Prog SellAttempt := do
  match ← tryPumpfunSell position tokenAmount with
  | .ok sig =>
    let trace ← waitSellConfirm setup position sig confirmTimeoutMs expectedAfterBalance
    if trace.confirmed then return .confirmed sig
    else if trace.source = .signatureError then
      -- the fallback gets one chance, then the cycle ends
      jupiterSellAttempt setup position tokenAmount confirmTimeoutMs expectedAfterBalance
        (.onChainFailure "sell failed on-chain") fun _ => .onChainFailure "sell failed on-chain"
    else return .retry none
  | .error _ =>
    jupiterSellAttempt setup position tokenAmount confirmTimeoutMs expectedAfterBalance (.retry none)
      fun _ => .retry none

def sellAttempt (position : Position) (reason : SellReason) (routeViaJupiter : Bool)
    (tokenAmount expectedAfterBalance attempt : ℕ) : Prog SellAttempt :=
  if routeViaJupiter then
    jupiterSellAttempt setup position tokenAmount (confirmTimeoutMs reason attempt) expectedAfterBalance
      (.retry none) fun err => .retry (some ("jupiter sell failed: " ++ err))
  else pumpfunSellAttempt setup position tokenAmount (confirmTimeoutMs reason attempt) expectedAfterBalance

inductive SellOutcome where
  | sold (lastSig : Signature)
  | unsold (failureReason : String)

/-- The retry loop, from the attempt `attempt` on. -/
def sellAttempts (position : Position) (reason : SellReason) (routeViaJupiter : Bool)
    (tokenAmount expectedAfterBalance : ℕ) :
    (left attempt : ℕ) → (failureReason : String) → Prog SellOutcome
  | 0, _, failureReason => return .unsold failureReason
  | left + 1, attempt, failureReason => do
    match ← sellAttempt setup position reason routeViaJupiter tokenAmount expectedAfterBalance attempt with
    | .confirmed sig => return .sold sig
    | .onChainFailure failure => return .unsold failure
    | .retry failure =>
      sellAttempts position reason routeViaJupiter tokenAmount expectedAfterBalance left (attempt + 1)
        (failure.getD failureReason)

def skipZeroBalance (key : PositionKey) : Prog Unit := do
  let skips ← perform (.recordZeroBalanceSellSkip key)
  if MAX_ZERO_BALANCE_SKIPS ≤ skips.getD 1 then
    perform (.confirmFailed key "sell skipped repeatedly: zero balance")

/-- The name a report gives the token: without one, the ends of its address. -/
def tokenLabel (position : Position) (mint : Pubkey) : String :=
  if position.tokenName.isEmpty then
    let ms := mint.toText.toList
    String.ofList (ms.take 6) ++ ".." ++ String.ofList (ms.drop (ms.length - 4))
  else position.tokenName

def finishSold (signal : SellSignal) (position : Position) (lastSig : Signature)
    (expectedAfterBalance : ℕ) : Prog Unit := do
  perform (.markClosed signal.positionKey lastSig)
  cleanupMintIfUnused position.tokenMint
  let t ← perform .now
  perform (.tgSend (.sellSuccess signal.positionKey.groupId signal.groupName position.tokenMint
    (tokenLabel position position.tokenMint) signal.reason.display signal.pnlPercent lastSig position.buySignature
    (position.heldSeconds t) (lamportsToSol position.entrySolAmount) (expectedAfterBalance = 0)))

def finishUnsold (signal : SellSignal) (position : Position) (failureReason : String) : Prog Unit := do
  let current ← perform (.getPosition signal.positionKey)
  let capReached := current.any (·.maxSellAttemptsReached MAX_AUTO_SELL_SIGNAL_ATTEMPTS)
  if signal.reason ≠ .manual && capReached then
    perform (.suspendAutoSell signal.positionKey position.state MAX_AUTO_SELL_SIGNAL_ATTEMPTS)
    perform (.tgSend (.sellFailed signal.positionKey.groupId signal.groupName position.tokenMint
      "auto-sell suspended after 5 failed cycles"))
  else
    perform (.restoreAfterSellAttempt signal.positionKey position.state)
    perform (.tgSend (.sellFailed signal.positionKey.groupId signal.groupName position.tokenMint
      failureReason))

def sellRoute (position : Position) (snapshot : Option SellAccountSnapshot) : Prog Bool :=
  match position.isExternalJupiter, snapshot with
  | false, some snapshot => shouldRouteSellToJupiter snapshot
  | _, _ => return true

def sellMarked (signal : SellSignal) (position : Position) (snapshot : Option SellAccountSnapshot)
    (currentAtaBalance tokenAmount : ℕ) : Prog Unit := do
  let expectedAfterBalance := currentAtaBalance - tokenAmount
  let routeViaJupiter ← sellRoute position snapshot
  match ← sellAttempts setup position signal.reason routeViaJupiter tokenAmount expectedAfterBalance
      MAX_SELL_RETRIES 1 "sell retries exhausted" with
  | .sold lastSig => finishSold signal position lastSig expectedAfterBalance
  | .unsold failureReason => finishUnsold signal position failureReason

/-- The balance a sale is sized by, from the cache or else from the network. -/
def currentBalance (mint userAta : Pubkey) : Prog ℕ := do
  match ← perform (.ataCacheGet mint) with
  | some balance => return balance.val
  | none => getTokenBalanceRpc userAta

def sellPosition (signal : SellSignal) (position : Position) (snapshot : Option SellAccountSnapshot) :
    Prog Unit := do
  let userAta := match snapshot with
    | some snapshot => snapshot.userAta
    | none => setup.positionAta position
  let currentAtaBalance ← currentBalance position.tokenMint userAta
  let tokenAmount :=
    if 0 < position.tokenAmount then min position.tokenAmount currentAtaBalance else currentAtaBalance
  if tokenAmount = 0 then skipZeroBalance signal.positionKey
  else
    let marked ← perform (.markSelling signal.positionKey)
    if marked then sellMarked setup signal position snapshot currentAtaBalance tokenAmount

def handleSellSignal (signal : SellSignal) : Prog Unit := do
  let some position ← perform (.getPosition signal.positionKey) | return ()
  if position.isExternalJupiter then sellPosition setup signal position none
  else
    let some snapshot ← resolveSellSnapshot position | return ()
    sellPosition setup signal position (some snapshot)

def manualSignal (groupId : String) (mint : Pubkey) (position : Position) : SellSignal where
  positionKey := ⟨groupId, mint⟩
  groupName := position.group.name
  reason := .manual
  currentPrice := position.currentPrice
  pnlPercent := position.pnlPercent

def partialSellRoute (position : Position) : Prog Bool := do
  let some snapshot ← resolveSellSnapshot position | return false
  shouldRouteSellToJupiter snapshot

def trySellPart (position : Position) (sellAmount : ℕ) : Prog (Except String Signature) := do
  let routeViaJupiter ← partialSellRoute position
  if routeViaJupiter then tryJupiterSell position sellAmount else tryPumpfunSell position sellAmount

def partialSellMarked (signal : SellSignal) (position : Position) (mint : Pubkey)
    (sellAmount percent : ℕ) : Prog Unit := do
  match ← trySellPart position sellAmount with
  | .ok sig =>
    perform (.applyPartialSell signal.positionKey sellAmount)
    let t ← perform .now
    perform (.tgSend (.sellSuccess signal.positionKey.groupId signal.groupName mint
      (tokenLabel position mint) ("manual " ++ toString percent ++ "%") position.pnlPercent sig position.buySignature
      (position.heldSeconds t) (lamportsToSol position.entrySolAmount) false))
  | .error _ => perform (.restoreAfterSellAttempt signal.positionKey position.state)

def handlePartialSell (groupId : String) (mint : Pubkey) (percent : ℕ) : Prog Unit := do
  let some position ← perform (.getPosition ⟨groupId, mint⟩) | return ()
  if position.tokenAmount = 0 then return ()
  else
    let sellAmount :=
      if 100 ≤ percent then position.tokenAmount else position.tokenAmount * percent / 100
    let signal := manualSignal groupId mint position
    if 100 ≤ percent then handleSellSignal setup signal
    else
      let marked ← perform (.markSelling signal.positionKey)
      if marked then partialSellMarked signal position mint sellAmount percent

end

/-! ### What the parts of a sale ask for -/

theorem cleanupMintIfUnused_uses {p : Op → Prop} {mint : Pubkey} (counts : p (.openPositionCountForMint mint))
    (forgets : p (.ataCacheRemove mint)) (tables : ∀ op, p (.subscriber op)) (curves : p (.bcCacheRemove mint))
    (drops : p (.prefetchRemove mint)) : Program.Uses p (cleanupMintIfUnused mint) := by
  refine Program.uses_bind (Program.uses_call.mpr counts) fun openCount => Program.uses_ite ?_ trivial
  refine Program.uses_bind (Program.uses_call.mpr forgets) fun _ => ?_
  exact Program.uses_bind (untrackMint_uses tables curves forgets) fun _ => Program.uses_call.mpr drops

theorem finishSold_uses {p : Op → Prop} {signal : SellSignal} {position : Position} {lastSig : Signature} {expected : ℕ}
    (closes : p (.markClosed signal.positionKey lastSig)) (counts : p (.openPositionCountForMint position.tokenMint))
    (forgets : p (.ataCacheRemove position.tokenMint)) (tables : ∀ op, p (.subscriber op))
    (curves : p (.bcCacheRemove position.tokenMint)) (drops : p (.prefetchRemove position.tokenMint)) (looks : p .now)
    (sends : ∀ event, p (.tgSend event)) : Program.Uses p (finishSold signal position lastSig expected) := by
  refine Program.uses_bind (Program.uses_call.mpr closes) fun _ => ?_
  refine Program.uses_bind (cleanupMintIfUnused_uses counts forgets tables curves drops) fun _ => ?_
  exact Program.uses_bind (Program.uses_call.mpr looks) fun t => Program.uses_call.mpr (sends _)

theorem finishUnsold_uses {p : Op → Prop} {signal : SellSignal} {position : Position} {failureReason : String}
    (reads : p (.getPosition signal.positionKey)) (suspends : ∀ state max, p (.suspendAutoSell signal.positionKey state max))
    (restores : ∀ state, p (.restoreAfterSellAttempt signal.positionKey state))
    (sends : ∀ event, event.reportsSale = false → p (.tgSend event)) :
    Program.Uses p (finishUnsold signal position failureReason) := by
  refine Program.uses_bind (Program.uses_call.mpr reads) fun current => Program.uses_ite ?_ ?_
  · exact Program.uses_bind (Program.uses_call.mpr (suspends ..)) fun _ => Program.uses_call.mpr (sends _ rfl)
  · exact Program.uses_bind (Program.uses_call.mpr (restores _)) fun _ => Program.uses_call.mpr (sends _ rfl)

theorem currentBalance_uses {p : Op → Prop} {mint userAta : Pubkey} (cached : p (.ataCacheGet mint))
    (asks : p (.rpcTokenBalance userAta)) : Program.Uses p (currentBalance mint userAta) := by
  refine Program.uses_bind (Program.uses_call.mpr cached) fun found => ?_
  cases found with
  | some balance => trivial
  | none => exact Program.uses_bind (Program.uses_call.mpr asks) fun answer => trivial

theorem skipZeroBalance_uses {p : Op → Prop} {key : PositionKey} (counts : p (.recordZeroBalanceSellSkip key))
    (fails : ∀ reason, p (.confirmFailed key reason)) : Program.Uses p (skipZeroBalance key) :=
  Program.uses_bind (Program.uses_call.mpr counts) fun _ =>
    Program.uses_ite (Program.uses_call.mpr (fails _)) trivial

theorem resolveSellSnapshot_uses {p : Op → Prop} (reads : ∀ mint, p (.prefetchGet mint))
    {position : Position} : Program.Uses p (resolveSellSnapshot position) := by
  unfold resolveSellSnapshot
  split
  · trivial
  · exact Program.uses_bind (Program.uses_call.mpr (reads _)) fun _ => trivial

theorem shouldRouteSellToJupiter_uses {p : Op → Prop} (asks : ∀ curve, p (.isBondingCurveMigrated curve))
    {snapshot : SellAccountSnapshot} : Program.Uses p (shouldRouteSellToJupiter snapshot) :=
  Program.uses_bind (Program.uses_call.mpr (asks _)) fun _ => trivial

theorem sellRoute_uses {p : Op → Prop} (asks : ∀ curve, p (.isBondingCurveMigrated curve))
    {position : Position} {snapshot : Option SellAccountSnapshot} :
    Program.Uses p (sellRoute position snapshot) := by
  unfold sellRoute
  split
  · exact shouldRouteSellToJupiter_uses asks
  · trivial

theorem partialSellRoute_uses {p : Op → Prop} (reads : ∀ mint, p (.prefetchGet mint))
    (asks : ∀ curve, p (.isBondingCurveMigrated curve)) {position : Position} :
    Program.Uses p (partialSellRoute position) := by
  refine Program.uses_bind (resolveSellSnapshot_uses reads) fun snapshot => ?_
  cases snapshot with
  | none => trivial
  | some snapshot => exact shouldRouteSellToJupiter_uses asks

theorem tryPumpfunSell_uses {p : Op → Prop} {position : Position} {tokenAmount : ℕ}
    (reads : ∀ mint, p (.prefetchGet mint))
    (sends : ∀ snapshot, p (.sendPumpfunSell position snapshot tokenAmount)) :
    Program.Uses p (tryPumpfunSell position tokenAmount) := by
  refine Program.uses_bind (resolveSellSnapshot_uses reads) fun snapshot => ?_
  cases snapshot with
  | none => trivial
  | some snapshot => exact Program.uses_call.mpr (sends snapshot)

theorem trySellPart_uses {p : Op → Prop} {position : Position} {sellAmount : ℕ}
    (reads : ∀ mint, p (.prefetchGet mint)) (asks : ∀ curve, p (.isBondingCurveMigrated curve))
    (sendsPumpfun : ∀ snapshot, p (.sendPumpfunSell position snapshot sellAmount))
    (sendsJupiter : p (.sendJupiterSell position.tokenMint sellAmount position.group.sellSlippageBps)) :
    Program.Uses p (trySellPart position sellAmount) := by
  refine Program.uses_bind (partialSellRoute_uses reads asks) fun routeViaJupiter => ?_
  split
  · exact Program.uses_call.mpr sendsJupiter
  · exact tryPumpfunSell_uses reads sendsPumpfun

theorem partialSellMarked_uses {p : Op → Prop} {signal : SellSignal} {position : Position} {mint : Pubkey}
    {sellAmount percent : ℕ} (reads : ∀ mint, p (.prefetchGet mint)) (asks : ∀ curve, p (.isBondingCurveMigrated curve))
    (sendsPumpfun : ∀ snapshot, p (.sendPumpfunSell position snapshot sellAmount))
    (sendsJupiter : p (.sendJupiterSell position.tokenMint sellAmount position.group.sellSlippageBps))
    (applies : p (.applyPartialSell signal.positionKey sellAmount)) (looks : p .now) (reports : ∀ event, p (.tgSend event))
    (restores : p (.restoreAfterSellAttempt signal.positionKey position.state)) :
    Program.Uses p (partialSellMarked signal position mint sellAmount percent) := by
  refine Program.uses_bind (trySellPart_uses reads asks sendsPumpfun sendsJupiter) fun sent => ?_
  cases sent with
  | ok sig =>
    refine Program.uses_bind (Program.uses_call.mpr applies) fun _ => ?_
    exact Program.uses_bind (Program.uses_call.mpr looks) fun t => Program.uses_call.mpr (reports _)
  | error err => exact Program.uses_call.mpr restores

theorem pollSellSignature_uses {p : Op → Prop} (queries : ∀ sig, p (.rpcSignatureStatus sig))
    {sig : Signature} {seen : Bool} : Program.Uses p (pollSellSignature sig seen) := by
  unfold pollSellSignature
  split
  · trivial
  · refine Program.uses_bind (Program.uses_call.mpr (queries sig)) fun answer => ?_
    split
    · split <;> trivial
    · trivial

section
variable {p : Op → Prop} {setup : Setup} {position : Position} {tokenAmount expected : ℕ}

theorem waitSellConfirm_uses {sig : Signature} {maxWaitMs : ℕ} (reads : p .now) (waits : ∀ deadline, p (.sleepUntil deadline))
    (cached : p (.ataCacheGet position.tokenMint)) (queries : ∀ sig, p (.rpcSignatureStatus sig))
    (asks : p (.rpcTokenBalance (setup.snapshotAta position))) :
    Program.Uses p (waitSellConfirm setup position sig maxWaitMs expected) := by
  have loop : ∀ start maxWait rounds seen, Program.Uses p
      (waitSellConfirmLoop position.tokenMint (setup.snapshotAta position) sig start maxWait expected rounds seen) := by
    intro start maxWait rounds
    induction rounds with
    | zero => exact fun _ => trivial
    | succ rounds ih =>
      intro seen
      refine Program.uses_bind (elapsed_uses reads) fun waited => Program.uses_ite ?_ trivial
      refine Program.uses_bind (Program.uses_call.mpr cached) fun found => Program.uses_ite trivial ?_
      refine Program.uses_bind (sleep_uses reads waits) fun _ =>
        Program.uses_bind (pollSellSignature_uses queries) fun status => ?_
      split
      · exact Program.uses_bind (Program.uses_call.mpr asks) fun answer =>
          Program.uses_ite trivial (Program.uses_ite trivial (ih _))
      · trivial
  exact Program.uses_bind (Program.uses_call.mpr reads) fun start => loop _ _ _ _

theorem jupiterSellAttempt_uses {confirmMs : ℕ} {unconfirmed : SellAttempt} {failed : String → SellAttempt}
    (sends : p (.sendJupiterSell position.tokenMint tokenAmount position.group.sellSlippageBps))
    (waits : ∀ sig maxWaitMs, Program.Uses p (waitSellConfirm setup position sig maxWaitMs expected)) :
    Program.Uses p (jupiterSellAttempt setup position tokenAmount confirmMs expected unconfirmed failed) := by
  refine Program.uses_bind (Program.uses_bind (Program.uses_call.mpr sends) fun sent => ?_) fun result => ?_
  · split
    · trivial
    · exact Program.uses_bind (waits _ _) fun trace => trivial
  · split
    · exact Program.uses_ite trivial (Program.uses_ite trivial trivial)
    · trivial

/-- A sale that goes to Jupiter need not be allowed to go to Pump.fun. -/
theorem sellAttempt_uses {reason : SellReason} {routeViaJupiter : Bool} {attempt : ℕ} (reads : ∀ mint, p (.prefetchGet mint))
    (sendsPumpfun : routeViaJupiter = false → ∀ snapshot, p (.sendPumpfunSell position snapshot tokenAmount))
    (sendsJupiter : p (.sendJupiterSell position.tokenMint tokenAmount position.group.sellSlippageBps))
    (waits : ∀ sig maxWaitMs, Program.Uses p (waitSellConfirm setup position sig maxWaitMs expected)) :
    Program.Uses p (sellAttempt setup position reason routeViaJupiter tokenAmount expected attempt) := by
  cases routeViaJupiter with
  | true => exact jupiterSellAttempt_uses sendsJupiter waits
  | false =>
    refine Program.uses_bind (tryPumpfunSell_uses reads (sendsPumpfun rfl)) fun sent => ?_
    split
    · exact Program.uses_bind (waits _ _) fun trace =>
        Program.uses_ite trivial (Program.uses_ite (jupiterSellAttempt_uses sendsJupiter waits) trivial)
    · exact jupiterSellAttempt_uses sendsJupiter waits

theorem sellAttempts_uses {reason : SellReason} {routeViaJupiter : Bool} {left attempt : ℕ} {failureReason : String}
    (reads : ∀ mint, p (.prefetchGet mint))
    (sendsPumpfun : routeViaJupiter = false → ∀ snapshot, p (.sendPumpfunSell position snapshot tokenAmount))
    (sendsJupiter : p (.sendJupiterSell position.tokenMint tokenAmount position.group.sellSlippageBps))
    (waits : ∀ sig maxWaitMs, Program.Uses p (waitSellConfirm setup position sig maxWaitMs expected)) :
    Program.Uses p
      (sellAttempts setup position reason routeViaJupiter tokenAmount expected left attempt failureReason) := by
  induction left generalizing attempt failureReason with
  | zero => trivial
  | succ left ih =>
    refine Program.uses_bind (sellAttempt_uses reads sendsPumpfun sendsJupiter waits) fun result => ?_
    split
    · trivial
    · trivial
    · exact ih

end

end CopyTrader.Tx
