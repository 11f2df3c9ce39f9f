import CopyTrader.Main.Buy

/-!
# Trade intake

What the main loop does with one detected trade, and what the consensus handler does with one
trigger.
-/

namespace CopyTrader.Main
open Lib AutoSell Consensus Processor Tasks

/-- The addresses that `extract_token_info` does not take for a mint. -/
def systemAddresses : List Pubkey :=
  [0, TOKEN_PROGRAM,
    0x069b8857feab8184fb687f634618c035dac439dc1aeb3b5598a0f00000000001,
    0x06a7d517192c5c51218cc94c3d4af17f58daee089ba1fd44e3dbd98a00000000,
    0x06a7d51718c774c928566398691d5eb68b5eb8a39b4b6d5c73555b2100000000,
    0x0306466fe5211732ffecadba72c39be7bc8ce5bbc5f7126b2c439b3a40000000,
    0x8c97258f4e2489f1bb3d1029148e0d830b5a1399daff1084048e7bd8dbe9f859]

def isSystemAddress (address : Pubkey) : Bool := systemAddresses.contains address

def isExternalTradeType (tradeType : TradeType) : Bool := tradeType ≠ .pumpfun

def extractTokenInfo (trade : DetectedTrade) : Option (Pubkey × Pubkey) :=
  match trade.tokenMint with
  | some mint => some (mint, trade.tokenProgram.getD TOKEN_PROGRAM)
  | none =>
    if isExternalTradeType trade.tradeType then none
    else
      match trade.instructionAccounts[2]?, trade.instructionAccounts[8]? with
      | some mint, some tokenProgram => if isSystemAddress mint then none else some (mint, tokenProgram)
      | _, _ => none

def signalQualityScore (hasTargetInstruction hasInstructionAccounts hasSolAmount isPreExecution : Bool) : ℕ :=
  (if hasTargetInstruction then 8 else 0) + (if hasInstructionAccounts then 4 else 0) +
    (if hasSolAmount then 2 else 0) + (if !isPreExecution then 1 else 0)

def tradeSignalQuality (trade : DetectedTrade) : ℕ :=
  signalQualityScore (24 ≤ trade.instructionData.length) (!trade.instructionAccounts.isEmpty)
    (0 < trade.solAmountLamports) trade.isPreExecution

def wantsEntry (group : CopyGroup) (trade : DetectedTrade) : Bool :=
  if trade.isBuy then group.buyOnSmartBuy else group.buyOnSmartSell

def belowMinimum (group : CopyGroup) (trade : DetectedTrade) : Bool :=
  0 < group.minTargetBuyLamports && 0 < trade.solAmountLamports &&
    trade.solAmountLamports < group.minTargetBuyLamports

def followSell (group : CopyGroup) (mint : Pubkey) (trade : DetectedTrade) : Prog Unit := do
  if !trade.executionFailed && !trade.isBuy && group.followSellMode then
    match ← perform (.getPosition ⟨group.id, mint⟩) with
    | some position =>
      if position.canSell && !position.maxSellAttemptsReached MAX_AUTO_SELL_SIGNAL_ATTEMPTS then
        perform (.sendSellSignal
          { positionKey := position.key
            groupName := group.name
            reason := .followSell
            currentPrice := position.currentPrice
            pnlPercent := position.pnlPercent })
    | none => return ()

def externalGroup (mint tokenProgram : Pubkey) (trade : DetectedTrade) (group : CopyGroup) : Prog Unit := do
  if !group.acceptsExternalTradeType trade.tradeType || !group.externalMode.isLive then return ()
  else
    followSell group mint trade
    if !wantsEntry group trade || trade.executionFailed || belowMinimum group trade ||
        1 < group.consensusMinWallets then return ()
    else
      perform (.spawnExternalBuy ⟨group, mint, tokenProgram, trade.sourceWallet⟩ (some trade))

/-- One group of a curve trade before its entries: whether it enters, and its follow sale. -/
def curveGroup (mint : Pubkey) (trade : DetectedTrade) (effectiveMirror : List Pubkey) (group : CopyGroup) :
    Prog Bool := do
  let wants := wantsEntry group trade
  -- a reverse buy without a mirror skips the follow sale as well
  if wants && !trade.isBuy && group.buyOnSmartSell && effectiveMirror.isEmpty then return false
  else
    followSell group mint trade
    return wants

def entryGroups (mint : Pubkey) (trade : DetectedTrade) (effectiveMirror : List Pubkey) :
    List CopyGroup → Prog (List CopyGroup)
  | [] => return []
  | group :: rest => do
    let enters ← curveGroup mint trade effectiveMirror group
    let others ← entryGroups mint trade effectiveMirror rest
    return if enters then group :: others else others

def buySignal (group : CopyGroup) (mint tokenProgram : Pubkey) (trade : DetectedTrade)
    (targetInstructionData : List UInt8) : BuySignal where
  groupId := group.id
  groupName := group.name
  tokenMint := mint
  wallet := trade.sourceWallet
  tokenProgram := tokenProgram
  detectedAt := trade.detectedAt
  signature := trade.signature
  consensusMinWallets := group.consensusMinWallets
  consensusTimeoutSecs := group.consensusTimeoutSecs
  instructionData := targetInstructionData
  instructionAccounts := trade.instructionAccounts
  solAmountLamports := trade.solAmountLamports
  isPreExecution := trade.isPreExecution
  tradeOrigin := trade.tradeOrigin

def enterGroup (mint tokenProgram : Pubkey) (trade : DetectedTrade) (group : CopyGroup) : Prog Unit := do
  let targetInstructionData :=
    if group.entryMode = ENTRY_MODE_SMART_BUY then trade.instructionData else []
  if belowMinimum group trade then return ()
  else if group.consensusMinWallets ≤ 1 then
    if trade.executionFailed then return ()
    else
      perform (.spawnBuy ⟨group, mint, [trade.sourceWallet], trade.tradeOrigin, targetInstructionData⟩
        (some trade))
  else if trade.executionFailed then
    let _ ← perform (.rejectSignal group.id mint trade.sourceWallet trade.signature)
    return ()
  else perform (.submitSignal (buySignal group mint tokenProgram trade targetInstructionData))

section
variable (setup : Setup)

def reuseMirror (trade : DetectedTrade) (mint : Pubkey) : Prog (Option (List Pubkey)) :=
  if trade.instructionAccounts.isEmpty && trade.tradeOrigin.isWrapperCpi then perform (.mirrorCacheGet mint)
  else return none

/-- The caches are warmed when some group wants to enter. -/
def warmForEntry (trade : DetectedTrade) (mint tokenProgram : Pubkey) (effectiveMirror : List Pubkey)
    (groups : List CopyGroup) : Prog Unit :=
  if groups.any (wantsEntry · trade) then
    warmBuyCaches setup mint tokenProgram effectiveMirror trade.sourceWallet trade.signature
      (tradeSignalQuality trade) false
  else return ()

def curveTrade (trade : DetectedTrade) (mint tokenProgram : Pubkey) (groups : List CopyGroup) : Prog Unit := do
  let cachedMirror ← reuseMirror trade mint
  let effectiveMirror := cachedMirror.getD trade.instructionAccounts
  warmForEntry setup trade mint tokenProgram effectiveMirror groups
  let entries ← entryGroups mint trade effectiveMirror groups
  forEach (enterGroup mint tokenProgram trade) entries

/-- A direct buy shows a complete mirror of its mint. -/
def cacheMirror (trade : DetectedTrade) : Prog Unit :=
  if trade.isBuy && trade.tradeOrigin = .direct && 18 ≤ trade.instructionAccounts.length then
    match trade.tokenMint with
    | some mint => perform (.mirrorCacheInsert mint trade.instructionAccounts)
    | none => return ()
  else return ()

/-- One round of the main loop. -/
def handleTrade (trade : DetectedTrade) : Prog Unit := do
  let running ← perform .isRunning
  if !running then return ()
  else
    let skip ← perform (.shouldSkipSignature trade)
    if skip then return ()
    else
      cacheMirror trade
      let groups ← perform (.groupsForWallet trade.sourceWallet)
      if groups.isEmpty then return ()
      else
        match extractTokenInfo trade with
        | none => return ()
        | some (mint, tokenProgram) =>
          let blocked ← perform (.isBlocked mint)
          if blocked then return ()
          else if isExternalTradeType trade.tradeType then
            forEach (externalGroup mint tokenProgram trade) groups
          else curveTrade setup trade mint tokenProgram groups

/-- One trigger of the consensus engine. -/
def handleTrigger (trigger : ConsensusTrigger) : Prog Unit := do
  perform (.tgSend (.consensusReached trigger.groupName trigger.tokenMint trigger.wallets))
  match ← perform (.getGroup trigger.groupId) with
  | none => return ()
  | some group =>
    warmBuyCaches setup trigger.tokenMint trigger.canonicalTokenProgram trigger.canonicalInstructionAccounts
      trigger.canonicalWallet trigger.canonicalSignature 1000 true
    perform (.spawnBuy ⟨group, trigger.tokenMint, trigger.wallets, trigger.canonicalTradeOrigin,
      trigger.canonicalInstructionData⟩ none)

end

/-! ### What the parts of the intake ask for -/

variable {setup : Setup} {ops : Op → Prop} {trade : DetectedTrade} {mint tokenProgram : Pubkey}

theorem followSell_uses {group : CopyGroup} (reads : ops (.getPosition ⟨group.id, mint⟩))
    (sends : ∀ signal, ops (.sendSellSignal signal)) : Program.Uses ops (followSell group mint trade) := by
  refine Program.uses_ite (Program.uses_bind (Program.uses_call.mpr reads) fun found => ?_) trivial
  cases found with
  | none => trivial
  | some position => exact Program.uses_ite (Program.uses_call.mpr (sends _)) trivial

theorem entryGroups_uses {effectiveMirror : List Pubkey} {groups : List CopyGroup}
    (reads : ∀ key, ops (.getPosition key)) (sends : ∀ signal, ops (.sendSellSignal signal)) :
    Program.Uses ops (entryGroups mint trade effectiveMirror groups) := by
  induction groups with
  | nil => trivial
  | cons group rest ih =>
    refine Program.uses_bind ?_ fun enters => Program.uses_bind ih fun others => trivial
    exact Program.uses_ite trivial (Program.uses_bind (followSell_uses (reads _) sends) fun _ => trivial)

theorem reuseMirror_uses (reads : ops (.mirrorCacheGet mint)) : Program.Uses ops (reuseMirror trade mint) :=
  Program.uses_ite (Program.uses_call.mpr reads) trivial

theorem warmForEntry_uses {effectiveMirror : List Pubkey} {groups : List CopyGroup}
    (reads : ops (.prefetchGet mint)) (now : ops .now) (stores : ∀ token, ops (.prefetchInsert token))
    (tables : ∀ op, ops (.subscriber op)) :
    Program.Uses ops (warmForEntry setup trade mint tokenProgram effectiveMirror groups) :=
  Program.uses_ite (warmBuyCaches_uses reads now stores tables) trivial

theorem cacheMirror_uses (stores : ∀ mint accounts, ops (.mirrorCacheInsert mint accounts)) :
    Program.Uses ops (cacheMirror trade) := by
  refine Program.uses_ite ?_ trivial
  cases trade.tokenMint with
  | none => trivial
  | some mint => exact Program.uses_call.mpr (stores _ _)

end CopyTrader.Main
