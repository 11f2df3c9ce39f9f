import CopyTrader.Grpc.Tracking

/-!
# Executing a buy

The buy tasks. Waiting for a cache is one more read of it after the wait: the reads in between
change nothing. Quoting and building a transaction may end in any estimate or error.
-/

namespace CopyTrader.Main
open Lib AutoSell Grpc Processor Tasks

def readOrWait {α : Type} (read : Prog (Option α)) : Prog (Option α) := do
  match ← read with
  | some a => return some a
  | none => read

def prefetchToken (setup : Setup) (mint tokenProgram : Pubkey) (mirrorAccounts : List Pubkey)
    (sourceWallet : Pubkey) (sourceSignature : Signature) (qualityScore : ℕ) (forceReplace : Bool) :
    Prog PrefetchedToken := do
  let existing ← perform (.prefetchGet mint)
  match existing.filter fun token => !forceReplace && qualityScore < token.qualityScore with
  | some token => return token
  | none =>
    let bondingCurve := setup.bondingCurveAddress mint
    let t ← perform .now
    let prefetched : PrefetchedToken :=
      { mint
        bondingCurve
        associatedBondingCurve := setup.associatedTokenAddress bondingCurve mint tokenProgram
        userAta := setup.associatedTokenAddress setup.config.pubkey mint tokenProgram
        tokenProgram
        mirrorAccounts
        sourceWallet
        sourceSignature
        qualityScore
        createdAt := t }
    perform (.prefetchInsert prefetched)
    return prefetched

/-- The curve itself is fetched in the background. -/
def warmBuyCaches (setup : Setup) (mint tokenProgram : Pubkey) (mirrorAccounts : List Pubkey)
    (sourceWallet : Pubkey) (sourceSignature : Signature) (qualityScore : ℕ) (forceReplace : Bool) :
    Prog Unit := do
  let prefetched ← prefetchToken setup mint tokenProgram mirrorAccounts sourceWallet sourceSignature
    qualityScore forceReplace
  trackBondingCurve mint prefetched.bondingCurve
  trackAta mint prefetched.userAta

def snapshotOf (token : PrefetchedToken) : SellAccountSnapshot where
  bondingCurve := token.bondingCurve
  associatedBondingCurve := token.associatedBondingCurve
  userAta := token.userAta
  tokenProgram := token.tokenProgram
  mirrorAccounts := token.mirrorAccounts
  sourceWallet := token.sourceWallet

def estimatedPrice (sol : ℚ) (estimatedTokensRaw : ℕ) : ℚ :=
  if 0 < displayTokens estimatedTokensRaw then sol / displayTokens estimatedTokensRaw else 0

def buyPosition (b : BuyTask) (prefetched : Option PrefetchedToken) (curve : Option BondingCurveState)
    (estimatedTokensRaw preBuyAtaBalance : ℕ) (now : Instant) : Position :=
  let price := estimatedPrice b.group.buySolAmount estimatedTokensRaw
  let mcap := if 0 < estimatedTokensRaw then
      (curve.map (·.marketCapSol)).getD (price * PUMP_TOTAL_SUPPLY)
    else 0
  let p := Position.new b.group b.mint b.group.buyLamports price (b.wallets.headD 0) preBuyAtaBalance now
  { p.setTokenAmountEstimate estimatedTokensRaw with
    entryMcapSol := mcap
    sellSnapshot := prefetched.map snapshotOf }

def externalBuyPosition (b : ExternalBuyTask) (estimatedTokensRaw preBuyAtaBalance : ℕ) (now : Instant) :
    Position :=
  let price := estimatedPrice (lamportsToSol b.group.externalBuyLamports) estimatedTokensRaw
  let p := Position.new b.group b.mint b.group.externalBuyLamports price b.sourceWallet preBuyAtaBalance now
  { p with route := .externalJupiter, tokenProgram := some b.tokenProgram }
    |>.setTokenAmountEstimate estimatedTokensRaw

/-- A sent position: submitted, and at once confirming. -/
def sentPosition (p : Position) (sig : Signature) : Position := (p.markSubmitted sig).1.markConfirming.1

section
variable (setup : Setup)

def openPosition (p : Position) (sig : Signature) (userAta : Pubkey) (estimatedTokensRaw : ℕ) : Prog Unit := do
  perform (.addPosition (sentPosition p sig))
  perform (.spawnConfirm
    { positionKey := p.key
      groupName := p.group.name
      mint := p.tokenMint
      signature := sig
      userPubkey := setup.config.pubkey
      entrySolAmount := p.entrySolAmount
      userAta
      estimatedTokensRaw
      preBuyAtaBalance := p.preBuyAtaBalance })

/-- Send a built buy; the position is only kept when positions are sold automatically. -/
def submitBuy (p : Position) (userAta : Pubkey) (sol : ℚ) (estimatedTokensRaw : ℕ) : Prog Bool := do
  match ← perform (.sendBuy p.group.id p.tokenMint p.entrySolAmount) with
  | .ok sig =>
    perform (.tgSend (.buySubmitted p.group.name p.tokenMint sol))
    if setup.config.autoSellEnabled then openPosition setup p sig userAta estimatedTokensRaw
    return true
  | .error err =>
    perform (.tgSend (.buyFailed p.group.id p.group.name p.tokenMint err))
    return false

/-- Quote and build a buy on the curve; without a prefetched token there is nothing to build on. -/
def quotePrefetched (b : BuyTask) (prefetched : Option PrefetchedToken) (curve : Option BondingCurveState) :
    Prog (Except String ℕ) :=
  match prefetched with
  | some token => perform (.quoteBuy b (some token) curve)
  | none => return .error "prefetch not ready"

def executeBuy (b : BuyTask) : Prog Bool := do
  let prefetched ← readOrWait (perform (.prefetchGet b.mint))
  let curve ← readOrWait (perform (.bcCacheGet b.mint))
  let quote ← quotePrefetched b prefetched curve
  let cached ← perform (.ataCacheGet b.mint)
  let preBuyAtaBalance := (cached.map (·.val)).getD 0
  let t ← perform .now
  match quote with
  | .ok estimatedTokensRaw =>
    let p := buyPosition b prefetched curve estimatedTokensRaw preBuyAtaBalance t
    match ← perform (.buildBuyTransaction b) with
    | .ok () =>
      let userAta := (prefetched.map (·.userAta)).getD (setup.defaultAta b.mint)
      submitBuy setup p userAta b.group.buySolAmount estimatedTokensRaw
    | .error err =>
      perform (.tgSend (.buyFailed b.group.id b.group.name b.mint ("buy tx build failed: " ++ err)))
      return false
  | .error _ => return false

def externalPreBuyBalance (mint userAta : Pubkey) : Prog ℕ := do
  match ← perform (.ataCacheGet mint) with
  | some balance => return balance.val
  | none =>
    let answer ← perform (.rpcTokenBalance userAta)
    return directBalance answer

def executeExternalBuy (b : ExternalBuyTask) : Prog Bool := do
  let buyLamports := b.group.externalBuyLamports
  if buyLamports = 0 then return false
  else
    let userAta := setup.associatedTokenAddress setup.config.pubkey b.mint b.tokenProgram
    trackAta b.mint userAta
    let preBuyAtaBalance ← externalPreBuyBalance b.mint userAta
    match ← perform (.quoteExternalBuy b.mint buyLamports b.group.slippageBps) with
    | .error err =>
      perform (.tgSend (.buyFailed b.group.id b.group.name b.mint
        ("external Jupiter buy build failed: " ++ err)))
      return false
    | .ok estimatedTokensRaw =>
      let decoded ← perform .decodeExternalBuy
      if decoded then
        let t ← perform .now
        submitBuy setup (externalBuyPosition b estimatedTokensRaw preBuyAtaBalance t) userAta
          (lamportsToSol buyLamports) estimatedTokensRaw
      else return false

/-- A buy under its claim, once the executor has room for it. -/
def claimedBuy (key : GroupMintKey) (wrapper : Bool) (buy : Prog Bool) : Prog Unit := do
  let permit ← perform (.acquireBuyPermit wrapper)
  if permit then
    let started ← perform (.tryStartGroupMint key)
    if started then
      let submitted ← buy
      perform (.finishGroupMint key submitted)

/-- The task of `spawn_buy_execution`. -/
def buyExecution (b : BuyTask) : Prog Unit :=
  claimedBuy ⟨b.group.id, b.mint⟩ b.tradeOrigin.isWrapperCpi (executeBuy setup b)

/-- The task of `spawn_external_buy_execution`. -/
def externalBuyExecution (b : ExternalBuyTask) : Prog Unit :=
  claimedBuy ⟨b.group.id, b.mint⟩ false (executeExternalBuy setup b)

end

/-! ### What the parts of a buy ask for -/

variable {ops : Op → Prop}

theorem readOrWait_uses {α : Type} {read : Prog (Option α)} (reads : Program.Uses ops read) :
    Program.Uses ops (readOrWait read) := by
  refine Program.uses_bind reads fun found => ?_
  cases found with
  | none => exact reads
  | some a => trivial

theorem prefetchToken_uses {setup : Setup} {mint tokenProgram : Pubkey} {mirrorAccounts : List Pubkey}
    {sourceWallet : Pubkey} {sourceSignature : Signature} {qualityScore : ℕ} {forceReplace : Bool}
    (reads : ops (.prefetchGet mint)) (now : ops .now) (stores : ∀ token, ops (.prefetchInsert token)) :
    Program.Uses ops (prefetchToken setup mint tokenProgram mirrorAccounts sourceWallet sourceSignature
      qualityScore forceReplace) := by
  refine Program.uses_bind (Program.uses_call.mpr reads) fun existing => ?_
  split
  · trivial
  · refine Program.uses_bind (Program.uses_call.mpr now) fun t => ?_
    exact Program.uses_bind (Program.uses_call.mpr (stores _)) fun _ => trivial

theorem warmBuyCaches_uses {setup : Setup} {mint tokenProgram : Pubkey} {mirrorAccounts : List Pubkey}
    {sourceWallet : Pubkey} {sourceSignature : Signature} {qualityScore : ℕ} {forceReplace : Bool}
    (reads : ops (.prefetchGet mint)) (now : ops .now) (stores : ∀ token, ops (.prefetchInsert token))
    (tables : ∀ op, ops (.subscriber op)) :
    Program.Uses ops (warmBuyCaches setup mint tokenProgram mirrorAccounts sourceWallet sourceSignature
      qualityScore forceReplace) :=
  Program.uses_bind (prefetchToken_uses reads now stores) fun _ =>
    Program.uses_bind (trackBondingCurve_uses tables) fun _ => trackAta_uses tables

theorem quotePrefetched_uses {b : BuyTask} {prefetched : Option PrefetchedToken}
    {curve : Option BondingCurveState} (quotes : ∀ token, ops (.quoteBuy b token curve)) :
    Program.Uses ops (quotePrefetched b prefetched curve) := by
  cases prefetched with
  | none => trivial
  | some token => exact Program.uses_call.mpr (quotes _)

theorem externalPreBuyBalance_uses {mint userAta : Pubkey} (reads : ops (.ataCacheGet mint))
    (asks : ops (.rpcTokenBalance userAta)) : Program.Uses ops (externalPreBuyBalance mint userAta) := by
  refine Program.uses_bind (Program.uses_call.mpr reads) fun cached => ?_
  cases cached with
  | some balance => trivial
  | none => exact Program.uses_bind (Program.uses_call.mpr asks) fun answer => trivial

end CopyTrader.Main
