import CopyTrader.AutoSell.Position
import CopyTrader.Lib.Outcome
import CopyTrader.Processor.MirrorCheck
import CopyTrader.Processor.Prefetch
import CopyTrader.Tx.Builder

/-!
# Transactions of a group

The transactions that `execute_buy` and `try_pumpfun_sell` build, as functions of all they read, and whether
they can tell two configurations apart that a group overrides alike.
-/

namespace CopyTrader.Tx
open Lib AutoSell Processor PumpfunProcessor

variable (sdk : Sdk)

/-- What a purchase reads besides its group and the configuration. The curve is read at once, after a short
wait, and after the further wait that only some orders of the target call for. -/
structure BuyInputs where
  mint : Pubkey
  wallets : List Pubkey
  tradeOrigin : TradeOrigin
  targetInstructionData : List UInt8
  prefetched : Option PrefetchedToken
  curveAtOnce : Option BondingCurveState
  curveAfterWait : Option BondingCurveState
  curveAfterFetch : Option BondingCurveState
  fetchBondingCurve : Pubkey → Except String BondingCurveState
  blockhash : BitVec 256
  zeroSlotTipAccount : Pubkey
  jitoTipAccount : Pubkey

namespace BuyInputs

def hasTargetInstruction (i : BuyInputs) : Bool := 24 ≤ i.targetInstructionData.length

def requiresCurveWait (i : BuyInputs) : Bool :=
  i.wallets.length = 1 && targetInstructionRequiresCurve i.targetInstructionData

def cachedCurve (i : BuyInputs) : Option BondingCurveState :=
  i.curveAtOnce.or (i.curveAfterWait.or (if i.requiresCurveWait then i.curveAfterFetch else none))

/-- The mirror of a prefetched token, checked against the curve as far as it is known. -/
def validateMirror (i : BuyInputs) (token : PrefetchedToken) (curve : Option BondingCurveState) (config : AppConfig) :
    Except String Unit :=
  validateDirectMirrorBuyAccounts sdk i.mint token.userAta token.tokenProgram token.sourceWallet token.mirrorAccounts
    curve config

def withoutMirror (i : BuyInputs) (token : PrefetchedToken) : Bool :=
  token.mirrorAccounts.isEmpty || !i.tradeOrigin.usesMirrorAccounts

/-- The curve, fetched at the last moment when the cache has none and the mirror alone does not do. -/
def curve (i : BuyInputs) (config : AppConfig) : Option BondingCurveState :=
  match i.cachedCurve, i.prefetched with
  | none, some token =>
    if i.hasTargetInstruction && (i.withoutMirror token || !(i.validateMirror sdk token none config).isOk) then
      (i.fetchBondingCurve token.bondingCurve).toOption
    else none
  | known, _ => known

def quoteStandard (i : BuyInputs) (token : PrefetchedToken) (curve : BondingCurveState) (config : AppConfig) :
    Except String (MirrorInstruction × ℕ) :=
  (buyStandardFromCachedState sdk i.mint token.userAta token.tokenProgram curve config).map
    (·, curve.solToTokenQuote config.buyLamports)

def quote (i : BuyInputs) (config : AppConfig) : Except String (MirrorInstruction × ℕ) :=
  match i.prefetched with
  | none => .error "prefetch not ready"
  | some token =>
    match i.curve sdk config with
    | some curve =>
      if token.mirrorAccounts.isEmpty then i.quoteStandard sdk token curve config
      else
        match i.validateMirror sdk token (some curve) config with
        | .ok () =>
          (buyFromCachedState sdk i.mint token.userAta token.tokenProgram token.sourceWallet token.mirrorAccounts curve
            config).map (·, curve.solToTokenQuote config.buyLamports)
        | .error _ => i.quoteStandard sdk token curve config
    | none =>
      if i.hasTargetInstruction then
        if i.withoutMirror token then .error "missing bc cache for native buy path"
        else
          match i.validateMirror sdk token none config with
          | .ok () =>
            buyFromTargetInstruction sdk i.mint token.userAta token.tokenProgram token.sourceWallet token.mirrorAccounts
              i.targetInstructionData config
          | .error err => .error ("unsafe direct mirror without bonding curve cache: " ++ err)
      else .error "missing bc cache and target instruction"

end BuyInputs

/-- The transaction of `execute_buy`, and whether it is sent over 0slot only. -/
def executeBuyTransaction (group : CopyGroup) (zeroSlotBuyEnabled : Bool) (baseConfig : AppConfig) (i : BuyInputs) :
    Except String (sdk.VersionedTransaction × Bool) := do
  let config := group.toAppConfig baseConfig
  let zeroSlotOnlyMode := zeroSlotBuyEnabled && !config.zeroSlotUrls.isEmpty
  let (mirror, _) ← i.quote sdk config
  if zeroSlotOnlyMode then
    (TxBuilder.build0slotTransaction sdk mirror config config.keypair i.blockhash i.zeroSlotTipAccount
      baseConfig.zeroSlotTipLamports).map (·, true)
  else if config.jitoEnabled then
    (TxBuilder.buildJitoBundleTransaction sdk mirror config config.keypair i.blockhash i.jitoTipAccount
      group.tipBuyLamports).map (·, false)
  else (TxBuilder.buildTransaction sdk mirror config config.keypair i.blockhash).map (·, false)

/-- What a sale reads besides its position and the configuration. -/
structure SellInputs where
  prefetched : Option PrefetchedToken
  cachedCurve : Option BondingCurveState
  fetchBondingCurve : Pubkey → Except String BondingCurveState
  saleReads : SaleReads
  blockhash : BitVec 256
  jitoTipAccount : Pubkey

def SellInputs.snapshot (i : SellInputs) (position : Position) : Option SellAccountSnapshot :=
  position.sellSnapshot.or (i.prefetched.map fun token =>
    { bondingCurve := token.bondingCurve
      associatedBondingCurve := token.associatedBondingCurve
      userAta := token.userAta
      tokenProgram := token.tokenProgram
      mirrorAccounts := token.mirrorAccounts
      sourceWallet := token.sourceWallet })

/-- The sale from the accounts of the purchase. -/
def sellFromMirror (position : Position) (tokenAmount : ℕ) (user : Pubkey) (snapshot : SellAccountSnapshot)
    (curve : BondingCurveState) : Except String MirrorInstruction := do
  let expectedSol := curve.tokenToSolQuote tokenAmount
  let minSolOutput := expectedSol - bpsOf expectedSol position.group.sellSlippageBps
  let some creator := curve.creator | throw "BC state missing creator"
  let sellIx := buildSellInstructionFromMirror sdk user snapshot.userAta snapshot.mirrorAccounts tokenAmount minSolOutput
    snapshot.tokenProgram creator curve.isCashback
  return {
    swapInstructions := [sellIx]
    preInstructions := []
    postInstructions := []
    tokenMint := position.tokenMint
    solAmount := expectedSol }

/-- The transaction of `try_pumpfun_sell`. -/
def tryPumpfunSellTransaction (config : AppConfig) (position : Position) (tokenAmount : ℕ) (i : SellInputs) :
    Except String sdk.VersionedTransaction := do
  let groupConfig := position.group.toAppConfig config
  let some snapshot := i.snapshot position | throw "no sell snapshot"
  let mirror ←
    if snapshot.mirrorAccounts.isEmpty then
      sellStandard sdk position.tokenMint tokenAmount groupConfig none i.saleReads
    else do
      let curve ←
        match i.cachedCurve with
        | some curve => pure curve
        | none => i.fetchBondingCurve snapshot.bondingCurve
      sellFromMirror sdk position tokenAmount config.pubkey snapshot curve
  if groupConfig.jitoEnabled then
    TxBuilder.buildJitoBundleTransaction sdk mirror groupConfig groupConfig.keypair i.blockhash i.jitoTipAccount
      position.group.tipSellLamports
  else TxBuilder.buildTransaction sdk mirror groupConfig groupConfig.keypair i.blockhash

/-! ## Two configurations -/

/-- The configurations agree on all that no group overrides. -/
structure SameShared (config config' : AppConfig) : Prop where
  keypair : config.keypair = config'.keypair
  pubkey : config.pubkey = config'.pubkey
  computeUnits : config.computeUnits = config'.computeUnits
  priorityFeeMicroLamport : config.priorityFeeMicroLamport = config'.priorityFeeMicroLamport
  jitoEnabled : config.jitoEnabled = config'.jitoEnabled
  zeroSlotUrls : config.zeroSlotUrls = config'.zeroSlotUrls
  confirmTimeoutSecs : config.confirmTimeoutSecs = config'.confirmTimeoutSecs
  autoSellEnabled : config.autoSellEnabled = config'.autoSellEnabled

variable {sdk : Sdk} {base base' : AppConfig}

theorem SameShared.toAppConfig (shared : SameShared base base') (group : CopyGroup) :
    group.toAppConfig base = group.toAppConfig base' := by
  obtain ⟨keypair, pubkey, computeUnits, priorityFee, jito, urls, timeout, autoSell⟩ := shared
  simp only [CopyGroup.toAppConfig, keypair, pubkey, computeUnits, priorityFee, jito, urls, timeout, autoSell]

theorem tryPumpfunSellTransaction_eq (shared : SameShared base base') (position : Position) (tokenAmount : ℕ)
    (i : SellInputs) :
    tryPumpfunSellTransaction sdk base position tokenAmount i = tryPumpfunSellTransaction sdk base' position tokenAmount i := by
  unfold tryPumpfunSellTransaction
  rw [shared.toAppConfig position.group, shared.pubkey]

/-- Only the 0slot tip is taken from the configuration itself. -/
theorem executeBuyTransaction_eq (shared : SameShared base base') (group : CopyGroup) {zeroSlotBuyEnabled : Bool}
    (tips : zeroSlotBuyEnabled = true → base.zeroSlotUrls ≠ [] → base.zeroSlotTipLamports = base'.zeroSlotTipLamports)
    (i : BuyInputs) :
    executeBuyTransaction sdk group zeroSlotBuyEnabled base i = executeBuyTransaction sdk group zeroSlotBuyEnabled base' i := by
  unfold executeBuyTransaction
  rw [shared.toAppConfig group]
  have urls : (group.toAppConfig base').zeroSlotUrls = base.zeroSlotUrls := shared.zeroSlotUrls.symm
  refine bind_congr fun quoted => ?_
  dsimp only
  rw [urls]
  split_ifs with zeroSlot jito
  · simp only [Bool.and_eq_true, Bool.not_eq_true', List.isEmpty_eq_false_iff] at zeroSlot
    rw [tips zeroSlot.1 zeroSlot.2]
  · rfl
  · rfl

/-- A purchase on a sale of wallet 7. -/
def sampleBuyInputs : BuyInputs where
  mint := 9
  wallets := [7]
  tradeOrigin := .direct
  targetInstructionData := orderData SELL_DISCRIMINATOR 1000 0
  prefetched := some {
    mint := 9
    bondingCurve := pda sampleSdk "bonding-curve" [9]
    associatedBondingCurve := sampleSdk.associatedTokenAddress (pda sampleSdk "bonding-curve" [9]) 9 TOKEN_PROGRAM
    userAta := sampleSdk.associatedTokenAddress 1 9 TOKEN_PROGRAM
    tokenProgram := TOKEN_PROGRAM
    mirrorAccounts := (buildSellInstructionFromMirror sampleSdk 7 (sampleSdk.associatedTokenAddress 7 9 TOKEN_PROGRAM)
      sampleMirror 1000 0 TOKEN_PROGRAM 5 false).keys
    sourceWallet := 7
    sourceSignature := "s"
    qualityScore := 1
    createdAt := 0 }
  curveAtOnce := some sampleCurve
  curveAfterWait := none
  curveAfterFetch := none
  fetchBondingCurve _ := .ok sampleCurve
  blockhash := 1
  zeroSlotTipAccount := 21
  jitoTipAccount := 22

/-- The accounts of a sale are passed on, so that there is a transaction. -/
theorem sampleBuyInputs_quote (sdk : Sdk) (config : AppConfig) : ∃ buyIx tokens,
    sampleBuyInputs.quote sdk config = .ok (purchase sdk 9 TOKEN_PROGRAM config buyIx, tokens) ∧
      buyIx.accounts.length = 18 ∧ SignedBy config.pubkey [buyIx] :=
  ⟨_, _, rfl, length_accounts_buildBuyInstructionFromMirror, signedBy_buildBuyInstructionFromMirror⟩

theorem executeBuyTransaction_zeroSlot {config : AppConfig} {group : CopyGroup} {i : BuyInputs} {mirror : MirrorInstruction}
    {tokens : ℕ} (urls : config.zeroSlotUrls ≠ []) (quoted : i.quote sdk (group.toAppConfig config) = .ok (mirror, tokens)) :
    executeBuyTransaction sdk group true config i =
      (sdk.compileAndSign (TxBuilder.tip config.keypair i.zeroSlotTipAccount config.zeroSlotTipLamports ++
        TxBuilder.assembleInstructions mirror (group.toAppConfig config)) config.keypair i.blockhash).map (·, true) := by
  unfold executeBuyTransaction
  dsimp only
  rw [quoted]
  have zeroSlot : (true && !(group.toAppConfig config).zeroSlotUrls.isEmpty) = true := by
    rw [Bool.true_and, Bool.not_eq_true', List.isEmpty_eq_false_iff]
    exact urls
  exact if_pos zeroSlot

/-- Over 0slot only, purchases that cannot be told apart pay the same tip. -/
theorem tip_of_eq (compiles : sdk.Compiles) (shared : SameShared base base') (range : base.zeroSlotTipLamports < 2 ^ 64)
    (range' : base'.zeroSlotTipLamports < 2 ^ 64) {group : CopyGroup} (urls : base.zeroSlotUrls ≠ [])
    (same : executeBuyTransaction sdk group true base sampleBuyInputs =
      executeBuyTransaction sdk group true base' sampleBuyInputs) :
    base.zeroSlotTipLamports = base'.zeroSlotTipLamports := by
  obtain ⟨buyIx, tokens, quoted, accounts, swap⟩ := sampleBuyInputs_quote sdk (group.toAppConfig base)
  have quoted' := quoted
  rw [shared.toAppConfig group] at quoted'
  rw [executeBuyTransaction_zeroSlot urls quoted, executeBuyTransaction_zeroSlot (shared.zeroSlotUrls ▸ urls) quoted',
    ← shared.toAppConfig group, ← shared.keypair] at same
  have few : addressCount (TxBuilder.tip base.keypair sampleBuyInputs.zeroSlotTipAccount base.zeroSlotTipLamports ++
      TxBuilder.assembleInstructions (purchase sdk 9 TOKEN_PROGRAM (group.toAppConfig base) buyIx)
        (group.toAppConfig base)) < 256 := by
    have tip : addressCount (TxBuilder.tip base.keypair sampleBuyInputs.zeroSlotTipAccount base.zeroSlotTipLamports) ≤ 3 :=
      addressCount_tip
    have rest : addressCount (TxBuilder.assembleInstructions (purchase sdk 9 TOKEN_PROGRAM (group.toAppConfig base) buyIx)
        (group.toAppConfig base)) ≤ 10 + 18 := addressCount_purchase.trans_eq (congrArg (10 + ·) accounts)
    rw [addressCount_append]
    omega
  have signed : SignedBy base.keypair.pubkey
      (TxBuilder.tip base.keypair sampleBuyInputs.zeroSlotTipAccount base.zeroSlotTipLamports ++
        TxBuilder.assembleInstructions (purchase sdk 9 TOKEN_PROGRAM (group.toAppConfig base) buyIx)
          (group.toAppConfig base)) := signedBy_append.mpr ⟨signedBy_tip, signedBy_purchase swap⟩
  obtain ⟨transaction, compiled⟩ := compiles.fits _ base.keypair sampleBuyInputs.blockhash signed few
  rw [compiled] at same
  obtain ⟨transaction', compiled', pair⟩ := map_ok same.symm
  obtain rfl : transaction' = transaction := congrArg Prod.fst pair
  have data := compiles.data _ _ _ _ _ compiled compiled'
  rw [List.map_append, List.map_append] at data
  exact tip_data_inj range range' data

/-- The transactions of a group depend on the configuration exactly when a purchase goes over 0slot only and the
configurations name different 0slot tips. -/
theorem transactions_agree_iff (compiles : sdk.Compiles) (shared : SameShared base base')
    (range : base.zeroSlotTipLamports < 2 ^ 64) (range' : base'.zeroSlotTipLamports < 2 ^ 64) (group : CopyGroup)
    (zeroSlotBuyEnabled : Bool) :
    ((∀ i, executeBuyTransaction sdk group zeroSlotBuyEnabled base i =
        executeBuyTransaction sdk group zeroSlotBuyEnabled base' i) ∧
      ∀ position tokenAmount i, position.group = group →
        tryPumpfunSellTransaction sdk base position tokenAmount i =
          tryPumpfunSellTransaction sdk base' position tokenAmount i) ↔
      (zeroSlotBuyEnabled = true → base.zeroSlotUrls ≠ [] → base.zeroSlotTipLamports = base'.zeroSlotTipLamports) := by
  constructor
  · rintro ⟨buys, -⟩ rfl urls
    exact tip_of_eq compiles shared range range' urls (buys sampleBuyInputs)
  · intro tips
    exact ⟨executeBuyTransaction_eq shared group tips,
      fun position tokenAmount i _ => tryPumpfunSellTransaction_eq shared position tokenAmount i⟩

theorem sampleSdk_compiles : sampleSdk.Compiles where
  fits instructions keypair blockhash _ _ := ⟨(instructions, keypair, blockhash), rfl⟩
  data instructions instructions' keypair blockhash transaction compiled compiled' := by
    have same : (instructions, keypair, blockhash) = (instructions', keypair, blockhash) :=
      Except.ok.inj (compiled.trans compiled'.symm)
    exact congrArg (fun t => t.1.map (·.data)) same

/-- A configuration with a 0slot endpoint. -/
def sampleBase (buySolAmount : ℚ) (zeroSlotTipLamports : ℕ) : AppConfig :=
  { sampleConfig with
    buySolAmount, zeroSlotTipLamports
    zeroSlotUrls := ["https://ny.0slot.trade"] }

def sampleBaseGroup : CopyGroup := CopyGroup.fromAppConfig sampleConfig

theorem transactions_agree_sample :
    executeBuyTransaction sampleSdk sampleBaseGroup true (sampleBase 1 5000) sampleBuyInputs =
      executeBuyTransaction sampleSdk sampleBaseGroup true (sampleBase 2 5000) sampleBuyInputs :=
  ((transactions_agree_iff sampleSdk_compiles ⟨rfl, rfl, rfl, rfl, rfl, rfl, rfl, rfl⟩ (by decide) (by decide)
    sampleBaseGroup true).mpr fun _ _ => rfl).1 sampleBuyInputs

/-- The tip of the group is 1000000 in both. -/
theorem tip_of_base :
    executeBuyTransaction sampleSdk sampleBaseGroup true (sampleBase 1 5000) sampleBuyInputs ≠
      executeBuyTransaction sampleSdk sampleBaseGroup true (sampleBase 1 7000) sampleBuyInputs := by
  intro same
  have shared : SameShared (sampleBase 1 5000) (sampleBase 1 7000) := ⟨rfl, rfl, rfl, rfl, rfl, rfl, rfl, rfl⟩
  have tips : 5000 = 7000 := tip_of_eq sampleSdk_compiles shared (by decide) (by decide) (by decide) same
  omega

end CopyTrader.Tx
