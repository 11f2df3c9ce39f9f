import CopyTrader.Processor.BuyAmounts
import CopyTrader.Tx.GroupSettings

/-!
# Slippage

Highest prices of purchases and least outputs of sales, as computed on lamports that wrap.
-/

namespace CopyTrader.Processor
open Lib

variable {amount bps : ℕ}

theorem bpsOf_eq (fits : amount * bps < 2 ^ 64) : bpsOf amount bps = amount * bps / 10000 := by
  rw [bpsOf, Nat.mod_eq_of_lt fits]

/-- A product that wraps loses at least a part of the share. -/
theorem bpsOf_lt (wraps : 2 ^ 64 ≤ amount * bps) : bpsOf amount bps < amount * bps / 10000 := by
  unfold bpsOf
  generalize amount * bps = product at *
  omega

theorem bpsOf_le : bpsOf amount bps ≤ amount * bps / 10000 := Nat.div_le_div_right (Nat.mod_le _ _)

theorem maxSolCost_eq_iff : maxSolCost amount bps = amount + amount * bps / 10000 ↔
    amount * bps < 2 ^ 64 ∧ amount * (10000 + bps) < 10000 * 2 ^ 64 := by
  have whole : amount * (10000 + bps) = 10000 * amount + amount * bps := by ring
  have sum : amount * (10000 + bps) < 10000 * 2 ^ 64 ↔ amount + amount * bps / 10000 < 2 ^ 64 := by
    rw [whole]
    generalize amount * bps = product
    omega
  rw [sum, maxSolCost]
  constructor
  · intro exact
    have fits : amount * bps < 2 ^ 64 := by
      by_contra wraps
      have less : bpsOf amount bps < amount * bps / 10000 := bpsOf_lt (not_lt.mp wraps)
      have reduced : (amount + bpsOf amount bps) % 2 ^ 64 ≤ amount + bpsOf amount bps := Nat.mod_le _ _
      omega
    exact ⟨fits, exact ▸ Nat.mod_lt _ (by decide)⟩
  · rintro ⟨fits, below⟩
    rw [bpsOf_eq fits, Nat.mod_eq_of_lt below]

namespace PumpfunProcessor

theorem minSolOutput_eq (within : bpsOf amount bps ≤ amount) (fits : amount < 2 ^ 64) :
    minSolOutput amount bps = amount - bpsOf amount bps := by
  unfold minSolOutput
  omega

theorem minSolOutput_gt (more : amount < bpsOf amount bps) (fits : amount < 2 ^ 64) : amount < minSolOutput amount bps := by
  have share : bpsOf amount bps < 2 ^ 64 := by
    unfold bpsOf
    omega
  unfold minSolOutput
  omega

/-- How a sale is built: on the accounts of another order, or on accounts of its own. -/
inductive SaleSource where
  | mirrored (userAta sourceWallet : Pubkey) (mirrorAccounts : List Pubkey)
    (fetchBondingCurve : Pubkey → Except String BondingCurveState)
  | standard (buyMirrorAccounts : Option (List Pubkey)) (reads : SaleReads)

/-- A call of one of the builders of a sale. -/
structure SellCall where
  mint : Pubkey
  tokenAmount : ℕ
  config : AppConfig
  source : SaleSource

def SellCall.build (sdk : Sdk) (c : SellCall) : Except String MirrorInstruction :=
  match c.source with
  | .mirrored userAta sourceWallet mirrorAccounts fetchBondingCurve =>
    sellWithMirror sdk c.mint c.tokenAmount userAta sourceWallet mirrorAccounts fetchBondingCurve c.config
  | .standard buyMirrorAccounts reads => sellStandard sdk c.mint c.tokenAmount c.config buyMirrorAccounts reads

variable {sdk : Sdk} {c : SellCall} {mirror : MirrorInstruction}

theorem tokenToSolQuote_lt {curve : BondingCurveState} {tokenAmount : ℕ} : curve.tokenToSolQuote tokenAmount < 2 ^ 64 := by
  unfold BondingCurveState.tokenToSolQuote
  split_ifs
  · decide
  · exact Nat.mod_lt _ (by decide)

theorem sellStandard_ok {mint : Pubkey} {tokenAmount : ℕ} {config : AppConfig} {buyMirrorAccounts : Option (List Pubkey)}
    {reads : SaleReads} (built : sellStandard sdk mint tokenAmount config buyMirrorAccounts reads = .ok mirror) :
    ∃ data curve order, reads.curveData = .ok data ∧ BondingCurveState.fromAccountData data = .ok curve ∧
      mirror.swapInstructions = [order] ∧ order.data = orderData SELL_DISCRIMINATOR tokenAmount
        (minSolOutput (curve.tokenToSolQuote tokenAmount) config.slippageBps) := by
  obtain ⟨data, read, built⟩ := bind_ok built
  obtain ⟨curve, decoded, built⟩ := bind_ok built
  dsimp only at built
  by_cases complete : curve.complete = true
  · rw [if_pos complete] at built
    exact nomatch built
  · rw [if_neg complete] at built
    cases creator : curve.creator with
    | none =>
      rw [creator] at built
      exact nomatch built
    | some creator' =>
      rw [creator] at built
      obtain ⟨mintOwner, owned, built⟩ := bind_ok built
      cases built
      exact ⟨data, curve, _, read, decoded, rfl, rfl⟩

/-- The state of the curve that the sale is quoted on. -/
def SellCall.curve (sdk : Sdk) (c : SellCall) : Except String BondingCurveState :=
  match c.source with
  | .mirrored _ _ mirrorAccounts fetchBondingCurve => fetchBondingCurve (mirroredCurve sdk c.mint mirrorAccounts)
  | .standard _ reads => reads.curveData >>= BondingCurveState.fromAccountData

/-- What is built is one order to sell for the quote less the share. -/
theorem SellCall.build_orders (built : c.build sdk = .ok mirror) : ∃ curve order, c.curve sdk = .ok curve ∧
    mirror.swapInstructions = [order] ∧ order.data = orderData SELL_DISCRIMINATOR c.tokenAmount
      (minSolOutput (curve.tokenToSolQuote c.tokenAmount) c.config.slippageBps) := by
  obtain ⟨mint, tokenAmount, config, source⟩ := c
  cases source with
  | mirrored userAta sourceWallet mirrorAccounts fetchBondingCurve =>
    obtain ⟨curve, fetched, built⟩ := bind_ok built
    cases built
    exact ⟨curve, _, fetched, rfl, rfl⟩
  | standard buyMirrorAccounts reads =>
    obtain ⟨data, curve, order, read, decoded, single, written⟩ := sellStandard_ok built
    refine ⟨curve, order, ?_, single, written⟩
    dsimp only [SellCall.curve]
    rw [read]
    exact decoded

end PumpfunProcessor

end CopyTrader.Processor

namespace CopyTrader.Tx
open Lib AutoSell Processor PumpfunProcessor

variable {sdk : Sdk}

/-- The highest price is the amount and its share. -/
structure ExactCost (amount bps limit : ℕ) : Prop where
  value : limit = amount + amount * bps / 10000
  least : amount ≤ limit

/-- The least output is what is expected less its share, computed without a wrap. -/
structure ExactOutput (expected bps limit : ℕ) : Prop where
  product : expected * bps < 2 ^ 64
  value : limit = expected - expected * bps / 10000
  most : limit ≤ expected

theorem exactCost_iff {c : BuyCall} {mirror : MirrorInstruction} (built : c.build sdk = .ok mirror) :
    (∃ order, mirror.swapInstructions = [order] ∧
        ExactCost c.config.buyLamports c.config.slippageBps (orderLimit order)) ↔
      c.config.buyLamports * c.config.slippageBps < 2 ^ 64 ∧
        c.config.buyLamports * (10000 + c.config.slippageBps) < 10000 * 2 ^ 64 := by
  obtain ⟨order, single, data⟩ := BuyCall.build_orders built
  have limit : orderLimit order = maxSolCost c.config.buyLamports c.config.slippageBps :=
    (orderLimit_orderData rfl data).trans (Nat.mod_eq_of_lt (Nat.mod_lt _ (by decide)))
  rw [← maxSolCost_eq_iff]
  constructor
  · rintro ⟨order', single', exact⟩
    obtain rfl : order = order' := List.singleton_inj.mp (single.symm.trans single')
    exact limit ▸ exact.value
  · intro value
    have value' : orderLimit order = c.config.buyLamports + c.config.buyLamports * c.config.slippageBps / 10000 :=
      limit.trans value
    exact ⟨order, single, value', value' ▸ Nat.le_add_right _ _⟩

theorem exactOutput_iff {expected bps : ℕ} (fits : expected < 2 ^ 64) :
    ExactOutput expected bps (minSolOutput expected bps) ↔
      expected * bps < 2 ^ 64 ∧ expected * bps < 10000 * (expected + 1) := by
  have within : expected * bps < 10000 * (expected + 1) ↔ expected * bps / 10000 ≤ expected := by
    generalize expected * bps = product
    omega
  rw [within]
  constructor
  · rintro ⟨product, value, most⟩
    refine ⟨product, ?_⟩
    by_contra more
    have wrapped := minSolOutput_gt (by rw [bpsOf_eq product]; omega) fits
    omega
  · rintro ⟨product, within⟩
    have value : minSolOutput expected bps = expected - expected * bps / 10000 := by
      rw [minSolOutput_eq (bpsOf_le.trans within) fits, bpsOf_eq product]
    exact ⟨product, value, value ▸ Nat.sub_le _ _⟩

theorem sell_exactOutput_iff {c : SellCall} {mirror : MirrorInstruction} (built : c.build sdk = .ok mirror) :
    ∃ curve, c.curve sdk = .ok curve ∧
      ((∃ order, mirror.swapInstructions = [order] ∧
          ExactOutput (curve.tokenToSolQuote c.tokenAmount) c.config.slippageBps (orderLimit order)) ↔
        curve.tokenToSolQuote c.tokenAmount * c.config.slippageBps < 2 ^ 64 ∧
          curve.tokenToSolQuote c.tokenAmount * c.config.slippageBps <
            10000 * (curve.tokenToSolQuote c.tokenAmount + 1)) := by
  obtain ⟨curve, order, read, single, data⟩ := SellCall.build_orders built
  have limit : orderLimit order = minSolOutput (curve.tokenToSolQuote c.tokenAmount) c.config.slippageBps :=
    (orderLimit_orderData rfl data).trans (Nat.mod_eq_of_lt (Nat.mod_lt _ (by decide)))
  refine ⟨curve, read, ?_⟩
  rw [← exactOutput_iff tokenToSolQuote_lt, ← limit]
  constructor
  · rintro ⟨order', single', exact⟩
    obtain rfl : order = order' := List.singleton_inj.mp (single.symm.trans single')
    exact exact
  · exact fun exact => ⟨order, single, exact⟩

/-- The least output in `try_pumpfun_sell`, for a sale from the accounts of the purchase. -/
def mirroredMinSolOutput (position : Position) (tokenAmount : ℕ) (curve : BondingCurveState) : ℕ :=
  curve.tokenToSolQuote tokenAmount - bpsOf (curve.tokenToSolQuote tokenAmount) position.group.sellSlippageBps

theorem sellFromMirror_eq (position : Position) (tokenAmount : ℕ) (user : Pubkey) (snapshot : SellAccountSnapshot)
    (curve : BondingCurveState) : sellFromMirror sdk position tokenAmount user snapshot curve =
      match curve.creator with
      | some creator => .ok {
          swapInstructions := [buildSellInstructionFromMirror sdk user snapshot.userAta snapshot.mirrorAccounts tokenAmount
            (mirroredMinSolOutput position tokenAmount curve) snapshot.tokenProgram creator curve.isCashback]
          preInstructions := []
          postInstructions := []
          tokenMint := position.tokenMint
          solAmount := curve.tokenToSolQuote tokenAmount }
      | none => .error "BC state missing creator" := by
  unfold sellFromMirror
  cases curve.creator with
  | none => rfl
  | some creator => rfl

theorem mirrored_exactOutput_iff {expected bps : ℕ} :
    ExactOutput expected bps (expected - bpsOf expected bps) ↔ expected * bps < 2 ^ 64 := by
  constructor
  · exact ExactOutput.product
  · intro product
    rw [bpsOf_eq product]
    exact ⟨product, rfl, Nat.sub_le _ _⟩

/-- The limits are exact where the products fit into 64 bits, the highest price does as well, and the share that
nothing guards is no more than what is expected. -/
theorem limits_exact_iff (sdk : Sdk) :
    (∀ (c : BuyCall) (mirror : MirrorInstruction), c.build sdk = .ok mirror →
      ((∃ order, mirror.swapInstructions = [order] ∧
          ExactCost c.config.buyLamports c.config.slippageBps (orderLimit order)) ↔
        c.config.buyLamports * c.config.slippageBps < 2 ^ 64 ∧
          c.config.buyLamports * (10000 + c.config.slippageBps) < 10000 * 2 ^ 64)) ∧
    (∀ (c : SellCall) (mirror : MirrorInstruction), c.build sdk = .ok mirror → ∃ curve, c.curve sdk = .ok curve ∧
      ((∃ order, mirror.swapInstructions = [order] ∧
          ExactOutput (curve.tokenToSolQuote c.tokenAmount) c.config.slippageBps (orderLimit order)) ↔
        curve.tokenToSolQuote c.tokenAmount * c.config.slippageBps < 2 ^ 64 ∧
          curve.tokenToSolQuote c.tokenAmount * c.config.slippageBps <
            10000 * (curve.tokenToSolQuote c.tokenAmount + 1))) ∧
    ∀ (position : Position) (tokenAmount : ℕ) (curve : BondingCurveState),
      ExactOutput (curve.tokenToSolQuote tokenAmount) position.group.sellSlippageBps
          (mirroredMinSolOutput position tokenAmount curve) ↔
        curve.tokenToSolQuote tokenAmount * position.group.sellSlippageBps < 2 ^ 64 :=
  ⟨fun _ _ => exactCost_iff, fun _ _ => sell_exactOutput_iff, fun _ _ _ => mirrored_exactOutput_iff⟩

/-- A sale of 1000 tokens on the accounts of wallet 7. -/
def sampleSellCall (slippageBps : ℕ) : SellCall where
  mint := 9
  tokenAmount := 1000000000
  config := { sampleConfig with slippageBps }
  source := .mirrored 3 7 sampleMirror fun _ => .ok sampleCurve

def sampleBuyCall (slippageBps : ℕ) : BuyCall :=
  { lateBuy (.cached sampleCurve) with config := { sampleConfig with slippageBps } }

/-- One percent on one SOL. -/
theorem limits_exact_sample : ∃ mirror order, (sampleBuyCall 100).build sampleSdk = .ok mirror ∧
    mirror.swapInstructions = [order] ∧ ExactCost (sampleBuyCall 100).config.buyLamports 100 (orderLimit order) := by
  obtain ⟨order, single, exact⟩ := ((limits_exact_iff sampleSdk).1 (sampleBuyCall 100) _ rfl).mpr (by decide +kernel)
  exact ⟨_, order, rfl, single, exact⟩

/-- A sale that takes off twice the quote asks for nearly 2^64 lamports. A purchase that allows twenty million times
the amount sets a limit that is hardly above it. -/
theorem limits_wrap :
    ((sampleSellCall 20000).build sampleSdk).map (fun mirror => mirror.swapInstructions.map orderLimit) =
        .ok [2 ^ 64 - sampleCurve.tokenToSolQuote 1000000000] ∧
      ¬ 2 ^ 64 - sampleCurve.tokenToSolQuote 1000000000 ≤ sampleCurve.tokenToSolQuote 1000000000 ∧
      ((sampleBuyCall 18446744074).build sampleSdk).map (fun mirror => mirror.swapInstructions.map orderLimit) =
        .ok [1000029044] ∧
      1000029044 ≠ 1000000000 + 1000000000 * 18446744074 / 10000 := by
  decide +kernel

/-! ## Two ways to sell -/

/-- The order of `try_pumpfun_sell`, and what goes with it. -/
def sellMirror (sdk : Sdk) (config : AppConfig) (position : Position) (tokenAmount : ℕ) (i : SellInputs)
    (snapshot : SellAccountSnapshot) : Except String MirrorInstruction :=
  if snapshot.mirrorAccounts.isEmpty then
    sellStandard sdk position.tokenMint tokenAmount (position.group.toAppConfig config) none i.saleReads
  else do
    let curve ←
      match i.cachedCurve with
      | some curve => pure curve
      | none => i.fetchBondingCurve snapshot.bondingCurve
    sellFromMirror sdk position tokenAmount config.pubkey snapshot curve

theorem tryPumpfunSellTransaction_mirror (config : AppConfig) (position : Position) (tokenAmount : ℕ) (i : SellInputs) :
    tryPumpfunSellTransaction sdk config position tokenAmount i = (do
      let some snapshot := i.snapshot position | throw "no sell snapshot"
      let mirror ← sellMirror sdk config position tokenAmount i snapshot
      if (position.group.toAppConfig config).jitoEnabled then
        TxBuilder.buildJitoBundleTransaction sdk mirror (position.group.toAppConfig config)
          (position.group.toAppConfig config).keypair i.blockhash i.jitoTipAccount position.group.tipSellLamports
      else
        TxBuilder.buildTransaction sdk mirror (position.group.toAppConfig config)
          (position.group.toAppConfig config).keypair i.blockhash) := by
  unfold tryPumpfunSellTransaction sellMirror
  cases i.snapshot position with
  | none => rfl
  | some snapshot =>
    dsimp only
    cases snapshot.mirrorAccounts.isEmpty with
    | true => rfl
    | false =>
      cases i.cachedCurve with
      | some curve => rfl
      | none =>
        cases i.fetchBondingCurve snapshot.bondingCurve with
        | ok curve => rfl
        | error err => rfl

theorem sellFromMirror_ok {position : Position} {tokenAmount : ℕ} {user : Pubkey} {snapshot : SellAccountSnapshot}
    {curve : BondingCurveState} {mirror : MirrorInstruction}
    (built : sellFromMirror sdk position tokenAmount user snapshot curve = .ok mirror) :
    ∃ order, mirror.swapInstructions = [order] ∧ order.data = orderData SELL_DISCRIMINATOR tokenAmount 0 := by
  rw [sellFromMirror_eq] at built
  split at built
  · cases built
    exact ⟨_, rfl, rfl⟩
  · exact nomatch built

/-- The group with other slippage settings. -/
def withSlippage (position : Position) (slippageBps sellSlippageBps : ℕ) : Position :=
  { position with group := { position.group with slippageBps, sellSlippageBps } }

section
variable {config : AppConfig} {position : Position} {tokenAmount : ℕ} {i : SellInputs} {snapshot : SellAccountSnapshot}

theorem sellMirror_unlimited (mirrored : ¬ snapshot.mirrorAccounts.isEmpty = true) {mirror : MirrorInstruction}
    (built : sellMirror sdk config position tokenAmount i snapshot = .ok mirror) :
    ∃ order, mirror.swapInstructions = [order] ∧ orderTokens order = tokenAmount % 2 ^ 64 ∧ orderLimit order = 0 := by
  unfold sellMirror at built
  rw [if_neg mirrored] at built
  dsimp only at built
  obtain ⟨curve, built⟩ :
      ∃ curve, sellFromMirror sdk position tokenAmount config.pubkey snapshot curve = .ok mirror := by
    split at built
    all_goals
      obtain ⟨curve, _, built⟩ := bind_ok built
      exact ⟨curve, built⟩
  obtain ⟨order, single, data⟩ := sellFromMirror_ok built
  exact ⟨order, single, orderTokens_orderData rfl data, orderLimit_orderData rfl data⟩

theorem sellMirror_unslipped (mirrored : ¬ snapshot.mirrorAccounts.isEmpty = true)
    (found : i.snapshot position = some snapshot) (slippageBps sellSlippageBps : ℕ) :
    tryPumpfunSellTransaction sdk config (withSlippage position slippageBps sellSlippageBps) tokenAmount i =
      tryPumpfunSellTransaction sdk config position tokenAmount i := by
  have found' : i.snapshot (withSlippage position slippageBps sellSlippageBps) = some snapshot := found
  have same : sellMirror sdk config (withSlippage position slippageBps sellSlippageBps) tokenAmount i snapshot =
      sellMirror sdk config position tokenAmount i snapshot := by
    unfold sellMirror
    rw [if_neg mirrored, if_neg mirrored]
    rfl
  rw [tryPumpfunSellTransaction_mirror, tryPumpfunSellTransaction_mirror, found', found]
  dsimp only
  rw [same]
  rfl

/-- Without the accounts of the purchase the least output is worked out from the slippage for buying. -/
theorem sellMirror_standard (bare : snapshot.mirrorAccounts.isEmpty = true) {mirror : MirrorInstruction}
    (built : sellMirror sdk config position tokenAmount i snapshot = .ok mirror) :
    ∃ curve order, i.saleReads.curveData >>= BondingCurveState.fromAccountData = .ok curve ∧
      mirror.swapInstructions = [order] ∧ orderTokens order = tokenAmount % 2 ^ 64 ∧
        orderLimit order = minSolOutput (curve.tokenToSolQuote tokenAmount) position.group.slippageBps := by
  let call : SellCall :=
    { mint := position.tokenMint
      tokenAmount
      config := position.group.toAppConfig config
      source := .standard none i.saleReads }
  have called : call.build sdk = .ok mirror := by
    unfold sellMirror at built
    rwa [if_pos bare] at built
  obtain ⟨curve, order, read, single, data⟩ := SellCall.build_orders called
  refine ⟨curve, order, read, single, orderTokens_orderData rfl data, ?_⟩
  exact (orderLimit_orderData rfl data).trans (Nat.mod_eq_of_lt (Nat.mod_lt _ (by decide)))

end

/-- A sale from the accounts of the purchase sets no least output, on any curve, and no slippage setting changes its
transaction. Without these accounts a group with one slippage for buying and selling has the floor of this slippage. -/
theorem mirrored_sale_unlimited (sdk : Sdk) (config : AppConfig) (position : Position) (tokenAmount : ℕ) (i : SellInputs)
    {snapshot : SellAccountSnapshot} (found : i.snapshot position = some snapshot) :
    (snapshot.mirrorAccounts ≠ [] →
      (∀ mirror, sellMirror sdk config position tokenAmount i snapshot = .ok mirror →
        ∃ order, mirror.swapInstructions = [order] ∧ orderTokens order = tokenAmount % 2 ^ 64 ∧ orderLimit order = 0) ∧
      ∀ slippageBps sellSlippageBps,
        tryPumpfunSellTransaction sdk config (withSlippage position slippageBps sellSlippageBps) tokenAmount i =
          tryPumpfunSellTransaction sdk config position tokenAmount i) ∧
    (snapshot.mirrorAccounts = [] → position.group.slippageBps = position.group.sellSlippageBps →
      ∀ mirror, sellMirror sdk config position tokenAmount i snapshot = .ok mirror →
        ∃ curve order, i.saleReads.curveData >>= BondingCurveState.fromAccountData = .ok curve ∧
          mirror.swapInstructions = [order] ∧ orderTokens order = tokenAmount % 2 ^ 64 ∧
            orderLimit order = minSolOutput (curve.tokenToSolQuote tokenAmount) position.group.sellSlippageBps) := by
  constructor
  · intro mirrored
    have filled : ¬ snapshot.mirrorAccounts.isEmpty = true := by simpa using mirrored
    exact ⟨fun mirror => sellMirror_unlimited filled, sellMirror_unslipped filled found⟩
  · intro bare one mirror built
    have empty : snapshot.mirrorAccounts.isEmpty = true := List.isEmpty_iff.mpr bare
    rw [← one]
    exact sellMirror_standard empty built

/-- A position in mint 9 with the given accounts of its purchase. -/
def sampleBought (mirrorAccounts : List Pubkey) : Position :=
  { Position.new sampleBaseGroup 9 1000000000 1 7 0 0 with
    state := .active
    sellSnapshot := some {
      bondingCurve := pda sampleSdk "bonding-curve" [9]
      associatedBondingCurve := sampleSdk.associatedTokenAddress (pda sampleSdk "bonding-curve" [9]) 9 TOKEN_PROGRAM
      userAta := sampleSdk.associatedTokenAddress 1 9 TOKEN_PROGRAM
      tokenProgram := TOKEN_PROGRAM
      mirrorAccounts
      sourceWallet := 7 } }

/-- The account of a curve with the creator 0. -/
def curveAccount (curve : BondingCurveState) : List UInt8 :=
  List.replicate 8 0 ++ leBytes 8 curve.virtualTokenReserves ++ leBytes 8 curve.virtualSolReserves ++
    leBytes 8 curve.realTokenReserves ++ List.replicate 119 0

def sampleSellInputs : SellInputs where
  prefetched := none
  cachedCurve := some { sampleCurve with creator := some 0 }
  fetchBondingCurve _ := .error "not asked"
  saleReads := { curveData := .ok (curveAccount sampleCurve), mintOwner := .ok TOKEN_PROGRAM, uvaExists := true }
  blockhash := 1
  jitoTipAccount := 22

/-- The least outputs of a sale of the sample position. -/
def sampleFloors (config : AppConfig) (position : Position) : Except String (List ℕ) := do
  let some snapshot := sampleSellInputs.snapshot position | throw "no sell snapshot"
  let mirror ← sellMirror sampleSdk config position 1000000000000 sampleSellInputs snapshot
  return mirror.swapInstructions.map orderLimit

theorem mirrored_sale_unlimited_sample :
    tryPumpfunSellTransaction sampleSdk sampleConfig (withSlippage (sampleBought sampleMirror) 200 300) 1000
        sampleSellInputs =
      tryPumpfunSellTransaction sampleSdk sampleConfig (sampleBought sampleMirror) 1000 sampleSellInputs :=
  ((mirrored_sale_unlimited sampleSdk sampleConfig (sampleBought sampleMirror) 1000 sampleSellInputs rfl).1
    (List.cons_ne_nil _ _)).2 200 300

/-- One curve and one amount, with and without the accounts of the purchase, and with another slippage for buying. -/
theorem floors_differ :
    sampleFloors sampleConfig (sampleBought sampleMirror) = .ok [0] ∧
      sampleFloors sampleConfig (sampleBought []) = .ok [29670329] ∧
      sampleFloors sampleConfig (withSlippage (sampleBought []) 200 100) = .ok [29370629] := by
  decide +kernel

end CopyTrader.Tx
