import CopyTrader.Lib.Outcome
import CopyTrader.Processor.Quotes

/-!
# Orders

The amount and the limit that an order carries, and the builders that fetch the curve before they quote.
-/

namespace CopyTrader.Processor
open Lib

/-- The number of tokens, after the discriminator. -/
def orderTokens (order : Instruction) : ℕ := ofLeBytes ((order.data.drop 8).take 8)

/-- The limit in lamports, after the number of tokens. -/
def orderLimit (order : Instruction) : ℕ := ofLeBytes ((order.data.drop 16).take 8)

theorem length_leBytes (width n : ℕ) : (leBytes width n).length = width := by
  induction width generalizing n with
  | zero => rfl
  | succ width ih => rw [leBytes, List.length_cons, ih]

namespace PumpfunProcessor

variable (sdk : Sdk)

/-- Where an order is sent whose accounts are at hand, or are not. -/
def mirroredCurve (mint : Pubkey) (mirrorAccounts : List Pubkey) : Pubkey :=
  if 3 < mirrorAccounts.length then mirrorAccounts.getD 3 0 else pda sdk "bonding-curve" [mint]

def buyWithMirror (mint userAta tokenProgramId sourceWallet : Pubkey) (mirrorAccounts : List Pubkey)
    (fetchBondingCurve : Pubkey → Except String BondingCurveState) (config : AppConfig) :
    Except String MirrorInstruction := do
  let curveState ← fetchBondingCurve (mirroredCurve sdk mint mirrorAccounts)
  if curveState.complete then throw "bonding curve 已完成（已迁移外盘）"
  let solAmount := config.buyLamports
  let tokenAmount := curveState.solToTokenQuote solAmount
  validateBuyAmount tokenAmount (some curveState)
  return purchase sdk mint tokenProgramId config
    (buildBuyInstructionFromMirror sdk config.pubkey userAta sourceWallet mirrorAccounts tokenAmount
      (maxSolCost solAmount config.slippageBps))

/-- The least output of a sale, where the share is taken off without a check. -/
def minSolOutput (expectedSol slippageBps : ℕ) : ℕ :=
  (expectedSol + 2 ^ 64 - bpsOf expectedSol slippageBps) % 2 ^ 64

def sellWithMirror (mint : Pubkey) (tokenAmount : ℕ) (userAta sourceWallet : Pubkey) (mirrorAccounts : List Pubkey)
    (fetchBondingCurve : Pubkey → Except String BondingCurveState) (config : AppConfig) :
    Except String MirrorInstruction := do
  let curveState ← fetchBondingCurve (mirroredCurve sdk mint mirrorAccounts)
  let expectedSol := curveState.tokenToSolQuote tokenAmount
  let replaced := replaceUserPdas sdk mirrorAccounts sourceWallet config.pubkey userAta
  return {
    swapInstructions := [{
      programId := PUMPFUN_PROGRAM_ID
      accounts := replaced.mapIdx fun i acct =>
        if i = 6 then .new acct true
        else if [1, 3, 4, 5, 9, 13].contains i then .new acct false
        else .newReadonly acct false
      data := orderData SELL_DISCRIMINATOR tokenAmount (minSolOutput expectedSol config.slippageBps) }]
    preInstructions := []
    postInstructions := []
    tokenMint := mint
    solAmount := expectedSol }

variable {sdk : Sdk} {discriminator : List UInt8} {tokenAmount limit : ℕ}

theorem orderTokens_orderData {order : Instruction} (eight : discriminator.length = 8)
    (data : order.data = orderData discriminator tokenAmount limit) : orderTokens order = tokenAmount % 2 ^ 64 := by
  have tokens : (order.data.drop 8).take 8 = leBytes 8 tokenAmount := by
    rw [data, orderData, List.append_assoc, List.drop_left' eight, List.take_left' (length_leBytes 8 tokenAmount)]
  rw [orderTokens, tokens, ofLeBytes_leBytes]
  rfl

theorem orderLimit_orderData {order : Instruction} (eight : discriminator.length = 8)
    (data : order.data = orderData discriminator tokenAmount limit) : orderLimit order = limit % 2 ^ 64 := by
  have before : (discriminator ++ leBytes 8 tokenAmount).length = 16 := by
    rw [List.length_append, eight, length_leBytes]
  have last : (order.data.drop 16).take 8 = leBytes 8 limit := by
    rw [data, orderData, List.drop_left' before]
    exact List.take_of_length_le (length_leBytes 8 limit).le
  rw [orderLimit, last, ofLeBytes_leBytes]
  rfl

/-! ## Calls -/

/-- What a purchase takes its quote from. -/
inductive QuoteSource where
  | cached (curveState : BondingCurveState)
  | standard (curveState : BondingCurveState)
  | fetched (fetchBondingCurve : Pubkey → Except String BondingCurveState)
  | target (targetInstructionData : List UInt8)

/-- A call of one of the builders of a purchase. -/
structure BuyCall where
  mint : Pubkey
  userAta : Pubkey
  tokenProgramId : Pubkey
  sourceWallet : Pubkey
  mirrorAccounts : List Pubkey
  config : AppConfig
  source : QuoteSource

namespace BuyCall

def build (sdk : Sdk) (c : BuyCall) : Except String MirrorInstruction :=
  match c.source with
  | .cached curveState =>
    buyFromCachedState sdk c.mint c.userAta c.tokenProgramId c.sourceWallet c.mirrorAccounts curveState c.config
  | .standard curveState => buyStandardFromCachedState sdk c.mint c.userAta c.tokenProgramId curveState c.config
  | .fetched fetchBondingCurve =>
    buyWithMirror sdk c.mint c.userAta c.tokenProgramId c.sourceWallet c.mirrorAccounts fetchBondingCurve c.config
  | .target targetInstructionData =>
    (buyFromTargetInstruction sdk c.mint c.userAta c.tokenProgramId c.sourceWallet c.mirrorAccounts
      targetInstructionData c.config).map Prod.fst

/-- The state of the curve, where the builder has one. -/
def curve (sdk : Sdk) (c : BuyCall) : Option BondingCurveState :=
  match c.source with
  | .cached curveState => some curveState
  | .standard curveState => some curveState
  | .fetched fetchBondingCurve => (fetchBondingCurve (mirroredCurve sdk c.mint c.mirrorAccounts)).toOption
  | .target _ => none

/-- The tokens asked for, as far as the builder gets to ask. -/
def quote (sdk : Sdk) (c : BuyCall) : ℕ :=
  match c.source with
  | .target targetInstructionData =>
    match parseTargetBuyInstruction targetInstructionData with
    | .ok (.buy tokenAmount maxSolCost) => quoteFromTarget tokenAmount maxSolCost c.config.buyLamports
    | _ => 0
  | _ => ((c.curve sdk).map (·.solToTokenQuote c.config.buyLamports)).getD 0

/-- What is built is one order for the quote at the highest price. -/
def Orders (sdk : Sdk) (c : BuyCall) (mirror : MirrorInstruction) : Prop :=
  ∃ order, mirror.swapInstructions = [order] ∧
    order.data = orderData BUY_DISCRIMINATOR (c.quote sdk) (maxSolCost c.config.buyLamports c.config.slippageBps)

variable {c : BuyCall} {mirror : MirrorInstruction}

theorem cached_ok {mint userAta tokenProgramId sourceWallet : Pubkey} {mirrorAccounts : List Pubkey}
    {curveState : BondingCurveState} {config : AppConfig}
    (built : buyFromCachedState sdk mint userAta tokenProgramId sourceWallet mirrorAccounts curveState config =
      .ok mirror) : curveState.complete = false ∧ mirror = purchase sdk mint tokenProgramId config
        (buildBuyInstructionFromMirror sdk config.pubkey userAta sourceWallet mirrorAccounts
          (curveState.solToTokenQuote config.buyLamports) (maxSolCost config.buyLamports config.slippageBps)) := by
  unfold buyFromCachedState at built
  split_ifs at built with complete
  exact ⟨by simpa using complete, (Except.ok.inj built).symm⟩

theorem standard_ok {mint userAta tokenProgramId : Pubkey} {curveState : BondingCurveState} {config : AppConfig}
    (built : buyStandardFromCachedState sdk mint userAta tokenProgramId curveState config = .ok mirror) :
    validateBuyAmount (curveState.solToTokenQuote config.buyLamports) (some curveState) = .ok () ∧
      ∃ order, mirror = purchase sdk mint tokenProgramId config order ∧
        order.data = orderData BUY_DISCRIMINATOR (curveState.solToTokenQuote config.buyLamports)
          (maxSolCost config.buyLamports config.slippageBps) := by
  unfold buyStandardFromCachedState at built
  split_ifs at built with complete
  obtain ⟨⟨⟩, checked, built⟩ := bind_ok built
  obtain ⟨order, instruction, built⟩ := bind_ok built
  obtain ⟨keys, _, instruction⟩ := bind_ok instruction
  refine ⟨checked, order, (Except.ok.inj built).symm, ?_⟩
  rw [← Except.ok.inj instruction]

theorem buyWithMirror_ok {mint userAta tokenProgramId sourceWallet : Pubkey} {mirrorAccounts : List Pubkey}
    {fetchBondingCurve : Pubkey → Except String BondingCurveState} {config : AppConfig}
    (built : buyWithMirror sdk mint userAta tokenProgramId sourceWallet mirrorAccounts fetchBondingCurve config =
      .ok mirror) : ∃ curveState, fetchBondingCurve (mirroredCurve sdk mint mirrorAccounts) = .ok curveState ∧
        validateBuyAmount (curveState.solToTokenQuote config.buyLamports) (some curveState) = .ok () ∧
        mirror = purchase sdk mint tokenProgramId config
          (buildBuyInstructionFromMirror sdk config.pubkey userAta sourceWallet mirrorAccounts
            (curveState.solToTokenQuote config.buyLamports) (maxSolCost config.buyLamports config.slippageBps)) := by
  obtain ⟨curveState, fetched, built⟩ := bind_ok built
  split_ifs at built with complete
  · exact nomatch built
  · obtain ⟨⟨⟩, checked, built⟩ := bind_ok built
    exact ⟨curveState, fetched, checked, (Except.ok.inj built).symm⟩

theorem target_ok {mint userAta tokenProgramId sourceWallet : Pubkey} {mirrorAccounts : List Pubkey}
    {data : List UInt8} {config : AppConfig} {tokens : ℕ}
    (built : buyFromTargetInstruction sdk mint userAta tokenProgramId sourceWallet mirrorAccounts data config =
      .ok (mirror, tokens)) : ∃ tokenAmount targetMaxSol, parseTargetBuyInstruction data = .ok (.buy tokenAmount targetMaxSol) ∧
        tokens = quoteFromTarget tokenAmount targetMaxSol config.buyLamports ∧ validateBuyAmount tokens none = .ok () ∧
        mirror = purchase sdk mint tokenProgramId config
          (buildBuyInstructionFromMirror sdk config.pubkey userAta sourceWallet mirrorAccounts tokens
            (maxSolCost config.buyLamports config.slippageBps)) := by
  obtain ⟨target, parsed, built⟩ := bind_ok built
  cases target with
  | buyExactSolIn solAmount => exact nomatch built
  | buy tokenAmount targetMaxSol =>
    obtain ⟨⟨⟩, checked, built⟩ := bind_ok built
    cases built
    exact ⟨tokenAmount, targetMaxSol, parsed, rfl, checked, rfl⟩

theorem build_orders (built : c.build sdk = .ok mirror) : c.Orders sdk mirror := by
  obtain ⟨mint, userAta, tokenProgramId, sourceWallet, mirrorAccounts, config, source⟩ := c
  cases source with
  | cached curveState =>
    obtain ⟨_, rfl⟩ := cached_ok built
    exact ⟨_, rfl, rfl⟩
  | standard curveState =>
    obtain ⟨_, order, rfl, data⟩ := standard_ok built
    exact ⟨order, rfl, data⟩
  | fetched fetchBondingCurve =>
    obtain ⟨curveState, fetched, _, rfl⟩ := buyWithMirror_ok built
    refine ⟨_, rfl, ?_⟩
    simp only [quote, curve, fetched, Except.toOption, Option.map_some, Option.getD_some]
    rfl
  | target data =>
    obtain ⟨⟨_, tokens⟩, priced, rfl⟩ := map_ok built
    obtain ⟨tokenAmount, targetMaxSol, parsed, rfl, _, rfl⟩ := target_ok priced
    refine ⟨_, rfl, ?_⟩
    simp only [quote, parsed]
    rfl

/-- All builders but one check what they ask for. -/
theorem build_checked (built : c.build sdk = .ok mirror) (checks : ∀ curveState, c.source ≠ .cached curveState) :
    validateBuyAmount (c.quote sdk) (c.curve sdk) = .ok () := by
  obtain ⟨mint, userAta, tokenProgramId, sourceWallet, mirrorAccounts, config, source⟩ := c
  cases source with
  | cached curveState => exact absurd rfl (checks curveState)
  | standard curveState =>
    obtain ⟨checked, _⟩ := standard_ok built
    exact checked
  | fetched fetchBondingCurve =>
    obtain ⟨curveState, fetched, checked, _⟩ := buyWithMirror_ok built
    simp only [quote, curve, fetched, Except.toOption, Option.map_some, Option.getD_some]
    exact checked
  | target data =>
    obtain ⟨⟨_, tokens⟩, priced, rfl⟩ := map_ok built
    obtain ⟨tokenAmount, targetMaxSol, parsed, rfl, checked, _⟩ := target_ok priced
    simp only [quote, curve, parsed]
    exact checked

end BuyCall

end PumpfunProcessor

end CopyTrader.Processor
