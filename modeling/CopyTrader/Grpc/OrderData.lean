import CopyTrader.Grpc.Venues
import CopyTrader.Tx.Slippage

/-!
# The data of an order

The data of an order on Pump.fun is written by the builders, and read in two places: by the buy that follows a
target's order, and by the scan of a transaction.
-/

namespace CopyTrader.Processor
open Lib Grpc.GrpcSubscriber

def RENT_SYSVAR : Pubkey := Pubkey.ofText "SysvarRent111111111111111111111111111111111"

/-- The lamports that a target's order names. -/
def TargetBuyInstruction.lamports : TargetBuyInstruction → ℕ
  | .buy _ maxSolCost => maxSolCost
  | .buyExactSolIn solAmount => solAmount

namespace PumpfunProcessor

def buildSellInstruction (sdk : Sdk) (user mint bondingCurve associatedBondingCurve : Pubkey)
    (tokenAmount minSolOutput : ℕ) (tokenProgramId : Pubkey) : Instruction where
  programId := PUMPFUN_PROGRAM_ID
  accounts := [
    .newReadonly PUMPFUN_GLOBAL false,
    .new PUMPFUN_FEE_RECIPIENT false,
    .newReadonly mint false,
    .new bondingCurve false,
    .new associatedBondingCurve false,
    .new (sdk.associatedTokenAddress user mint tokenProgramId) false,
    .new user true,
    .newReadonly SYSTEM_PROGRAM false,
    .newReadonly tokenProgramId false,
    .newReadonly RENT_SYSVAR false,
    .newReadonly PUMPFUN_EVENT_AUTHORITY false,
    .newReadonly PUMPFUN_PROGRAM_ID false]
  data := orderData SELL_DISCRIMINATOR tokenAmount minSolOutput

/-- The instruction comes from one of the builders of a purchase, for these amounts. -/
inductive BuildsBuy (sdk : Sdk) (tokenAmount maxSolCost : ℕ) : Instruction → Prop
  | mirrored (user userAta sourceWallet : Pubkey) (mirrorAccounts : List Pubkey) :
    BuildsBuy sdk tokenAmount maxSolCost
      (buildBuyInstructionFromMirror sdk user userAta sourceWallet mirrorAccounts tokenAmount maxSolCost)
  | standard {user mint userAta tokenProgramId : Pubkey} {curveState : BondingCurveState} {order : Instruction}
    (built : buildBuyInstructionStandard sdk user mint userAta tokenProgramId curveState tokenAmount maxSolCost =
      .ok order) : BuildsBuy sdk tokenAmount maxSolCost order

/-- The instruction is the order of one of the builders of a sale. -/
inductive BuildsSell (sdk : Sdk) : Instruction → Prop
  | mirrored (user userAta : Pubkey) (mirrorAccounts : List Pubkey) (tokenAmount minSolOutput : ℕ)
    (tokenProgramId creator : Pubkey) (isCashback : Bool) : BuildsSell sdk
      (buildSellInstructionFromMirror sdk user userAta mirrorAccounts tokenAmount minSolOutput tokenProgramId creator
        isCashback)
  | plain (user mint bondingCurve associatedBondingCurve : Pubkey) (tokenAmount minSolOutput : ℕ)
    (tokenProgramId : Pubkey) : BuildsSell sdk
      (buildSellInstruction sdk user mint bondingCurve associatedBondingCurve tokenAmount minSolOutput tokenProgramId)
  | called {c : SellCall} {mirror : MirrorInstruction} {order : Instruction} (built : c.build sdk = .ok mirror)
    (member : order ∈ mirror.swapInstructions) : BuildsSell sdk order

/-! ### What is written -/

variable {sdk : Sdk} {tokenAmount limit maxSolCost : ℕ} {order : Instruction} {discriminator : List UInt8}

theorem BuildsBuy.data (built : BuildsBuy sdk tokenAmount maxSolCost order) :
    order.data = orderData BUY_DISCRIMINATOR tokenAmount maxSolCost := by
  cases built with
  | mirrored user userAta sourceWallet mirrorAccounts => rfl
  | standard built =>
    obtain ⟨keys, -, built⟩ := bind_ok built
    rw [← Except.ok.inj built]

theorem BuildsSell.data (built : BuildsSell sdk order) :
    ∃ tokenAmount limit, order.data = orderData SELL_DISCRIMINATOR tokenAmount limit := by
  cases built with
  | mirrored | plain => exact ⟨_, _, rfl⟩
  | called built member =>
    obtain ⟨curve, single, -, orders, data⟩ := SellCall.build_orders built
    rw [orders, List.mem_singleton] at member
    exact ⟨_, _, member ▸ data⟩

theorem length_orderData (eight : discriminator.length = 8) : (orderData discriminator tokenAmount limit).length = 24 := by
  simp [orderData, length_leBytes, eight]

theorem take_orderData (eight : discriminator.length = 8) :
    (orderData discriminator tokenAmount limit).take 8 = discriminator := by
  rw [orderData, List.append_assoc, List.take_left' eight]

/-! ### What is read -/

variable {data : List UInt8} {target : TargetBuyInstruction}

theorem parseTargetBuyInstruction_ok (parsed : parseTargetBuyInstruction data = .ok target) : 24 ≤ data.length ∧
    (data.take 8 = BUY_DISCRIMINATOR ∧ target = .buy (u64At data 8) (u64At data 16) ∨
      data.take 8 = BUY_EXACT_SOL_IN_DISCRIMINATOR ∧ target = .buyExactSolIn (u64At data 8)) := by
  unfold parseTargetBuyInstruction at parsed
  split at parsed
  next => cases parsed
  next long =>
    refine ⟨by omega, ?_⟩
    dsimp only at parsed
    split_ifs at parsed with buy empty exact empty'
    · exact .inl ⟨buy, (Except.ok.inj parsed).symm⟩
    · exact .inr ⟨exact, (Except.ok.inj parsed).symm⟩

/-- What is written by a builder of a purchase is read back. -/
theorem parse_orderData (some : 0 < tokenAmount) (paid : 0 < maxSolCost) (tokenRange : tokenAmount < 2 ^ 64)
    (costRange : maxSolCost < 2 ^ 64) :
    parseTargetBuyInstruction (orderData BUY_DISCRIMINATOR tokenAmount maxSolCost) = .ok (.buy tokenAmount maxSolCost) := by
  have tokens : ofLeBytes (((orderData BUY_DISCRIMINATOR tokenAmount maxSolCost).drop 8).take 8) = tokenAmount := by
    have written : orderTokens ⟨0, [], orderData BUY_DISCRIMINATOR tokenAmount maxSolCost⟩ = tokenAmount % 2 ^ 64 :=
      orderTokens_orderData rfl rfl
    rwa [Nat.mod_eq_of_lt tokenRange] at written
  have cost : ofLeBytes (((orderData BUY_DISCRIMINATOR tokenAmount maxSolCost).drop 16).take 8) = maxSolCost := by
    have written : orderLimit ⟨0, [], orderData BUY_DISCRIMINATOR tokenAmount maxSolCost⟩ = maxSolCost % 2 ^ 64 :=
      orderLimit_orderData rfl rfl
    rwa [Nat.mod_eq_of_lt costRange] at written
  unfold parseTargetBuyInstruction
  rw [length_orderData rfl, take_orderData rfl, tokens, cost]
  rw [if_neg (by decide), if_pos rfl, if_neg (by omega)]

end PumpfunProcessor

end CopyTrader.Processor

namespace CopyTrader.Grpc.GrpcSubscriber
open Lib Processor Processor.PumpfunProcessor

variable {sdk : Sdk} {targetWallets allAccountKeys : List Pubkey} {accountIndices data : List UInt8}
  {target : TargetBuyInstruction}

/-- The two readers look for the same discriminators. -/
theorem discriminators_eq : PUMPFUN_BUY_DISC = BUY_DISCRIMINATOR ∧
    PUMPFUN_BUY_EXACT_SOL_IN_DISC = BUY_EXACT_SOL_IN_DISCRIMINATOR ∧ PUMPFUN_SELL_DISC = SELL_DISCRIMINATOR :=
  ⟨rfl, rfl, rfl⟩

theorem detect_sell_iff :
    detectBuyOrSell sdk targetWallets data .pumpfun accountIndices allAccountKeys = false ↔
      8 ≤ data.length ∧ data.take 8 = SELL_DISCRIMINATOR := by
  unfold detectBuyOrSell
  by_cases short : data.length < 8
  · simp [short]
  · rw [if_neg short]
    dsimp only
    split
    next buys =>
      have other : data.take 8 ≠ SELL_DISCRIMINATOR := by
        rcases buys with same | same <;> simp [same, discriminators_eq] <;> decide
      simp [other]
    next =>
      split
      next sells => exact iff_of_true rfl ⟨by omega, sells⟩
      next other => exact iff_of_false (by decide) fun sells => other sells.2

/-- A target's order is seen as a purchase for the lamports it names. -/
theorem parsed_agrees (parsed : parseTargetBuyInstruction data = .ok target) :
    detectBuyOrSell sdk targetWallets data .pumpfun accountIndices allAccountKeys = true ∧
      extractBuyLamports .pumpfun data = target.lamports := by
  obtain ⟨long, orders⟩ := parseTargetBuyInstruction_ok parsed
  constructor
  · rw [← Bool.not_eq_false, detect_sell_iff]
    rintro ⟨-, sells⟩
    rcases orders with ⟨buys, -⟩ | ⟨buys, -⟩
    · exact absurd (buys.symm.trans sells) (by decide)
    · exact absurd (buys.symm.trans sells) (by decide)
  · unfold extractBuyLamports
    rw [if_neg (by omega)]
    dsimp only
    rcases orders with ⟨buys, rfl⟩ | ⟨buys, rfl⟩
    · rw [if_pos (buys.trans discriminators_eq.1.symm)]
      rfl
    · rw [if_neg (by rw [buys]; decide), if_pos (buys.trans discriminators_eq.2.1.symm)]
      rfl

theorem sell_agrees
    (sells : detectBuyOrSell sdk targetWallets data .pumpfun accountIndices allAccountKeys = false) :
    (∃ error, parseTargetBuyInstruction data = .error error) ∧ extractBuyLamports .pumpfun data = 0 := by
  constructor
  · cases parsed : parseTargetBuyInstruction data with
    | error error => exact ⟨error, rfl⟩
    | ok target =>
      rw [(parsed_agrees parsed).1] at sells
      cases sells
  · obtain ⟨-, sells⟩ := detect_sell_iff.mp sells
    unfold extractBuyLamports
    split
    · rfl
    · dsimp only
      rw [if_neg (by rw [sells]; decide), if_neg (by rw [sells]; decide)]

/-- The writers and the two readers of order data agree on all data. -/
theorem codecs_agree (sdk : Sdk) (targetWallets : List Pubkey) (accountIndices : List UInt8)
    (allAccountKeys : List Pubkey) :
    (∀ data target, parseTargetBuyInstruction data = .ok target →
      detectBuyOrSell sdk targetWallets data .pumpfun accountIndices allAccountKeys = true ∧
        extractBuyLamports .pumpfun data = target.lamports) ∧
    (∀ data, detectBuyOrSell sdk targetWallets data .pumpfun accountIndices allAccountKeys = false →
      (∃ error, parseTargetBuyInstruction data = .error error) ∧ extractBuyLamports .pumpfun data = 0) ∧
    (∀ tokenAmount maxSolCost order, 0 < tokenAmount → 0 < maxSolCost → tokenAmount < 2 ^ 64 → maxSolCost < 2 ^ 64 →
      BuildsBuy sdk tokenAmount maxSolCost order →
        parseTargetBuyInstruction order.data = .ok (.buy tokenAmount maxSolCost)) ∧
    ∀ order, BuildsSell sdk order →
      detectBuyOrSell sdk targetWallets order.data .pumpfun accountIndices allAccountKeys = false := by
  refine ⟨fun data target => parsed_agrees, fun data => sell_agrees, ?_, ?_⟩
  · intro tokenAmount maxSolCost order some paid tokenRange costRange built
    rw [built.data, parse_orderData some paid tokenRange costRange]
  · intro order built
    obtain ⟨tokenAmount, limit, data⟩ := built.data
    rw [data, detect_sell_iff, length_orderData rfl, take_orderData rfl]
    exact ⟨by decide, rfl⟩

theorem codecs_agree_sample : ∃ order, BuildsBuy sampleSdk 1000 500 order ∧
    parseTargetBuyInstruction order.data = .ok (.buy 1000 500) ∧ extractBuyLamports .pumpfun order.data = 500 := by
  obtain ⟨readers, -, purchases, -⟩ := codecs_agree sampleSdk [7] [] []
  have built : BuildsBuy sampleSdk 1000 500 _ := .mirrored 1 2 7 sampleMirror
  have parsed := purchases 1000 500 _ (by decide) (by decide) (by decide) (by decide) built
  exact ⟨_, built, parsed, (readers _ _ parsed).2⟩

end CopyTrader.Grpc.GrpcSubscriber
