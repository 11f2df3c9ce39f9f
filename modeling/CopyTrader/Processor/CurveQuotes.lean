import CopyTrader.Lib.ConstantProduct
import CopyTrader.Processor.MirrorCheck
import CopyTrader.Processor.Orders

/-!
# Exact quotes

Quotes of a curve are those of the constant product. A quote from a target's own order is one as well, as long as the
target's price stays above a limit.
-/

namespace CopyTrader.Processor
open Lib

namespace BondingCurveState

variable {curve : BondingCurveState} {amount : ℕ}

theorem solToTokenQuote_eq (sol : 0 < curve.virtualSolReserves) (fits : curve.virtualTokenReserves < 2 ^ 64) :
    curve.solToTokenQuote amount = ConstantProduct.out curve.virtualSolReserves curve.virtualTokenReserves amount := by
  rw [solToTokenQuote, if_neg (by omega)]
  exact Nat.mod_eq_of_lt (ConstantProduct.out_le.trans_lt fits)

theorem tokenToSolQuote_eq (tokens : 0 < curve.virtualTokenReserves) (fits : curve.virtualSolReserves < 2 ^ 64) :
    curve.tokenToSolQuote amount = ConstantProduct.out curve.virtualTokenReserves curve.virtualSolReserves amount := by
  rw [tokenToSolQuote, if_neg (by omega)]
  exact Nat.mod_eq_of_lt (ConstantProduct.out_le.trans_lt fits)

/-- What `quote` gives for an amount, with `paid` held of what is paid and `held` of what is given. -/
structure ExactQuote (paid held amount : ℕ) (quote : ℕ → ℕ) : Prop where
  product : held * amount < 2 ^ 128
  sum : paid + amount < 2 ^ 128
  cast : held * amount / (paid + amount) < 2 ^ 64
  greatest : IsGreatest {given | given ≤ held ∧ held * paid ≤ (held - given) * (paid + amount)} (quote amount)
  less : quote amount < held
  mono : ∀ more, amount ≤ more → quote amount ≤ quote more

theorem exactQuote {paid held : ℕ} {quote : ℕ → ℕ} (paid_pos : 0 < paid) (paid_fits : paid < 2 ^ 64) (held_pos : 0 < held)
    (held_fits : held < 2 ^ 64) (amount_fits : amount < 2 ^ 64)
    (product : ∀ amount, quote amount = ConstantProduct.out paid held amount) : ExactQuote paid held amount quote where
  product :=
    calc held * amount < 2 ^ 64 * 2 ^ 64 := Nat.mul_lt_mul'' held_fits amount_fits
      _ = 2 ^ 128 := rfl
  sum := by omega
  cast := ConstantProduct.out_le.trans_lt held_fits
  greatest := product amount ▸ ConstantProduct.out_isGreatest paid_pos
  less := product amount ▸ ConstantProduct.out_lt paid_pos held_pos
  mono more le := by
    rw [product amount, product more]
    exact ConstantProduct.out_mono paid_pos le

/-- The reserves after a purchase. -/
def afterBuy (curve : BondingCurveState) (amount : ℕ) : BondingCurveState :=
  { curve with
    virtualSolReserves := curve.virtualSolReserves + amount
    virtualTokenReserves := curve.virtualTokenReserves - curve.solToTokenQuote amount }

/-- Both quotes are the exact ones, and tokens sold back at once return no more than was paid for them. -/
theorem quotes_exact (curve : BondingCurveState) (sol : 0 < curve.virtualSolReserves)
    (sol_fits : curve.virtualSolReserves < 2 ^ 64) (tokens : 0 < curve.virtualTokenReserves)
    (tokens_fit : curve.virtualTokenReserves < 2 ^ 64) (amount : ℕ) (amount_fits : amount < 2 ^ 64) :
    ExactQuote curve.virtualSolReserves curve.virtualTokenReserves amount curve.solToTokenQuote ∧
      ExactQuote curve.virtualTokenReserves curve.virtualSolReserves amount curve.tokenToSolQuote ∧
      (curve.virtualSolReserves + amount < 2 ^ 64 →
        (curve.afterBuy amount).tokenToSolQuote (curve.solToTokenQuote amount) ≤ amount) := by
  refine ⟨exactQuote sol sol_fits tokens tokens_fit amount_fits fun _ => solToTokenQuote_eq sol tokens_fit,
    exactQuote tokens tokens_fit sol sol_fits amount_fits fun _ => tokenToSolQuote_eq tokens sol_fits, ?_⟩
  intro fits
  have given : curve.solToTokenQuote amount = ConstantProduct.out curve.virtualSolReserves curve.virtualTokenReserves amount :=
    solToTokenQuote_eq sol tokens_fit
  have left : 0 < (curve.afterBuy amount).virtualTokenReserves := by
    have less : ConstantProduct.out curve.virtualSolReserves curve.virtualTokenReserves amount < curve.virtualTokenReserves :=
      ConstantProduct.out_lt sol tokens
    dsimp only [afterBuy]
    omega
  rw [tokenToSolQuote_eq left fits]
  dsimp only [afterBuy]
  rw [given]
  exact ConstantProduct.out_back

/-- One SOL on a curve of 30 SOL. -/
theorem quotes_exact_sample : ExactQuote 30000000000 1000000000000000 1000000000 PumpfunProcessor.sampleCurve.solToTokenQuote :=
  (quotes_exact PumpfunProcessor.sampleCurve (by decide) (by decide) (by decide) (by decide) 1000000000 (by decide)).1

end BondingCurveState

namespace PumpfunProcessor

variable {sdk : Sdk} {target targetMaxSol sol : ℕ}

/-- The tokens that the curve of 30 SOL must hold for the target's price. -/
def estimatedVToken (target targetMaxSol : ℕ) : ℕ := 30000000000 * target / targetMaxSol

theorem parse_buy_pos {data : List UInt8} (parsed : parseTargetBuyInstruction data = .ok (.buy target targetMaxSol)) :
    0 < targetMaxSol := by
  unfold parseTargetBuyInstruction at parsed
  dsimp only at parsed
  split_ifs at parsed with short buy zero
  · cases parsed
    omega
  · exact nomatch parsed

/-- Whatever is lost on the way, the quote is no more than the target's price allows. -/
theorem quoteFromTarget_le (pos : 0 < targetMaxSol) :
    quoteFromTarget target targetMaxSol sol ≤ max 1 (target * sol / targetMaxSol) := by
  have share : estimatedVToken target targetMaxSol * sol / (30000000000 + sol) ≤ target * sol / targetMaxSol := by
    rw [Nat.le_div_iff_mul_le pos]
    have estimate : estimatedVToken target targetMaxSol * targetMaxSol ≤ 30000000000 * target := Nat.div_mul_le_self _ _
    generalize estimatedVToken target targetMaxSol = held at *
    have quotient : held * sol / (30000000000 + sol) * (30000000000 + sol) ≤ held * sol := Nat.div_mul_le_self _ _
    generalize held * sol / (30000000000 + sol) = quote at *
    have thirty : quote * 30000000000 ≤ held * sol := by
      rw [Nat.mul_add] at quotient
      exact (Nat.le_add_right _ _).trans quotient
    refine Nat.le_of_mul_le_mul_left ?_ (by decide : 0 < 30000000000)
    calc 30000000000 * (quote * targetMaxSol) = quote * 30000000000 * targetMaxSol := by ring
      _ ≤ held * sol * targetMaxSol := Nat.mul_le_mul_right targetMaxSol thirty
      _ = held * targetMaxSol * sol := by ring
      _ ≤ 30000000000 * target * sol := Nat.mul_le_mul_right sol estimate
      _ = 30000000000 * (target * sol) := by ring
  unfold quoteFromTarget
  dsimp only
  have wrapped : estimatedVToken target targetMaxSol * sol % 2 ^ 128 / (30000000000 + sol) ≤
      estimatedVToken target targetMaxSol * sol / (30000000000 + sol) := Nat.div_le_div_right (Nat.mod_le _ _)
  calc _ ≤ max (estimatedVToken target targetMaxSol * sol % 2 ^ 128 / (30000000000 + sol)) 1 := Nat.mod_le _ _
    _ ≤ max (target * sol / targetMaxSol) 1 := max_le_max_right 1 (wrapped.trans share)
    _ = max 1 (target * sol / targetMaxSol) := max_comm _ _

/-- The tokens for each lamport of the target's limit, times 30 SOL, from which a quote no longer fits. -/
def ratioLimit (sol : ℕ) : ℕ := (2 ^ 64 * min (2 ^ 64) (30000000000 + sol) - 1) / sol + 1

/-- Neither the product nor the cast loses anything exactly when the target's price is high enough. -/
theorem fits_iff (pos : 0 < targetMaxSol) :
    estimatedVToken target targetMaxSol * sol < 2 ^ 128 ∧
        max (estimatedVToken target targetMaxSol * sol / (30000000000 + sol)) 1 < 2 ^ 64 ↔
      sol = 0 ∨ 30000000000 * target < ratioLimit sol * targetMaxSol := by
  have cast (product : ℕ) :
      max (product / (30000000000 + sol)) 1 < 2 ^ 64 ↔ product < 2 ^ 64 * (30000000000 + sol) := by
    rw [max_lt_iff, Nat.div_lt_iff_lt_mul (by omega)]
    exact and_iff_left (by decide)
  rw [cast]
  have both (product : ℕ) : product < 2 ^ 128 ∧ product < 2 ^ 64 * (30000000000 + sol) ↔
      product < 2 ^ 64 * min (2 ^ 64) (30000000000 + sol) := by
    omega
  rw [both]
  obtain rfl | some := Nat.eq_zero_or_pos sol
  · simp
  have positive : 0 < 2 ^ 64 * min (2 ^ 64) (30000000000 + sol) := by omega
  unfold ratioLimit
  generalize 2 ^ 64 * min (2 ^ 64) (30000000000 + sol) = limit at *
  calc estimatedVToken target targetMaxSol * sol < limit
      ↔ estimatedVToken target targetMaxSol * sol ≤ limit - 1 := by omega
    _ ↔ estimatedVToken target targetMaxSol ≤ (limit - 1) / sol := (Nat.le_div_iff_mul_le some).symm
    _ ↔ estimatedVToken target targetMaxSol < (limit - 1) / sol + 1 := Nat.lt_succ_iff.symm
    _ ↔ 30000000000 * target < ((limit - 1) / sol + 1) * targetMaxSol := Nat.div_lt_iff_lt_mul pos
    _ ↔ sol = 0 ∨ 30000000000 * target < ((limit - 1) / sol + 1) * targetMaxSol := by
      rw [or_iff_right some.ne']

/-- What a purchase at a target's price asks for is no more than the price allows. -/
theorem target_tokens_le {mint userAta tokenProgramId sourceWallet : Pubkey} {mirrorAccounts : List Pubkey}
    {data : List UInt8} {config : AppConfig} {mirror : MirrorInstruction} {tokens : ℕ}
    (parsed : parseTargetBuyInstruction data = .ok (.buy target targetMaxSol))
    (built : buyFromTargetInstruction sdk mint userAta tokenProgramId sourceWallet mirrorAccounts data config =
      .ok (mirror, tokens)) : ∃ order, mirror.swapInstructions = [order] ∧
        orderTokens order ≤ max 1 (target * config.buyLamports / targetMaxSol) := by
  obtain ⟨target', targetMaxSol', parsed', rfl, -, rfl⟩ := BuyCall.target_ok built
  cases parsed.symm.trans parsed'
  refine ⟨_, rfl, ?_⟩
  rw [orderTokens_orderData rfl rfl]
  exact (Nat.mod_le _ _).trans (quoteFromTarget_le (parse_buy_pos parsed))

/-- A quote from a target's order is computed without loss, and asks for no more tokens for each lamport than the
target does, exactly when the target's price is high enough for the amount. -/
theorem target_quote_iff (sdk : Sdk) (mint userAta tokenProgramId sourceWallet : Pubkey) (mirrorAccounts : List Pubkey)
    {data : List UInt8} (config : AppConfig) (parsed : parseTargetBuyInstruction data = .ok (.buy target targetMaxSol)) :
    (estimatedVToken target targetMaxSol * config.buyLamports < 2 ^ 128 ∧
        max (estimatedVToken target targetMaxSol * config.buyLamports / (30000000000 + config.buyLamports)) 1 < 2 ^ 64 ∧
        ∀ mirror tokens,
          buyFromTargetInstruction sdk mint userAta tokenProgramId sourceWallet mirrorAccounts data config =
              .ok (mirror, tokens) →
            ∃ order, mirror.swapInstructions = [order] ∧
              orderTokens order ≤ max 1 (target * config.buyLamports / targetMaxSol)) ↔
      config.buyLamports = 0 ∨ 30000000000 * target < ratioLimit config.buyLamports * targetMaxSol := by
  rw [← fits_iff (parse_buy_pos parsed)]
  constructor
  · rintro ⟨product, cast, -⟩
    exact ⟨product, cast⟩
  · rintro ⟨product, cast⟩
    exact ⟨product, cast, fun mirror tokens => target_tokens_le parsed⟩

/-- A purchase for 0.305 SOL. -/
def quotedConfig : AppConfig := { sampleConfig with buySolAmount := 0.305 }

theorem target_quote_sample :
    estimatedVToken 1000000000 30000000 * quotedConfig.buyLamports < 2 ^ 128 := by
  have parsed : parseTargetBuyInstruction (orderData BUY_DISCRIMINATOR 1000000000 30000000) =
      .ok (.buy 1000000000 30000000) := by decide +kernel
  exact ((target_quote_iff sampleSdk 9 3 TOKEN_PROGRAM 7 sampleMirror quotedConfig parsed).mpr
    (.inr (by decide +kernel))).1

/-- A target that takes one lamport for 10^19 tokens: what is left of the quote after the cast passes the check. -/
theorem target_quote_truncated :
    parseTargetBuyInstruction (orderData BUY_DISCRIMINATOR 10000000000000000000 1) =
        .ok (.buy 10000000000000000000 1) ∧
      (buyFromTargetInstruction sampleSdk 9 3 TOKEN_PROGRAM 7 sampleMirror
        (orderData BUY_DISCRIMINATOR 10000000000000000000 1) quotedConfig).map Prod.snd = .ok 719965120075973 ∧
      ¬ max (estimatedVToken 10000000000000000000 1 * quotedConfig.buyLamports / (30000000000 + quotedConfig.buyLamports)) 1 <
        2 ^ 64 := by
  decide +kernel

end PumpfunProcessor

end CopyTrader.Processor
