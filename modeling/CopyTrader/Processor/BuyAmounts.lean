import CopyTrader.Processor.CurveQuotes

/-!
# Checked amounts

What an order to buy may ask for, and which builders see to it.
-/

namespace CopyTrader.Processor
open Lib PumpfunProcessor

/-- An order asks for some tokens, for no more than there are, and for no more than the curve has left. -/
structure Buyable (tokenAmount : ℕ) (curveState : Option BondingCurveState) : Prop where
  some : 0 < tokenAmount
  supply : tokenAmount ≤ maxPumpRawSupply
  left : ∀ curve, curveState = .some curve → 0 < curve.realTokenReserves → tokenAmount ≤ curve.realTokenReserves

variable {tokenAmount : ℕ} {curveState : Option BondingCurveState} {sdk : Sdk} {c : BuyCall}

theorem validateBuyAmount_iff : validateBuyAmount tokenAmount curveState = .ok () ↔ Buyable tokenAmount curveState := by
  unfold validateBuyAmount
  split_ifs with zero many
  · exact iff_of_false (fun failed => nomatch failed) fun buyable => buyable.some.ne' zero
  · exact iff_of_false (fun failed => nomatch failed) fun buyable => buyable.supply.not_gt many
  · have some : 0 < tokenAmount := by omega
    have supply : tokenAmount ≤ maxPumpRawSupply := by omega
    cases curveState with
    | none => exact iff_of_true rfl ⟨some, supply, fun _ same => nomatch same⟩
    | some curve =>
      dsimp only
      split_ifs with short
      · exact iff_of_false (fun failed => nomatch failed) fun buyable => (buyable.left curve rfl short.1).not_gt short.2
      · refine iff_of_true rfl ⟨some, supply, fun _ same left => ?_⟩
        cases same
        exact not_lt.mp fun more => short ⟨left, more⟩

namespace BondingCurveState

/-- The payment's share of the tokens makes up one token at least, not more than all tokens there are, and not more
than the curve has left. -/
structure CanFill (curve : BondingCurveState) (solAmount : ℕ) : Prop where
  sol : 0 < curve.virtualSolReserves
  some : curve.virtualSolReserves + solAmount ≤ curve.virtualTokenReserves * solAmount
  supply : curve.virtualTokenReserves * solAmount < (maxPumpRawSupply + 1) * (curve.virtualSolReserves + solAmount)
  left : 0 < curve.realTokenReserves →
    curve.virtualTokenReserves * solAmount < (curve.realTokenReserves + 1) * (curve.virtualSolReserves + solAmount)

theorem buyable_iff {curve : BondingCurveState} (fits : curve.virtualTokenReserves < 2 ^ 64) {solAmount : ℕ} :
    Buyable (curve.solToTokenQuote solAmount) (some curve) ↔ curve.CanFill solAmount := by
  obtain closed | sol := Nat.eq_zero_or_pos curve.virtualSolReserves
  · have nothing : curve.solToTokenQuote solAmount = 0 := if_pos closed
    exact iff_of_false (fun buyable => buyable.some.ne' nothing) fun fill => fill.sol.ne' closed
  have pos : 0 < curve.virtualSolReserves + solAmount := by omega
  have least : 0 < curve.solToTokenQuote solAmount ↔
      curve.virtualSolReserves + solAmount ≤ curve.virtualTokenReserves * solAmount := by
    rw [solToTokenQuote_eq sol fits, ConstantProduct.out, Nat.div_pos_iff]
    exact and_iff_right pos
  have most (bound : ℕ) : curve.solToTokenQuote solAmount ≤ bound ↔
      curve.virtualTokenReserves * solAmount < (bound + 1) * (curve.virtualSolReserves + solAmount) := by
    rw [solToTokenQuote_eq sol fits, ← Nat.lt_succ_iff]
    exact Nat.div_lt_iff_lt_mul pos
  constructor
  · rintro ⟨some, supply, left⟩
    exact ⟨sol, least.mp some, (most _).mp supply, fun positive => (most _).mp (left curve rfl positive)⟩
  · rintro ⟨-, some, supply, left⟩
    refine ⟨least.mpr some, (most _).mpr supply, fun _ same positive => ?_⟩
    cases same
    exact (most _).mpr (left positive)

end BondingCurveState

theorem quote_lt : c.quote sdk < 2 ^ 64 := by
  obtain ⟨mint, userAta, tokenProgramId, sourceWallet, mirrorAccounts, config, source⟩ := c
  have curve_lt (curve : BondingCurveState) : curve.solToTokenQuote config.buyLamports < 2 ^ 64 := by
    unfold BondingCurveState.solToTokenQuote
    split_ifs
    · decide
    · exact Nat.mod_lt _ (by decide)
  cases source with
  | cached curve => exact curve_lt curve
  | standard curve => exact curve_lt curve
  | fetched fetchBondingCurve =>
    dsimp only [BuyCall.quote, BuyCall.curve]
    cases (fetchBondingCurve (mirroredCurve sdk mint mirrorAccounts)).toOption with
    | none => exact Nat.two_pow_pos 64
    | some curve => exact curve_lt curve
  | target data =>
    dsimp only [BuyCall.quote]
    split
    · exact Nat.mod_lt _ (by decide)
    · decide

/-- The order asks for the quote. -/
theorem build_tokens {mirror : MirrorInstruction} (built : c.build sdk = .ok mirror) :
    ∃ order, mirror.swapInstructions = [order] ∧ orderTokens order = c.quote sdk := by
  obtain ⟨order, single, data⟩ := BuyCall.build_orders built
  exact ⟨order, single, (orderTokens_orderData rfl data).trans (Nat.mod_eq_of_lt quote_lt)⟩

theorem cached_builds {curve : BondingCurveState} (cached : c.source = .cached curve) (running : curve.complete = false) :
    ∃ mirror, c.build sdk = .ok mirror := by
  obtain ⟨mint, userAta, tokenProgramId, sourceWallet, mirrorAccounts, config, source⟩ := c
  obtain rfl : source = .cached curve := cached
  exact ⟨_, if_neg (by rw [running]; decide)⟩

theorem cached_asks {curve : BondingCurveState} (cached : c.source = .cached curve) :
    c.quote sdk = curve.solToTokenQuote c.config.buyLamports ∧ c.curve sdk = some curve := by
  unfold BuyCall.quote BuyCall.curve
  rw [cached]
  exact ⟨rfl, rfl⟩

/-- Whatever is built asks for an amount that passes the checks, as long as a purchase from the cache, which makes
none, is on a finished curve or one that can fill it; and only then. -/
theorem builds_buyable_iff (sdk : Sdk) (c : BuyCall)
    (fits : ∀ curve, c.source = .cached curve → curve.virtualTokenReserves < 2 ^ 64) :
    (∀ mirror, c.build sdk = .ok mirror →
        ∃ order, mirror.swapInstructions = [order] ∧ Buyable (orderTokens order) (c.curve sdk)) ↔
      ∀ curve, c.source = .cached curve → curve.complete = true ∨ curve.CanFill c.config.buyLamports := by
  constructor
  · intro sound curve cached
    refine (Bool.eq_false_or_eq_true curve.complete).imp_right fun running => ?_
    obtain ⟨mirror, built⟩ := (cached_builds cached running : ∃ mirror, c.build sdk = .ok mirror)
    obtain ⟨order, single, buyable⟩ := sound mirror built
    obtain ⟨order', single', tokens⟩ := build_tokens built
    obtain rfl : order = order' := List.singleton_inj.mp (single.symm.trans single')
    rw [tokens, (cached_asks cached).1, (cached_asks cached).2] at buyable
    exact (BondingCurveState.buyable_iff (fits curve cached)).mp buyable
  · intro fills mirror built
    obtain ⟨order, single, tokens⟩ := build_tokens built
    refine ⟨order, single, ?_⟩
    rw [tokens]
    by_cases checks : ∀ curve, c.source ≠ .cached curve
    · exact validateBuyAmount_iff.mp (BuyCall.build_checked built checks)
    · obtain ⟨curve, cached⟩ := not_forall_not.mp checks
      obtain complete | fill := fills curve cached
      · unfold BuyCall.build at built
        rw [cached] at built
        exact nomatch complete.symm.trans (BuyCall.cached_ok built).1
      · rw [(cached_asks cached).1, (cached_asks cached).2]
        exact (BondingCurveState.buyable_iff (fits curve cached)).mpr fill

/-- A curve that is nearly sold out. -/
def lateCurve : BondingCurveState :=
  { sampleCurve with
    virtualTokenReserves := 280000000000000
    virtualSolReserves := 115000000000
    realTokenReserves := 1000000000000 }

def lateBuy (source : QuoteSource) : BuyCall where
  mint := 9
  userAta := 3
  tokenProgramId := TOKEN_PROGRAM
  sourceWallet := 7
  mirrorAccounts := sampleMirror
  config := sampleConfig
  source

theorem builds_buyable_sample : ∃ mirror order, (lateBuy (.cached sampleCurve)).build sampleSdk = .ok mirror ∧
    mirror.swapInstructions = [order] ∧ Buyable (orderTokens order) (some sampleCurve) := by
  have fills : sampleCurve.CanFill (lateBuy (.cached sampleCurve)).config.buyLamports :=
    ⟨by decide, by decide +kernel, by decide +kernel, fun _ => by decide +kernel⟩
  have sound := (builds_buyable_iff sampleSdk (lateBuy (.cached sampleCurve)) (by
    rintro _ ⟨⟩
    decide)).mpr (by
    rintro _ ⟨⟩
    exact .inr fills)
  obtain ⟨order, single, buyable⟩ := sound _ rfl
  exact ⟨_, order, rfl, single, buyable⟩

/-- The cache knows that the curve has a million tokens left. Two million are asked for. -/
theorem cached_asks_too_much :
    ¬ ∀ mirror, (lateBuy (.cached lateCurve)).build sampleSdk = .ok mirror → ∃ order, mirror.swapInstructions = [order] ∧
      Buyable (orderTokens order) ((lateBuy (.cached lateCurve)).curve sampleSdk) := by
  intro sound
  obtain ⟨mirror, built⟩ : ∃ mirror, (lateBuy (.cached lateCurve)).build sampleSdk = .ok mirror := ⟨_, rfl⟩
  obtain ⟨order, single, buyable⟩ := sound mirror built
  obtain ⟨order', single', tokens⟩ := build_tokens built
  obtain rfl : order = order' := List.singleton_inj.mp (single.symm.trans single')
  have enough : (lateBuy (.cached lateCurve)).quote sampleSdk ≤ 1000000000000 :=
    tokens ▸ buyable.left lateCurve rfl (by decide)
  exact absurd enough (by decide +kernel)

end CopyTrader.Processor
