import CopyTrader.Processor.Mirror

/-!
# Accounts of a curve, by layout

A purchase and a sale name the same accounts of a curve at different positions. An order built from
the accounts of another order must name the same curve.
-/

namespace CopyTrader.Processor.PumpfunProcessor
open Lib

variable {sdk : Sdk} {mirror : List Pubkey}
  {user userAta sourceWallet ourWallet ourAta tokenProgramId creator : Pubkey} {tokenAmount limit : ℕ} {isCashback : Bool}

/-- What an order must name alike, whoever places it. -/
structure CurveAccounts where
  feeRecipient : Pubkey
  mint : Pubkey
  bondingCurve : Pubkey
  associatedBondingCurve : Pubkey
  tokenProgram : Pubkey
  creatorVault : Pubkey
  bondingCurveV2 : Pubkey
  breakingFeeRecipient : Pubkey
  deriving DecidableEq

/-- The accounts of a curve in a purchase of 18 accounts. -/
def CurveAccounts.ofBuy (keys : List Pubkey) : CurveAccounts :=
  ⟨keys.getD 1 0, keys.getD 2 0, keys.getD 3 0, keys.getD 4 0, keys.getD 8 0, keys.getD 9 0, keys.getD 16 0,
    keys.getD 17 0⟩

/-- The accounts of a curve in a sale, where a cashback coin has one account more before the last two. -/
def CurveAccounts.ofSell (isCashback : Bool) (keys : List Pubkey) : CurveAccounts :=
  ⟨keys.getD 1 0, keys.getD 2 0, keys.getD 3 0, keys.getD 4 0, keys.getD 9 0, keys.getD 8 0,
    keys.getD (if isCashback then 15 else 14) 0, keys.getD (if isCashback then 16 else 15) 0⟩

@[simp] theorem length_replaceUserPdas :
    (replaceUserPdas sdk mirror sourceWallet ourWallet ourAta).length = mirror.length := by
  unfold replaceUserPdas
  rw [List.length_mapIdx]

theorem getElem?_replaceUserPdas (i : ℕ) :
    (replaceUserPdas sdk mirror sourceWallet ourWallet ourAta)[i]? = mirror[i]?.map fun acct =>
      if i = 5 then ourAta
      else if i = 6 then ourWallet
      else ((seedPatterns.map fun seed => (pda sdk seed [sourceWallet], pda sdk seed [ourWallet])).lookup acct).getD
        acct := by
  unfold replaceUserPdas
  rw [List.getElem?_mapIdx]

theorem lookup_self (seeds : List String) (address : String → Pubkey) (acct : Pubkey) :
    ((seeds.map fun seed => (address seed, address seed)).lookup acct).getD acct = acct := by
  induction seeds with
  | nil => rfl
  | cons seed seeds ih =>
    rw [List.map_cons, List.lookup_cons]
    cases same : acct == address seed with
    | true => exact (eq_of_beq same).symm
    | false => exact ih

/-- A mirror of our own keeps its accounts. -/
theorem replaceUserPdas_self (i : ℕ) (ata : i ≠ 5) (wallet : i ≠ 6) :
    (replaceUserPdas sdk mirror ourWallet ourWallet ourAta).getD i 0 = mirror.getD i 0 := by
  rw [List.getD_eq_getElem?_getD, List.getD_eq_getElem?_getD, getElem?_replaceUserPdas]
  simp only [ata, wallet, if_false, lookup_self, Option.map_id']

/-! ## The layouts -/

/-- The accounts of a curve that a purchase takes from a mirror, by the length of the mirror. -/
def CurveAccounts.mirrored (mirror : List Pubkey) : CurveAccounts :=
  if 18 ≤ mirror.length then CurveAccounts.ofBuy mirror
  else if mirror.length = 17 then
    { CurveAccounts.ofBuy mirror with
      bondingCurveV2 := PUMP_BUYBACK_FEE_RECIPIENT, breakingFeeRecipient := 0 }
  else if mirror.length = 16 then CurveAccounts.ofSell false mirror
  else
    { CurveAccounts.ofBuy mirror with
      tokenProgram := 0, creatorVault := 0, bondingCurveV2 := PUMP_BUYBACK_FEE_RECIPIENT, breakingFeeRecipient := 0 }

theorem keys_buildBuyInstructionFromMirror :
    (buildBuyInstructionFromMirror sdk user userAta sourceWallet mirror tokenAmount limit).keys =
      let replaced := replaceUserPdas sdk mirror (mirror.getD 6 sourceWallet) user userAta
      let curve := CurveAccounts.mirrored replaced
      [replaced.getD 0 0, curve.feeRecipient, curve.mint, curve.bondingCurve, curve.associatedBondingCurve, userAta,
        user, SYSTEM_PROGRAM, curve.tokenProgram, curve.creatorVault, PUMPFUN_EVENT_AUTHORITY, PUMPFUN_PROGRAM_ID,
        pda sdk "global_volume_accumulator" [], pda sdk "user_volume_accumulator" [user], PUMP_FEE_CONFIG_PDA,
        PUMP_FEE_PROGRAM, curve.bondingCurveV2, curve.breakingFeeRecipient] := by
  dsimp only [buildBuyInstructionFromMirror, Instruction.keys, CurveAccounts.mirrored]
  generalize replaceUserPdas sdk mirror (mirror.getD 6 sourceWallet) user userAta = replaced
  split_ifs <;> rfl

theorem length_accounts_buildBuyInstructionFromMirror :
    (buildBuyInstructionFromMirror sdk user userAta sourceWallet mirror tokenAmount limit).accounts.length = 18 := by
  rw [← List.length_map (f := AccountMeta.pubkey)]
  exact congrArg List.length keys_buildBuyInstructionFromMirror

theorem signedBy_buildBuyInstructionFromMirror :
    SignedBy user [buildBuyInstructionFromMirror sdk user userAta sourceWallet mirror tokenAmount limit] := by
  unfold buildBuyInstructionFromMirror
  dsimp only
  split_ifs <;> simp [SignedBy, AccountMeta.new, AccountMeta.newReadonly]

theorem ofBuy_buildBuyInstructionFromMirror :
    CurveAccounts.ofBuy (buildBuyInstructionFromMirror sdk user userAta sourceWallet mirror tokenAmount limit).keys =
      CurveAccounts.mirrored (replaceUserPdas sdk mirror (mirror.getD 6 sourceWallet) user userAta) := by
  rw [keys_buildBuyInstructionFromMirror]
  rfl

theorem keys_buildSellInstructionFromMirror (accounts : mirror.length = 18) :
    (buildSellInstructionFromMirror sdk user userAta mirror tokenAmount limit tokenProgramId creator isCashback).keys =
      let curve := CurveAccounts.ofBuy mirror
      [mirror.getD 0 0, curve.feeRecipient, curve.mint, curve.bondingCurve, curve.associatedBondingCurve, userAta,
        user, SYSTEM_PROGRAM, curve.creatorVault, tokenProgramId, PUMPFUN_EVENT_AUTHORITY, PUMPFUN_PROGRAM_ID,
        PUMP_FEE_CONFIG_PDA, PUMP_FEE_PROGRAM] ++
        (if isCashback then [pda sdk "user_volume_accumulator" [user]] else []) ++
        [curve.bondingCurveV2, curve.breakingFeeRecipient] := by
  have present (i : ℕ) (inside : i < 18) (otherwise : Pubkey) : mirror.getD i otherwise = mirror.getD i 0 := by
    rw [List.getD_eq_getElem?_getD, List.getD_eq_getElem?_getD, List.getElem?_eq_getElem (by omega)]
    rfl
  dsimp only [buildSellInstructionFromMirror, Instruction.keys, CurveAccounts.ofBuy]
  rw [if_pos accounts.ge, present 0 (by omega) PUMPFUN_GLOBAL, present 1 (by omega) PUMPFUN_FEE_RECIPIENT]
  cases isCashback <;> rfl

/-- A sale built from a sale reads it as the sale of a coin without cashback. -/
theorem ofSell_buildSellInstructionFromMirror (least : 16 ≤ mirror.length) (most : mirror.length < 18) :
    CurveAccounts.ofSell isCashback
      (buildSellInstructionFromMirror sdk user userAta mirror tokenAmount limit tokenProgramId creator isCashback).keys =
      { CurveAccounts.ofSell false mirror with tokenProgram := tokenProgramId } := by
  have present (otherwise : Pubkey) : mirror.getD 1 otherwise = mirror.getD 1 0 := by
    rw [List.getD_eq_getElem?_getD, List.getD_eq_getElem?_getD, List.getElem?_eq_getElem (by omega)]
    rfl
  dsimp only [buildSellInstructionFromMirror, Instruction.keys, CurveAccounts.ofSell]
  rw [if_neg (by omega), if_pos least, present PUMPFUN_FEE_RECIPIENT]
  cases isCashback <;> rfl

/-! ## Orders built from our own orders -/

/-- What a user's orders must name who sells what a purchase bought, and buys and sells again from the
accounts of that sale. -/
structure RoundTrips (mirror : List Pubkey) (isCashback : Bool) (sale purchase resale : Instruction) : Prop where
  slots : purchase.keys.length = 18
  bought : CurveAccounts.ofBuy purchase.keys = CurveAccounts.ofBuy mirror
  sold : CurveAccounts.ofSell isCashback resale.keys = CurveAccounts.ofSell isCashback sale.keys

theorem ofSell_sale (slots : mirror.length = 18) :
    CurveAccounts.ofSell isCashback
      (buildSellInstructionFromMirror sdk user userAta mirror tokenAmount limit tokenProgramId creator isCashback).keys =
      { CurveAccounts.ofBuy mirror with tokenProgram := tokenProgramId } := by
  rw [keys_buildSellInstructionFromMirror slots]
  cases isCashback <;> rfl

theorem length_sale (slots : mirror.length = 18) :
    (buildSellInstructionFromMirror sdk user userAta mirror tokenAmount limit tokenProgramId creator
      isCashback).keys.length = if isCashback then 17 else 16 := by
  rw [keys_buildSellInstructionFromMirror slots]
  cases isCashback <;> rfl

/-- The signer of a sale is the wallet whose addresses the purchase replaces. -/
theorem signer_sale (slots : mirror.length = 18) :
    (buildSellInstructionFromMirror sdk user userAta mirror tokenAmount limit tokenProgramId creator
      isCashback).keys.getD 6 sourceWallet = user := by
  rw [keys_buildSellInstructionFromMirror slots]
  cases isCashback <;> rfl

theorem buyback_ne_default : PUMP_BUYBACK_FEE_RECIPIENT ≠ 0 := by decide +kernel

/-- The accounts of a curve stay what they are in a mirror of our own. -/
theorem ofSell_replaceUserPdas_self :
    CurveAccounts.ofSell isCashback (replaceUserPdas sdk mirror ourWallet ourWallet ourAta) =
      CurveAccounts.ofSell isCashback mirror := by
  have kept (i : ℕ) (other : i ≠ 5 ∧ i ≠ 6) :
      (replaceUserPdas sdk mirror ourWallet ourWallet ourAta).getD i 0 = mirror.getD i 0 :=
    replaceUserPdas_self i other.1 other.2
  cases isCashback <;>
    simp only [CurveAccounts.ofSell, kept 1 (by decide), kept 2 (by decide), kept 3 (by decide), kept 4 (by decide),
      kept 8 (by decide), kept 9 (by decide), kept 14 (by decide), kept 15 (by decide), kept 16 (by decide),
      Bool.false_eq_true, if_true, if_false]

section
variable {soldAmount leastSol boughtAmount mostSol resoldAmount releastSol : ℕ}

/-- The orders name the accounts that they were built from exactly when the coin is not a cashback coin. The
sale of a cashback coin has as many accounts as an old purchase, and is read as one. -/
theorem roundTrips_iff {mirror : List Pubkey} {tokenProgramId : Pubkey} (slots : mirror.length = 18)
    (program : tokenProgramId = mirror.getD 8 0) :
    let sale :=
      buildSellInstructionFromMirror sdk user userAta mirror soldAmount leastSol tokenProgramId creator isCashback
    let purchase := buildBuyInstructionFromMirror sdk user userAta sourceWallet sale.keys boughtAmount mostSol
    let resale :=
      buildSellInstructionFromMirror sdk user userAta sale.keys resoldAmount releastSol tokenProgramId creator isCashback
    RoundTrips mirror isCashback sale purchase resale ↔ isCashback = false := by
  intro sale purchase resale
  have length : sale.keys.length = if isCashback then 17 else 16 := length_sale slots
  have sold : CurveAccounts.ofSell isCashback sale.keys = CurveAccounts.ofBuy mirror := by
    rw [ofSell_sale slots, program]
    rfl
  have resold : CurveAccounts.ofSell isCashback resale.keys =
      { CurveAccounts.ofSell false sale.keys with tokenProgram := tokenProgramId } :=
    ofSell_buildSellInstructionFromMirror (by split at length <;> omega) (by split at length <;> omega)
  have bought : CurveAccounts.ofBuy purchase.keys =
      CurveAccounts.mirrored (replaceUserPdas sdk sale.keys user user userAta) := by
    rw [ofBuy_buildBuyInstructionFromMirror, signer_sale slots]
  cases isCashback with
  | false =>
    refine iff_of_true ⟨?_, ?_, ?_⟩ rfl
    · rw [keys_buildBuyInstructionFromMirror]
      rfl
    · rw [bought, CurveAccounts.mirrored, length_replaceUserPdas, length]
      exact ofSell_replaceUserPdas_self.trans sold
    · rw [resold, sold, program]
      rfl
  | true =>
    -- the purchase takes the two last accounts for those that an old purchase lacks
    refine iff_of_false ?_ Bool.noConfusion
    rintro ⟨-, sameBought, sameSold⟩
    rw [bought, CurveAccounts.mirrored, length_replaceUserPdas, length] at sameBought
    have buyback : PUMP_BUYBACK_FEE_RECIPIENT = (CurveAccounts.ofBuy mirror).bondingCurveV2 :=
      congrArg CurveAccounts.bondingCurveV2 sameBought
    have default : 0 = (CurveAccounts.ofBuy mirror).breakingFeeRecipient :=
      congrArg CurveAccounts.breakingFeeRecipient sameBought
    -- and the sale takes the account before the last for the last
    have shifted : (CurveAccounts.ofSell true sale.keys).bondingCurveV2 =
        (CurveAccounts.ofSell true sale.keys).breakingFeeRecipient := by
      rw [resold] at sameSold
      exact congrArg CurveAccounts.breakingFeeRecipient sameSold
    rw [sold, ← buyback, ← default] at shifted
    exact buyback_ne_default shifted

end

/-- Wallet 1 sells what it bought like wallet 7. -/
def sampleSale (isCashback : Bool) : Instruction :=
  buildSellInstructionFromMirror sampleSdk 1 (sampleSdk.associatedTokenAddress 1 9 TOKEN_PROGRAM) sampleMirror 1000 0
    TOKEN_PROGRAM 5 isCashback

def samplePurchase (isCashback : Bool) : Instruction :=
  buildBuyInstructionFromMirror sampleSdk 1 (sampleSdk.associatedTokenAddress 1 9 TOKEN_PROGRAM) 1
    (sampleSale isCashback).keys 1000 500

def sampleResale (isCashback : Bool) : Instruction :=
  buildSellInstructionFromMirror sampleSdk 1 (sampleSdk.associatedTokenAddress 1 9 TOKEN_PROGRAM)
    (sampleSale isCashback).keys 1000 0 TOKEN_PROGRAM 5 isCashback

theorem roundTrips_sample :
    RoundTrips sampleMirror false (sampleSale false) (samplePurchase false) (sampleResale false) :=
  (roundTrips_iff (by decide) (by decide)).mpr rfl

/-- The token program and the creator's vault of a cashback coin change places. -/
theorem cashback_swapped :
    ¬ RoundTrips sampleMirror true (sampleSale true) (samplePurchase true) (sampleResale true) := by
  intro trip
  have program := congrArg CurveAccounts.tokenProgram trip.bought
  revert program
  decide +kernel

end CopyTrader.Processor.PumpfunProcessor
