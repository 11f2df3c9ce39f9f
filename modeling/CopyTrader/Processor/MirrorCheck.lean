import CopyTrader.Lib.Outcome
import CopyTrader.Processor.MirrorLayout

/-!
# Checked mirrors

What a purchase names that is built from accounts which passed the check.
-/

namespace CopyTrader.Processor.PumpfunProcessor
open Lib

variable {F : Type} {sdk : Sdk} {config : AppConfig F} {curveState : Option BondingCurveState} {mirror : List Pubkey}
  {mint user userAta sourceWallet ourWallet ourAta tokenProgramId : Pubkey} {tokenAmount limit : ℕ}

theorem eq_of_no_mismatch {actual expected : List Pubkey} {skip : List ℕ}
    (none : firstPubkeyMismatchSkipping actual expected skip = none) {i : ℕ} (checked : i ∉ skip) {key key' : Pubkey}
    (here : actual[i]? = some key) (there : expected[i]? = some key') : key = key' := by
  have pair : ((key, key'), i) ∈ (actual.zip expected).zipIdx := by
    rw [List.mem_zipIdx_iff_getElem?, List.getElem?_zip_eq_some]
    exact ⟨here, there⟩
  have quiet := List.findSome?_eq_none_iff.mp none _ pair
  by_contra different
  simp [checked, different] at quiet

/-- The accounts that were asked for, with their positions in a purchase. -/
def requested (sdk : Sdk) (mint userAta tokenProgramId ourWallet : Pubkey) : List (ℕ × Pubkey) :=
  let bondingCurve := pda sdk "bonding-curve" [mint]
  [(2, mint), (3, bondingCurve), (4, sdk.associatedTokenAddress bondingCurve mint tokenProgramId), (5, userAta),
    (6, ourWallet), (8, tokenProgramId)]

/-- The accounts have the given keys at the given positions. -/
def Names (keys : List Pubkey) (slots : List (ℕ × Pubkey)) : Prop := ∀ slot ∈ slots, keys[slot.1]? = some slot.2

theorem requested_subset : requested sdk mint userAta tokenProgramId ourWallet ⊆
    partialExpectations sdk mint userAta tokenProgramId ourWallet := by
  intro slot member
  simp only [requested, List.mem_cons, List.not_mem_nil, or_false] at member
  obtain rfl | rfl | rfl | rfl | rfl | rfl := member <;> simp [partialExpectations]

theorem standard_names {curve : BondingCurveState} {keys : List Pubkey}
    (built : buildBuyAccountKeysStandard sdk ourWallet mint userAta tokenProgramId curve = .ok keys) :
    Names keys (requested sdk mint userAta tokenProgramId ourWallet) := by
  unfold buildBuyAccountKeysStandard at built
  cases creator : curve.creator with
  | none =>
    rw [creator] at built
    exact nomatch built
  | some creator' =>
    rw [creator] at built
    cases built
    intro slot member
    simp only [requested, List.mem_cons, List.not_mem_nil, or_false] at member
    obtain rfl | rfl | rfl | rfl | rfl | rfl := member <;> rfl

theorem slot_requested {slot : ℕ × Pubkey} (member : slot ∈ requested sdk mint userAta tokenProgramId ourWallet) :
    slot.1 = 2 ∨ slot.1 = 3 ∨ slot.1 = 4 ∨ slot.1 = 5 ∨ slot.1 = 6 ∨ slot.1 = 8 := by
  simp only [requested, List.mem_cons, List.not_mem_nil, or_false] at member
  obtain rfl | rfl | rfl | rfl | rfl | rfl := member <;> simp

/-- Accounts of a new purchase that pass the check are those that were asked for. -/
theorem replaced_names (slots : mirror.length = 18)
    (ok : validateDirectMirrorBuyAccounts sdk mint userAta tokenProgramId sourceWallet mirror curveState config = .ok ()) :
    Names (replaceUserPdas sdk mirror (mirror.getD 6 sourceWallet) config.pubkey userAta)
      (requested sdk mint userAta tokenProgramId config.pubkey) := by
  intro slot member
  have position := slot_requested member
  simp only [validateDirectMirrorBuyAccounts, slots] at ok
  rw [if_neg (by omega), if_neg (not_not.mpr rfl)] at ok
  generalize same : replaceUserPdas sdk mirror (mirror.getD 6 sourceWallet) config.pubkey userAta = replaced at *
  have length : replaced.length = 18 := by rw [← same, length_replaceUserPdas, slots]
  have here : replaced[slot.1]? = some (replaced.getD slot.1 0) := by
    rw [List.getD_eq_getElem?_getD, List.getElem?_eq_getElem (by omega)]
    rfl
  rw [here]
  cases curveState with
  | some curve =>
    obtain ⟨expected, built, ok⟩ := bind_ok ok
    have checked : slot.1 ∉ PUMPFUN_BUY_MIRROR_TRUSTED_SLOTS := by
      simp only [PUMPFUN_BUY_MIRROR_TRUSTED_SLOTS, List.mem_cons, List.not_mem_nil, or_false]
      omega
    split at ok
    · exact nomatch ok
    next mismatch => rw [eq_of_no_mismatch mismatch checked here (standard_names built slot member)]
  | none =>
    dsimp only at ok
    split at ok
    · exact nomatch ok
    next found => simpa using List.find?_eq_none.mp found slot (requested_subset member)

/-- The wallet and its token account are ours. -/
theorem replaceUserPdas_ours (wallet : 6 < mirror.length) :
    (replaceUserPdas sdk mirror sourceWallet ourWallet ourAta)[5]? = some ourAta ∧
      (replaceUserPdas sdk mirror sourceWallet ourWallet ourAta)[6]? = some ourWallet := by
  rw [getElem?_replaceUserPdas, getElem?_replaceUserPdas, List.getElem?_eq_getElem (by omega),
    List.getElem?_eq_getElem wallet]
  exact ⟨rfl, rfl⟩

/-- A purchase built from a new purchase takes over the positions that were checked. -/
theorem buy_slot (slots : mirror.length = 18) {i : ℕ} (position : i = 2 ∨ i = 3 ∨ i = 4 ∨ i = 5 ∨ i = 6 ∨ i = 8) :
    (buildBuyInstructionFromMirror sdk user userAta sourceWallet mirror tokenAmount limit).keys[i]? =
      (replaceUserPdas sdk mirror (mirror.getD 6 sourceWallet) user userAta)[i]? := by
  rw [keys_buildBuyInstructionFromMirror]
  have ours : (replaceUserPdas sdk mirror (mirror.getD 6 sourceWallet) user userAta)[5]? = some userAta ∧
      (replaceUserPdas sdk mirror (mirror.getD 6 sourceWallet) user userAta)[6]? = some user :=
    replaceUserPdas_ours (by omega)
  have length : (replaceUserPdas sdk mirror (mirror.getD 6 sourceWallet) user userAta).length = 18 := by
    rw [length_replaceUserPdas, slots]
  generalize replaceUserPdas sdk mirror (mirror.getD 6 sourceWallet) user userAta = replaced at *
  have present (i : ℕ) (inside : i < 18) : replaced[i]? = some (replaced.getD i 0) := by
    rw [List.getD_eq_getElem?_getD, List.getElem?_eq_getElem (by omega)]
    rfl
  dsimp only [CurveAccounts.mirrored]
  rw [if_pos length.ge]
  obtain rfl | rfl | rfl | rfl | rfl | rfl := position
  · exact (present 2 (by omega)).symm
  · exact (present 3 (by omega)).symm
  · exact (present 4 (by omega)).symm
  · exact ours.1.symm
  · exact ours.2.symm
  · exact (present 8 (by omega)).symm

/-- A purchase from a mirror that was let through is made with our accounts. From a new purchase it is one of the
token that was asked for; any other layout is passed on as it is. -/
theorem validated_buys
    (ok : validateDirectMirrorBuyAccounts sdk mint userAta tokenProgramId sourceWallet mirror curveState config = .ok ()) :
    let keys :=
      (buildBuyInstructionFromMirror sdk config.pubkey userAta sourceWallet mirror tokenAmount limit).keys
    16 ≤ mirror.length ∧ keys[5]? = some userAta ∧ keys[6]? = some config.pubkey ∧
      (mirror.length = 18 → Names keys (requested sdk mint userAta tokenProgramId config.pubkey)) ∧
      (mirror.length ≠ 18 → CurveAccounts.ofBuy keys =
        CurveAccounts.mirrored (replaceUserPdas sdk mirror (mirror.getD 6 sourceWallet) config.pubkey userAta)) := by
  intro keys
  refine ⟨?_, ?_, ?_, ?_, ?_⟩
  · by_contra few
    rw [validateDirectMirrorBuyAccounts, if_pos (by omega)] at ok
    exact nomatch ok
  · exact congrArg (·[5]?) keys_buildBuyInstructionFromMirror
  · exact congrArg (·[6]?) keys_buildBuyInstructionFromMirror
  · intro slots slot member
    rw [buy_slot slots (slot_requested member)]
    exact replaced_names slots ok slot member
  · intro _
    exact ofBuy_buildBuyInstructionFromMirror

def sampleCurve : BondingCurveState where
  virtualTokenReserves := 1000000000000000
  virtualSolReserves := 30000000000
  realTokenReserves := 700000000000000
  complete := false
  creator := some 5
  isMayhemMode := false
  isCashback := false

theorem validated_buys_sample :
    let keys := (buildBuyInstructionFromMirror sampleSdk (sampleConfig (F := ℚ)).pubkey
      (sampleSdk.associatedTokenAddress 1 9 TOKEN_PROGRAM) 7 sampleMirror 1000 500).keys
    Names keys (requested sampleSdk 9 (sampleSdk.associatedTokenAddress 1 9 TOKEN_PROGRAM) TOKEN_PROGRAM 1) := by
  have ok : validateDirectMirrorBuyAccounts sampleSdk 9 (sampleSdk.associatedTokenAddress 1 9 TOKEN_PROGRAM)
      TOKEN_PROGRAM 7 sampleMirror (some sampleCurve) (sampleConfig (F := ℚ)) = .ok () := by decide +kernel
  exact (validated_buys ok).2.2.2.1 (by decide)

/-- The accounts of a sale of another mint pass. -/
theorem sale_not_checked :
    let accounts := (sampleSale false).keys.set 2 10
    let ourAta := sampleSdk.associatedTokenAddress 1 9 TOKEN_PROGRAM
    validateDirectMirrorBuyAccounts sampleSdk 9 ourAta TOKEN_PROGRAM 7 accounts none (sampleConfig (F := ℚ)) = .ok () ∧
      (buildBuyInstructionFromMirror sampleSdk (sampleConfig (F := ℚ)).pubkey ourAta 7 accounts 1000 500).keys[2]? ≠
        some 9 := by
  decide +kernel

end CopyTrader.Processor.PumpfunProcessor
