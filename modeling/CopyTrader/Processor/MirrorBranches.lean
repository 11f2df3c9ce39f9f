import CopyTrader.Processor.MirrorCheck

/-!
# Two checks of a mirror

What a mirror must name is written down twice, for a curve that is known and for one that is not.
-/

namespace CopyTrader.Processor.PumpfunProcessor
open Lib

variable {F : Type} {sdk : Sdk} {config : AppConfig F} {curve : BondingCurveState} {mirror : List Pubkey}
  {mint user userAta sourceWallet tokenProgramId : Pubkey}

theorem no_mismatch_iff {actual expected : List Pubkey} {skip : List ℕ} (same : actual.length = expected.length) :
    firstPubkeyMismatchSkipping actual expected skip = none ↔ ∀ i, i ∉ skip → actual[i]? = expected[i]? := by
  constructor
  · intro none i checked
    by_cases inside : i < actual.length
    · have here : actual[i]? = some actual[i] := List.getElem?_eq_getElem inside
      have within : i < expected.length := same ▸ inside
      have there : expected[i]? = some expected[i] := List.getElem?_eq_getElem within
      rw [here, there, eq_of_no_mismatch none checked here there]
    · rw [List.getElem?_eq_none (by omega), List.getElem?_eq_none (by omega)]
  · intro equal
    rw [firstPubkeyMismatchSkipping, List.findSome?_eq_none_iff]
    rintro ⟨⟨key, key'⟩, i⟩ pair
    rw [List.mem_zipIdx_iff_getElem?, List.getElem?_zip_eq_some] at pair
    dsimp only
    split_ifs with skipped different
    · rfl
    · refine absurd ?_ different
      have checked : i ∉ skip := by simpa using skipped
      exact Option.some.inj (pair.1.symm.trans ((equal i checked).trans pair.2))
    · rfl

/-- The accounts of a purchase, as far as both checks ask for them. -/
def commonExpectations (sdk : Sdk) (mint userAta tokenProgramId ourWallet : Pubkey) : List (ℕ × Pubkey) :=
  (partialExpectations sdk mint userAta tokenProgramId ourWallet).take 14

theorem partialExpectations_eq : partialExpectations sdk mint userAta tokenProgramId user =
    commonExpectations sdk mint userAta tokenProgramId user ++ [(16, PUMP_BUYBACK_FEE_RECIPIENT)] := rfl

/-- The table agrees with the list of accounts. -/
theorem standard_common {keys : List Pubkey}
    (built : buildBuyAccountKeysStandard sdk user mint userAta tokenProgramId curve = .ok keys) :
    keys.length = 18 ∧ ∀ slot ∈ commonExpectations sdk mint userAta tokenProgramId user, keys[slot.1]? = some slot.2 := by
  unfold buildBuyAccountKeysStandard at built
  cases creator : curve.creator with
  | none =>
    rw [creator] at built
    exact nomatch built
  | some creator' =>
    rw [creator] at built
    cases built
    refine ⟨rfl, fun slot member => ?_⟩
    simp only [commonExpectations, partialExpectations, List.take_succ_cons, List.take_zero, List.mem_cons,
      List.not_mem_nil, or_false] at member
    obtain rfl | rfl | rfl | rfl | rfl | rfl | rfl | rfl | rfl | rfl | rfl | rfl | rfl | rfl := member
    all_goals rfl

/-- The table has the positions that are not trusted. -/
theorem common_positions : (commonExpectations sdk mint userAta tokenProgramId user).map Prod.fst =
    (List.range 18).filter (· ∉ PUMPFUN_BUY_MIRROR_TRUSTED_SLOTS) := rfl

theorem mem_common_positions {i : ℕ} (inside : i < 18) (checked : i ∉ PUMPFUN_BUY_MIRROR_TRUSTED_SLOTS) :
    ∃ slot ∈ commonExpectations sdk mint userAta tokenProgramId user, slot.1 = i := by
  have position : i ∈ (commonExpectations sdk mint userAta tokenProgramId user).map Prod.fst := by
    rw [common_positions, List.mem_filter]
    exact ⟨List.mem_range.mpr inside, decide_eq_true checked⟩
  exact List.mem_map.mp position

theorem checked_of_common {slot : ℕ × Pubkey} (member : slot ∈ commonExpectations sdk mint userAta tokenProgramId user) :
    slot.1 < 18 ∧ slot.1 ∉ PUMPFUN_BUY_MIRROR_TRUSTED_SLOTS := by
  have position : slot.1 ∈ (commonExpectations sdk mint userAta tokenProgramId user).map Prod.fst :=
    List.mem_map_of_mem member
  rw [common_positions, List.mem_filter, List.mem_range] at position
  exact ⟨position.1, of_decide_eq_true position.2⟩

theorem common_iff {keys actual : List Pubkey}
    (built : buildBuyAccountKeysStandard sdk user mint userAta tokenProgramId curve = .ok keys)
    (slots : actual.length = 18) :
    (∀ i, i ∉ PUMPFUN_BUY_MIRROR_TRUSTED_SLOTS → actual[i]? = keys[i]?) ↔
      ∀ slot ∈ commonExpectations sdk mint userAta tokenProgramId user, actual.getD slot.1 0 = slot.2 := by
  obtain ⟨length, named⟩ := standard_common built
  have present (i : ℕ) (inside : i < 18) : actual[i]? = some (actual.getD i 0) := by
    rw [List.getD_eq_getElem?_getD, List.getElem?_eq_getElem (by omega)]
    rfl
  constructor
  · intro equal slot member
    obtain ⟨inside, checked⟩ := checked_of_common member
    exact Option.some.inj ((present slot.1 inside).symm.trans ((equal slot.1 checked).trans (named slot member)))
  · intro matching i checked
    by_cases inside : i < 18
    · obtain ⟨slot, member, rfl⟩ :
          ∃ slot ∈ commonExpectations sdk mint userAta tokenProgramId user, slot.1 = i :=
        mem_common_positions inside checked
      rw [present slot.1 inside, named slot member, matching slot member]
    · rw [List.getElem?_eq_none (by omega), List.getElem?_eq_none (by omega)]

/-- With a known curve the trusted positions are left out. -/
theorem validate_some_iff (slots : mirror.length = 18) (creator : curve.creator.isSome = true) :
    validateDirectMirrorBuyAccounts sdk mint userAta tokenProgramId sourceWallet mirror (some curve) config = .ok () ↔
      ∀ slot ∈ commonExpectations sdk mint userAta tokenProgramId config.pubkey,
        (replaceUserPdas sdk mirror (mirror.getD 6 sourceWallet) config.pubkey userAta).getD slot.1 0 = slot.2 := by
  obtain ⟨keys, built⟩ : ∃ keys,
      buildBuyAccountKeysStandard sdk config.pubkey mint userAta tokenProgramId curve = .ok keys := by
    obtain ⟨creator', known⟩ := Option.isSome_iff_exists.mp creator
    unfold buildBuyAccountKeysStandard
    rw [known]
    exact ⟨_, rfl⟩
  have length : (replaceUserPdas sdk mirror (mirror.getD 6 sourceWallet) config.pubkey userAta).length = 18 := by
    rw [length_replaceUserPdas, slots]
  rw [← common_iff built length, ← no_mismatch_iff (length.trans (standard_common built).1.symm)]
  simp only [validateDirectMirrorBuyAccounts, slots]
  rw [if_neg (by omega), if_neg (not_not.mpr rfl), built]
  dsimp only [bind, Except.bind]
  split
  next mismatch found =>
    refine iff_of_false (by intro failed; cases failed) ?_
    rw [found]
    exact Option.some_ne_none _
  next found => exact iff_of_true rfl found

/-- Without one, position 16 is checked as well. -/
theorem validate_none_iff (slots : mirror.length = 18) :
    validateDirectMirrorBuyAccounts sdk mint userAta tokenProgramId sourceWallet mirror none config = .ok () ↔
      (∀ slot ∈ commonExpectations sdk mint userAta tokenProgramId config.pubkey,
        (replaceUserPdas sdk mirror (mirror.getD 6 sourceWallet) config.pubkey userAta).getD slot.1 0 = slot.2) ∧
      (replaceUserPdas sdk mirror (mirror.getD 6 sourceWallet) config.pubkey userAta).getD 16 0 =
        PUMP_BUYBACK_FEE_RECIPIENT := by
  simp only [validateDirectMirrorBuyAccounts, slots]
  rw [if_neg (by omega), if_neg (not_not.mpr rfl)]
  generalize replaceUserPdas sdk mirror (mirror.getD 6 sourceWallet) config.pubkey userAta = replaced
  have both : (∀ slot ∈ partialExpectations sdk mint userAta tokenProgramId config.pubkey,
        replaced.getD slot.1 0 = slot.2) ↔
      (∀ slot ∈ commonExpectations sdk mint userAta tokenProgramId config.pubkey, replaced.getD slot.1 0 = slot.2) ∧
        replaced.getD 16 0 = PUMP_BUYBACK_FEE_RECIPIENT := by
    rw [partialExpectations_eq, List.forall_mem_append, List.forall_mem_singleton]
  rw [← both]
  split
  next index expectedKey found =>
    refine iff_of_false (by intro failed; cases failed) fun matching => ?_
    have different := List.find?_some found
    exact absurd (matching _ (List.mem_of_find?_eq_some found)) (by simpa using different)
  next found => exact iff_of_true rfl (by simpa using List.find?_eq_none.mp found)

/-- The two checks accept the same mirrors exactly where position 16 names the constant, or something else is wrong. -/
theorem branches_agree_iff (sdk : Sdk) (mint userAta tokenProgramId sourceWallet : Pubkey) (config : AppConfig F)
    (slots : mirror.length = 18) (creator : curve.creator.isSome = true) :
    (validateDirectMirrorBuyAccounts sdk mint userAta tokenProgramId sourceWallet mirror (some curve) config = .ok () ↔
        validateDirectMirrorBuyAccounts sdk mint userAta tokenProgramId sourceWallet mirror none config = .ok ()) ↔
      (replaceUserPdas sdk mirror (mirror.getD 6 sourceWallet) config.pubkey userAta).getD 16 0 =
          PUMP_BUYBACK_FEE_RECIPIENT ∨
        ∃ slot ∈ commonExpectations sdk mint userAta tokenProgramId config.pubkey,
          (replaceUserPdas sdk mirror (mirror.getD 6 sourceWallet) config.pubkey userAta).getD slot.1 0 ≠ slot.2 := by
  rw [validate_some_iff slots creator, validate_none_iff slots]
  constructor
  · intro agree
    by_cases matching : ∀ slot ∈ commonExpectations sdk mint userAta tokenProgramId config.pubkey,
        (replaceUserPdas sdk mirror (mirror.getD 6 sourceWallet) config.pubkey userAta).getD slot.1 0 = slot.2
    · exact .inl (agree.mp matching).2
    · obtain ⟨slot, differs⟩ := not_forall.mp matching
      exact .inr ⟨slot, Classical.not_imp.mp differs⟩
  · rintro (constant | ⟨slot, member, different⟩)
    · exact ⟨fun matching => ⟨matching, constant⟩, fun both => both.1⟩
    · exact ⟨fun matching => absurd (matching slot member) different, fun both => absurd (both.1 slot member) different⟩

/-- A mirror whose position 16 names another recipient. -/
theorem branches_differ :
    validateDirectMirrorBuyAccounts sampleSdk 9 (sampleSdk.associatedTokenAddress 1 9 TOKEN_PROGRAM) TOKEN_PROGRAM 7
        sampleMirror (some sampleCurve) (sampleConfig (F := ℚ)) = .ok () ∧
      validateDirectMirrorBuyAccounts sampleSdk 9 (sampleSdk.associatedTokenAddress 1 9 TOKEN_PROGRAM) TOKEN_PROGRAM 7
        sampleMirror none (sampleConfig (F := ℚ)) ≠ .ok () := by
  decide +kernel

theorem branches_agree_sample :
    validateDirectMirrorBuyAccounts sampleSdk 9 (sampleSdk.associatedTokenAddress 1 9 TOKEN_PROGRAM) TOKEN_PROGRAM 7
        (sampleMirror.set 16 PUMP_BUYBACK_FEE_RECIPIENT) none (sampleConfig (F := ℚ)) = .ok () := by
  have slots : (sampleMirror.set 16 PUMP_BUYBACK_FEE_RECIPIENT).length = 18 := rfl
  have creator : sampleCurve.creator.isSome = true := rfl
  have agree := (branches_agree_iff sampleSdk 9 (sampleSdk.associatedTokenAddress 1 9 TOKEN_PROGRAM) TOKEN_PROGRAM 7
    (sampleConfig (F := ℚ)) slots creator).mpr (.inl (by decide +kernel))
  exact agree.mp (by decide +kernel)

end CopyTrader.Processor.PumpfunProcessor
