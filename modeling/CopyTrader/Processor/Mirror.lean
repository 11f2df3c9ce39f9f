import CopyTrader.Groups
import CopyTrader.Processor.Pumpfun
import CopyTrader.Solana

/-!
# Pump.fun instructions

Orders built from the accounts of another wallet's order, and the check such accounts pass first. The
position of an account depends on the number of accounts: 16 in a sale, 17 in an old purchase, 18 in a
new one.
-/

namespace CopyTrader.Processor
open Lib

def PUMPFUN_PROGRAM_ID : Pubkey := Pubkey.ofText "6EF8rrecthR5Dkzon8Nwu78hRvfCKubJ14M5uBEwF6P"
def PUMPFUN_GLOBAL : Pubkey := Pubkey.ofText "4wTV1YmiEkRvAtNtsSGPtUrqRYQMe5SKy2uB4Jjaxnjf"
def PUMPFUN_FEE_RECIPIENT : Pubkey := Pubkey.ofText "62qc2CNXwrYqQScmEdiZFFAnJR262PxWEuNQtxfafNgV"
def PUMPFUN_EVENT_AUTHORITY : Pubkey := Pubkey.ofText "Ce6TQqeHC9p8KetsN6JsjHK7UTZk7nasjjnr7XxXp9F1"
def PUMP_FEE_PROGRAM : Pubkey := Pubkey.ofText "pfeeUxB6jkeY1Hxd7CsFCAjcbHA9rWtchMGdZ6VojVZ"
def PUMP_FEE_CONFIG_PDA : Pubkey := Pubkey.ofText "8Wf5TiAheLUqBrKXeYg2JtAFFMWtKdG2BSFgqUcPVwTt"
def PUMP_BUYBACK_FEE_RECIPIENT : Pubkey := Pubkey.ofText "8RskugtjeMFSPoSQjQcBt3eafaJ1o29EP23E9vMx6et9"
/-- The first of `MAYHEM_FEE_RECIPIENTS`. -/
def MAYHEM_FEE_RECIPIENT : Pubkey := Pubkey.ofText "GesfTA3X2arioaHp8bbKdjG9vJtskViWACZoYvxp4twS"

def BUY_DISCRIMINATOR : List UInt8 := [102, 6, 61, 18, 1, 218, 235, 234]
def BUY_EXACT_SOL_IN_DISCRIMINATOR : List UInt8 := [56, 252, 116, 8, 158, 223, 205, 95]
def SELL_DISCRIMINATOR : List UInt8 := [51, 230, 133, 164, 1, 127, 131, 173]
def INIT_UVA_DISCRIMINATOR : List UInt8 := [94, 6, 202, 115, 255, 96, 232, 183]
def EXTEND_DISCRIMINATOR : List UInt8 := [234, 102, 194, 203, 150, 72, 62, 229]

def PUMPFUN_BUY_ACCOUNT_LABELS : List String :=
  ["global", "fee_recipient", "mint", "bonding_curve", "associated_bonding_curve", "user_ata", "user",
    "system_program", "token_program", "creator_vault", "event_authority", "program",
    "global_volume_accumulator", "user_volume_accumulator", "fee_config", "fee_program",
    "buyback_fee_recipient", "creator_authority"]

/-- The accounts that are taken from the mirror without a check. -/
def PUMPFUN_BUY_MIRROR_TRUSTED_SLOTS : List ℕ := [1, 9, 16, 17]

namespace PumpfunProcessor

variable (sdk : Sdk)

/-- An address derived from a word alone, or from a word and a key. -/
def pda (word : String) (keys : List Pubkey) : Pubkey :=
  sdk.findProgramAddress (.text word :: keys.map .key) PUMPFUN_PROGRAM_ID

def seedPatterns : List String :=
  ["user_volume_accumulator", "user-stats", "user", "fee", "volume", "user_fee", "user_account"]

/-- The mirror's addresses that belong to `sourceWallet`, replaced by ours. -/
def replaceUserPdas (mirrorAccounts : List Pubkey) (sourceWallet ourWallet ourAta : Pubkey) : List Pubkey :=
  let sourcePdas := seedPatterns.map fun seed => (pda sdk seed [sourceWallet], pda sdk seed [ourWallet])
  mirrorAccounts.mapIdx fun i acct =>
    if i = 5 then ourAta
    else if i = 6 then ourWallet
    else (sourcePdas.lookup acct).getD acct

def orderData (discriminator : List UInt8) (tokenAmount limit : ℕ) : List UInt8 :=
  discriminator ++ leBytes 8 tokenAmount ++ leBytes 8 limit

def buildBuyInstructionFromMirror (user userAta sourceWallet : Pubkey) (mirrorAccounts : List Pubkey)
    (tokenAmount maxSolCost : ℕ) : Instruction :=
  let effectiveSource := mirrorAccounts.getD 6 sourceWallet
  let replaced := replaceUserPdas sdk mirrorAccounts effectiveSource user userAta
  let (creatorVault, tokenProgramId, buyback, creatorAuthority) :=
    if 18 ≤ replaced.length then (replaced.getD 9 0, replaced.getD 8 0, replaced.getD 16 0, replaced.getD 17 0)
    else if replaced.length = 17 then (replaced.getD 9 0, replaced.getD 8 0, PUMP_BUYBACK_FEE_RECIPIENT, 0)
    else if replaced.length = 16 then
      (replaced.getD 8 0, replaced.getD 9 0, replaced.getD 14 0, replaced.getD 15 0)
    else (0, 0, PUMP_BUYBACK_FEE_RECIPIENT, 0)
  { programId := PUMPFUN_PROGRAM_ID
    accounts := [
      .newReadonly (replaced.getD 0 0) false,
      .new (replaced.getD 1 0) false,
      .newReadonly (replaced.getD 2 0) false,
      .new (replaced.getD 3 0) false,
      .new (replaced.getD 4 0) false,
      .new userAta false,
      .new user true,
      .newReadonly SYSTEM_PROGRAM false,
      .newReadonly tokenProgramId false,
      .new creatorVault false,
      .newReadonly PUMPFUN_EVENT_AUTHORITY false,
      .newReadonly PUMPFUN_PROGRAM_ID false,
      .new (pda sdk "global_volume_accumulator" []) false,
      .new (pda sdk "user_volume_accumulator" [user]) false,
      .newReadonly PUMP_FEE_CONFIG_PDA false,
      .newReadonly PUMP_FEE_PROGRAM false,
      .new buyback false,
      .new creatorAuthority false]
    data := orderData BUY_DISCRIMINATOR tokenAmount maxSolCost }

/-- The least SOL output and the creator are not used. -/
def buildSellInstructionFromMirror (user userAta : Pubkey) (mirrorAccounts : List Pubkey) (tokenAmount _minSolOutput : ℕ)
    (tokenProgramId _creator : Pubkey) (isCashback : Bool) : Instruction :=
  let mint := mirrorAccounts.getD 2 0
  let (creatorVault, bcV2, breakingFee) :=
    if 18 ≤ mirrorAccounts.length then (mirrorAccounts.getD 9 0, mirrorAccounts.getD 16 0, mirrorAccounts.getD 17 0)
    else if 16 ≤ mirrorAccounts.length then
      (mirrorAccounts.getD 8 0, mirrorAccounts.getD 14 0, mirrorAccounts.getD 15 0)
    else (0, pda sdk "bonding-curve-v2" [mint], PUMP_BUYBACK_FEE_RECIPIENT)
  { programId := PUMPFUN_PROGRAM_ID
    accounts := [
      .newReadonly (mirrorAccounts.getD 0 PUMPFUN_GLOBAL) false,
      .new (mirrorAccounts.getD 1 PUMPFUN_FEE_RECIPIENT) false,
      .newReadonly mint false,
      .new (mirrorAccounts.getD 3 0) false,
      .new (mirrorAccounts.getD 4 0) false,
      .new userAta false,
      .new user true,
      .newReadonly SYSTEM_PROGRAM false,
      .new creatorVault false,
      .newReadonly tokenProgramId false,
      .newReadonly PUMPFUN_EVENT_AUTHORITY false,
      .newReadonly PUMPFUN_PROGRAM_ID false,
      .newReadonly PUMP_FEE_CONFIG_PDA false,
      .newReadonly PUMP_FEE_PROGRAM false] ++
      (if isCashback then [.new (pda sdk "user_volume_accumulator" [user]) false] else []) ++
      [.newReadonly bcV2 false, .new breakingFee false]
    data := orderData SELL_DISCRIMINATOR tokenAmount 0 }

def selectFeeRecipient (curveState : BondingCurveState) : Pubkey :=
  if curveState.isMayhemMode then MAYHEM_FEE_RECIPIENT else PUMPFUN_FEE_RECIPIENT

/-- The 18 accounts of a purchase, as far as they can be derived. -/
def buildBuyAccountKeysStandard (user mint userAta tokenProgramId : Pubkey) (curveState : BondingCurveState) :
    Except String (List Pubkey) :=
  match curveState.creator with
  | none => .error "bonding curve missing creator"
  | some creator =>
    let bondingCurve := pda sdk "bonding-curve" [mint]
    .ok [
      PUMPFUN_GLOBAL,
      selectFeeRecipient curveState,
      mint,
      bondingCurve,
      sdk.associatedTokenAddress bondingCurve mint tokenProgramId,
      userAta,
      user,
      SYSTEM_PROGRAM,
      tokenProgramId,
      pda sdk "creator-vault" [creator],
      PUMPFUN_EVENT_AUTHORITY,
      PUMPFUN_PROGRAM_ID,
      pda sdk "global_volume_accumulator" [],
      pda sdk "user_volume_accumulator" [user],
      PUMP_FEE_CONFIG_PDA,
      PUMP_FEE_PROGRAM,
      PUMP_BUYBACK_FEE_RECIPIENT,
      0]

/-- The first place, outside those skipped, where the accounts differ. -/
def firstPubkeyMismatchSkipping (actual expected : List Pubkey) (skip : List ℕ) : Option (ℕ × Pubkey × Pubkey) :=
  (actual.zip expected).zipIdx.findSome? fun ((actualKey, expectedKey), index) =>
    if skip.contains index then none
    else if actualKey ≠ expectedKey then some (index, actualKey, expectedKey)
    else none

def mismatchText : ℕ × Pubkey × Pubkey → String
  | (index, actual, expected) =>
    PUMPFUN_BUY_ACCOUNT_LABELS.getD index "" ++ " mismatch at [" ++ toString index ++ "]: expected " ++
      expected.toText ++ ", got " ++ actual.toText

/-- What the accounts must be when the state of the curve is not known. -/
def partialExpectations (mint userAta tokenProgramId ourWallet : Pubkey) : List (ℕ × Pubkey) :=
  let bondingCurve := pda sdk "bonding-curve" [mint]
  [(0, PUMPFUN_GLOBAL),
    (2, mint),
    (3, bondingCurve),
    (4, sdk.associatedTokenAddress bondingCurve mint tokenProgramId),
    (5, userAta),
    (6, ourWallet),
    (7, SYSTEM_PROGRAM),
    (8, tokenProgramId),
    (10, PUMPFUN_EVENT_AUTHORITY),
    (11, PUMPFUN_PROGRAM_ID),
    (12, pda sdk "global_volume_accumulator" []),
    (13, pda sdk "user_volume_accumulator" [ourWallet]),
    (14, PUMP_FEE_CONFIG_PDA),
    (15, PUMP_FEE_PROGRAM),
    (16, PUMP_BUYBACK_FEE_RECIPIENT)]

def validateDirectMirrorBuyAccounts {F : Type} (mint userAta tokenProgramId sourceWallet : Pubkey)
    (mirrorAccounts : List Pubkey) (curveState : Option BondingCurveState) (config : AppConfig F) : Except String Unit :=
  if mirrorAccounts.length < 16 then
    .error ("mirror account count too small: got " ++ toString mirrorAccounts.length ++ " (need >=16)")
  else
    let effectiveSource := mirrorAccounts.getD 6 sourceWallet
    let replaced := replaceUserPdas sdk mirrorAccounts effectiveSource config.pubkey userAta
    -- only the layout of a new purchase is checked
    if mirrorAccounts.length ≠ 18 then .ok ()
    else
      match curveState with
      | some curveState => do
        let expected ← buildBuyAccountKeysStandard sdk config.pubkey mint userAta tokenProgramId curveState
        match firstPubkeyMismatchSkipping replaced expected PUMPFUN_BUY_MIRROR_TRUSTED_SLOTS with
        | some mismatch => .error (mismatchText mismatch)
        | none => .ok ()
      | none =>
        match (partialExpectations sdk mint userAta tokenProgramId config.pubkey).find? fun (index, expectedKey) =>
          replaced.getD index 0 ≠ expectedKey with
        | some (index, expectedKey) => .error (mismatchText (index, replaced.getD index 0, expectedKey))
        | none => .ok ()

end PumpfunProcessor

/-- The addresses derived for the wallets 1 and 7, the mint 9 and the creator 5. -/
def sampleAddresses : List (List Seed × Pubkey) :=
  [([.text "user_volume_accumulator", .key 1], 0x04b0230bbc16732de0da4a6e4b9df2e9f8c8af2caf653fdbb528126017402539),
    ([.text "user-stats", .key 1], 0x36ed91654ae1e2b6b82ffab55c62c53556a5342869b48456e0277f4b115d85df),
    ([.text "user", .key 1], 0x2181a6f5ddd355afe068372680dfd1fdf817bfc704078bab5ce6e1ecf9993692),
    ([.text "fee", .key 1], 0x833213246d822938f6b369001c8a49f8f4ce6c3e7773ebc99583e2c28adff136),
    ([.text "volume", .key 1], 0xde7f90de00692219867084ef3a951b4619d0dd7899fe09eff5df5a2e2268ee1c),
    ([.text "user_fee", .key 1], 0x1fd2a7d2107439c2223c7e60e803f9d99fb6fad97544e0f42734fbd00c7ad986),
    ([.text "user_account", .key 1], 0x48834702bf3f7c4659dee0d137714a3015b1ecc189ad1462b845644addf7d662),
    ([.text "user_volume_accumulator", .key 7], 0xc2cfc963f3f91d2c4338088870017b0039268cac167451f28828ea429079632f),
    ([.text "user-stats", .key 7], 0x5b80e4df35ac62c5ba7afa3d305e942595d1b2258eda3042805bac3dbfad0918),
    ([.text "user", .key 7], 0x128fb5f9981ce0281e8067b946b31541d1eb77ffe96a7251591f463a67f1029f),
    ([.text "fee", .key 7], 0x02663479e684f5b28e727739c21b2761a1d74c7b2a07e6540e53320a2c4b9d2b),
    ([.text "volume", .key 7], 0x96b9bd76f3c7ceab9064f5f081f1b3556c1321506b7e956b52a3c2871897342e),
    ([.text "user_fee", .key 7], 0xc448ce405fc2d780332358988c02be50a1d7f7e0cd9034329f78635d160da575),
    ([.text "user_account", .key 7], 0x2302a4f837303d049080b5c0bab0e973873a2c2990ed4d10a10e45d0cb20abf7),
    ([.text "global_volume_accumulator"], 0xfa0911a54863412d631f4e078703296c035f0d1333a0d9c8838d73b710fe6e2d),
    ([.text "bonding-curve", .key 9], 0x843481a4122ad59a1e484cf78eb7f98583d4ffff52525a611e949fe14212c9bd),
    ([.text "bonding-curve-v2", .key 9], 0x07cc9e90ddec7781eba18bc46354e2028093e35930ba54de1e4c1f64cd862550),
    ([.text "creator-vault", .key 5], 0x857bb2f2f55708ae993d38155233d0247045935078ae71d5388969049627b6fa)]

def sampleTokenAccounts : List (Pubkey × Pubkey) :=
  [(1, 0x97005e0cdc2f30ada932712f2b8d3415f6e8ab585d6c60410c0c46b689e71d34),
    (7, 0x78b6bc3bd0c7f5a8ca72f26fc576913192abe132a1a0664176770c409d1fddac),
    (0x843481a4122ad59a1e484cf78eb7f98583d4ffff52525a611e949fe14212c9bd,
      0x3a2b81423d7da68051273724af47f00d0d4c4d6b37be4de21df2cb1370137d94)]

/-- The addresses of those samples, with the token accounts of mint 9. A transaction is what it is compiled from. -/
def sampleSdk : Sdk where
  findProgramAddress seeds _ := (sampleAddresses.lookup seeds).getD 0
  associatedTokenAddress wallet _ _ := (sampleTokenAccounts.lookup wallet).getD 0
  VersionedTransaction := List Instruction × Keypair × BitVec 256
  compileAndSign instructions keypair recentBlockhash := .ok (instructions, keypair, recentBlockhash)

/-- The accounts of wallet 7 in a purchase of mint 9. -/
def sampleMirror : List Pubkey :=
  [PUMPFUN_GLOBAL, PUMPFUN_FEE_RECIPIENT, 9, 0x843481a4122ad59a1e484cf78eb7f98583d4ffff52525a611e949fe14212c9bd,
    0x3a2b81423d7da68051273724af47f00d0d4c4d6b37be4de21df2cb1370137d94,
    0x78b6bc3bd0c7f5a8ca72f26fc576913192abe132a1a0664176770c409d1fddac, 7, SYSTEM_PROGRAM, TOKEN_PROGRAM,
    0x857bb2f2f55708ae993d38155233d0247045935078ae71d5388969049627b6fa, PUMPFUN_EVENT_AUTHORITY, PUMPFUN_PROGRAM_ID,
    0xfa0911a54863412d631f4e078703296c035f0d1333a0d9c8838d73b710fe6e2d,
    0xc2cfc963f3f91d2c4338088870017b0039268cac167451f28828ea429079632f, PUMP_FEE_CONFIG_PDA, PUMP_FEE_PROGRAM,
    0x07cc9e90ddec7781eba18bc46354e2028093e35930ba54de1e4c1f64cd862550, PUMP_BUYBACK_FEE_RECIPIENT]

end CopyTrader.Processor
