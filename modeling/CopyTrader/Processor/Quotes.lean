import CopyTrader.Processor.Mirror

/-!
# Quotes of the curve

The instructions of a purchase or a sale, from the state of a curve or from the target's own order.
Arithmetic on lamports wraps as in the release build. Accounts read from the network are inputs.
-/

namespace CopyTrader

/-- The product is one of `f64` numbers in the source, and exact here. -/
def AppConfig.buyLamports (config : AppConfig) : ℕ := toU64 (config.buySolAmount * 1000000000)

namespace Processor
open Lib

def BONDING_CURVE_NEW_SIZE : ℕ := 151

def maxPumpRawSupply : ℕ := 1000000000 * 1000000

structure MirrorInstruction where
  swapInstructions : List Instruction
  preInstructions : List Instruction
  postInstructions : List Instruction
  tokenMint : Pubkey
  solAmount : ℕ
  deriving DecidableEq, Repr

/-- A share of an amount in hundredths of a percent. -/
def bpsOf (amount bps : ℕ) : ℕ := amount * bps % 2 ^ 64 / 10000

/-- The most that may be paid for an amount. -/
def maxSolCost (solAmount slippageBps : ℕ) : ℕ := (solAmount + bpsOf solAmount slippageBps) % 2 ^ 64

namespace BondingCurveState

def fromAccountData (data : List UInt8) : Except String BondingCurveState :=
  if data.length < 49 then .error ("Bonding curve data too short: " ++ toString data.length ++ " bytes")
  else .ok {
    virtualTokenReserves := ofLeBytes ((data.drop 8).take 8)
    virtualSolReserves := ofLeBytes ((data.drop 16).take 8)
    realTokenReserves := ofLeBytes ((data.drop 24).take 8)
    complete := data.getD 48 0 ≠ 0
    creator :=
      if 81 ≤ data.length then Pubkey.ofBytes ((data.drop 49).take 32) else none
    isMayhemMode := data.getD 81 0 ≠ 0
    isCashback := data.getD 82 0 ≠ 0 }

end BondingCurveState

inductive TargetBuyInstruction where
  | buy (tokenAmount maxSolCost : ℕ)
  | buyExactSolIn (solAmount : ℕ)
  deriving DecidableEq, Repr

namespace PumpfunProcessor

variable (sdk : Sdk)

def buildBuyInstructionStandard (user mint userAta tokenProgramId : Pubkey) (curveState : BondingCurveState)
    (tokenAmount maxSolCost : ℕ) : Except String Instruction := do
  let accountKeys ← buildBuyAccountKeysStandard sdk user mint userAta tokenProgramId curveState
  return {
    programId := PUMPFUN_PROGRAM_ID
    accounts := [
      .newReadonly (accountKeys.getD 0 0) false,
      .new (accountKeys.getD 1 0) false,
      .newReadonly (accountKeys.getD 2 0) false,
      .new (accountKeys.getD 3 0) false,
      .new (accountKeys.getD 4 0) false,
      .new (accountKeys.getD 5 0) false,
      .new (accountKeys.getD 6 0) true,
      .newReadonly (accountKeys.getD 7 0) false,
      .newReadonly (accountKeys.getD 8 0) false,
      .new (accountKeys.getD 9 0) false,
      .newReadonly (accountKeys.getD 10 0) false,
      .newReadonly PUMPFUN_PROGRAM_ID false,
      .newReadonly (accountKeys.getD 12 0) false,
      .new (accountKeys.getD 13 0) false,
      .newReadonly (accountKeys.getD 14 0) false,
      .newReadonly (accountKeys.getD 15 0) false,
      .newReadonly (accountKeys.getD 16 0) false]
    data := orderData BUY_DISCRIMINATOR tokenAmount maxSolCost }

def validateBuyAmount (tokenAmount : ℕ) (curveState : Option BondingCurveState) : Except String Unit :=
  if tokenAmount = 0 then .error "buy quote returned zero tokens"
  else if maxPumpRawSupply < tokenAmount then
    .error ("buy quote abnormal: token amount " ++ toString tokenAmount ++ " exceeds max supply " ++
      toString maxPumpRawSupply)
  else
    match curveState with
    | some curve =>
      if 0 < curve.realTokenReserves ∧ curve.realTokenReserves < tokenAmount then
        .error ("buy quote abnormal: token amount " ++ toString tokenAmount ++ " exceeds real reserves " ++
          toString curve.realTokenReserves)
      else .ok ()
    | none => .ok ()

/-- A purchase with the creation of our token account before it. -/
def purchase (mint tokenProgramId : Pubkey) (config : AppConfig) (buyIx : Instruction) : MirrorInstruction where
  swapInstructions := [buyIx]
  preInstructions := [sdk.createAssociatedTokenAccountIdempotent config.pubkey config.pubkey mint tokenProgramId]
  postInstructions := []
  tokenMint := mint
  solAmount := config.buyLamports

def buyStandardFromCachedState (mint userAta tokenProgramId : Pubkey) (curveState : BondingCurveState)
    (config : AppConfig) : Except String MirrorInstruction :=
  if curveState.complete then .error "bonding curve 宸插畬鎴愶紙宸茶縼绉诲鐩橈級"
  else do
    let solAmount := config.buyLamports
    let tokenAmount := curveState.solToTokenQuote solAmount
    validateBuyAmount tokenAmount (some curveState)
    let buyIx ← buildBuyInstructionStandard sdk config.pubkey mint userAta tokenProgramId curveState tokenAmount
      (maxSolCost solAmount config.slippageBps)
    return purchase sdk mint tokenProgramId config buyIx

def parseTargetBuyInstruction (targetInstructionData : List UInt8) : Except String TargetBuyInstruction :=
  if targetInstructionData.length < 24 then
    .error ("target instruction data too short: " ++ toString targetInstructionData.length ++ " bytes")
  else
    let disc := targetInstructionData.take 8
    let first := ofLeBytes ((targetInstructionData.drop 8).take 8)
    let second := ofLeBytes ((targetInstructionData.drop 16).take 8)
    if disc = BUY_DISCRIMINATOR then
      if first = 0 ∨ second = 0 then
        .error ("invalid target buy data: tokens=" ++ toString first ++ ", sol=" ++ toString second)
      else .ok (.buy first second)
    else if disc = BUY_EXACT_SOL_IN_DISCRIMINATOR then
      if first = 0 then .error "invalid target buy_exact_sol_in data: sol=0"
      else .ok (.buyExactSolIn first)
    else .error ("unsupported target buy discriminator: " ++ toString (disc.map (·.toNat)))

def targetInstructionRequiresCurve (targetInstructionData : List UInt8) : Bool :=
  match parseTargetBuyInstruction targetInstructionData with
  | .ok (.buyExactSolIn _) => true
  | _ => false

def buyFromCachedState (mint userAta tokenProgramId sourceWallet : Pubkey) (mirrorAccounts : List Pubkey)
    (curveState : BondingCurveState) (config : AppConfig) : Except String MirrorInstruction :=
  if curveState.complete then .error "bonding curve 已完成（已迁移外盘）"
  else
    let solAmount := config.buyLamports
    let tokenAmount := curveState.solToTokenQuote solAmount
    .ok (purchase sdk mint tokenProgramId config
      (buildBuyInstructionFromMirror sdk config.pubkey userAta sourceWallet mirrorAccounts tokenAmount
        (maxSolCost solAmount config.slippageBps)))

/-- Tokens at the price of the target's order, on a curve that is taken to hold 30 SOL. -/
def quoteFromTarget (targetTokenAmount targetMaxSol ourSolAmount : ℕ) : ℕ :=
  let estimatedVSol := 30000000000
  let estimatedVToken := estimatedVSol * targetTokenAmount / targetMaxSol
  max (estimatedVToken * ourSolAmount % 2 ^ 128 / (estimatedVSol + ourSolAmount)) 1 % 2 ^ 64

def buyFromTargetInstruction (mint userAta tokenProgramId sourceWallet : Pubkey) (mirrorAccounts : List Pubkey)
    (targetInstructionData : List UInt8) (config : AppConfig) : Except String (MirrorInstruction × ℕ) := do
  match ← parseTargetBuyInstruction targetInstructionData with
  | .buyExactSolIn solAmount =>
    .error ("buy_exact_sol_in target fallback unsupported without bonding curve cache: sol=" ++ toString solAmount)
  | .buy targetTokenAmount targetMaxSol =>
    let ourSolAmount := config.buyLamports
    let ourTokenAmount := quoteFromTarget targetTokenAmount targetMaxSol ourSolAmount
    validateBuyAmount ourTokenAmount none
    return (purchase sdk mint tokenProgramId config
      (buildBuyInstructionFromMirror sdk config.pubkey userAta sourceWallet mirrorAccounts ourTokenAmount
        (maxSolCost ourSolAmount config.slippageBps)), ourTokenAmount)

/-- What `sell_standard` reads from the network: the curve's account, the owner of the mint and whether our
volume account exists. -/
structure SaleReads where
  curveData : Except String (List UInt8)
  mintOwner : Except String Pubkey
  uvaExists : Bool

def extendInstruction (bondingCurve user eventAuthority : Pubkey) : Instruction where
  programId := PUMPFUN_PROGRAM_ID
  accounts := [
    .new bondingCurve false,
    .new user true,
    .newReadonly SYSTEM_PROGRAM false,
    .newReadonly eventAuthority false,
    .newReadonly PUMPFUN_PROGRAM_ID false]
  data := EXTEND_DISCRIMINATOR

def initUvaInstruction (user userVolAcc eventAuthority : Pubkey) : Instruction where
  programId := PUMPFUN_PROGRAM_ID
  accounts := [
    .new user true,
    .newReadonly user false,
    .new userVolAcc false,
    .newReadonly SYSTEM_PROGRAM false,
    .newReadonly eventAuthority false,
    .newReadonly PUMPFUN_PROGRAM_ID false]
  data := INIT_UVA_DISCRIMINATOR

def sellStandard (mint : Pubkey) (tokenAmount : ℕ) (config : AppConfig) (buyMirrorAccounts : Option (List Pubkey))
    (reads : SaleReads) : Except String MirrorInstruction := do
  let bondingCurve := pda sdk "bonding-curve" [mint]
  let bcData ← reads.curveData
  let curveState ← BondingCurveState.fromAccountData bcData
  if curveState.complete then throw "bonding curve 已完成（已迁移）"
  let some creator := curveState.creator | throw "bonding curve 无 creator 字段（数据太短）"
  let mintOwner ← reads.mintOwner
  let tokenProgramId := if mintOwner = TOKEN_2022_PROGRAM then TOKEN_2022_PROGRAM else TOKEN_PROGRAM
  let expectedSol := curveState.tokenToSolQuote tokenAmount
  let minSolOutput := (expectedSol + 2 ^ 64 - bpsOf expectedSol config.slippageBps) % 2 ^ 64
  let userAta := sdk.associatedTokenAddress config.pubkey mint tokenProgramId
  let assocBc := sdk.associatedTokenAddress bondingCurve mint tokenProgramId
  let mirror := buyMirrorAccounts.filter fun accounts => 16 ≤ accounts.length
  let creatorVault := (mirror.map (·.getD 9 0)).getD (pda sdk "creator-vault" [creator])
  let eventAuthority := (mirror.map (·.getD 10 0)).getD (pda sdk "__event_authority" [])
  let bondingCurveV2 := (mirror.bind (·[16]?)).getD (pda sdk "bonding-curve-v2" [mint])
  let userVolAcc := pda sdk "user_volume_accumulator" [config.pubkey]
  return {
    swapInstructions := [{
      programId := PUMPFUN_PROGRAM_ID
      accounts := [
        .newReadonly PUMPFUN_GLOBAL false,
        .new PUMPFUN_FEE_RECIPIENT false,
        .newReadonly mint false,
        .new bondingCurve false,
        .new assocBc false,
        .new userAta false,
        .new config.pubkey true,
        .newReadonly SYSTEM_PROGRAM false,
        .new creatorVault false,
        .newReadonly tokenProgramId false,
        .newReadonly eventAuthority false,
        .newReadonly PUMPFUN_PROGRAM_ID false,
        .newReadonly PUMP_FEE_CONFIG_PDA false,
        .newReadonly PUMP_FEE_PROGRAM false] ++
        (if curveState.isCashback then [.new userVolAcc false] else []) ++
        [.newReadonly bondingCurveV2 false]
      data := orderData SELL_DISCRIMINATOR tokenAmount minSolOutput }]
    preInstructions :=
      (if bcData.length < BONDING_CURVE_NEW_SIZE then [extendInstruction bondingCurve config.pubkey eventAuthority]
        else []) ++
      (if curveState.isCashback ∧ !reads.uvaExists then
        [initUvaInstruction config.pubkey userVolAcc eventAuthority] else [])
    postInstructions := []
    tokenMint := mint
    solAmount := expectedSol }

end PumpfunProcessor

end Processor

end CopyTrader
