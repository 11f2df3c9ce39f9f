import CopyTrader.Processor.Mirror

/-!
# Instructions of the venues

One instruction of a transaction, read as a trade on one of the known venues: its direction, its amount
and its token.
-/

namespace CopyTrader.Grpc
open Lib Processor

def PUMPFUN_PROGRAM : String := "6EF8rrecthR5Dkzon8Nwu78hRvfCKubJ14M5uBEwF6P"
def PUMPSWAP_PROGRAM : String := "PSwapMdSai8tjrEXcxFeQth87xC4rRsa4VA5mhGhXkP"
def PUMP_AMM_PROGRAM : String := "pAMMBay6oceH9fJKBRHGP5D4bD4sWpmSwMn52FMfXEA"
def RAYDIUM_AMM_V4 : String := "675kPX9MHTjS2zt1qfr1NYHuzeLXfQM9H24wFSUt1Mp8"
def RAYDIUM_CPMM : String := "CPMMoo8L3F4NbTegBCKVNunggL7H1ZpdTHKxQB5qKP1C"
def RAYDIUM_CLMM : String := "CAMMCzo5YL8w4VFF8KVHrK22GGUsp5VTaW7grrKgrWqK"
def METEORA_DLMM : String := "LBUZKhRxPF3XUpBCjp4YzTKgLccjZhTSDM9YuVaPwxo"

def PUMPFUN_BUY_DISC : List UInt8 := [102, 6, 61, 18, 1, 218, 235, 234]
def PUMPFUN_BUY_EXACT_SOL_IN_DISC : List UInt8 := [56, 252, 116, 8, 158, 223, 205, 95]
def PUMPFUN_SELL_DISC : List UInt8 := [51, 230, 133, 164, 1, 127, 131, 173]
def PUMPSWAP_SWAP_DISC : List UInt8 := [248, 198, 158, 145, 225, 117, 135, 200]
def CPMM_SWAP_BASE_INPUT : List UInt8 := [143, 190, 90, 218, 196, 30, 51, 222]
def CPMM_SWAP_BASE_OUTPUT : List UInt8 := [55, 217, 98, 86, 163, 74, 180, 173]
def RAYDIUM_CLMM_SWAP_V2 : List UInt8 := [43, 4, 237, 11, 26, 201, 30, 98]
def METEORA_DLMM_SWAP : List UInt8 := [248, 198, 158, 145, 225, 117, 135, 200]
def METEORA_DLMM_SWAP2 : List UInt8 := [65, 75, 63, 76, 235, 91, 91, 136]
def METEORA_DLMM_SWAP_EXACT_OUT : List UInt8 := [250, 73, 101, 33, 38, 207, 75, 184]
def METEORA_DLMM_SWAP_EXACT_OUT2 : List UInt8 := [43, 215, 247, 132, 137, 60, 243, 81]
def METEORA_DLMM_SWAP_WITH_PRICE_IMPACT : List UInt8 := [56, 173, 230, 208, 173, 228, 156, 205]
def METEORA_DLMM_SWAP_WITH_PRICE_IMPACT2 : List UInt8 := [74, 98, 192, 214, 177, 51, 75, 51]

inductive ParseScope where
  | internal | external
  deriving DecidableEq, Repr

/-- An instruction of a message; its accounts are positions in the keys of the transaction. -/
structure CompiledInstruction where
  programIdIndex : ℕ
  accounts : List UInt8
  data : List UInt8
  deriving DecidableEq, Repr

namespace GrpcSubscriber

def tradeTypeForProgram (programId : Pubkey) (scope : ParseScope) : Option TradeType :=
  let programStr := programId.toText
  match scope with
  | .internal => if programStr = PUMPFUN_PROGRAM then some .pumpfun else none
  | .external =>
    if programStr = PUMPSWAP_PROGRAM ∨ programStr = PUMP_AMM_PROGRAM then some .pumpSwap
    else if programStr = RAYDIUM_AMM_V4 then some .raydiumAmm
    else if programStr = RAYDIUM_CPMM then some .raydiumCpmm
    else if programStr = RAYDIUM_CLMM then some .raydiumClmm
    else if programStr = METEORA_DLMM then some .meteoraDlmm
    else none

def isMeteoraDlmmSwapDiscriminator (disc : List UInt8) : Bool :=
  disc = METEORA_DLMM_SWAP || disc = METEORA_DLMM_SWAP2 || disc = METEORA_DLMM_SWAP_EXACT_OUT ||
    disc = METEORA_DLMM_SWAP_EXACT_OUT2 || disc = METEORA_DLMM_SWAP_WITH_PRICE_IMPACT ||
    disc = METEORA_DLMM_SWAP_WITH_PRICE_IMPACT2

def isSupportedExternalSwapInstruction (tradeType : TradeType) (data : List UInt8) : Bool :=
  if data.length < 8 then !(tradeType = .raydiumClmm || tradeType = .meteoraDlmm)
  else
    let disc := data.take 8
    match tradeType with
    | .raydiumClmm => disc = RAYDIUM_CLMM_SWAP_V2
    | .meteoraDlmm => isMeteoraDlmmSwapDiscriminator disc
    | _ => true

/-- The number in eight bytes of the data. -/
def u64At (data : List UInt8) (start : ℕ) : ℕ := ofLeBytes ((data.drop start).take 8)

section
variable (sdk : Sdk) (targetWallets : List Pubkey)

/-- Whether the account at a position is the wrapped SOL account of a target wallet. -/
def isSolInput (accountIndices : List UInt8) (allAccountKeys : List Pubkey) (sourcePosition : ℕ) : Bool :=
  match accountIndices[sourcePosition]? with
  | none => true
  | some sourceIdx =>
    match allAccountKeys[sourceIdx.toNat]? with
    | none => true
    | some sourceAccount =>
      targetWallets.any fun wallet => sourceAccount = sdk.associatedTokenAddress wallet WSOL_MINT TOKEN_PROGRAM

/-- Whether an instruction buys. What is too short or unknown counts as a purchase. -/
def detectBuyOrSell (data : List UInt8) (tradeType : TradeType) (accountIndices : List UInt8)
    (allAccountKeys : List Pubkey) : Bool :=
  if data.length < 8 then true
  else
    let disc := data.take 8
    match tradeType with
    | .pumpfun =>
      if disc = PUMPFUN_BUY_DISC ∨ disc = PUMPFUN_BUY_EXACT_SOL_IN_DISC then true
      else if disc = PUMPFUN_SELL_DISC then false
      else true
    | .pumpSwap =>
      if disc = PUMPFUN_BUY_DISC ∨ disc = PUMPFUN_BUY_EXACT_SOL_IN_DISC then true
      else if disc = PUMPFUN_SELL_DISC then false
      else if 24 ≤ data.length then
        let baseIn := u64At data 8
        let quoteIn := u64At data 16
        if 0 < quoteIn ∧ baseIn = 0 then true
        else if 0 < baseIn ∧ quoteIn = 0 then false
        else true
      else true
    | .raydiumAmm =>
      let ixIndex := data.getD 0 0
      if ixIndex = 9 ∨ ixIndex = 11 then isSolInput sdk targetWallets accountIndices allAccountKeys 15 else true
    | .raydiumCpmm =>
      if disc = CPMM_SWAP_BASE_INPUT ∨ disc = CPMM_SWAP_BASE_OUTPUT then
        isSolInput sdk targetWallets accountIndices allAccountKeys 4
      else true
    | .raydiumClmm =>
      if disc = RAYDIUM_CLMM_SWAP_V2 then isSolInput sdk targetWallets accountIndices allAccountKeys 3 else true
    | .meteoraDlmm =>
      if isMeteoraDlmmSwapDiscriminator disc then isSolInput sdk targetWallets accountIndices allAccountKeys 4 else true

end

def extractBuyLamports (tradeType : TradeType) (data : List UInt8) : ℕ :=
  if data.length < 24 then 0
  else
    let disc := data.take 8
    match tradeType with
    | .pumpfun =>
      if disc = PUMPFUN_BUY_DISC then u64At data 16
      else if disc = PUMPFUN_BUY_EXACT_SOL_IN_DISC then u64At data 8
      else 0
    | .pumpSwap => if disc = PUMPFUN_SELL_DISC then 0 else u64At data 16
    | .raydiumClmm | .meteoraDlmm => u64At data 8
    | _ => 0

def nonWsolMint (left right : Pubkey) : Pubkey :=
  if left = WSOL_MINT then right
  else if right = WSOL_MINT then left
  else right

/-- The account in a slot, when it is there and resolved. -/
def slot (slots : List (Option Pubkey)) (i : ℕ) : Option Pubkey := slots[i]?.join

def extractPumpAmmTokenMint (slots : List (Option Pubkey)) : Option Pubkey := do
  let baseMint ← slot slots 3
  let quoteMint ← slot slots 4
  if baseMint = WSOL_MINT then some quoteMint
  else if quoteMint = WSOL_MINT then some baseMint
  else none

/-- The one of two mints that is not wrapped SOL. -/
def tokenOfPair (slots : List (Option Pubkey)) (left right : ℕ) : Option Pubkey := do
  let leftMint ← slot slots left
  let rightMint ← slot slots right
  return nonWsolMint leftMint rightMint

def extractTokenMint (tradeType : TradeType) (slots : List (Option Pubkey)) : Option Pubkey :=
  match tradeType with
  | .pumpfun => slot slots 2
  | .pumpSwap => (extractPumpAmmTokenMint slots).or (tokenOfPair slots 6 7)
  | .raydiumAmm => none
  | .raydiumCpmm => tokenOfPair slots 10 11
  | .raydiumClmm => tokenOfPair slots 11 12
  | .meteoraDlmm => tokenOfPair slots 6 7

section
variable (sdk : Sdk)

def inferTokenProgramFromUserAta (wallet mint userTokenAccount : Pubkey) : Option Pubkey :=
  if userTokenAccount = sdk.associatedTokenAddress wallet mint TOKEN_PROGRAM then some TOKEN_PROGRAM
  else if userTokenAccount = sdk.associatedTokenAddress wallet mint TOKEN_2022_PROGRAM then some TOKEN_2022_PROGRAM
  else none

def detectPumpfunTokenProgram (accountKeys : List Pubkey) (mint bondingCurve : Pubkey) : Pubkey :=
  if accountKeys.contains (sdk.associatedTokenAddress bondingCurve mint TOKEN_PROGRAM) then TOKEN_PROGRAM
  else if accountKeys.contains (sdk.associatedTokenAddress bondingCurve mint TOKEN_2022_PROGRAM) then TOKEN_2022_PROGRAM
  else if accountKeys.contains TOKEN_2022_PROGRAM && !accountKeys.contains TOKEN_PROGRAM then TOKEN_2022_PROGRAM
  else TOKEN_PROGRAM

def extractTokenProgram (tradeType : TradeType) (slots : List (Option Pubkey)) (allAccountKeys : List Pubkey)
    (tokenMint : Option Pubkey) (sourceWallet : Pubkey) : Option Pubkey :=
  match tradeType with
  | .pumpfun =>
    (slot slots 8).or do
      let mint ← tokenMint
      let bondingCurve ← slot slots 3
      return detectPumpfunTokenProgram sdk allAccountKeys mint bondingCurve
  | .pumpSwap =>
    if (extractPumpAmmTokenMint slots).isSome then
      if slot slots 3 = some WSOL_MINT then slot slots 12
      else if slot slots 4 = some WSOL_MINT then slot slots 11
      else slot slots 8
    else slot slots 8
  | .raydiumAmm => slot slots 0
  | .raydiumCpmm => (slot slots 9).or (slot slots 8)
  | .raydiumClmm => do
    let mint ← tokenMint
    let inputMint ← slot slots 11
    let outputMint ← slot slots 12
    let userTokenAccount ←
      if inputMint = WSOL_MINT then slot slots 4
      else if outputMint = WSOL_MINT then slot slots 3
      else none
    inferTokenProgramFromUserAta sdk sourceWallet mint userTokenAccount
  | .meteoraDlmm => do
    let mint ← tokenMint
    if slot slots 6 = some mint then slot slots 11
    else if slot slots 7 = some mint then slot slots 12
    else none

variable (targetWallets : List Pubkey)

/-- The accounts of an instruction; none at all when one of them is missing. -/
def instructionAccounts (slots : List (Option Pubkey)) : List Pubkey :=
  if slots.all (·.isSome) then slots.filterMap id else []

def tryParseInstruction (programId : Pubkey) (data : List UInt8) (accountIndices : List UInt8)
    (allAccountKeys : List Pubkey) (signature : Signature) (sourceWallet : Pubkey) (recvTime : Instant)
    (scope : ParseScope) : Option DetectedTrade := do
  let tradeType ← tradeTypeForProgram programId scope
  if !isSupportedExternalSwapInstruction tradeType data then none
  else
    let isBuy := detectBuyOrSell sdk targetWallets data tradeType accountIndices allAccountKeys
    let slots := accountIndices.map fun idx => allAccountKeys[idx.toNat]?
    let tokenMint := extractTokenMint tradeType slots
    return {
      signature
      sourceWallet
      tradeType
      tradeOrigin := .direct
      isBuy
      instructionData := data
      instructionAccounts := instructionAccounts slots
      detectedAt := recvTime
      solAmountLamports := if isBuy then extractBuyLamports tradeType data else 0
      isPreExecution := false
      executionFailed := false
      tokenMint
      tokenProgram := extractTokenProgram sdk tradeType slots allAccountKeys tokenMint sourceWallet }

end

/-! ## Swaps -/

/-- Whether data is a swap of a venue. -/
def isSwap (tradeType : TradeType) (data : List UInt8) : Bool :=
  8 ≤ data.length &&
    match tradeType with
    | .pumpfun => data.take 8 ∈ [PUMPFUN_BUY_DISC, PUMPFUN_BUY_EXACT_SOL_IN_DISC, PUMPFUN_SELL_DISC]
    | .pumpSwap =>
      data.take 8 ∈ [PUMPFUN_BUY_DISC, PUMPFUN_BUY_EXACT_SOL_IN_DISC, PUMPFUN_SELL_DISC, PUMPSWAP_SWAP_DISC]
    | .raydiumAmm => data.getD 0 0 = 9 ∨ data.getD 0 0 = 11
    | .raydiumCpmm => data.take 8 ∈ [CPMM_SWAP_BASE_INPUT, CPMM_SWAP_BASE_OUTPUT]
    | .raydiumClmm => data.take 8 = RAYDIUM_CLMM_SWAP_V2
    | .meteoraDlmm =>
      data.take 8 ∈ [METEORA_DLMM_SWAP, METEORA_DLMM_SWAP2, METEORA_DLMM_SWAP_EXACT_OUT, METEORA_DLMM_SWAP_EXACT_OUT2,
        METEORA_DLMM_SWAP_WITH_PRICE_IMPACT, METEORA_DLMM_SWAP_WITH_PRICE_IMPACT2]

section
variable {sdk : Sdk} {targetWallets allAccountKeys : List Pubkey} {programId sourceWallet : Pubkey}
  {data accountIndices : List UInt8} {signature : Signature} {recvTime : Instant} {scope : ParseScope}

/-- An instruction is a trade when its program is a venue whose check of the data it passes. -/
theorem tryParseInstruction_isSome :
    (tryParseInstruction sdk targetWallets programId data accountIndices allAccountKeys signature sourceWallet recvTime
      scope).isSome = (tradeTypeForProgram programId scope).any (isSupportedExternalSwapInstruction · data) := by
  unfold tryParseInstruction
  cases venue : tradeTypeForProgram programId scope with
  | none => rfl
  | some tradeType =>
    cases supported : isSupportedExternalSwapInstruction tradeType data <;> simp [supported]

/-- The trade keeps the venue and the data of its instruction, and is attributed as asked. -/
theorem tryParseInstruction_fields {trade : DetectedTrade}
    (parsed : tryParseInstruction sdk targetWallets programId data accountIndices allAccountKeys signature sourceWallet
      recvTime scope = some trade) :
    tradeTypeForProgram programId scope = some trade.tradeType ∧ trade.instructionData = data ∧
      trade.sourceWallet = sourceWallet ∧ trade.tradeOrigin = .direct ∧
      trade.instructionAccounts = instructionAccounts (accountIndices.map fun idx => allAccountKeys[idx.toNat]?) := by
  unfold tryParseInstruction at parsed
  cases venue : tradeTypeForProgram programId scope with
  | none =>
    rw [venue] at parsed
    exact nomatch parsed
  | some tradeType =>
    rw [venue] at parsed
    cases supported : isSupportedExternalSwapInstruction tradeType data with
    | false => simp [supported] at parsed
    | true =>
      simp only [supported, Option.bind_eq_bind, Option.bind_some, Bool.not_true, Bool.false_eq_true, if_false] at parsed
      cases parsed
      exact ⟨rfl, rfl, rfl, rfl, rfl⟩

theorem supported_of_isSwap {tradeType : TradeType} (swap : isSwap tradeType data = true) :
    isSupportedExternalSwapInstruction tradeType data = true := by
  unfold isSwap at swap
  rw [Bool.and_eq_true, decide_eq_true_eq] at swap
  unfold isSupportedExternalSwapInstruction
  rw [if_neg (by omega)]
  cases tradeType with
  | raydiumClmm => exact swap.2
  | meteoraDlmm =>
    simpa [isMeteoraDlmmSwapDiscriminator, or_assoc] using swap.2
  | _ => rfl

/-- No swap of a known venue is missed. -/
theorem swap_reported {venue : TradeType} (known : tradeTypeForProgram programId scope = some venue)
    (swap : isSwap venue data = true) :
    (tryParseInstruction sdk targetWallets programId data accountIndices allAccountKeys signature sourceWallet recvTime
      scope).isSome = true := by
  rw [tryParseInstruction_isSome, known]
  exact supported_of_isSwap swap

/-- The venues whose data is checked for a swap. -/
theorem isSwap_of_checked {tradeType : TradeType} (checked : tradeType = .raydiumClmm ∨ tradeType = .meteoraDlmm)
    (supported : isSupportedExternalSwapInstruction tradeType data = true) : isSwap tradeType data = true := by
  unfold isSupportedExternalSwapInstruction at supported
  split_ifs at supported with short
  · obtain rfl | rfl := checked <;> exact nomatch supported
  · unfold isSwap
    rw [Bool.and_eq_true, decide_eq_true_eq]
    refine ⟨by omega, ?_⟩
    obtain rfl | rfl := checked
    · exact supported
    · simpa [isMeteoraDlmmSwapDiscriminator, or_assoc] using supported

theorem supported_of_unchecked {tradeType : TradeType} (clmm : tradeType ≠ .raydiumClmm) (dlmm : tradeType ≠ .meteoraDlmm) :
    isSupportedExternalSwapInstruction tradeType data = true := by
  unfold isSupportedExternalSwapInstruction
  split_ifs
  · simp [clmm, dlmm]
  · cases tradeType with
    | raydiumClmm => exact absurd rfl clmm
    | meteoraDlmm => exact absurd rfl dlmm
    | _ => rfl

/-- Only swaps are trades, apart from the four venues whose data is not looked at. -/
theorem only_swaps_iff :
    (∀ trade, tryParseInstruction sdk targetWallets programId data accountIndices allAccountKeys signature sourceWallet
        recvTime scope = some trade → isSwap trade.tradeType trade.instructionData = true) ↔
      ∀ venue ∈ [TradeType.pumpfun, .pumpSwap, .raydiumAmm, .raydiumCpmm],
        tradeTypeForProgram programId scope = some venue → isSwap venue data = true := by
  constructor
  · intro swaps venue unchecked known
    have supported : isSupportedExternalSwapInstruction venue data = true := by
      apply supported_of_unchecked
      · rintro rfl
        simp at unchecked
      · rintro rfl
        simp at unchecked
    have trade : (tryParseInstruction sdk targetWallets programId data accountIndices allAccountKeys signature
        sourceWallet recvTime scope).isSome = true := by
      rw [tryParseInstruction_isSome, known]
      exact supported
    obtain ⟨trade, parsed⟩ := Option.isSome_iff_exists.mp trade
    obtain ⟨known', dataEq, -⟩ := tryParseInstruction_fields parsed
    obtain rfl : venue = trade.tradeType := Option.some.inj (known.symm.trans known')
    exact dataEq ▸ swaps trade parsed
  · intro unchecked trade parsed
    obtain ⟨known, dataEq, -⟩ := tryParseInstruction_fields parsed
    have supported : isSupportedExternalSwapInstruction trade.tradeType data = true := by
      have some := Option.isSome_of_eq_some parsed
      rwa [tryParseInstruction_isSome, known] at some
    rw [dataEq]
    by_cases checked : trade.tradeType = .raydiumClmm ∨ trade.tradeType = .meteoraDlmm
    · exact isSwap_of_checked checked supported
    · apply unchecked trade.tradeType _ known
      cases type : trade.tradeType <;> simp_all

end

/-- The creation of a token on Pump.fun, reported as a purchase. -/
theorem create_reported :
    (tryParseInstruction sampleSdk [7] PUMPFUN_PROGRAM_ID [24, 30, 200, 40, 5, 28, 7, 119] [0, 1] [7, 9] "s" 7 0
      .internal).any (fun trade => trade.isBuy && !isSwap trade.tradeType trade.instructionData) = true := by
  decide +kernel

end GrpcSubscriber

end CopyTrader.Grpc
