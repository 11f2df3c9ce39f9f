import CopyTrader.Grpc.Venues
import CopyTrader.Lib.DashMap
import CopyTrader.Lib.Text

/-!
# Transactions of the stream

A transaction as it is received, with its status once it has been executed, read as a trade of a target
wallet. The raw bytes of the transaction and the log are left out.
-/

namespace CopyTrader.Grpc
open Lib Processor

structure Message where
  accountKeys : List (List UInt8)
  instructions : List CompiledInstruction
  deriving DecidableEq, Repr

structure TokenBalance where
  mint : String
  owner : String
  programId : String
  amount : Option String
  deriving DecidableEq, Repr

structure TransactionStatusMeta where
  failed : Bool
  fee : ℕ
  preBalances : List ℕ
  postBalances : List ℕ
  innerInstructions : List (List CompiledInstruction)
  preTokenBalances : List TokenBalance
  postTokenBalances : List TokenBalance
  loadedWritableAddresses : List (List UInt8)
  loadedReadonlyAddresses : List (List UInt8)
  deriving DecidableEq, Repr

namespace GrpcSubscriber

def metaFailed (status : Option TransactionStatusMeta) : Bool := status.any (·.failed)

def innerInstructions (status : Option TransactionStatusMeta) : List CompiledInstruction :=
  status.elim [] (·.innerInstructions.flatten)

/-- The keys that the instructions refer to by position: those of the message, then those looked up. -/
def accountKeys (message : Message) (status : Option TransactionStatusMeta) : List Pubkey :=
  message.accountKeys.filterMap Pubkey.ofBytes ++
    status.elim [] fun status =>
      (status.loadedWritableAddresses ++ status.loadedReadonlyAddresses).filterMap Pubkey.ofBytes

def signatureText (signature : List UInt8) : Signature :=
  if signature = [] then "unknown" else Base58.encode signature.length (ofLeBytes signature.reverse)

/-! ### Token and amount from the status -/

def balanceAmount (balance : TokenBalance) : ℕ :=
  ((balance.amount.bind fun amount => (Text.parseUnsigned 64 amount).toOption)).getD 0

/-- The balances of the wallet before and after, for every mint other than wrapped SOL. -/
def balanceCandidates (status : TransactionStatusMeta) (sourceWallet : Pubkey) : DashMap String (ℕ × ℕ) :=
  let relevant (balance : TokenBalance) : Bool :=
    balance.owner = sourceWallet.toText && balance.mint ≠ WSOL_MINT.toText
  let before := (status.preTokenBalances.filter relevant).foldl (fun candidates balance =>
    candidates.insert balance.mint (balanceAmount balance, ((candidates.get balance.mint).getD (0, 0)).2)) .empty
  (status.postTokenBalances.filter relevant).foldl (fun candidates balance =>
    candidates.insert balance.mint (((candidates.get balance.mint).getD (0, 0)).1, balanceAmount balance)) before

/-- What the iteration order of a hash map makes of its entries. -/
abbrev HashOrder := List (String × ℕ × ℕ) → List (String × ℕ × ℕ)

def deriveTokenMintFromMeta (hashOrder : HashOrder) (status : TransactionStatusMeta) (sourceWallet : Pubkey) (isBuy : Bool) :
    Option Pubkey :=
  let candidates := hashOrder (balanceCandidates status sourceWallet).entries
  (candidates.findSome? fun (mint, pre, post) =>
    if (if isBuy then pre < post else post < pre) then Pubkey.fromStr mint else none).or
  (candidates.findSome? fun (mint, _) => Pubkey.fromStr mint)

def deriveTokenProgramFromMeta (status : TransactionStatusMeta) (mint : Pubkey) : Option Pubkey :=
  ((status.postTokenBalances ++ status.preTokenBalances).find? fun balance =>
    balance.mint = mint.toText && balance.programId ≠ "").bind fun balance => Pubkey.fromStr balance.programId

def extractSystemTransferLamports (ix : CompiledInstruction) (allAccountKeys : List Pubkey) (sourceWallet : Pubkey) : ℕ :=
  match allAccountKeys[ix.programIdIndex]?, ix.accounts with
  | some program, sourceIndex :: _ =>
    if program ≠ SYSTEM_PROGRAM ∨ ix.data.length < 12 then 0
    else if allAccountKeys[sourceIndex.toNat]? ≠ some sourceWallet then 0
    else if ofLeBytes (ix.data.take 4) ≠ 2 then 0
    else u64At ix.data 4
  | _, _ => 0

def saturatingAdd (a b : ℕ) : ℕ := min (a + b) (2 ^ 64 - 1)

def deriveBuyLamportsFromMeta (status : TransactionStatusMeta) (message : Message) (allAccountKeys : List Pubkey)
    (sourceWallet : Pubkey) : Option ℕ :=
  let transferTotal := (message.instructions ++ status.innerInstructions.flatten).foldl (fun total ix =>
    saturatingAdd total (extractSystemTransferLamports ix allAccountKeys sourceWallet)) 0
  if 0 < transferTotal then some transferTotal
  else do
    let sourceIndex ← allAccountKeys.idxOf? sourceWallet
    let pre ← status.preBalances[sourceIndex]?
    let post ← status.postBalances[sourceIndex]?
    let delta := pre - post
    if delta = 0 then none else some (delta - status.fee)

def enrichTradeFromMeta (hashOrder : HashOrder) (message : Message) (status : Option TransactionStatusMeta)
    (allAccountKeys : List Pubkey) (trade : DetectedTrade) : DetectedTrade :=
  match status with
  | none => trade
  | some status =>
    let tokenMint := trade.tokenMint.or (deriveTokenMintFromMeta hashOrder status trade.sourceWallet trade.isBuy)
    { trade with
      tokenMint
      tokenProgram := trade.tokenProgram.or (tokenMint.bind (deriveTokenProgramFromMeta status))
      solAmountLamports :=
        if trade.isBuy ∧ trade.solAmountLamports = 0 then
          (deriveBuyLamportsFromMeta status message allAccountKeys trade.sourceWallet).getD trade.solAmountLamports
        else trade.solAmountLamports }

def finishTrade (hashOrder : HashOrder) (message : Message) (status : Option TransactionStatusMeta)
    (allAccountKeys : List Pubkey) (isPreExecution : Bool) (trade : DetectedTrade) : DetectedTrade :=
  enrichTradeFromMeta hashOrder message status allAccountKeys
    { trade with
      isPreExecution
      executionFailed := metaFailed status }

section
variable (sdk : Sdk) (targetWallets : List Pubkey)

/-! ### Purchases and sales through a wrapper -/

def systemAddresses : List Pubkey :=
  [Pubkey.ofText PUMPFUN_PROGRAM, WSOL_MINT, SYSTEM_PROGRAM, TOKEN_PROGRAM, TOKEN_2022_PROGRAM, ASSOCIATED_TOKEN_PROGRAM,
    Pubkey.ofText "SysvarRent111111111111111111111111111111111", SYSTEM_PROGRAM, COMPUTE_BUDGET_PROGRAM, PUMPFUN_GLOBAL,
    Pubkey.ofText "CebN5WGQ4jvEPvsVU4EoHEpgzq1VV7AbicfhtW4xC9i", PUMPFUN_EVENT_AUTHORITY]

def curveOf (mint : Pubkey) : Pubkey :=
  sdk.findProgramAddress [.text "bonding-curve", .key mint] (Pubkey.ofText PUMPFUN_PROGRAM)

/-- The accounts and the data of the first inner instruction of Pump.fun whose accounts are all there. -/
def innerPumpfun (accountKeys : List Pubkey) (status : Option TransactionStatusMeta) : Option (List Pubkey × List UInt8) :=
  (innerInstructions status).findSome? fun ix =>
    let accounts := ix.accounts.filterMap fun idx => accountKeys[idx.toNat]?
    if accountKeys[ix.programIdIndex]? = some (Pubkey.ofText PUMPFUN_PROGRAM) ∧
        accounts.length = ix.accounts.length ∧ accounts ≠ [] then
      some (accounts, ix.data)
    else none

def tryDetectCpiPumpfun (accountKeys : List Pubkey) (signature : Signature) (sourceWallet : Pubkey)
    (status : Option TransactionStatusMeta) (recvTime : Instant) : Option DetectedTrade := do
  let mint ← accountKeys.find? fun candidate =>
    !systemAddresses.contains candidate && !targetWallets.contains candidate && accountKeys.contains (curveOf sdk candidate)
  let (accounts, data) := (innerPumpfun accountKeys status).getD ([], [])
  return {
    signature
    sourceWallet
    tradeType := .pumpfun
    tradeOrigin := .wrapperCpi
    isBuy := accountKeys.contains (sdk.associatedTokenAddress sourceWallet WSOL_MINT TOKEN_PROGRAM)
    instructionData := data
    instructionAccounts := accounts
    detectedAt := recvTime
    solAmountLamports := 0
    isPreExecution := status.isNone
    executionFailed := metaFailed status
    tokenMint := some mint
    tokenProgram := some (detectPumpfunTokenProgram sdk accountKeys mint (curveOf sdk mint)) }

/-! ### The scans -/

def parseCompiled (allAccountKeys : List Pubkey) (signature : Signature) (sourceWallet : Pubkey) (recvTime : Instant)
    (scope : ParseScope) (ix : CompiledInstruction) : Option DetectedTrade := do
  let programId ← allAccountKeys[ix.programIdIndex]?
  tryParseInstruction sdk targetWallets programId ix.data ix.accounts allAccountKeys signature sourceWallet recvTime scope

def parseTransaction (hashOrder : HashOrder) (signature : List UInt8) (message : Option Message)
    (status : Option TransactionStatusMeta) (recvTime : Instant) : Except String (Option DetectedTrade) :=
  match message with
  | none => .error "Missing transaction message"
  | some message =>
    let signature := signatureText signature
    let accountKeys := accountKeys message status
    match accountKeys.find? targetWallets.contains with
    | none => .ok none
    | some sourceWallet =>
      let scan (scope : ParseScope) (instructions : List CompiledInstruction) : Option DetectedTrade :=
        instructions.findSome? (parseCompiled sdk targetWallets accountKeys signature sourceWallet recvTime scope)
      let finish := finishTrade hashOrder message status accountKeys
      .ok <|
        ((scan .internal message.instructions).map (finish status.isNone)).or <|
        (if accountKeys.contains (Pubkey.ofText PUMPFUN_PROGRAM) && status.isNone then
          tryDetectCpiPumpfun sdk targetWallets accountKeys signature sourceWallet status recvTime
        else none).or <|
        ((scan .internal (innerInstructions status)).map (finish false)).or <|
        ((scan .external message.instructions).map (finish status.isNone)).or <|
        (scan .external (innerInstructions status)).map (finish false)

end

end GrpcSubscriber

end CopyTrader.Grpc
