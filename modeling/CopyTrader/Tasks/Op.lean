import CopyTrader.AutoSell.Monitor
import CopyTrader.Consensus.Engine
import CopyTrader.Grpc.AccountSubscriber
import CopyTrader.Lib.Program
import CopyTrader.Main.Dedup
import CopyTrader.Processor.Prefetch
import CopyTrader.Telegram

/-!
# Operations of the tasks

What the tasks of the process ask of the shared stores, of the clock and of the network. Every
operation is one step: the stores guard their entries, and an answer from outside may be
anything unless a result says otherwise.
-/

namespace CopyTrader.Tasks
open Lib AutoSell Consensus Grpc Main Processor

/-- How a balance request ends. An amount that is no number is `ok none`. -/
inductive BalanceAnswer where
  | joinError
  | rpcError
  | ok (amount : Option U64)
  deriving DecidableEq, Repr

structure TransactionStatus where
  err : Option String
  deriving DecidableEq, Repr

inductive StatusAnswer where
  | joinError
  | rpcError
  | ok (status : Option TransactionStatus)
  deriving DecidableEq, Repr

structure TokenBalance where
  owner : Option Pubkey
  mint : Pubkey
  amount : Option U64
  deriving DecidableEq, Repr

/-- How a transaction request ends; `ok none` when the details lack the token balances. -/
inductive TransactionAnswer where
  | joinError
  | rpcError
  | ok (postTokenBalances : Option (List TokenBalance))
  deriving DecidableEq, Repr

structure ConfirmTask where
  positionKey : PositionKey
  groupName : String
  mint : Pubkey
  signature : Signature
  userPubkey : Pubkey
  entrySolAmount : ℕ
  userAta : Pubkey
  estimatedTokensRaw : ℕ
  preBuyAtaBalance : ℕ

structure BuyTask where
  group : CopyGroup
  mint : Pubkey
  wallets : List Pubkey
  tradeOrigin : TradeOrigin
  targetInstructionData : List UInt8

structure ExternalBuyTask where
  group : CopyGroup
  mint : Pubkey
  tokenProgram : Pubkey
  sourceWallet : Pubkey

inductive Op where
  -- clock
  | now
  | sleepUntil (deadline : Instant)
  /-- Of two requests under way, whether the second one answers first. -/
  | overtakes
  -- caches
  | ataCacheGet (mint : Pubkey)
  | ataCacheRemove (mint : Pubkey)
  | bcCacheGet (mint : Pubkey)
  | bcCacheRemove (mint : Pubkey)
  | prefetchGet (mint : Pubkey)
  | prefetchInsert (token : PrefetchedToken)
  | prefetchRemove (mint : Pubkey)
  -- tables of the account subscriber
  | subscriber (op : SubscriberOp)
  -- network
  | rpcTokenBalance (account : Pubkey)
  | rpcSignatureStatus (signature : Signature)
  | rpcTransaction (signature : Signature)
  | isBondingCurveMigrated (bondingCurve : Pubkey)
  | quoteJupiterSell (mint : Pubkey) (tokenAmount slippageBps : ℕ)
  | sendPumpfunSell (position : Position) (snapshot : SellAccountSnapshot) (tokenAmount : ℕ)
  | sendJupiterSell (mint : Pubkey) (tokenAmount slippageBps : ℕ)
  | quoteBuy (buy : BuyTask) (prefetched : Option PrefetchedToken) (curve : Option BondingCurveState)
  | buildBuyTransaction (buy : BuyTask)
  | sendBuy (groupId : String) (mint : Pubkey) (lamports : ℕ)
  | quoteExternalBuy (mint : Pubkey) (lamports slippageBps : ℕ)
  | decodeExternalBuy
  -- positions
  | getPosition (key : PositionKey)
  | positionKeys
  | positionKeysForMint (mint : Pubkey)
  | openPositionCountForMint (mint : Pubkey)
  | openPositionMints
  | addPosition (position : Position)
  | confirmSuccess (key : PositionKey) (actualTokenAmount : ℕ) (bcPriceSol : Option ℚ)
  | confirmFailed (key : PositionKey) (reason : String)
  | markSelling (key : PositionKey)
  | markClosed (key : PositionKey) (sellSignature : Signature)
  | restoreAfterSellAttempt (key : PositionKey) (previousState : PositionState)
  | suspendAutoSell (key : PositionKey) (previousState : PositionState) (maxAttempts : ℕ)
  | applyPartialSell (key : PositionKey) (soldAmount : ℕ)
  | recordZeroBalanceSellSkip (key : PositionKey)
  | updateEntryPrice (key : PositionKey) (realPrice : ℚ)
  | updateTokenInfo (key : PositionKey) (tokenName : String) (entryMcapSol : ℚ)
  | grpcExit (key : PositionKey) (state : BondingCurveState)
  | fallbackExit (key : PositionKey) (quote : Option ℕ)
  | fallbackConfirm (key : PositionKey) (balance : ℕ)
  | prunePositions
  -- groups, claims and votes
  | getGroup (groupId : String)
  | groupsForWallet (wallet : Pubkey)
  | isBlocked (mint : Pubkey)
  | isRunning
  | shouldSkipSignature (trade : DetectedTrade)
  | mirrorCacheInsert (mint : Pubkey) (accounts : List Pubkey)
  | mirrorCacheGet (mint : Pubkey)
  | tryStartGroupMint (key : GroupMintKey)
  | finishGroupMint (key : GroupMintKey) (submitted : Bool)
  | acquireBuyPermit (wrapper : Bool)
  | submitSignal (signal : BuySignal)
  | rejectSignal (groupId : String) (mint wallet : Pubkey) (signature : Signature)
  -- messages and tasks
  | sendSellSignal (signal : SellSignal)
  | tgSend (event : TgEvent)
  | spawnConfirm (task : ConfirmTask)
  | spawnTokenInfo (key : PositionKey) (entryMcapSol : ℚ)
  | spawnEntryPrice (key : PositionKey) (signature : Signature) (displayTokens : ℚ)
  /-- `cause` is the report that led to the buy, kept for the results only. -/
  | spawnBuy (buy : BuyTask) (cause : Option DetectedTrade)
  | spawnExternalBuy (buy : ExternalBuyTask) (cause : Option DetectedTrade)
  /-- The name the token metadata give; `none` when there is none. -/
  | fetchTokenName
  | actualSolSpent (signature : Signature)

abbrev Ans : Op → Type
  | .now => Instant
  | .overtakes | .isBlocked _ | .isRunning | .shouldSkipSignature _ => Bool
  | .ataCacheGet _ => Option U64
  | .bcCacheGet _ => Option BondingCurveState
  | .prefetchGet _ => Option PrefetchedToken
  | .rpcTokenBalance _ => BalanceAnswer
  | .rpcSignatureStatus _ => StatusAnswer
  | .rpcTransaction _ => TransactionAnswer
  | .isBondingCurveMigrated _ => Option Bool
  | .quoteJupiterSell .. => Option ℕ
  | .sendPumpfunSell .. | .sendJupiterSell .. | .sendBuy .. => Except String Signature
  | .quoteBuy .. | .quoteExternalBuy .. => Except String ℕ
  | .buildBuyTransaction _ => Except String Unit
  | .decodeExternalBuy => Bool
  | .getPosition _ => Option Position
  | .positionKeys | .positionKeysForMint _ => List PositionKey
  | .openPositionCountForMint _ => ℕ
  | .openPositionMints => List Pubkey
  | .subscriber op => op.Ans
  | .markSelling _ => Bool
  | .recordZeroBalanceSellSkip _ => Option ℕ
  | .grpcExit .. | .fallbackExit .. => Option SellSignal
  | .getGroup _ => Option CopyGroup
  | .groupsForWallet _ => List CopyGroup
  | .mirrorCacheGet _ => Option (List Pubkey)
  | .tryStartGroupMint _ | .acquireBuyPermit _ | .rejectSignal .. => Bool
  | .fetchTokenName => Option String
  | .actualSolSpent _ => Option ℚ
  | .sleepUntil _ | .ataCacheRemove _ | .bcCacheRemove _ | .prefetchInsert _ | .prefetchRemove _
  | .addPosition _ | .confirmSuccess .. | .confirmFailed .. | .markClosed ..
  | .restoreAfterSellAttempt .. | .suspendAutoSell .. | .applyPartialSell .. | .updateEntryPrice ..
  | .updateTokenInfo .. | .fallbackConfirm .. | .prunePositions | .mirrorCacheInsert ..
  | .finishGroupMint .. | .submitSignal _ | .sendSellSignal _ | .tgSend _ | .spawnConfirm _
  | .spawnTokenInfo .. | .spawnEntryPrice .. | .spawnBuy .. | .spawnExternalBuy .. => Unit

abbrev Prog (α : Type) := Program Op Ans α

abbrev perform (op : Op) : Prog (Ans op) := Program.call op

/-- A balance asked for directly: an error reads as zero. -/
def directBalance : BalanceAnswer → ℕ
  | .ok (some amount) => amount
  | _ => 0

/-- `tokio::time::sleep`: no earlier than the duration asked for. -/
def sleep (d : Duration) : Prog Unit := do
  let started ← perform .now
  perform (.sleepUntil (started + d))

def elapsed (start : Instant) : Prog Duration := do
  let t ← perform .now
  return t.durationSince start

def forEach {α : Type} (f : α → Prog Unit) : List α → Prog Unit
  | [] => return ()
  | a :: rest => do
    f a
    forEach f rest

theorem sleep_uses {p : Op → Prop} (reads : p .now) (waits : ∀ deadline, p (.sleepUntil deadline))
    {d : Duration} : Program.Uses p (sleep d) :=
  Program.uses_bind (Program.uses_call.mpr reads) fun _ => Program.uses_call.mpr (waits _)

theorem elapsed_uses {p : Op → Prop} (reads : p .now) {start : Instant} : Program.Uses p (elapsed start) :=
  Program.uses_bind (Program.uses_call.mpr reads) fun _ => trivial

theorem forEach_uses {α : Type} {p : Op → Prop} {f : α → Prog Unit} {xs : List α}
    (each : ∀ x, Program.Uses p (f x)) : Program.Uses p (forEach f xs) := by
  induction xs with
  | nil => trivial
  | cons x rest ih => exact Program.uses_bind (each x) fun _ => ih

theorem forEach_uses_mem {α : Type} {p : Op → Prop} {f : α → Prog Unit} {xs : List α}
    (each : ∀ x ∈ xs, Program.Uses p (f x)) : Program.Uses p (forEach f xs) := by
  induction xs with
  | nil => trivial
  | cons x rest ih =>
    refine Program.uses_bind (each x List.mem_cons_self) fun _ => ?_
    exact ih fun y member => each y (List.mem_cons_of_mem _ member)

/-- What the process runs with: its settings and the address derivations of the token programs. -/
structure Setup where
  config : AppConfig
  associatedTokenAddress : (owner mint tokenProgram : Pubkey) → Pubkey
  bondingCurveAddress : (mint : Pubkey) → Pubkey

/-- `get_associated_token_address`, under the standard token program. -/
def Setup.defaultAta (setup : Setup) (mint : Pubkey) : Pubkey :=
  setup.associatedTokenAddress setup.config.pubkey mint TOKEN_PROGRAM

/-- `Position::user_ata`. -/
def Setup.positionAta (setup : Setup) (p : Position) : Pubkey :=
  setup.associatedTokenAddress setup.config.pubkey p.tokenMint (p.tokenProgram.getD TOKEN_PROGRAM)

def Setup.snapshotAta (setup : Setup) (p : Position) : Pubkey :=
  match p.sellSnapshot with
  | some snapshot => snapshot.userAta
  | none => setup.defaultAta p.tokenMint

end CopyTrader.Tasks
