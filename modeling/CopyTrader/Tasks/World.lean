import CopyTrader.AutoSell.Tasks
import CopyTrader.Lib.Pool
import CopyTrader.Main.Intake
import CopyTrader.Tasks.Ledger
import CopyTrader.Tx.Confirm
import CopyTrader.Tx.SellExecutor

/-!
# The running process

The shared stores, how each operation acts on them, and the tasks. What comes from outside, an
answer of the network or a push into a cache, is the environment's choice.
-/

namespace CopyTrader.Tasks
open Lib AutoSell Consensus Grpc Main Processor Tx

structure World where
  clock : Instant
  ledger : Ledger
  autoSell : AutoSellManager
  ataCache : DashMap Pubkey U64
  bcCache : DashMap Pubkey BondingCurveState
  prefetch : DashMap Pubkey PrefetchedToken
  subscriber : AccountSubscriber
  mirrorCache : DashMap Pubkey (List Pubkey)
  mintDedup : GroupMintDedup
  sigCache : SignatureCache
  groups : GroupManager
  consensus : ConsensusEngine
  triggers : List ConsensusTrigger
  sellSignals : List SellSignal
  tgEvents : List TgEvent
  isRunning : Bool

/-- The stores of a process that has just started. -/
structure World.Starts (w : World) : Prop where
  positions : w.autoSell.positions = DashMap.empty
  mintDedup : w.mintDedup = DashMap.empty
  sigCache : w.sigCache = DashMap.empty
  consensus : w.consensus = ConsensusEngine.new

/-- What the environment adds to an operation. -/
inductive Choice where
  | nothing
  | balance (answer : BalanceAnswer)
  | status (answer : StatusAnswer)
  | transaction (answer : TransactionAnswer)
  | flag (b : Bool)
  | migrated (answer : Option Bool)
  | quoted (answer : Option ℕ)
  | sent (answer : Except String Signature)
  | estimate (answer : Except String ℕ)
  | built (answer : Except String Unit)
  | name (answer : Option String)
  | spent (answer : Option ℚ)

namespace World

variable (w : World)

def withAutoSell (m : AutoSellManager) : World := { w with autoSell := m }

/-- The answer to an operation and the world after it; `none` while it cannot be performed. -/
def respond : (op : Op) → Choice → Option (Ans op × World)
  | .now, _ => some (w.clock, w)
  | .sleepUntil deadline, _ => if deadline ≤ w.clock then some ((), w) else none
  | .overtakes, .flag b => some (b, w)
  | .ataCacheGet mint, _ => some (w.ataCache.get mint, w)
  | .ataCacheRemove mint, _ => some ((), { w with ataCache := w.ataCache.remove mint })
  | .bcCacheGet mint, _ => some (w.bcCache.get mint, w)
  | .bcCacheRemove mint, _ => some ((), { w with bcCache := w.bcCache.remove mint })
  | .prefetchGet mint, _ => some (w.prefetch.get mint, w)
  | .prefetchInsert token, _ => some ((), { w with prefetch := w.prefetch.insert token.mint token })
  | .prefetchRemove mint, _ => some ((), { w with prefetch := w.prefetch.remove mint })
  | .subscriber op, _ =>
    some ((w.subscriber.respond w.clock op).1, { w with subscriber := (w.subscriber.respond w.clock op).2 })
  | .rpcTokenBalance _, .balance answer => some (answer, w)
  | .rpcSignatureStatus _, .status answer => some (answer, w)
  | .rpcTransaction _, .transaction answer => some (answer, w)
  | .isBondingCurveMigrated _, .migrated answer => some (answer, w)
  | .quoteJupiterSell .., .quoted answer => some (answer, w)
  | .sendPumpfunSell .., .sent answer => some (answer, w)
  | .sendJupiterSell .., .sent answer => some (answer, w)
  | .sendBuy .., .sent answer => some (answer, w)
  | .quoteBuy .., .estimate answer => some (answer, w)
  | .quoteExternalBuy .., .estimate answer => some (answer, w)
  | .buildBuyTransaction _, .built answer => some (answer, w)
  | .decodeExternalBuy, .flag b => some (b, w)
  | .getPosition key, _ => some (w.autoSell.getPosition key, w)
  | .positionKeys, _ => some (w.autoSell.keys, w)
  | .positionKeysForMint mint, _ => some (w.autoSell.keysForMint mint, w)
  | .openPositionCountForMint mint, _ => some (w.autoSell.openPositionCountForMint mint, w)
  | .openPositionMints, _ => some (w.autoSell.openPositionMints, w)
  | .addPosition position, _ => some ((), w.withAutoSell (w.autoSell.addPosition position))
  | .confirmSuccess key amount price, _ =>
    some ((), w.withAutoSell (w.autoSell.confirmSuccess key amount price w.clock))
  | .confirmFailed key _, _ => some ((), w.withAutoSell (w.autoSell.confirmFailed key))
  | .markSelling key, _ =>
    some ((w.autoSell.markSelling key).2, w.withAutoSell (w.autoSell.markSelling key).1)
  | .markClosed key sig, _ => some ((), w.withAutoSell (w.autoSell.markClosed key sig))
  | .restoreAfterSellAttempt key state, _ =>
    some ((), w.withAutoSell (w.autoSell.restoreAfterSellAttempt key state))
  | .suspendAutoSell key state max, _ =>
    some ((), w.withAutoSell (w.autoSell.suspendAutoSell key state max))
  | .applyPartialSell key sold, _ =>
    some ((), w.withAutoSell (w.autoSell.applyPartialSell key sold w.clock))
  | .recordZeroBalanceSellSkip key, _ =>
    some ((w.autoSell.recordZeroBalanceSellSkip key).2,
      w.withAutoSell (w.autoSell.recordZeroBalanceSellSkip key).1)
  | .updateEntryPrice key price, _ => some ((), w.withAutoSell (w.autoSell.updateEntryPrice key price))
  | .updateTokenInfo key name mcap, _ =>
    some ((), w.withAutoSell (w.autoSell.updateTokenInfo key name mcap))
  | .grpcExit key state, _ =>
    some ((w.autoSell.grpcExit key state w.clock).2,
      w.withAutoSell (w.autoSell.grpcExit key state w.clock).1)
  | .fallbackExit key quote, _ =>
    some ((w.autoSell.fallbackExit key (w.bcCache.get key.tokenMint) quote w.clock).2,
      w.withAutoSell (w.autoSell.fallbackExit key (w.bcCache.get key.tokenMint) quote w.clock).1)
  | .fallbackConfirm key balance, _ =>
    -- on a gain the step asks for a lock of the map while it holds one: it is never answered
    if (w.autoSell.getPosition key).any fun p => p.preBuyAtaBalance < balance then none
    else some ((), w.withAutoSell
      (w.autoSell.fallbackConfirm key balance (w.bcCache.get key.tokenMint) w.clock))
  | .prunePositions, _ => some ((), w.withAutoSell (w.autoSell.prune w.clock))
  | .getGroup groupId, _ => some (w.groups.getGroup groupId, w)
  | .groupsForWallet wallet, _ => some (w.groups.groupsForWallet wallet, w)
  | .isBlocked mint, _ => some (w.groups.isBlocked mint, w)
  | .isRunning, _ => some (w.isRunning, w)
  | .shouldSkipSignature trade, _ =>
    some ((shouldSkipSignature w.sigCache trade w.clock).2,
      { w with sigCache := (shouldSkipSignature w.sigCache trade w.clock).1 })
  | .mirrorCacheInsert mint accounts, _ =>
    some ((), { w with mirrorCache := w.mirrorCache.insert mint accounts })
  | .mirrorCacheGet mint, _ => some (w.mirrorCache.get mint, w)
  | .tryStartGroupMint key, _ =>
    some ((tryStartGroupMint w.mintDedup key w.clock).2,
      { w with mintDedup := (tryStartGroupMint w.mintDedup key w.clock).1 })
  | .finishGroupMint key submitted, _ =>
    some ((), { w with mintDedup := finishGroupMint w.mintDedup key submitted w.clock })
  | .acquireBuyPermit _, .flag b => some (b, w)
  | .submitSignal signal, _ =>
    some ((),
      { w with
        consensus := (w.consensus.submitSignal w.clock signal w.clock).1
        triggers := w.triggers ++ (w.consensus.submitSignal w.clock signal w.clock).2.toList })
  | .rejectSignal groupId mint wallet signature, _ =>
    some ((w.consensus.rejectSignal groupId mint wallet signature).2,
      { w with consensus := (w.consensus.rejectSignal groupId mint wallet signature).1 })
  | .sendSellSignal signal, _ => some ((), { w with sellSignals := w.sellSignals ++ [signal] })
  | .tgSend event, _ => some ((), { w with tgEvents := w.tgEvents ++ [event] })
  | .spawnConfirm _, _ => some ((), w)
  | .spawnTokenInfo .., _ => some ((), w)
  | .spawnEntryPrice .., _ => some ((), w)
  | .spawnBuy .., _ => some ((), w)
  | .spawnExternalBuy .., _ => some ((), w)
  | .fetchTokenName, .name answer => some (answer, w)
  | .actualSolSpent _, .spent answer => some (answer, w)
  | _, _ => none

/-- What happens by itself: time passes, transactions land, pushes and cleanups run, groups are
edited. -/
inductive Disturbance where
  | tick (d : Duration)
  | land (l : Landing)
  | ataUpdate (mint : Pubkey) (amount : U64)
  | bcUpdate (mint : Pubkey) (state : BondingCurveState)
  | prefetchForget (mint : Pubkey)
  | cleanupClaims
  | cleanupSignatures
  | cleanupConsensus
  | editGroups (groups : GroupManager)
  | setRunning (b : Bool)

/-- A signature lands at most once. -/
def disturb : Disturbance → Option World
  | .tick d => some { w with clock := w.clock + d }
  | .land l =>
    if w.ledger.all (·.signature ≠ l.signature) then some { w with ledger := w.ledger ++ [l] } else none
  | .ataUpdate mint amount => some { w with ataCache := w.ataCache.insert mint amount }
  | .bcUpdate mint state => some { w with bcCache := w.bcCache.insert mint state }
  | .prefetchForget mint => some { w with prefetch := w.prefetch.remove mint }
  | .cleanupClaims =>
    some { w with mintDedup := w.mintDedup.retain fun _ claim => keepGroupMintClaim claim w.clock }
  | .cleanupSignatures =>
    some { w with sigCache := w.sigCache.retain fun _ seen => keepSignature seen w.clock }
  | .cleanupConsensus => some { w with consensus := w.consensus.cleanupPass w.clock }
  | .editGroups groups => some { w with groups }
  | .setRunning b => some { w with isRunning := b }

/-- The stores that the tasks write and results speak about. -/
inductive Store where
  | positions | claims | signatures | votes | accounts | messages
  deriving DecidableEq

def writes : Op → Option Store
  | .addPosition _ | .confirmSuccess .. | .confirmFailed .. | .markSelling _ | .markClosed ..
  | .restoreAfterSellAttempt .. | .suspendAutoSell .. | .applyPartialSell .. | .recordZeroBalanceSellSkip _
  | .updateEntryPrice .. | .updateTokenInfo .. | .grpcExit .. | .fallbackExit .. | .fallbackConfirm ..
  | .prunePositions => some .positions
  | .tryStartGroupMint _ | .finishGroupMint .. => some .claims
  | .shouldSkipSignature _ => some .signatures
  | .submitSignal _ | .rejectSignal .. => some .votes
  | .subscriber _ => some .accounts
  | .tgSend _ => some .messages
  | _ => none

/-- Everything but the written store, as far as results speak about it. -/
structure Frame (w w' : World) (written : Option Store) : Prop where
  clock : w'.clock = w.clock
  ledger : w'.ledger = w.ledger
  positions : written ≠ some .positions → w'.autoSell = w.autoSell
  claims : written ≠ some .claims → w'.mintDedup = w.mintDedup
  signatures : written ≠ some .signatures → w'.sigCache = w.sigCache
  votes : written ≠ some .votes → w'.consensus = w.consensus
  accounts : written ≠ some .accounts → w'.subscriber = w.subscriber
  messages : written ≠ some .messages → w'.tgEvents = w.tgEvents

theorem respond_frame {w w' : World} {op : Op} {choice : Choice} {answer : Ans op}
    (reply : w.respond op choice = some (answer, w')) : w.Frame w' (writes op) := by
  have same {written : Option Store} : w.Frame w written :=
    ⟨rfl, rfl, fun _ => rfl, fun _ => rfl, fun _ => rfl, fun _ => rfl, fun _ => rfl, fun _ => rfl⟩
  cases op
  case sleepUntil deadline =>
    dsimp only [respond] at reply
    split at reply <;> cases reply
    exact same
  case overtakes | rpcTokenBalance | rpcSignatureStatus | rpcTransaction | isBondingCurveMigrated |
      quoteJupiterSell | sendPumpfunSell | sendJupiterSell | quoteBuy | buildBuyTransaction | sendBuy |
      quoteExternalBuy | decodeExternalBuy | acquireBuyPermit | fetchTokenName | actualSolSpent =>
    cases choice <;> cases reply
    exact same
  case tryStartGroupMint | finishGroupMint =>
    cases reply
    exact ⟨rfl, rfl, fun _ => rfl, fun other => absurd rfl other, fun _ => rfl, fun _ => rfl, fun _ => rfl, fun _ => rfl⟩
  case shouldSkipSignature =>
    cases reply
    exact ⟨rfl, rfl, fun _ => rfl, fun _ => rfl, fun other => absurd rfl other, fun _ => rfl, fun _ => rfl, fun _ => rfl⟩
  case submitSignal | rejectSignal =>
    cases reply
    exact ⟨rfl, rfl, fun _ => rfl, fun _ => rfl, fun _ => rfl, fun other => absurd rfl other, fun _ => rfl, fun _ => rfl⟩
  case subscriber =>
    cases reply
    exact ⟨rfl, rfl, fun _ => rfl, fun _ => rfl, fun _ => rfl, fun _ => rfl, fun other => absurd rfl other, fun _ => rfl⟩
  case tgSend =>
    cases reply
    exact ⟨rfl, rfl, fun _ => rfl, fun _ => rfl, fun _ => rfl, fun _ => rfl, fun _ => rfl, fun other => absurd rfl other⟩
  case addPosition | confirmSuccess | confirmFailed | markSelling | markClosed | restoreAfterSellAttempt |
      suspendAutoSell | applyPartialSell | recordZeroBalanceSellSkip | updateEntryPrice | updateTokenInfo |
      grpcExit | fallbackExit | prunePositions =>
    cases reply
    exact ⟨rfl, rfl, fun other => absurd rfl other, fun _ => rfl, fun _ => rfl, fun _ => rfl, fun _ => rfl, fun _ => rfl⟩
  case fallbackConfirm =>
    dsimp only [respond] at reply
    split at reply <;> cases reply
    exact ⟨rfl, rfl, fun other => absurd rfl other, fun _ => rfl, fun _ => rfl, fun _ => rfl, fun _ => rfl, fun _ => rfl⟩
  all_goals
    cases reply
    exact ⟨rfl, rfl, fun _ => rfl, fun _ => rfl, fun _ => rfl, fun _ => rfl, fun _ => rfl, fun _ => rfl⟩

/-- The store that a disturbance cleans. -/
def cleans : Disturbance → Option Store
  | .cleanupClaims => some .claims
  | .cleanupSignatures => some .signatures
  | .cleanupConsensus => some .votes
  | _ => none

/-- What a disturbance leaves of the world, as far as results speak about it. -/
structure Drift (w w' : World) (cleaned : Option Store) : Prop where
  clock : w.clock ≤ w'.clock
  ledger : w.ledger <+: w'.ledger
  positions : w'.autoSell = w.autoSell
  claims : cleaned ≠ some .claims → w'.mintDedup = w.mintDedup
  signatures : cleaned ≠ some .signatures → w'.sigCache = w.sigCache
  votes : cleaned ≠ some .votes → w'.consensus = w.consensus
  accounts : w'.subscriber = w.subscriber
  messages : w'.tgEvents = w.tgEvents

theorem disturb_drift {w w' : World} {env : Disturbance} (change : w.disturb env = some w') :
    w.Drift w' (cleans env) := by
  cases env
  case tick d =>
    cases change
    exact ⟨Nat.le_add_right .., List.prefix_rfl, rfl, fun _ => rfl, fun _ => rfl, fun _ => rfl, rfl, rfl⟩
  case land l =>
    dsimp only [disturb] at change
    split at change <;> cases change
    exact ⟨Nat.le_refl _, List.prefix_append .., rfl, fun _ => rfl, fun _ => rfl, fun _ => rfl, rfl, rfl⟩
  case cleanupClaims =>
    cases change
    exact ⟨Nat.le_refl _, List.prefix_rfl, rfl, fun other => absurd rfl other, fun _ => rfl, fun _ => rfl, rfl, rfl⟩
  case cleanupSignatures =>
    cases change
    exact ⟨Nat.le_refl _, List.prefix_rfl, rfl, fun _ => rfl, fun other => absurd rfl other, fun _ => rfl, rfl, rfl⟩
  case cleanupConsensus =>
    cases change
    exact ⟨Nat.le_refl _, List.prefix_rfl, rfl, fun _ => rfl, fun _ => rfl, fun other => absurd rfl other, rfl, rfl⟩
  all_goals
    cases change
    exact ⟨Nat.le_refl _, List.prefix_rfl, rfl, fun _ => rfl, fun _ => rfl, fun _ => rfl, rfl, rfl⟩

end World

/-! ### Tasks -/

inductive Role where
  | trade (trade : DetectedTrade)
  | trigger (trigger : ConsensusTrigger)
  | buy (b : BuyTask) (cause : Option DetectedTrade)
  | externalBuy (b : ExternalBuyTask) (cause : Option DetectedTrade)
  | confirm (c : ConfirmTask)
  | tokenInfo (key : PositionKey) (entryMcapSol : ℚ)
  | entryPrice (key : PositionKey) (signature : Signature) (tokens : ℚ)
  | sell (signal : SellSignal)
  | partialSell (groupId : String) (mint : Pubkey) (percent : ℕ)
  | fallback
  | grpc (mint : Pubkey) (state : BondingCurveState)
  | cleanup

def Role.code (setup : Setup) : Role → Prog Unit
  | .trade t => handleTrade setup t
  | .trigger t => handleTrigger setup t
  | .buy b _ => buyExecution setup b
  | .externalBuy b _ => externalBuyExecution setup b
  | .confirm c => buyConfirm c
  | .tokenInfo key entryMcapSol => Tx.tokenInfo key entryMcapSol
  | .entryPrice key signature tokens => Tx.entryPrice key signature tokens
  | .sell signal => handleSellSignal setup signal
  | .partialSell groupId mint percent => handlePartialSell setup groupId mint percent
  | .fallback => fallbackPass setup
  | .grpc mint state => bondingCurveUpdate mint state
  | .cleanup => candidateCleanup

/-- The tasks that start from outside; the others are started by an operation. -/
def Role.opens : Role → Bool
  | .trade _ | .trigger _ | .sell _ | .fallback | .grpc .. | .cleanup => true
  | .partialSell _ _ percent => 1 ≤ percent && percent ≤ 100
  | .buy .. | .externalBuy .. | .confirm _ | .tokenInfo .. | .entryPrice .. => false

def Role.buysFor : Role → Option PositionKey
  | .buy b _ => some ⟨b.group.id, b.mint⟩
  | .externalBuy b _ => some ⟨b.group.id, b.mint⟩
  | _ => none

def forks : Op → Option Role
  | .spawnConfirm task => some (.confirm task)
  | .spawnTokenInfo key mcap => some (.tokenInfo key mcap)
  | .spawnEntryPrice key signature tokens => some (.entryPrice key signature tokens)
  | .spawnBuy b cause => some (.buy b cause)
  | .spawnExternalBuy b cause => some (.externalBuy b cause)
  | _ => none

def process (setup : Setup) : System World Op Ans Choice Role World.Disturbance where
  respond := World.respond
  code := Role.code setup
  forks := forks
  opens := Role.opens
  disturb := World.disturb

abbrev State := Pool World Op Ans Role
abbrev TaskState := Task World Op Ans Role
abbrev Step := Label Choice Role World.Disturbance
abbrev Moment := Event World Op Ans
abbrev History := List (State × Step)

def performed (s : State) : Step → Option Op
  | .run i _ =>
    match s.tasks[i]? with
    | some ⟨_, _, .perform op _⟩ => some op
    | _ => none
  | _ => none

theorem performed_cases {s : State} {i : ℕ} {choice : Choice} {op : Op}
    (performs : performed s (.run i choice) = some op) :
    ∃ t next, s.tasks[i]? = some t ∧ t.rest = .perform op next := by
  unfold performed at performs
  dsimp only at performs
  split at performs
  · rename_i role past op' next here
    obtain rfl := Option.some.inj performs
    exact ⟨_, next, here, rfl⟩
  · cases performs

def anyStep : State → Step → Prop := fun _ _ => True

instance (s : State) (step : Step) : Decidable (anyStep s step) := isTrue trivial

/-! ### A sample process: one group, one wallet to follow, one mint -/

def sampleSetup : Setup where
  config := sampleConfig
  associatedTokenAddress _ mint _ := mint + 100
  bondingCurveAddress mint := mint + 200

def sampleGroup : CopyGroup where
  id := "g1"
  name := "first"
  enabled := true
  wallets := [7]
  consensusMinWallets := 1
  consensusTimeoutSecs := 60
  buySolAmount := 1
  minTargetBuySol := 0
  takeProfitPercent := 50
  stopLossPercent := 30
  trailingStopPercent := 0
  slippageBps := 100
  sellSlippageBps := 100
  maxHoldSeconds := 0
  tipBuyLamports := 10000
  tipSellLamports := 10000
  zeroSlotTipLamports := 1000000
  entryMode := ENTRY_MODE_SMART_BUY
  sellMode := SELL_MODE_TP_SL
  externalMode := .off
  externalBuySolAmount := 0
  externalPumpswapEnabled := false
  externalRaydiumAmmEnabled := false
  externalRaydiumCpmmEnabled := false

def World.new (groups : GroupManager) : World where
  clock := 0
  ledger := []
  autoSell := AutoSellManager.new []
  ataCache := DashMap.empty
  bcCache := DashMap.empty
  prefetch := DashMap.empty
  subscriber := AccountSubscriber.new
  mirrorCache := DashMap.empty
  mintDedup := DashMap.empty
  sigCache := DashMap.empty
  groups := groups
  consensus := ConsensusEngine.new
  triggers := []
  sellSignals := []
  tgEvents := []
  isRunning := true

/-- The process starts with an empty channel to the bot. -/
def World.Launched (w : World) : Prop := w.Starts ∧ w.tgEvents = []

theorem World.new_starts (groups : GroupManager) : (World.new groups).Starts := ⟨rfl, rfl, rfl, rfl⟩

def sampleGroups : GroupManager where
  groups := DashMap.empty.insert "g1" sampleGroup
  keyed := by decide
  selectedGroupId := some "g1"
  blocklist := []
  zeroSlotBuyEnabled := false

def sampleTrade (signature : Signature) (isPreExecution : Bool) : DetectedTrade where
  signature := signature
  sourceWallet := 7
  tradeType := .pumpfun
  tradeOrigin := .direct
  isBuy := true
  instructionData := []
  instructionAccounts := []
  detectedAt := 0
  solAmountLamports := 1
  isPreExecution := isPreExecution
  executionFailed := false
  tokenMint := some 5
  tokenProgram := none

theorem reaches_from (setup : Setup) {starts : World → Prop} (ok : State → Step → Prop) [∀ s step, Decidable (ok s step)]
    {w : World} (start : starts w) (steps : List Step) (p : State → Bool)
    (ran : ((process setup).run ok ⟨w, []⟩ steps).any p = true) :
    ∃ s, (process setup).Reachable starts ok s ∧ p s = true :=
  System.Reachable.of_run p start ran

theorem reaches (setup : Setup) (ok : State → Step → Prop) [∀ s step, Decidable (ok s step)]
    (groups : GroupManager) (steps : List Step) (p : State → Bool)
    (ran : ((process setup).run ok ⟨World.new groups, []⟩ steps).any p = true) :
    ∃ s, (process setup).Reachable World.Starts ok s ∧ p s = true :=
  reaches_from setup ok (World.new_starts groups) steps p ran

theorem launches (setup : Setup) (ok : State → Step → Prop) [∀ s step, Decidable (ok s step)]
    (groups : GroupManager) (steps : List Step) (p : State → Bool)
    (ran : ((process setup).run ok ⟨World.new groups, []⟩ steps).any p = true) :
    ∃ s, (process setup).Reachable World.Launched ok s ∧ p s = true :=
  reaches_from setup ok ⟨World.new_starts groups, rfl⟩ steps p ran

theorem reaches_task (setup : Setup) (ok : State → Step → Prop) [∀ s step, Decidable (ok s step)]
    (groups : GroupManager) (steps : List Step) (i : ℕ) (p : TaskState → Bool)
    (ran : ((process setup).run ok ⟨World.new groups, []⟩ steps).any (fun s => s.tasks[i]?.any p) = true) :
    ∃ s, (process setup).Reachable World.Starts ok s ∧ ∃ t, s.tasks[i]? = some t ∧ p t = true := by
  obtain ⟨s, reach, found⟩ := reaches setup ok groups steps _ ran
  exact ⟨s, reach, (Option.any_eq_true ..).mp found⟩

def runs (i : ℕ) (choices : List Choice) : List Step := choices.map (.run i)

def sampleIntake (i : ℕ) (trade : DetectedTrade) : List Step :=
  .start (.trade trade) :: runs i (List.replicate 14 .nothing)

def sampleBuy (i : ℕ) (amount : ℕ) (signature : Signature) : List Step :=
  runs i ([.flag true, .nothing, .nothing, .nothing, .nothing, .estimate (.ok amount), .nothing, .nothing,
    .built (.ok ()), .sent (.ok signature)] ++ List.replicate 4 .nothing)

def sampleAnswer (tokens : ℕ) : BalanceAnswer := .ok (some (Fin.ofNat _ tokens))

end CopyTrader.Tasks
