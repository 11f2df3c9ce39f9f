import CopyTrader.Lib.Answers
import CopyTrader.Tasks.Alphabet

/-!
# Routes of a sale

Which of the two venues a full and a partial sale try first.
-/

namespace CopyTrader.Tx
open Lib AutoSell Processor Tasks Program

def sendsJupiter : Op → Bool
  | .sendJupiterSell .. => true
  | _ => false

def sendsPumpfun : Op → Bool
  | .sendPumpfunSell .. => true
  | _ => false

def sendsSale (op : Op) : Bool := sendsJupiter op || sendsPumpfun op

/-- The first sale goes to Jupiter. -/
def decidesForJupiter {α : Type} (answers : (op : Op) → Ans op) (x : Prog α) : Bool :=
  (x.first answers sendsSale).any sendsJupiter

variable {answers : (op : Op) → Ans op} {setup : Setup} {signal : SellSignal} {position : Position}
  {snapshot : Option SellAccountSnapshot} {tokenAmount expected : ℕ}

/-- A snapshot is known and its curve has migrated. -/
def knownMigrated (answers : (op : Op) → Ans op) (position : Position) : Bool :=
  ((resolveSellSnapshot position).eval answers).any fun snapshot =>
    answers (.isBondingCurveMigrated snapshot.bondingCurve) = some true

theorem partialSellRoute_eval : (partialSellRoute position).eval answers = knownMigrated answers position := by
  unfold partialSellRoute knownMigrated
  rw [eval_bind]
  cases (resolveSellSnapshot position).eval answers with
  | none => rfl
  | some snapshot => rfl

theorem resolve_quiet : Uses (sendsSale · = false) (resolveSellSnapshot position) :=
  resolveSellSnapshot_uses fun _ => rfl

theorem first_tryPumpfunSell : (tryPumpfunSell position tokenAmount).first answers sendsSale =
    ((resolveSellSnapshot position).eval answers).map (.sendPumpfunSell position · tokenAmount) := by
  unfold tryPumpfunSell
  rw [first_after resolve_quiet]
  cases (resolveSellSnapshot position).eval answers with
  | none => rfl
  | some snapshot => rfl

theorem first_trySellPart {sellAmount : ℕ} : (trySellPart position sellAmount).first answers sendsSale =
    if knownMigrated answers position then
      some (.sendJupiterSell position.tokenMint sellAmount position.group.sellSlippageBps)
    else ((resolveSellSnapshot position).eval answers).map (.sendPumpfunSell position · sellAmount) := by
  unfold trySellPart
  rw [first_after (partialSellRoute_uses (fun _ => rfl) fun _ => rfl), partialSellRoute_eval]
  split
  · rfl
  · exact first_tryPumpfunSell

/-- A partial sale goes to Jupiter only if a snapshot says so. -/
theorem partialSellMarked_decides {mint : Pubkey} {sellAmount percent : ℕ} :
    decidesForJupiter answers (partialSellMarked signal position mint sellAmount percent) =
      knownMigrated answers position := by
  unfold decidesForJupiter partialSellMarked
  rw [first_before fun sent => ?_, first_trySellPart]
  · cases known : knownMigrated answers position with
    | true => rfl
    | false =>
      rw [if_neg Bool.false_ne_true]
      cases (resolveSellSnapshot position).eval answers with
      | none => rfl
      | some snapshot => rfl
  · cases sent with
    | ok sig =>
      refine uses_bind (uses_call.mpr rfl) fun _ => ?_
      exact uses_bind (uses_call.mpr rfl) fun _ => uses_call.mpr rfl
    | error err => exact uses_call.mpr rfl

/-! ### Full sales -/

/-- What follows the attempts. -/
def finishSale (signal : SellSignal) (position : Position) (expectedAfterBalance : ℕ) : SellOutcome → Prog Unit
  | .sold lastSig => finishSold signal position lastSig expectedAfterBalance
  | .unsold failureReason => finishUnsold signal position failureReason

theorem finishSale_uses {outcome : SellOutcome} :
    Uses (sendsSale · = false) (finishSale signal position expected outcome) := by
  cases outcome with
  | sold lastSig => exact finishSold_uses rfl rfl rfl (fun _ => rfl) rfl rfl rfl fun _ => rfl
  | unsold failureReason => exact finishUnsold_uses rfl (fun _ _ => rfl) (fun _ => rfl) fun _ _ => rfl

theorem sellMarked_eq (balance : ℕ) : sellMarked setup signal position snapshot balance tokenAmount = (do
    let routeViaJupiter ← sellRoute position snapshot
    let outcome ← sellAttempts setup position signal.reason routeViaJupiter tokenAmount (balance - tokenAmount)
      MAX_SELL_RETRIES 1 "sell retries exhausted"
    finishSale signal position (balance - tokenAmount) outcome) := rfl

theorem sellRoute_none : sellRoute position none = .done true := by
  unfold sellRoute
  cases position.isExternalJupiter with
  | false => rfl
  | true => rfl

theorem sellMarked_none (balance : ℕ) : sellMarked setup signal position none balance tokenAmount = (do
    let outcome ← sellAttempts setup position signal.reason true tokenAmount (balance - tokenAmount) MAX_SELL_RETRIES 1
      "sell retries exhausted"
    finishSale signal position (balance - tokenAmount) outcome) := by
  rw [sellMarked_eq, sellRoute_none]
  rfl

theorem pumpfun_of_sale (op : Op) (other : sendsSale op = false) : sendsPumpfun op = false :=
  (Bool.or_eq_false_iff.mp other).2

/-- A sale for which no snapshot was taken up is never sent to Pump.fun. -/
theorem sellPosition_uses : Uses (sendsPumpfun · = false) (sellPosition setup signal position none) := by
  refine uses_bind (currentBalance_uses rfl rfl) fun balance => ?_
  refine uses_ite (skipZeroBalance_uses rfl fun _ => rfl) ?_
  refine uses_bind (uses_call.mpr rfl) fun marked => uses_ite ?_ trivial
  rw [sellMarked_none]
  have attempts : Uses (sendsPumpfun · = false) (sellAttempts setup position signal.reason true
      (if 0 < position.tokenAmount then min position.tokenAmount balance else balance)
      (balance - if 0 < position.tokenAmount then min position.tokenAmount balance else balance) MAX_SELL_RETRIES 1
      "sell retries exhausted") :=
    sellAttempts_uses (fun _ => rfl) (fun jupiter => nomatch jupiter) rfl fun _ _ =>
      waitSellConfirm_uses rfl (fun _ => rfl) rfl (fun _ => rfl) rfl
  exact uses_bind attempts fun outcome => uses_mono pumpfun_of_sale finishSale_uses

theorem first_sellAttempts_pumpfun {taken : SellAccountSnapshot} {reason : SellReason} {left attempt : ℕ}
    {failureReason : String} (found : (resolveSellSnapshot position).eval answers = some taken) :
    (sellAttempts setup position reason false tokenAmount expected (left + 1) attempt failureReason).first answers
      sendsSale = some (.sendPumpfunSell position taken tokenAmount) := by
  have sale : (tryPumpfunSell position tokenAmount).first answers sendsSale =
      some (.sendPumpfunSell position taken tokenAmount) := by
    rw [first_tryPumpfunSell, found]
    rfl
  have attempted : (sellAttempt setup position reason false tokenAmount expected attempt).first answers sendsSale =
      some (.sendPumpfunSell position taken tokenAmount) := by
    unfold sellAttempt
    rw [if_neg Bool.false_ne_true]
    unfold pumpfunSellAttempt
    rw [first_bind, sale]
    rfl
  unfold sellAttempts
  rw [first_bind, attempted]
  rfl

/-- Which venue the sale of a marked position tries first. -/
def fullRoute (answers : (op : Op) → Ans op) (snapshot : Option SellAccountSnapshot) : Bool :=
  snapshot.all fun snapshot => answers (.isBondingCurveMigrated snapshot.bondingCurve) = some true

theorem sellMarked_decides {balance : ℕ} (consistent : ∀ taken, snapshot = some taken →
      position.isExternalJupiter = false ∧ (resolveSellSnapshot position).eval answers = some taken) :
    decidesForJupiter answers (sellMarked setup signal position snapshot balance tokenAmount) =
      fullRoute answers snapshot := by
  unfold decidesForJupiter
  rw [sellMarked_eq, first_after (sellRoute_uses fun _ => rfl), first_before fun _ => finishSale_uses]
  cases snapshot with
  | none =>
    rw [sellRoute_none]
    rfl
  | some taken =>
    obtain ⟨other, found⟩ := consistent taken rfl
    have route : (sellRoute position (some taken)).eval answers =
        decide (answers (.isBondingCurveMigrated taken.bondingCurve) = some true) := by
      unfold sellRoute
      rw [other]
      rfl
    rw [route]
    by_cases migrated : answers (.isBondingCurveMigrated taken.bondingCurve) = some true
    · rw [decide_eq_true migrated]
      exact (decide_eq_true migrated).symm
    · rw [decide_eq_false migrated, show MAX_SELL_RETRIES = 2 + 1 from rfl, first_sellAttempts_pumpfun found]
      exact (decide_eq_false migrated).symm

/-- What the wallet holds of a mint, as far as a sale is sized by it. -/
def Held (answers : (op : Op) → Ans op) (mint : Pubkey) : Prop :=
  ∀ account, 0 < (currentBalance mint account).eval answers

/-- The account that a sale is sized by. -/
def saleAta (setup : Setup) (position : Position) : Option SellAccountSnapshot → Pubkey
  | some snapshot => snapshot.userAta
  | none => setup.positionAta position

theorem sellPosition_eq : sellPosition setup signal position snapshot = (do
    let currentAtaBalance ← currentBalance position.tokenMint (saleAta setup position snapshot)
    let tokenAmount :=
      if 0 < position.tokenAmount then min position.tokenAmount currentAtaBalance else currentAtaBalance
    if tokenAmount = 0 then skipZeroBalance signal.positionKey
    else
      let marked ← perform (.markSelling signal.positionKey)
      if marked then sellMarked setup signal position snapshot currentAtaBalance tokenAmount) := by
  cases snapshot with
  | none => rfl
  | some taken => rfl

theorem sellPosition_decides (held : Held answers position.tokenMint)
    (marks : answers (.markSelling signal.positionKey) = true) (consistent : ∀ taken, snapshot = some taken →
      position.isExternalJupiter = false ∧ (resolveSellSnapshot position).eval answers = some taken) :
    decidesForJupiter answers (sellPosition setup signal position snapshot) = fullRoute answers snapshot := by
  have holds := held (saleAta setup position snapshot)
  unfold decidesForJupiter
  rw [sellPosition_eq, first_after (currentBalance_uses rfl rfl)]
  generalize (currentBalance position.tokenMint (saleAta setup position snapshot)).eval answers = balance at *
  dsimp only
  rw [if_neg (by split <;> omega), first_after (uses_call.mpr rfl)]
  have marked : (perform (.markSelling signal.positionKey)).eval answers = true := marks
  rw [marked, if_pos rfl]
  exact sellMarked_decides consistent

/-! ### Handlers -/

variable {key : PositionKey}

theorem eval_getPosition (found : answers (.getPosition key) = some position) :
    (perform (.getPosition key)).eval answers = some position := found

theorem handleSellSignal_decides (found : answers (.getPosition signal.positionKey) = some position)
    (held : Held answers position.tokenMint) (marks : answers (.markSelling signal.positionKey) = true) :
    decidesForJupiter answers (handleSellSignal setup signal) =
      (position.isExternalJupiter || knownMigrated answers position) := by
  unfold handleSellSignal decidesForJupiter
  rw [first_after (uses_call.mpr rfl), eval_getPosition found]
  dsimp only
  cases external : position.isExternalJupiter with
  | true =>
    rw [if_pos rfl]
    exact sellPosition_decides held marks fun _ none => nomatch none
  | false =>
    rw [if_neg Bool.false_ne_true, first_after resolve_quiet, Bool.false_or]
    unfold knownMigrated
    cases taken : (resolveSellSnapshot position).eval answers with
    | none => rfl
    | some snapshot =>
      refine sellPosition_decides held marks fun _ same => ?_
      cases same
      exact ⟨external, taken⟩

theorem handlePartialSell_decides {groupId : String} {mint : Pubkey} {percent : ℕ} (part : percent < 100)
    (found : answers (.getPosition ⟨groupId, mint⟩) = some position) (some : position.tokenAmount ≠ 0)
    (marks : answers (.markSelling ⟨groupId, mint⟩) = true) :
    decidesForJupiter answers (handlePartialSell setup groupId mint percent) = knownMigrated answers position := by
  unfold handlePartialSell decidesForJupiter
  rw [first_after (uses_call.mpr rfl), eval_getPosition found]
  dsimp only
  rw [if_neg some, if_neg (by omega), if_neg (by omega), first_after (uses_call.mpr rfl)]
  have marked : (perform (.markSelling ⟨groupId, mint⟩)).eval answers = true := marks
  rw [show (manualSignal groupId mint position).positionKey = ⟨groupId, mint⟩ from rfl, marked, if_pos rfl]
  exact partialSellMarked_decides

/-- A full sale of a position that was bought on Jupiter stays there. -/
theorem handleSellSignal_jupiter (found : answers (.getPosition signal.positionKey) = some position)
    (external : position.isExternalJupiter = true) :
    (handleSellSignal setup signal).first answers sendsPumpfun = none := by
  unfold handleSellSignal
  rw [first_after (uses_call.mpr rfl), eval_getPosition found]
  dsimp only
  rw [if_pos external]
  exact first_none sellPosition_uses

theorem trySellPart_jupiter {sellAmount : ℕ} (known : knownMigrated answers position = true) :
    (trySellPart position sellAmount).first answers sendsPumpfun = none := by
  unfold trySellPart
  rw [first_after (partialSellRoute_uses (fun _ => rfl) fun _ => rfl), partialSellRoute_eval, known, if_pos rfl]
  rfl

theorem handlePartialSell_jupiter {groupId : String} {mint : Pubkey} {percent : ℕ} (part : percent < 100)
    (found : answers (.getPosition ⟨groupId, mint⟩) = some position) (known : knownMigrated answers position = true) :
    (handlePartialSell setup groupId mint percent).first answers sendsPumpfun = none := by
  unfold handlePartialSell
  rw [first_after (uses_call.mpr rfl), eval_getPosition found]
  dsimp only
  split
  · rfl
  · rw [if_neg (by omega), if_neg (by omega), first_after (uses_call.mpr rfl)]
    split
    · unfold partialSellMarked
      rw [first_before fun sent => ?_, trySellPart_jupiter known]
      cases sent with
      | ok sig =>
        refine uses_bind (uses_call.mpr rfl) fun _ => ?_
        exact uses_bind (uses_call.mpr rfl) fun _ => uses_call.mpr rfl
      | error err => exact uses_call.mpr rfl
    · rfl

/-- Once both handlers come to sell, they choose alike, and what was bought on Jupiter is never sent to Pump.fun,
exactly if a snapshot of each such position names a curve that has migrated. -/
theorem routes_agree_iff (setup : Setup) (signal : SellSignal) {groupId : String} {mint : Pubkey} {percent : ℕ}
    (part : percent < 100) (same : signal.positionKey = ⟨groupId, mint⟩)
    (found : answers (.getPosition ⟨groupId, mint⟩) = some position) (some : position.tokenAmount ≠ 0)
    (held : Held answers position.tokenMint) (marks : answers (.markSelling ⟨groupId, mint⟩) = true) :
    (decidesForJupiter answers (handlePartialSell setup groupId mint percent) =
          decidesForJupiter answers (handleSellSignal setup signal) ∧
        (position.isExternalJupiter = true →
          (handlePartialSell setup groupId mint percent).first answers sendsPumpfun = none ∧
            (handleSellSignal setup signal).first answers sendsPumpfun = none)) ↔
      (position.isExternalJupiter = true → knownMigrated answers position = true) := by
  rw [handlePartialSell_decides part found some marks,
    handleSellSignal_decides (same ▸ found) held (same ▸ marks)]
  constructor
  · rintro ⟨agree, -⟩ external
    rw [agree, external, Bool.true_or]
  · intro migrated
    refine ⟨?_, fun external => ⟨handlePartialSell_jupiter part found (migrated external),
      handleSellSignal_jupiter (same ▸ found) external⟩⟩
    cases external : position.isExternalJupiter with
    | false => rfl
    | true => exact migrated external

/-- A position that was bought on Jupiter, of a mint that was tracked before. -/
def sampleExternal : Position :=
  { Position.new sampleGroup 9 1 1 7 0 0 with
    state := .active
    tokenAmount := 1000
    route := .externalJupiter }

def sampleTracked : PrefetchedToken where
  mint := 9
  bondingCurve := 12
  associatedBondingCurve := 13
  userAta := 109
  tokenProgram := TOKEN_PROGRAM
  mirrorAccounts := []
  sourceWallet := 7
  sourceSignature := "s"
  qualityScore := 1
  createdAt := 0

/-- One wallet, one position, and a fixed answer about the curve. -/
def sampleAnswers (migrated : Option Bool) : (op : Op) → Ans op
  | .getPosition _ => some sampleExternal
  | .prefetchGet _ => some sampleTracked
  | .isBondingCurveMigrated _ => migrated
  | .ataCacheGet _ => some ⟨1000, by decide⟩
  | .markSelling _ => true
  | .sendPumpfunSell .. | .sendJupiterSell .. | .sendBuy .. => .ok "sold"
  | .now => 0
  | .openPositionCountForMint _ => 1
  | .overtakes | .isBlocked _ | .isRunning | .shouldSkipSignature _ => false
  | .bcCacheGet _ => none
  | .rpcTokenBalance _ => .rpcError
  | .rpcSignatureStatus _ => .rpcError
  | .rpcTransaction _ => .rpcError
  | .quoteJupiterSell .. => none
  | .quoteBuy .. | .quoteExternalBuy .. => .error "not asked"
  | .buildBuyTransaction _ => .error "not asked"
  | .decodeExternalBuy => false
  | .positionKeys | .positionKeysForMint _ => []
  | .openPositionMints => []
  | .subscriber op => (Grpc.AccountSubscriber.new.respond 0 op).1
  | .recordZeroBalanceSellSkip _ => none
  | .grpcExit .. | .fallbackExit .. => none
  | .getGroup _ => none
  | .groupsForWallet _ => []
  | .mirrorCacheGet _ => none
  | .tryStartGroupMint _ | .acquireBuyPermit _ | .rejectSignal .. => false
  | .fetchTokenName => none
  | .actualSolSpent _ => none
  | .sleepUntil _ | .ataCacheRemove _ | .bcCacheRemove _ | .prefetchInsert _ | .prefetchRemove _
  | .addPosition _ | .confirmSuccess .. | .confirmFailed .. | .markClosed ..
  | .restoreAfterSellAttempt .. | .suspendAutoSell .. | .applyPartialSell .. | .updateEntryPrice ..
  | .updateTokenInfo .. | .fallbackConfirm .. | .prunePositions | .mirrorCacheInsert ..
  | .finishGroupMint .. | .submitSignal _ | .sendSellSignal _ | .tgSend _ | .spawnConfirm _
  | .spawnTokenInfo .. | .spawnEntryPrice .. | .spawnBuy .. | .spawnExternalBuy .. => ()

def sampleSignal : SellSignal := manualSignal "g1" 9 sampleExternal

theorem sample_held (migrated : Option Bool) : Held (sampleAnswers migrated) 9 := fun _ =>
  show (0 : ℕ) < 1000 by decide

theorem routes_agree_sample :
    decidesForJupiter (sampleAnswers (some true)) (handlePartialSell sampleSetup "g1" 9 50) =
      decidesForJupiter (sampleAnswers (some true)) (handleSellSignal sampleSetup sampleSignal) := by
  have found : sampleAnswers (some true) (.getPosition ⟨"g1", 9⟩) = some sampleExternal := rfl
  exact ((routes_agree_iff sampleSetup sampleSignal (by decide) rfl found (by decide) (sample_held _) rfl).mpr
    fun _ => by decide).1

/-- While the curve has not migrated, half of the position goes to Pump.fun. All of it would go to Jupiter. -/
theorem routes_differ :
    (handlePartialSell sampleSetup "g1" 9 50).first (sampleAnswers (some false)) sendsPumpfun ≠ none ∧
      decidesForJupiter (sampleAnswers (some false)) (handlePartialSell sampleSetup "g1" 9 50) = false ∧
      decidesForJupiter (sampleAnswers (some false)) (handleSellSignal sampleSetup sampleSignal) = true := by
  refine ⟨?_, by decide, by decide⟩
  intro none
  cases none

end CopyTrader.Tx
