import CopyTrader.Tasks.World

/-!
# Alphabets

Which operations a task of each role may perform.
-/

namespace CopyTrader.Tasks
open Lib AutoSell Grpc Main Tx Program

def Op.ofIntake : Op → Bool
  | .now | .isRunning | .shouldSkipSignature _ | .mirrorCacheInsert .. | .mirrorCacheGet _
  | .groupsForWallet _ | .getGroup _ | .isBlocked _ | .prefetchGet _ | .prefetchInsert _ | .subscriber _
  | .getPosition _ | .sendSellSignal _ | .submitSignal _ | .rejectSignal .. | .spawnBuy ..
  | .spawnExternalBuy .. => true
  | .tgSend event => !event.reportsSale
  | _ => false

/-- A buy only sends and stores under its own key. -/
def Op.ofExecute (key : PositionKey) : Op → Bool
  | .now | .prefetchGet _ | .bcCacheGet _ | .ataCacheGet _ | .subscriber _ | .rpcTokenBalance _ | .quoteBuy ..
  | .buildBuyTransaction _ | .quoteExternalBuy .. | .decodeExternalBuy => true
  | .tgSend event => !event.reportsSale
  | .sendBuy groupId mint _ => (⟨groupId, mint⟩ : PositionKey) = key
  | .addPosition p => p.key = key && p.state = .confirming
  | .spawnConfirm task => task.positionKey = key
  | _ => false

def Op.ofBuy (key : PositionKey) : Op → Bool
  | .acquireBuyPermit _ => true
  | .tryStartGroupMint claim | .finishGroupMint claim _ => claim = ⟨key.groupId, key.tokenMint⟩
  | op => op.ofExecute key

/-- What a confirm task asks for before it knows how the buy has ended. -/
def Op.ofPolling : Op → Bool
  | .now | .sleepUntil _ | .overtakes | .ataCacheGet _ | .rpcTokenBalance _ | .rpcSignatureStatus _
  | .rpcTransaction _ => true
  | _ => false

/-- A confirm task only writes under its own key. -/
def Op.ofConfirming (key : PositionKey) : Op → Bool
  | .bcCacheGet _ | .openPositionCountForMint _ => true
  | .tgSend event => !event.reportsSale
  | .confirmSuccess key' .. | .confirmFailed key' _ | .spawnTokenInfo key' _ | .spawnEntryPrice key' .. =>
    key' = key
  | op => op.ofPolling

def Op.ofConfirm : Op → Bool
  | .now | .sleepUntil _ | .overtakes | .ataCacheGet _ | .rpcTokenBalance _ | .rpcSignatureStatus _
  | .rpcTransaction _ | .bcCacheGet _ | .openPositionCountForMint _ | .confirmSuccess .. | .confirmFailed ..
  | .spawnTokenInfo .. | .spawnEntryPrice .. => true
  | .tgSend event => !event.reportsSale
  | _ => false

def Op.ofUpdate : Op → Bool
  | .fetchTokenName | .actualSolSpent _ | .updateTokenInfo .. | .updateEntryPrice .. => true
  | _ => false

/-- What the confirmation of a sale asks for. -/
def Op.ofSellWait : Op → Bool
  | .now | .sleepUntil _ | .ataCacheGet _ | .rpcTokenBalance _ | .rpcSignatureStatus _ => true
  | _ => false

/-- Between the marking of a sale and the write that ends it. -/
def Op.ofSale : Op → Bool
  | .now | .sleepUntil _ | .prefetchGet _ | .ataCacheGet _ | .rpcTokenBalance _ | .rpcSignatureStatus _
  | .isBondingCurveMigrated _ | .sendPumpfunSell .. | .sendJupiterSell .. => true
  | _ => false

def Op.ofMarked : Op → Bool
  | .getPosition _ | .markClosed .. | .suspendAutoSell .. | .restoreAfterSellAttempt .. | .applyPartialSell ..
  | .openPositionCountForMint _ | .ataCacheRemove _ | .bcCacheRemove _ | .subscriber _ | .prefetchRemove _
  | .tgSend _ => true
  | op => op.ofSale

def Op.ofSell : Op → Bool
  | .recordZeroBalanceSellSkip _ | .confirmFailed .. | .markSelling _ => true
  | op => op.ofMarked

def Op.ofMonitor : Op → Bool
  | .now | .positionKeys | .positionKeysForMint _ | .getPosition _ | .rpcTokenBalance _ | .bcCacheGet _
  | .quoteJupiterSell .. | .fallbackConfirm .. | .fallbackExit .. | .grpcExit .. | .sendSellSignal _
  | .prunePositions => true
  | _ => false

def Op.ofCleanup : Op → Bool
  | .openPositionMints | .subscriber _ | .bcCacheRemove _ | .ataCacheRemove _ => true
  | _ => false

def Role.alphabet : Role → Op → Bool
  | .trade _ | .trigger _ => Op.ofIntake
  | .buy b _ => Op.ofBuy ⟨b.group.id, b.mint⟩
  | .externalBuy b _ => Op.ofBuy ⟨b.group.id, b.mint⟩
  | .confirm _ => Op.ofConfirm
  | .tokenInfo .. | .entryPrice .. => Op.ofUpdate
  | .sell _ | .partialSell .. => Op.ofSell
  | .fallback | .grpc .. => Op.ofMonitor
  | .cleanup => Op.ofCleanup

abbrev Within {α : Type} (alphabet : Op → Bool) (x : Prog α) : Prop := Uses (alphabet · = true) x

variable {setup : Setup} {p : Op → Bool}

theorem within_perform {α : Type} {op : Op} {f : Ans op → Prog α} (first : p op = true)
    (rest : ∀ answer, Within p (f answer)) : Within p (perform op >>= f) :=
  uses_bind (uses_call.mpr first) rest

/-! ### Intake -/

def casts : Op → Bool
  | .submitSignal _ => true
  | _ => false

section
variable {ops : Op → Prop} (quiet : ∀ op, op.ofIntake = true → casts op = false → ops op)
include quiet

theorem externalGroup_uses {mint tokenProgram : Pubkey} {trade : Processor.DetectedTrade} {group : CopyGroup} :
    Uses ops (externalGroup mint tokenProgram trade group) := by
  refine uses_ite trivial (uses_bind (followSell_uses (quiet _ rfl rfl) fun _ => quiet _ rfl rfl) fun _ => ?_)
  exact uses_ite trivial (uses_call.mpr (quiet _ rfl rfl))

/-- Only a report that does not say that it failed votes. -/
theorem enterGroup_uses {mint tokenProgram : Pubkey} {trade : Processor.DetectedTrade} {group : CopyGroup}
    (votes : trade.executionFailed = false → ∀ data, ops (.submitSignal (buySignal group mint tokenProgram trade data))) :
    Uses ops (enterGroup mint tokenProgram trade group) := by
  refine uses_ite trivial (uses_ite (uses_ite trivial (uses_call.mpr (quiet _ rfl rfl))) ?_)
  split
  · exact uses_bind (uses_call.mpr (quiet _ rfl rfl)) fun _ => trivial
  · rename_i landed
    exact uses_call.mpr (votes (Bool.eq_false_iff.mpr landed) _)

theorem curveTrade_uses {trade : Processor.DetectedTrade} {mint tokenProgram : Pubkey} {groups : List CopyGroup}
    (votes : trade.executionFailed = false →
      ∀ group data, ops (.submitSignal (buySignal group mint tokenProgram trade data))) :
    Uses ops (curveTrade setup trade mint tokenProgram groups) := by
  refine uses_bind (reuseMirror_uses (quiet _ rfl rfl)) fun cachedMirror => ?_
  refine uses_bind (warmForEntry_uses (quiet _ rfl rfl) (quiet _ rfl rfl) (fun _ => quiet _ rfl rfl)
    fun _ => quiet _ rfl rfl) fun _ => ?_
  refine uses_bind (entryGroups_uses (fun _ => quiet _ rfl rfl) fun _ => quiet _ rfl rfl) fun entries => ?_
  exact forEach_uses fun group => enterGroup_uses quiet fun landed => votes landed group

theorem handleTrade_uses {trade : Processor.DetectedTrade}
    (votes : trade.executionFailed = false →
      ∀ group mint tokenProgram data, ops (.submitSignal (buySignal group mint tokenProgram trade data))) :
    Uses ops (handleTrade setup trade) := by
  refine uses_bind (uses_call.mpr (quiet _ rfl rfl)) fun running => uses_ite trivial ?_
  refine uses_bind (uses_call.mpr (quiet _ rfl rfl)) fun skip => uses_ite trivial ?_
  refine uses_bind (cacheMirror_uses fun _ _ => quiet _ rfl rfl) fun _ => ?_
  refine uses_bind (uses_call.mpr (quiet _ rfl rfl)) fun groups => uses_ite trivial ?_
  cases extractTokenInfo trade with
  | none => trivial
  | some found =>
    refine uses_bind (uses_call.mpr (quiet _ rfl rfl)) fun blocked => uses_ite trivial (uses_ite ?_ ?_)
    · exact forEach_uses fun group => externalGroup_uses quiet
    · exact curveTrade_uses quiet fun landed group data => votes landed group _ _ data

theorem handleTrigger_uses {trigger : Consensus.ConsensusTrigger} : Uses ops (handleTrigger setup trigger) := by
  refine uses_bind (uses_call.mpr (quiet _ rfl rfl)) fun _ =>
    uses_bind (uses_call.mpr (quiet _ rfl rfl)) fun found => ?_
  split
  · trivial
  · refine uses_bind (warmBuyCaches_uses (quiet _ rfl rfl) (quiet _ rfl rfl) (fun _ => quiet _ rfl rfl)
      fun _ => quiet _ rfl rfl) fun _ => ?_
    exact uses_call.mpr (quiet _ rfl rfl)

end

/-! ### Buys -/

theorem execute_buy (key : PositionKey) (op : Op) (executes : op.ofExecute key = true) :
    op.ofBuy key = true := by
  cases op <;> first | exact executes | cases executes

theorem claimedBuy_within (key : PositionKey) {wrapper : Bool} {buy : Prog Bool}
    (buys : Within (Op.ofExecute key) buy) :
    Within (Op.ofBuy key) (claimedBuy ⟨key.groupId, key.tokenMint⟩ wrapper buy) := by
  have claims : (decide ((⟨key.groupId, key.tokenMint⟩ : GroupMintKey) = ⟨key.groupId, key.tokenMint⟩)) = true :=
    decide_eq_true rfl
  exact within_perform rfl fun permit => uses_ite
    (within_perform claims fun started => uses_ite
      (uses_bind (uses_mono (execute_buy key) buys) fun submitted => uses_call.mpr claims) trivial) trivial

theorem sentPosition_state {q : Position} {sig : Signature} (pending : q.state = .pending) :
    (sentPosition q sig).state = .confirming := by
  simp [sentPosition, Position.markSubmitted, Position.markConfirming, pending]

theorem sentPosition_key (q : Position) (sig : Signature) : (sentPosition q sig).key = q.key := by
  unfold sentPosition Position.markSubmitted Position.markConfirming
  split
  · split <;> rfl
  · dsimp only
    split <;> rfl

theorem submitBuy_within {q : Position} {userAta : Pubkey} {sol : ℚ} {estimatedTokensRaw : ℕ}
    (pending : q.state = .pending) :
    Within (Op.ofExecute q.key) (submitBuy setup q userAta sol estimatedTokensRaw) := by
  have sends : Op.ofExecute q.key (.sendBuy q.group.id q.tokenMint q.entrySolAmount) = true := decide_eq_true rfl
  refine within_perform sends fun sent => ?_
  cases sent with
  | ok sig =>
    have adds : Op.ofExecute q.key (.addPosition (sentPosition q sig)) = true := by
      simp [Op.ofExecute, sentPosition_key, sentPosition_state pending]
    exact within_perform rfl fun _ => uses_ite
      (uses_bind (within_perform adds fun _ => uses_call.mpr (decide_eq_true rfl)) fun _ => trivial) trivial
  | error err => exact within_perform rfl fun _ => trivial

theorem setTokenAmountEstimate_state (q : Position) (tokenAmount : ℕ) :
    (q.setTokenAmountEstimate tokenAmount).state = q.state := by
  unfold Position.setTokenAmountEstimate
  split <;> rfl

theorem setTokenAmountEstimate_key (q : Position) (tokenAmount : ℕ) :
    (q.setTokenAmountEstimate tokenAmount).key = q.key := by
  unfold Position.setTokenAmountEstimate
  split <;> rfl

theorem buyPosition_state (b : BuyTask) (prefetched : Option Processor.PrefetchedToken)
    (curve : Option Processor.BondingCurveState) (estimatedTokensRaw preBuyAtaBalance : ℕ) (t : Instant) :
    (buyPosition b prefetched curve estimatedTokensRaw preBuyAtaBalance t).state = .pending :=
  setTokenAmountEstimate_state _ _

theorem buyPosition_key (b : BuyTask) (prefetched : Option Processor.PrefetchedToken)
    (curve : Option Processor.BondingCurveState) (estimatedTokensRaw preBuyAtaBalance : ℕ) (t : Instant) :
    (buyPosition b prefetched curve estimatedTokensRaw preBuyAtaBalance t).key = ⟨b.group.id, b.mint⟩ :=
  setTokenAmountEstimate_key _ _

theorem externalBuyPosition_state (b : ExternalBuyTask) (estimatedTokensRaw preBuyAtaBalance : ℕ)
    (t : Instant) : (externalBuyPosition b estimatedTokensRaw preBuyAtaBalance t).state = .pending :=
  setTokenAmountEstimate_state _ _

theorem externalBuyPosition_key (b : ExternalBuyTask) (estimatedTokensRaw preBuyAtaBalance : ℕ)
    (t : Instant) : (externalBuyPosition b estimatedTokensRaw preBuyAtaBalance t).key = ⟨b.group.id, b.mint⟩ :=
  setTokenAmountEstimate_key _ _

theorem externalBuyPosition_route (b : ExternalBuyTask) (estimatedTokensRaw preBuyAtaBalance : ℕ)
    (t : Instant) : (externalBuyPosition b estimatedTokensRaw preBuyAtaBalance t).route = .externalJupiter := by
  unfold externalBuyPosition Position.setTokenAmountEstimate
  dsimp only
  split <;> rfl

/-- The account that a buy has its position confirmed by. -/
def confirmAta (setup : Setup) (p : Position) : Pubkey :=
  if p.isExternalJupiter then setup.positionAta p else setup.snapshotAta p

theorem buyPosition_ata (b : BuyTask) (prefetched : Option Processor.PrefetchedToken)
    (curve : Option Processor.BondingCurveState) (estimatedTokensRaw preBuyAtaBalance : ℕ) (t : Instant) :
    (prefetched.map (·.userAta)).getD (setup.defaultAta b.mint) =
      confirmAta setup (buyPosition b prefetched curve estimatedTokensRaw preBuyAtaBalance t) := by
  have route : (buyPosition b prefetched curve estimatedTokensRaw preBuyAtaBalance t).route = .pumpfun := by
    unfold buyPosition Position.setTokenAmountEstimate
    dsimp only
    split <;> rfl
  have mint : (buyPosition b prefetched curve estimatedTokensRaw preBuyAtaBalance t).tokenMint = b.mint :=
    congrArg PositionKey.tokenMint (buyPosition_key b prefetched curve estimatedTokensRaw preBuyAtaBalance t)
  have snapshot : (buyPosition b prefetched curve estimatedTokensRaw preBuyAtaBalance t).sellSnapshot =
      prefetched.map snapshotOf := rfl
  unfold confirmAta Position.isExternalJupiter Setup.snapshotAta
  rw [route, mint, snapshot]
  cases prefetched with
  | none => rfl
  | some token => rfl

theorem externalBuyPosition_ata (b : ExternalBuyTask) (estimatedTokensRaw preBuyAtaBalance : ℕ) (t : Instant) :
    setup.associatedTokenAddress setup.config.pubkey b.mint b.tokenProgram =
      confirmAta setup (externalBuyPosition b estimatedTokensRaw preBuyAtaBalance t) := by
  have mint : (externalBuyPosition b estimatedTokensRaw preBuyAtaBalance t).tokenMint = b.mint :=
    congrArg PositionKey.tokenMint (externalBuyPosition_key b estimatedTokensRaw preBuyAtaBalance t)
  have program : (externalBuyPosition b estimatedTokensRaw preBuyAtaBalance t).tokenProgram = some b.tokenProgram := by
    unfold externalBuyPosition Position.setTokenAmountEstimate
    dsimp only
    split <;> rfl
  unfold confirmAta Position.isExternalJupiter Setup.positionAta
  rw [externalBuyPosition_route, mint, program]
  rfl

/-- What a buy asks for before it is sent, and its messages. -/
def Op.ofQuoting : Op → Bool
  | .now | .prefetchGet _ | .bcCacheGet _ | .ataCacheGet _ | .subscriber _ | .rpcTokenBalance _ | .quoteBuy ..
  | .buildBuyTransaction _ | .quoteExternalBuy .. | .decodeExternalBuy => true
  | .tgSend event => !event.reportsSale
  | _ => false

/-- The rule for a buy: it asks quietly until it submits a pending position of its key, or gives up. -/
theorem executeBuy_wp {Q : Type} {m : Monitor World Op Ans Q} {post : Bool → Q → Prop} {q : Q} {b : BuyTask}
    (quiet : ∀ op, op.ofQuoting = true → m.Quiet op) (refuses : post false q)
    (submits : ∀ p sol estimatedTokensRaw, p.state = .pending → p.key = ⟨b.group.id, b.mint⟩ →
      wp m post (submitBuy setup p (confirmAta setup p) sol estimatedTokensRaw) q) :
    wp m post (executeBuy setup b) q := by
  refine wp_quiet_bind (readOrWait_uses (uses_call.mpr (quiet _ rfl))) fun prefetched => ?_
  refine wp_quiet_bind (readOrWait_uses (uses_call.mpr (quiet _ rfl))) fun curve => ?_
  refine wp_quiet_bind (quotePrefetched_uses fun _ => quiet _ rfl) fun quote => ?_
  refine wp_quiet_bind (uses_call.mpr (quiet _ rfl)) fun cached => ?_
  refine wp_quiet_bind (uses_call.mpr (quiet _ rfl)) fun t => ?_
  cases quote with
  | error err => exact refuses
  | ok estimatedTokensRaw =>
    refine wp_quiet_bind (uses_call.mpr (quiet _ rfl)) fun built => ?_
    cases built with
    | ok done =>
      rw [buyPosition_ata b prefetched curve estimatedTokensRaw]
      exact submits _ _ _ (buyPosition_state ..) (buyPosition_key ..)
    | error err => exact wp_quiet_bind (uses_call.mpr (quiet _ rfl)) fun _ => refuses

theorem executeExternalBuy_wp {Q : Type} {m : Monitor World Op Ans Q} {post : Bool → Q → Prop} {q : Q}
    {b : ExternalBuyTask} (quiet : ∀ op, op.ofQuoting = true → m.Quiet op) (refuses : post false q)
    (submits : ∀ p sol estimatedTokensRaw, p.state = .pending → p.key = ⟨b.group.id, b.mint⟩ →
      p.route = .externalJupiter → wp m post (submitBuy setup p (confirmAta setup p) sol estimatedTokensRaw) q) :
    wp m post (executeExternalBuy setup b) q := by
  refine wp_ite (fun _ => refuses) fun _ => ?_
  refine wp_quiet_bind (trackAta_uses fun _ => quiet _ rfl) fun _ => ?_
  refine wp_quiet_bind (externalPreBuyBalance_uses (quiet _ rfl) (quiet _ rfl)) fun preBuyAtaBalance => ?_
  refine wp_quiet_bind (uses_call.mpr (quiet _ rfl)) fun quote => ?_
  cases quote with
  | error err => exact wp_quiet_bind (uses_call.mpr (quiet _ rfl)) fun _ => refuses
  | ok estimatedTokensRaw =>
    refine wp_quiet_bind (uses_call.mpr (quiet _ rfl)) fun decoded => ?_
    apply wp_ite
    · intro _
      refine wp_quiet_bind (uses_call.mpr (quiet _ rfl)) fun t => ?_
      rw [externalBuyPosition_ata b estimatedTokensRaw preBuyAtaBalance t]
      exact submits _ _ _ (externalBuyPosition_state ..) (externalBuyPosition_key ..) (externalBuyPosition_route ..)
    · exact fun _ => refuses

theorem executeBuy_within {b : BuyTask} : Within (Op.ofExecute ⟨b.group.id, b.mint⟩) (executeBuy setup b) := by
  have submits : ∀ prefetched curve estimatedTokensRaw preBuyAtaBalance t userAta sol,
      Within (Op.ofExecute ⟨b.group.id, b.mint⟩) (submitBuy setup
        (buyPosition b prefetched curve estimatedTokensRaw preBuyAtaBalance t) userAta sol
        estimatedTokensRaw) := fun _ _ _ _ _ _ _ =>
    buyPosition_key .. ▸ submitBuy_within (buyPosition_state ..)
  refine uses_bind (readOrWait_uses (uses_call.mpr (by rfl))) fun prefetched =>
    uses_bind (readOrWait_uses (uses_call.mpr (by rfl))) fun curve =>
    uses_bind (quotePrefetched_uses fun _ => by rfl) fun quote =>
    within_perform rfl fun cached => within_perform rfl fun t => ?_
  cases quote with
  | ok estimatedTokensRaw =>
    refine within_perform rfl fun built => ?_
    cases built with
    | ok done => exact submits ..
    | error err => exact within_perform rfl fun _ => trivial
  | error err => trivial

theorem executeExternalBuy_within {b : ExternalBuyTask} :
    Within (Op.ofExecute ⟨b.group.id, b.mint⟩) (executeExternalBuy setup b) := by
  have submits : ∀ estimatedTokensRaw preBuyAtaBalance t userAta sol,
      Within (Op.ofExecute ⟨b.group.id, b.mint⟩) (submitBuy setup
        (externalBuyPosition b estimatedTokensRaw preBuyAtaBalance t) userAta sol estimatedTokensRaw) :=
    fun _ _ _ _ _ => externalBuyPosition_key .. ▸ submitBuy_within (externalBuyPosition_state ..)
  refine uses_ite trivial (uses_bind (trackAta_uses fun _ => by rfl) fun _ => ?_)
  refine uses_bind (externalPreBuyBalance_uses (by rfl) (by rfl)) fun preBuyAtaBalance =>
    within_perform rfl fun quote => ?_
  cases quote with
  | error err => exact within_perform rfl fun _ => trivial
  | ok estimatedTokensRaw =>
    exact within_perform rfl fun decoded => uses_ite (within_perform rfl fun t => submits ..) trivial

/-! ### Confirmations -/

theorem confirming_confirm (key : PositionKey) (op : Op) (confirms : op.ofConfirming key = true) :
    op.ofConfirm = true := by
  cases op <;> first | rfl | exact confirms

theorem confirmLost_confirming {c : ConfirmTask} {reason tgReason : String} :
    Within (Op.ofConfirming c.positionKey) (confirmLost c reason tgReason) :=
  within_perform (decide_eq_true rfl) fun _ => uses_call.mpr rfl

theorem confirmBought_confirming {c : ConfirmTask} {tokenBalance : ℕ} :
    Within (Op.ofConfirming c.positionKey) (confirmBought c tokenBalance) := by
  refine within_perform rfl fun curve => within_perform rfl fun openPositions => ?_
  refine within_perform (decide_eq_true rfl) fun _ => within_perform (decide_eq_true rfl) fun _ => ?_
  exact within_perform rfl fun _ => uses_call.mpr (decide_eq_true rfl)

theorem buyConfirm_confirming {c : ConfirmTask} :
    Within (Op.ofConfirming c.positionKey) (buyConfirm c) :=
  buyConfirm_uses (by rfl) (fun _ => by rfl) (fun _ _ => buyConfirmRound_uses (by rfl) (by rfl) (by rfl) (by rfl))
    (by rfl) (fun _ _ => confirmLost_confirming) fun _ => confirmBought_confirming

theorem buyConfirm_within {c : ConfirmTask} : Within Op.ofConfirm (buyConfirm c) :=
  uses_mono (confirming_confirm c.positionKey) buyConfirm_confirming

theorem entryPrice_within {key : PositionKey} {signature : Signature} {tokens : ℚ} :
    Within Op.ofUpdate (entryPrice key signature tokens) := by
  refine within_perform rfl fun spent => ?_
  split
  · exact uses_ite (uses_call.mpr rfl) trivial
  · trivial

/-! ### Sales -/

theorem sellWait_sale (op : Op) (waits : op.ofSellWait = true) : op.ofSale = true := by
  cases op <;> first | rfl | cases waits

theorem waitSellConfirm_waits {position : Position} {sig : Signature} {maxWaitMs expected : ℕ} :
    Within Op.ofSellWait (waitSellConfirm setup position sig maxWaitMs expected) :=
  waitSellConfirm_uses (by rfl) (fun _ => by rfl) (by rfl) (fun _ => by rfl) (by rfl)

theorem waitSellConfirm_within {position : Position} {sig : Signature} {maxWaitMs expected : ℕ} :
    Within Op.ofSale (waitSellConfirm setup position sig maxWaitMs expected) :=
  uses_mono sellWait_sale waitSellConfirm_waits

theorem sellAttempts_within {position : Position} {reason : SellReason} {routeViaJupiter : Bool}
    {tokenAmount expected left attempt : ℕ} {failureReason : String} : Within Op.ofSale
      (sellAttempts setup position reason routeViaJupiter tokenAmount expected left attempt failureReason) :=
  sellAttempts_uses (fun _ => by rfl) (fun _ _ => by rfl) (by rfl) fun _ _ => waitSellConfirm_within

theorem sale_marked (op : Op) (sale : op.ofSale = true) : op.ofMarked = true := by
  cases op <;> first | rfl | cases sale

theorem marked_sell (op : Op) (marked : op.ofMarked = true) : op.ofSell = true := by
  cases op <;> first | rfl | cases marked

theorem sellMarked_within {signal : SellSignal} {position : Position} {snapshot : Option SellAccountSnapshot}
    {balance tokenAmount : ℕ} :
    Within Op.ofMarked (sellMarked setup signal position snapshot balance tokenAmount) := by
  refine uses_bind (sellRoute_uses fun _ => by rfl) fun routeViaJupiter => ?_
  refine uses_bind (uses_mono sale_marked sellAttempts_within) fun outcome => ?_
  cases outcome with
  | sold lastSig =>
    exact finishSold_uses (by rfl) (by rfl) (by rfl) (fun _ => by rfl) (by rfl) (by rfl) (by rfl) fun _ => by rfl
  | unsold failureReason =>
    exact within_perform rfl fun current => uses_ite (within_perform rfl fun _ => uses_call.mpr rfl)
      (within_perform rfl fun _ => uses_call.mpr rfl)

theorem sellPosition_within {signal : SellSignal} {position : Position}
    {snapshot : Option SellAccountSnapshot} :
    Within Op.ofSell (sellPosition setup signal position snapshot) := by
  refine uses_bind (currentBalance_uses (by rfl) (by rfl)) fun currentAtaBalance => ?_
  apply uses_ite
  · exact skipZeroBalance_uses (by rfl) fun _ => by rfl
  · exact within_perform rfl fun marked => uses_ite (uses_mono marked_sell sellMarked_within) trivial

theorem handleSellSignal_within {signal : SellSignal} : Within Op.ofSell (handleSellSignal setup signal) := by
  refine within_perform rfl fun found => ?_
  split
  · refine uses_ite sellPosition_within (uses_bind (resolveSellSnapshot_uses fun _ => by rfl) fun snapshot => ?_)
    split
    · exact sellPosition_within
    · trivial
  · trivial

theorem partialSellMarked_within {signal : SellSignal} {position : Position} {mint : Pubkey}
    {sellAmount percent : ℕ} : Within Op.ofMarked (partialSellMarked signal position mint sellAmount percent) := by
  exact partialSellMarked_uses (fun _ => by rfl) (fun _ => by rfl) (fun _ => by rfl) (by rfl) (by rfl) (by rfl)
    (fun _ => by rfl) (by rfl)

theorem handlePartialSell_within {groupId : String} {mint : Pubkey} {percent : ℕ} :
    Within Op.ofSell (handlePartialSell setup groupId mint percent) := by
  refine within_perform rfl fun found => ?_
  split
  · exact uses_ite trivial (uses_ite handleSellSignal_within (within_perform rfl fun marked =>
      uses_ite (uses_mono marked_sell partialSellMarked_within) trivial))
  · trivial

section
variable {Q : Type} {m : Monitor World Op Ans Q} {post : Unit → Q → Prop} {q : Q}

/-- The rule for a whole sale: it goes on with the copy that it has read, or ends. -/
theorem handleSellSignal_wp {signal : SellSignal} (reads : m.allows q (.getPosition signal.positionKey))
    (resolves : ∀ mint, m.Quiet (.prefetchGet mint))
    (ends : ∀ w found, post () (m.next q ⟨w, .getPosition signal.positionKey, found⟩))
    (sells : ∀ w position snapshot, wp m post (sellPosition setup signal position snapshot)
      (m.next q ⟨w, .getPosition signal.positionKey, some position⟩)) :
    wp m post (handleSellSignal setup signal) q := by
  refine wp_perform reads fun w found _ => ?_
  cases found with
  | none => exact ends w none
  | some position =>
    refine wp_ite (fun _ => sells w position none) fun _ => ?_
    refine wp_quiet_bind (resolveSellSnapshot_uses resolves) fun snapshot => ?_
    cases snapshot with
    | none => exact ends w (some position)
    | some snapshot => exact sells w position (some snapshot)

/-- The rule for a partial sale, which is a whole one from 100 percent on. -/
theorem handlePartialSell_wp {groupId : String} {mint : Pubkey} {percent : ℕ}
    (reads : m.allows q (.getPosition ⟨groupId, mint⟩))
    (ends : ∀ w found, post () (m.next q ⟨w, .getPosition ⟨groupId, mint⟩, found⟩))
    (whole : 100 ≤ percent → ∀ w position, wp m post (handleSellSignal setup (manualSignal groupId mint position))
      (m.next q ⟨w, .getPosition ⟨groupId, mint⟩, some position⟩))
    (part : percent < 100 → ∀ w position, wp m post
      (do
        let marked ← perform (.markSelling ⟨groupId, mint⟩)
        if marked then
          partialSellMarked (manualSignal groupId mint position) position mint (position.tokenAmount * percent / 100) percent)
      (m.next q ⟨w, .getPosition ⟨groupId, mint⟩, some position⟩)) :
    wp m post (handlePartialSell setup groupId mint percent) q := by
  refine wp_perform reads fun w found _ => ?_
  cases found with
  | none => exact ends w none
  | some position =>
    refine wp_ite (fun _ => ends w (some position)) fun _ => wp_ite (fun all => whole all w position) fun less => ?_
    rw [if_neg less]
    exact part (Nat.not_le.mp less) w position

end

/-! ### Monitors -/

theorem sendExit_within {signal : Option SellSignal} : Within Op.ofMonitor (sendExit signal) := by
  unfold sendExit
  split
  · exact uses_call.mpr rfl
  · trivial

theorem fallbackPass_within : Within Op.ofMonitor (fallbackPass setup) := by
  have check : ∀ key, Within Op.ofMonitor (fallbackCheck setup key) := by
    intro key
    refine within_perform rfl fun found => ?_
    split
    · refine within_perform rfl fun t => ?_
      split
      · exact within_perform rfl fun answer => uses_call.mpr rfl
      · refine uses_bind (within_perform rfl fun curve => ?_) fun quote =>
          within_perform rfl fun signal => sendExit_within
        split
        · exact uses_call.mpr rfl
        · trivial
    · trivial
  have checks : ∀ keys, Within Op.ofMonitor (fallbackChecks setup keys) := by
    intro keys
    induction keys with
    | nil => trivial
    | cons key rest ih => exact uses_bind (check key) fun _ => ih
  refine within_perform rfl fun keys => ?_
  split
  · trivial
  · exact uses_bind (checks _) fun _ => uses_call.mpr rfl

theorem bondingCurveUpdate_within {mint : Pubkey} {state : Processor.BondingCurveState} :
    Within Op.ofMonitor (bondingCurveUpdate mint state) := by
  refine within_perform rfl fun keys => ?_
  induction keys with
  | nil => trivial
  | cons key rest ih => exact within_perform rfl fun signal => uses_bind sendExit_within fun _ => ih

theorem code_within (setup : Setup) (role : Role) : Within role.alphabet (role.code setup) := by
  cases role with
  | trade t => exact handleTrade_uses (fun _ member _ => member) fun _ _ _ _ _ => rfl
  | trigger t => exact handleTrigger_uses fun _ member _ => member
  | buy b cause => exact claimedBuy_within ⟨b.group.id, b.mint⟩ executeBuy_within
  | externalBuy b cause => exact claimedBuy_within ⟨b.group.id, b.mint⟩ executeExternalBuy_within
  | confirm c => exact buyConfirm_within
  | tokenInfo key mcap => exact within_perform rfl fun name => uses_call.mpr rfl
  | entryPrice key signature tokens => exact entryPrice_within
  | sell signal => exact handleSellSignal_within
  | partialSell groupId mint percent => exact handlePartialSell_within
  | fallback => exact fallbackPass_within
  | grpc mint state => exact bondingCurveUpdate_within
  | cleanup => exact candidateCleanup_uses rfl (fun _ => rfl) (fun _ => rfl) fun _ => rfl

theorem performs_within {s : State} {ok : State → Step → Prop}
    (reach : (process setup).Reachable World.Starts ok s) {i : ℕ} {t : TaskState} {op : Op}
    {next : Ans op → Prog Unit} (here : s.tasks[i]? = some t) (rest : t.rest = .perform op next) :
    t.role.alphabet op = true := by
  have uses : Within t.role.alphabet t.rest := reach.uses (code_within setup) here
  rw [rest] at uses
  exact uses.1

theorem past_within {s : State} {ok : State → Step → Prop}
    (reach : (process setup).Reachable World.Starts ok s) {i : ℕ} {t : TaskState} (here : s.tasks[i]? = some t) :
    ∀ e ∈ t.past, t.role.alphabet e.op = true := by
  have kept := reach.tasks (P := fun t => Within t.role.alphabet t.rest ∧ ∀ e ∈ t.past, t.role.alphabet e.op = true)
    (fun role => ⟨code_within setup role, fun e member => nomatch member⟩) ?_ i t here
  · exact kept.2
  · rintro s i t choice op next answer world there ⟨uses, past⟩ rest fine reply
    rw [rest] at uses
    exact ⟨uses.2 answer, List.forall_mem_append.mpr ⟨past, List.forall_mem_singleton.mpr uses.1⟩⟩

end CopyTrader.Tasks
