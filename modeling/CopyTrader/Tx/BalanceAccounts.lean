import CopyTrader.Lib.Answers
import CopyTrader.Tasks.Alphabet
import CopyTrader.Tx.Ownership
import CopyTrader.Tx.Routing

/-!
# Accounts whose balances are read

Each task derives the token account of a position by itself.
-/

namespace CopyTrader.Tx
open Lib AutoSell Main Processor Tasks Program

/-- The token program that a position is held under. -/
def tokenProgramOf (p : Position) : Pubkey :=
  p.tokenProgram.getD ((p.sellSnapshot.map (·.tokenProgram)).getD TOKEN_PROGRAM)

/-- The wallet's account for the mint of a position. -/
def walletAta (setup : Setup) (p : Position) : Pubkey :=
  setup.associatedTokenAddress setup.config.pubkey p.tokenMint (tokenProgramOf p)

/-- The account that `handle_sell_signal` sizes a sale by, if it comes to that. -/
def sizingAta (setup : Setup) (p : Position) (prefetched : Option PrefetchedToken) : Option Pubkey :=
  if p.isExternalJupiter then some (setup.positionAta p)
  else (p.sellSnapshot.or (prefetched.map snapshotOf)).map (·.userAta)

/-- The balances that are asked for are those of the given accounts. -/
def ReadsOnly (accounts : List Pubkey) (op : Op) : Prop := ∀ account, op = .rpcTokenBalance account → account ∈ accounts

variable {answers : (op : Op) → Ans op} {setup : Setup} {signal : SellSignal} {p : Position} {key : PositionKey}
  {accounts : List Pubkey} {tokenAmount expected : ℕ}

theorem readsOnly_other {op : Op} (other : ∀ account, op ≠ .rpcTokenBalance account) : ReadsOnly accounts op :=
  fun account same => absurd same (other account)

theorem readsOnly_asked {account : Pubkey} (member : account ∈ accounts) : ReadsOnly accounts (.rpcTokenBalance account) := by
  rintro _ ⟨⟩
  exact member

/-! ### What each task reads -/

theorem buyConfirm_reads {c : ConfirmTask} : Uses (ReadsOnly [c.userAta]) (buyConfirm c) := by
  have other {op : Op} (other : ∀ account, op ≠ .rpcTokenBalance account) : ReadsOnly [c.userAta] op :=
    readsOnly_other other
  refine buyConfirm_uses (other nofun) (fun _ => other nofun) (fun _ _ => ?_) (other nofun) (fun _ _ => ?_) fun _ => ?_
  · exact buyConfirmRound_uses (other nofun) (other nofun) (readsOnly_asked (List.mem_singleton_self _)) (other nofun)
  · exact uses_bind (uses_call.mpr (other nofun)) fun _ => uses_call.mpr (other nofun)
  · refine uses_bind (uses_call.mpr (other nofun)) fun _ => uses_bind (uses_call.mpr (other nofun)) fun _ => ?_
    refine uses_bind (uses_call.mpr (other nofun)) fun _ => uses_bind (uses_call.mpr (other nofun)) fun _ => ?_
    exact uses_bind (uses_call.mpr (other nofun)) fun _ => uses_call.mpr (other nofun)

theorem fallbackCheck_reads (found : answers (.getPosition key) = some p) :
    ∀ op ∈ (fallbackCheck setup key).transcript answers, ReadsOnly [setup.snapshotAta p] op := by
  have other {op : Op} (other : ∀ account, op ≠ .rpcTokenBalance account) : ReadsOnly [setup.snapshotAta p] op :=
    readsOnly_other other
  unfold fallbackCheck
  rw [transcript_bind, eval_getPosition found, List.forall_mem_append]
  refine ⟨transcript_uses (uses_call.mpr (other nofun)), transcript_uses ?_⟩
  refine uses_bind (uses_call.mpr (other nofun)) fun t => uses_ite ?_ ?_
  · refine uses_bind (uses_call.mpr (readsOnly_asked (List.mem_singleton_self _))) fun answer => ?_
    exact uses_call.mpr (other nofun)
  · have quotes : Uses (ReadsOnly [setup.snapshotAta p]) (fallbackQuote p) :=
      uses_bind (uses_call.mpr (other nofun)) fun curve => uses_ite (uses_call.mpr (other nofun)) trivial
    refine uses_bind quotes fun quote => uses_bind (uses_call.mpr (other nofun)) fun signal => ?_
    unfold sendExit
    split
    · exact uses_call.mpr (other nofun)
    · trivial

theorem sellPosition_reads {snapshot : Option SellAccountSnapshot} (sizes : saleAta setup p snapshot ∈ accounts)
    (waits : setup.snapshotAta p ∈ accounts) :
    Uses (ReadsOnly accounts) (sellPosition setup signal p snapshot) := by
  have other {op : Op} (other : ∀ account, op ≠ .rpcTokenBalance account) : ReadsOnly accounts op := readsOnly_other other
  rw [sellPosition_eq]
  refine uses_bind (currentBalance_uses (other nofun) (readsOnly_asked sizes)) fun balance => ?_
  refine uses_ite (skipZeroBalance_uses (other nofun) fun _ => other nofun) ?_
  refine uses_bind (uses_call.mpr (other nofun)) fun marked => uses_ite ?_ trivial
  rw [sellMarked_eq]
  refine uses_bind (sellRoute_uses fun _ => other nofun) fun route => uses_bind ?_ fun outcome => ?_
  · exact sellAttempts_uses (fun _ => other nofun) (fun _ _ => other nofun) (other nofun) fun _ _ =>
      waitSellConfirm_uses (other nofun) (fun _ => other nofun) (other nofun) (fun _ => other nofun)
        (readsOnly_asked waits)
  · cases outcome with
    | sold lastSig =>
      exact finishSold_uses (other nofun) (other nofun) (other nofun) (fun _ => other nofun) (other nofun) (other nofun)
        (other nofun) fun _ => other nofun
    | unsold failureReason =>
      exact finishUnsold_uses (other nofun) (fun _ _ => other nofun) (fun _ => other nofun) fun _ _ => other nofun

theorem resolveSellSnapshot_eval : (resolveSellSnapshot p).eval answers =
    p.sellSnapshot.or ((answers (.prefetchGet p.tokenMint)).map snapshotOf) := by
  unfold resolveSellSnapshot
  cases p.sellSnapshot with
  | some snapshot => rfl
  | none => rfl

theorem handleSellSignal_reads (found : answers (.getPosition signal.positionKey) = some p) :
    ∀ op ∈ (handleSellSignal setup signal).transcript answers,
      ReadsOnly ((sizingAta setup p (answers (.prefetchGet p.tokenMint))).toList ++ [setup.snapshotAta p]) op := by
  have waits {sizes : List Pubkey} : setup.snapshotAta p ∈ sizes ++ [setup.snapshotAta p] :=
    List.mem_append_right _ (List.mem_singleton_self _)
  unfold handleSellSignal
  rw [transcript_bind, eval_getPosition found, List.forall_mem_append]
  refine ⟨transcript_uses (uses_call.mpr (readsOnly_other nofun)), ?_⟩
  unfold sizingAta
  dsimp only
  split
  · exact transcript_uses (sellPosition_reads (List.mem_append_left _ (List.mem_singleton_self _)) waits)
  · rw [transcript_bind, resolveSellSnapshot_eval, List.forall_mem_append]
    refine ⟨transcript_uses (resolveSellSnapshot_uses fun _ => readsOnly_other nofun), ?_⟩
    cases p.sellSnapshot.or ((answers (.prefetchGet p.tokenMint)).map snapshotOf) with
    | none => exact fun op member => nomatch member
    | some snapshot =>
      exact transcript_uses (sellPosition_reads (List.mem_append_left _ (List.mem_singleton_self _)) waits)

/-! ### What a confirmation is handed -/

/-- Follows the position a task has stored last; a confirm task is handed the account of that one. -/
def handingMonitor (setup : Setup) : Monitor World Op Ans (Option Position) where
  trusts _ := True
  allows held
    | .spawnConfirm c => ∃ q, held = some q ∧ q.key = c.positionKey ∧ c.userAta = confirmAta setup q
    | _ => True
  next held e :=
    match e.op with
    | .addPosition p => some p
    | _ => held

theorem handing_quiet {op : Op} (other : opensPosition op = false) : (handingMonitor setup).Quiet op := by
  cases op
  case addPosition | spawnConfirm => cases other
  all_goals exact ⟨fun _ => trivial, fun _ _ _ => rfl⟩

theorem submitBuy_hands {sol : ℚ} {estimatedTokensRaw : ℕ} :
    wp (handingMonitor setup) (fun _ _ => True) (submitBuy setup p (confirmAta setup p) sol estimatedTokensRaw) none := by
  have sentAta (sig : Signature) : confirmAta setup p = confirmAta setup (sentPosition p sig) := by
    unfold sentPosition Position.markSubmitted Position.markConfirming
    split
    · split <;> rfl
    · rfl
  refine wp_quiet_bind (uses_call.mpr (handing_quiet rfl)) fun sent => ?_
  cases sent with
  | error err => exact wp_quiet_bind (uses_call.mpr (handing_quiet rfl)) fun _ => trivial
  | ok sig =>
    refine wp_quiet_bind (uses_call.mpr (handing_quiet rfl)) fun _ => ?_
    apply wp_ite
    · intro _
      refine wp_perform trivial fun _ _ _ => ?_
      exact wp_perform ⟨_, rfl, sentPosition_key p sig, sentAta sig⟩ fun _ _ _ => trivial
    · exact fun _ => trivial

/-- A confirmation that the task starts reads the account of the position that the task has stored for it. -/
def HandsOwn (setup : Setup) (role : Role) : Prop :=
  wp (handingMonitor setup) (fun _ _ => True) (role.code setup) none

theorem code_hands (role : Role) : HandsOwn setup role :=
  code_wp_of_submitBuy (fun _ => handing_quiet) (fun _ _ _ _ => submitBuy_hands) role

/-! ### One account -/

/-- The confirmation of the buy, the fallback monitor, and a sale of the position in any state read one account. -/
structure ReadsOneAccount (setup : Setup) (p : Position) (prefetched : Option PrefetchedToken) (account : Pubkey) :
    Prop where
  confirm : ∀ c : ConfirmTask, c.userAta = confirmAta setup p → Uses (ReadsOnly [account]) (buyConfirm c)
  fallback : ∀ (answers : (op : Op) → Ans op) (key : PositionKey) (state : PositionState),
    answers (.getPosition key) = some { p with state } →
      ∀ op ∈ (fallbackCheck setup key).transcript answers, ReadsOnly [account] op
  sale : ∀ (answers : (op : Op) → Ans op) (signal : SellSignal),
    answers (.getPosition signal.positionKey) = some p → answers (.prefetchGet p.tokenMint) = prefetched →
      ∀ op ∈ (handleSellSignal setup signal).transcript answers, ReadsOnly [account] op

theorem readsOneAccount_of_sites {account : Pubkey} {prefetched : Option PrefetchedToken}
    (confirm : confirmAta setup p = account) (fallback : setup.snapshotAta p = account)
    (sizing : ∀ sized, sizingAta setup p prefetched = some sized → sized = account) :
    ReadsOneAccount setup p prefetched account := by
  constructor
  · intro c handed
    rw [← confirm, ← handed]
    exact buyConfirm_reads
  · intro answers key state found
    rw [← fallback]
    exact fallbackCheck_reads (p := { p with state }) found
  · intro answers signal found prefetch op member asked same
    have within := handleSellSignal_reads found op member asked same
    rw [prefetch] at within
    obtain sizes | waits := List.mem_append.mp within
    · rw [sizing asked (Option.mem_toList.mp sizes)]
      exact List.mem_singleton_self account
    · rw [List.mem_singleton.mp waits, fallback]
      exact List.mem_singleton_self account

/-- Answers that lead to the balances: the caches are empty, and the position has been held for long. -/
def watching (p : Position) (prefetched : Option PrefetchedToken) (t : Instant) : (op : Op) → Ans op
  | .getPosition _ => some p
  | .prefetchGet _ => prefetched
  | .now => t
  | .ataCacheGet _ => none
  | op => sampleAnswers none op

theorem needsConfirmCheck_late {q : Position} (submitted : q.state = .submitted) (secs : ℕ) :
    q.needsConfirmCheck secs (q.createdAt + Duration.fromSecs secs) = true := by
  have held : q.heldSeconds (q.createdAt + Duration.fromSecs secs) = secs := by
    unfold Position.heldSeconds Instant.durationSince Duration.fromSecs Duration.asSecs
    omega
  unfold Position.needsConfirmCheck
  rw [submitted, held]
  simp

theorem fallbackCheck_asks (found : answers (.getPosition key) = some p)
    (late : p.needsConfirmCheck setup.config.confirmTimeoutSecs (answers .now) = true) :
    Op.rpcTokenBalance (setup.snapshotAta p) ∈ (fallbackCheck setup key).transcript answers := by
  unfold fallbackCheck
  rw [transcript_bind, eval_getPosition found]
  refine List.mem_append_right _ ?_
  rw [transcript_bind]
  refine List.mem_append_right _ ?_
  rw [show (Tasks.perform .now).eval answers = answers .now from rfl, if_pos late]
  exact List.mem_cons_self

theorem fallback_site {account : Pubkey} {prefetched : Option PrefetchedToken}
    (reads : ReadsOneAccount setup p prefetched account) : setup.snapshotAta p = account := by
  have asks : Op.rpcTokenBalance (setup.snapshotAta { p with state := .submitted }) ∈
      (fallbackCheck setup p.key).transcript (watching { p with state := .submitted } prefetched _) :=
    fallbackCheck_asks rfl (needsConfirmCheck_late rfl _)
  exact List.mem_singleton.mp (reads.fallback _ p.key .submitted rfl _ asks _ rfl)

theorem sellPosition_asks {snapshot : Option SellAccountSnapshot} (uncached : answers (.ataCacheGet p.tokenMint) = none) :
    Op.rpcTokenBalance (saleAta setup p snapshot) ∈ (sellPosition setup signal p snapshot).transcript answers := by
  rw [sellPosition_eq, transcript_bind]
  refine List.mem_append_left _ ?_
  unfold currentBalance
  rw [transcript_bind]
  refine List.mem_append_right _ ?_
  rw [show (Tasks.perform (.ataCacheGet p.tokenMint)).eval answers = none from uncached]
  exact List.mem_cons_self

theorem sale_site {account sized : Pubkey} {prefetched : Option PrefetchedToken}
    (reads : ReadsOneAccount setup p prefetched account) (sizes : sizingAta setup p prefetched = some sized) :
    sized = account := by
  have asks : Op.rpcTokenBalance sized ∈
      (handleSellSignal setup (manualSignal p.group.id p.tokenMint p)).transcript (watching p prefetched 0) := by
    unfold handleSellSignal
    rw [transcript_bind, show (Tasks.perform (.getPosition _)).eval (watching p prefetched 0) = some p from rfl]
    refine List.mem_append_right _ ?_
    unfold sizingAta at sizes
    dsimp only
    split at sizes
    · rename_i external
      rw [if_pos external, ← Option.some.inj sizes]
      exact sellPosition_asks rfl
    · rename_i curve
      rw [if_neg curve, transcript_bind, resolveSellSnapshot_eval]
      refine List.mem_append_right _ ?_
      rw [show watching p prefetched 0 (.prefetchGet p.tokenMint) = prefetched from rfl]
      cases resolved : p.sellSnapshot.or (prefetched.map snapshotOf) with
      | none =>
        rw [resolved] at sizes
        cases sizes
      | some snapshot =>
        rw [resolved] at sizes
        obtain rfl := Option.some.inj sizes
        exact sellPosition_asks rfl
  exact List.mem_singleton.mp (reads.sale _ _ rfl rfl _ asks _ rfl)

theorem snapshotAta_wallet (distinct : Function.Injective (setup.associatedTokenAddress setup.config.pubkey p.tokenMint))
    (own : ∀ snapshot, p.sellSnapshot = some snapshot → snapshot.userAta = walletAta setup p) :
    setup.snapshotAta p = walletAta setup p ↔ (p.sellSnapshot = none → tokenProgramOf p = TOKEN_PROGRAM) := by
  unfold Setup.snapshotAta
  cases stored : p.sellSnapshot with
  | none => exact ⟨fun same _ => (distinct same).symm, fun standard => congrArg _ (standard rfl).symm⟩
  | some snapshot => exact ⟨fun _ missing => (nomatch missing), fun _ => own snapshot stored⟩

theorem positionAta_wallet (distinct : Function.Injective (setup.associatedTokenAddress setup.config.pubkey p.tokenMint)) :
    setup.positionAta p = walletAta setup p ↔ p.tokenProgram.getD TOKEN_PROGRAM = tokenProgramOf p :=
  distinct.eq_iff

theorem curveSizing_wallet {prefetched : Option PrefetchedToken} (curve : p.isExternalJupiter = false)
    (own : ∀ snapshot, p.sellSnapshot = some snapshot → snapshot.userAta = walletAta setup p) :
    (∀ sized, sizingAta setup p prefetched = some sized → sized = walletAta setup p) ↔
      (p.sellSnapshot = none → ∀ token, prefetched = some token → token.userAta = walletAta setup p) := by
  unfold sizingAta
  rw [if_neg (Bool.eq_false_iff.mp curve)]
  cases stored : p.sellSnapshot with
  | none =>
    constructor
    · rintro sizes - token rfl
      exact sizes _ rfl
    · intro tokens sized sizes
      cases prefetched with
      | none => cases sizes
      | some token =>
        obtain rfl := Option.some.inj sizes
        exact tokens rfl token rfl
  | some snapshot =>
    refine ⟨fun _ missing => (nomatch missing), fun _ sized sizes => ?_⟩
    obtain rfl := Option.some.inj sizes
    exact own snapshot stored

/-- Every confirmation is handed the account of its position, and one account is read exactly if a position without a
snapshot is held under the standard token program, one that was bought on Jupiter knows its program itself, and one of
the curve without a snapshot is prefetched under its own. -/
theorem readsOneAccount_iff (setup : Setup) (p : Position) (prefetched : Option PrefetchedToken)
    (distinct : Function.Injective (setup.associatedTokenAddress setup.config.pubkey p.tokenMint))
    (own : ∀ snapshot, p.sellSnapshot = some snapshot → snapshot.userAta = walletAta setup p) :
    (∀ role, HandsOwn setup role) ∧
    (ReadsOneAccount setup p prefetched (walletAta setup p) ↔
      (p.sellSnapshot = none → tokenProgramOf p = TOKEN_PROGRAM) ∧
      (p.isExternalJupiter = true → p.tokenProgram.getD TOKEN_PROGRAM = tokenProgramOf p) ∧
      (p.isExternalJupiter = false → p.sellSnapshot = none → ∀ token, prefetched = some token →
        token.userAta = walletAta setup p)) := by
  refine ⟨code_hands, ?_⟩
  rw [← snapshotAta_wallet distinct own, ← positionAta_wallet distinct]
  constructor
  · intro reads
    refine ⟨fallback_site reads, fun external => sale_site reads (if_pos external), fun curve => ?_⟩
    exact (curveSizing_wallet curve own).mp fun sized => sale_site reads
  · rintro ⟨fallback, position, tokens⟩
    cases external : p.isExternalJupiter with
    | true =>
      refine readsOneAccount_of_sites ((if_pos external).trans (position external)) fallback fun sized sizes => ?_
      rw [sizingAta, if_pos external] at sizes
      exact (Option.some.inj sizes).symm.trans (position external)
    | false =>
      refine readsOneAccount_of_sites ((if_neg (Bool.eq_false_iff.mp external)).trans fallback) fallback ?_
      exact (curveSizing_wallet external own).mpr (tokens external)

/-- Addresses that tell token programs apart. -/
def tokenProgramsSetup : Setup := { sampleSetup with associatedTokenAddress := fun _ mint program => mint + program }

theorem readsOneAccount_sample : ReadsOneAccount tokenProgramsSetup sampleExternal none (9 + TOKEN_PROGRAM) :=
  (readsOneAccount_iff tokenProgramsSetup sampleExternal none (fun _ _ => (BitVec.add_right_inj _).mp) nofun).2.mpr
    ⟨fun _ => rfl, fun _ => rfl, nofun⟩

/-- A position of the newer token program is sized by one account, and watched by another. -/
theorem readsOneAccount_not :
    ¬ReadsOneAccount tokenProgramsSetup { sampleExternal with tokenProgram := some TOKEN_2022_PROGRAM } none
      (9 + TOKEN_2022_PROGRAM) := by
  intro reads
  have watched := fallback_site reads
  have other : TOKEN_PROGRAM ≠ TOKEN_2022_PROGRAM := by
    unfold TOKEN_2022_PROGRAM Pubkey.ofText
    decide +kernel
  exact other ((BitVec.add_right_inj _).mp watched)

end CopyTrader.Tx
