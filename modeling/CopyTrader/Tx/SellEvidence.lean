import CopyTrader.Tasks.Alphabet
import CopyTrader.Tx.BalanceAccounts

/-!
# Closing on evidence

A record follows a sell handler: the position and balance it sizes by, whether a sale was sent,
which of its confirmation reads were low. A read that fails counts as a balance of zero, so it
confirms, and so does a low balance of an account that is not the position's; apart from that, a
handler closes its position only when the position's balance was low enough.
-/

namespace CopyTrader.Tx
open Lib AutoSell Tasks Program

/-- Where a balance was read: in the cache, under a mint, or from an account. -/
inductive BalanceSite where
  | cached (mint : Pubkey)
  | asked (account : Pubkey)
  deriving DecidableEq

/-- The balance read there is that of the position: of its mint, or of the wallet's account for it. -/
def BalanceSite.isOf (setup : Setup) (p : Position) : BalanceSite → Bool
  | .cached mint => mint = p.tokenMint
  | .asked account => account = walletAta setup p

structure SellRecord where
  position : Option Position
  balance : Option ℕ
  sent : Bool
  lowReads : List BalanceSite
  failedRead : Bool
  closed : Bool

namespace SellRecord

def start : SellRecord := ⟨none, none, false, [], false, false⟩

def tokenAmount (r : SellRecord) : ℕ :=
  match r.position, r.balance with
  | some p, some b => if 0 < p.tokenAmount then min p.tokenAmount b else b
  | _, _ => 0

def expected (r : SellRecord) : ℕ := r.balance.getD 0 - r.tokenAmount

/-- A balance that was read after the sizing. It is low when a sale was sent and it may be what is left. -/
def read (r : SellRecord) (site : BalanceSite) (balance : ℕ) : SellRecord :=
  { r with lowReads := if r.sent && !r.closed && decide (balance ≤ r.expected) then r.lowReads ++ [site] else r.lowReads }

/-- A balance request after the sizing. An answer without a number is a failed read. -/
def polled (r : SellRecord) (account : Pubkey) : BalanceAnswer → SellRecord
  | .ok (some balance) => r.read (.asked account) balance
  | .joinError => r
  | .rpcError | .ok none => { r with failedRead := r.failedRead || !r.closed }

def next (r : SellRecord) (e : Moment) : SellRecord :=
  match e.op, e.answer with
  | .getPosition _, answer => if r.balance.isNone then { r with position := answer } else r
  | .ataCacheGet mint, some balance =>
    if r.balance.isNone then { r with balance := some balance.val } else r.read (.cached mint) balance
  | .rpcTokenBalance account, answer =>
    if r.balance.isNone then { r with balance := some (directBalance answer) } else r.polled account answer
  | .sendPumpfunSell .., .ok _ | .sendJupiterSell .., .ok _ => { r with sent := true }
  | .markClosed .., _ => { r with closed := true }
  | _, _ => r

/-- The balance of the position was low after a sale had been sent. -/
def evidence (setup : Setup) (r : SellRecord) : Bool :=
  r.position.any fun p => r.lowReads.any (·.isOf setup p)

/-- The balance of something else was low. -/
def strayRead (setup : Setup) (r : SellRecord) : Bool :=
  r.lowReads.any fun site => !r.position.any (site.isOf setup)

/-- A read has shown a low balance, or a read has failed, and not both. -/
def OneRead (r : SellRecord) : Prop :=
  (r.failedRead = true ∧ r.lowReads = []) ∨ (r.failedRead = false ∧ ∃ site, r.lowReads = [site])

theorem OneRead.evidence_iff {setup : Setup} {r : SellRecord} (one : r.OneRead) :
    r.evidence setup = true ↔ r.failedRead = false ∧ r.strayRead setup = false := by
  unfold evidence strayRead
  rcases one with ⟨failed, none⟩ | ⟨succeeded, site, only⟩
  · simp [failed, none]
  · rw [only]
    cases r.position <;> simp [succeeded]

end SellRecord

/-- The record of what a task has done, closing only on a low balance or a failed read. -/
def sellMonitor : Monitor World Op Ans SellRecord where
  trusts _ := True
  allows r
    | .markClosed .. => r.OneRead
    | _ => True
  next := SellRecord.next

def sellRecord (past : List Moment) : SellRecord := sellMonitor.after .start past

structure SellRecord.Undecided (r : SellRecord) (expected : ℕ) : Prop where
  sized : r.balance.isSome = true
  expected_eq : r.expected = expected
  lowReads : r.lowReads = []
  failedRead : r.failedRead = false
  closed : r.closed = false

structure SellRecord.Decided (r : SellRecord) : Prop where
  closed : r.closed = false
  one : r.OneRead

variable {r : SellRecord} {expected : ℕ} {site : BalanceSite} {account : Pubkey}

theorem next_ataCacheGet {w : World} {mint : Pubkey} {balance : U64} (sized : r.balance.isSome = true) :
    sellMonitor.next r ⟨w, .ataCacheGet mint, some balance⟩ = r.read (.cached mint) balance := by
  simp [sellMonitor, SellRecord.next, Option.isNone_eq_false_iff.mpr sized]

theorem next_rpcTokenBalance {w : World} {answer : BalanceAnswer} (sized : r.balance.isSome = true) :
    sellMonitor.next r ⟨w, .rpcTokenBalance account, answer⟩ = r.polled account answer := by
  simp [sellMonitor, SellRecord.next, Option.isNone_eq_false_iff.mpr sized]

namespace SellRecord.Undecided

variable (undecided : r.Undecided expected)
include undecided

theorem read_low {balance : ℕ} (sent : r.sent = true) (low : balance ≤ expected) :
    (r.read site balance).Decided := by
  refine ⟨undecided.closed, Or.inr ⟨undecided.failedRead, site, ?_⟩⟩
  simp [read, sent, undecided.closed, undecided.expected_eq, undecided.lowReads, low]

theorem read_high {balance : ℕ} (high : ¬ balance ≤ expected) : r.read site balance = r := by
  unfold read
  rw [if_neg (by simp [undecided.expected_eq, high])]

theorem failed : ({ r with failedRead := r.failedRead || !r.closed } : SellRecord).Decided :=
  ⟨undecided.closed, Or.inl ⟨by simp [undecided.closed], undecided.lowReads⟩⟩

theorem polled_low {answer : BalanceAnswer} (sent : r.sent = true) (bound : expected < 2 ^ 64 - 1)
    (low : polledBalance answer ≤ expected) : (r.polled account answer).Decided := by
  cases answer with
  | joinError => exact absurd low (Nat.not_le.mpr bound)
  | rpcError => exact undecided.failed
  | ok amount =>
    cases amount with
    | none => exact undecided.failed
    | some balance => exact undecided.read_low sent low

theorem polled_high {answer : BalanceAnswer} (high : ¬ polledBalance answer ≤ expected) :
    r.polled account answer = r := by
  cases answer with
  | joinError => rfl
  | rpcError => exact absurd (Nat.zero_le _) high
  | ok amount =>
    cases amount with
    | none => exact absurd (Nat.zero_le _) high
    | some balance => exact undecided.read_high high

end SellRecord.Undecided

def turnsRecord : Op → Bool
  | .getPosition _ | .ataCacheGet _ | .rpcTokenBalance _ | .sendPumpfunSell .. | .sendJupiterSell .. |
    .markClosed .. => true
  | _ => false

theorem quiet_of_unrecorded {op : Op} (other : turnsRecord op = false) : sellMonitor.Quiet op := by
  cases op <;> first | exact ⟨fun _ => trivial, fun _ _ _ => rfl⟩ | cases other

theorem waitSellConfirmLoop_decides {mint userAta : Pubkey} {sig : Signature} {start : Instant}
    {maxWait : Duration} (bound : expected < 2 ^ 64 - 1) (rounds : ℕ) (seen : Bool)
    (undecided : r.Undecided expected) (sent : r.sent = true) :
    wp sellMonitor
      (fun trace r' => if trace.confirmed then r'.Decided else r'.Undecided expected ∧ r'.sent = true)
      (waitSellConfirmLoop mint userAta sig start maxWait expected rounds seen) r := by
  induction rounds generalizing seen with
  | zero => simpa [waitSellConfirmLoop] using ⟨undecided, sent⟩
  | succ rounds ih =>
    have timedOut : r.Undecided expected ∧ r.sent = true := ⟨undecided, sent⟩
    unfold waitSellConfirmLoop
    refine wp_quiet_bind (elapsed_uses (quiet_of_unrecorded rfl)) fun waited => ?_
    split
    case isFalse => simpa using timedOut
    apply wp_perform trivial
    intro w cached _
    by_cases low : cached.any (·.val ≤ expected)
    · rw [if_pos low]
      cases cached with
      | none => simp at low
      | some balance =>
        rw [next_ataCacheGet undecided.sized]
        exact undecided.read_low sent (by simpa using low)
    · rw [if_neg low]
      have same : sellMonitor.next r ⟨w, .ataCacheGet mint, cached⟩ = r := by
        cases cached with
        | none => rfl
        | some balance =>
          rw [next_ataCacheGet undecided.sized]
          exact undecided.read_high (by simpa using low)
      rw [same]
      refine wp_quiet_bind (sleep_uses (quiet_of_unrecorded rfl) fun _ => quiet_of_unrecorded rfl) fun _ => ?_
      refine wp_quiet_bind (pollSellSignature_uses fun _ => quiet_of_unrecorded rfl) fun status => ?_
      cases status with
      | none => simpa using timedOut
      | some seen =>
        apply wp_perform trivial
        intro w answer _
        rw [next_rpcTokenBalance undecided.sized]
        by_cases low : polledBalance answer ≤ expected
        · rw [if_pos low]
          exact undecided.polled_low sent bound low
        · have differs : (seen && decide (expected = polledBalance answer)) = false := by
            have apart : expected ≠ polledBalance answer := fun same => low same.ge
            simp [apart]
          rw [if_neg low, undecided.polled_high low, differs]
          exact ih seen

/-! ### From one attempt to the whole handler -/

variable {setup : Setup} {position : Position} {tokenAmount confirmMs : ℕ}

theorem waitSellConfirm_decides {sig : Signature} (bound : expected < 2 ^ 64 - 1)
    (undecided : r.Undecided expected) (sent : r.sent = true) :
    wp sellMonitor
      (fun trace r' => if trace.confirmed then r'.Decided else r'.Undecided expected ∧ r'.sent = true)
      (waitSellConfirm setup position sig confirmMs expected) r :=
  wp_quiet_bind (uses_call.mpr (quiet_of_unrecorded rfl)) fun _ =>
    waitSellConfirmLoop_decides bound _ false undecided sent

/-- A sale that was sent marks the record, whatever else it holds. -/
theorem SellRecord.Undecided.send (undecided : r.Undecided expected) :
    ({ r with sent := true } : SellRecord).Undecided expected :=
  ⟨undecided.sized, undecided.expected_eq, undecided.lowReads, undecided.failedRead, undecided.closed⟩

theorem tryJupiterSellWithConfirm_decides (bound : expected < 2 ^ 64 - 1)
    (undecided : r.Undecided expected) :
    wp sellMonitor
      (fun result r' => match result with
        | .ok (_, trace) => if trace.confirmed then r'.Decided else r'.Undecided expected
        | .error _ => r'.Undecided expected)
      (tryJupiterSellWithConfirm setup position tokenAmount confirmMs expected) r := by
  unfold tryJupiterSellWithConfirm tryJupiterSell
  apply wp_perform trivial
  intro w answer _
  cases answer with
  | error err => exact undecided
  | ok sig =>
    refine wp_seq (waitSellConfirm_decides bound undecided.send rfl) fun trace r' held => ?_
    rw [wp_pure]
    dsimp only
    split
    · rename_i confirmed
      rwa [if_pos confirmed] at held
    · rename_i unconfirmed
      rw [if_neg unconfirmed] at held
      exact held.1

theorem tryPumpfunSell_sends (undecided : r.Undecided expected) :
    wp sellMonitor
      (fun result r' => r'.Undecided expected ∧ (result.isOk → r'.sent = true))
      (tryPumpfunSell position tokenAmount) r := by
  unfold tryPumpfunSell
  refine wp_quiet_bind (resolveSellSnapshot_uses fun _ => quiet_of_unrecorded rfl) fun snapshot => ?_
  cases snapshot with
  | none => exact ⟨undecided, fun ok => by cases ok⟩
  | some snapshot =>
    apply wp_perform trivial
    intro w answer _
    cases answer with
    | error err => exact ⟨undecided, fun ok => by cases ok⟩
    | ok sig => exact ⟨undecided.send, fun _ => rfl⟩

/-- After an attempt that confirmed the record is decided, after any other it is not. -/
def AttemptHolds (expected : ℕ) (attempt : SellAttempt) (r : SellRecord) : Prop :=
  match attempt with
  | .confirmed _ => r.Decided
  | .onChainFailure _ | .retry _ => r.Undecided expected

theorem jupiterSellAttempt_holds {unconfirmed : SellAttempt} {failed : String → SellAttempt}
    (bound : expected < 2 ^ 64 - 1) (undecided : r.Undecided expected)
    (unconfirmed_holds : ∀ r' : SellRecord, r'.Undecided expected → AttemptHolds expected unconfirmed r')
    (failed_holds : ∀ err (r' : SellRecord), r'.Undecided expected → AttemptHolds expected (failed err) r') :
    wp sellMonitor (AttemptHolds expected)
      (jupiterSellAttempt setup position tokenAmount confirmMs expected unconfirmed failed) r := by
  unfold jupiterSellAttempt
  refine wp_seq (tryJupiterSellWithConfirm_decides bound undecided) fun result r' held => ?_
  cases result with
  | error err => exact failed_holds err r' held
  | ok result =>
    obtain ⟨sig, trace⟩ := result
    dsimp only at held ⊢
    split
    · rename_i confirmed
      rw [if_pos confirmed] at held
      exact held
    · rename_i unconfirmed
      rw [if_neg unconfirmed] at held
      split
      · exact held
      · exact unconfirmed_holds r' held

theorem pumpfunSellAttempt_holds (bound : expected < 2 ^ 64 - 1) (undecided : r.Undecided expected) :
    wp sellMonitor (AttemptHolds expected)
      (pumpfunSellAttempt setup position tokenAmount confirmMs expected) r := by
  unfold pumpfunSellAttempt
  refine wp_seq (tryPumpfunSell_sends undecided) fun result r' held => ?_
  obtain ⟨undecided, sent⟩ := held
  cases result with
  | error err =>
    exact jupiterSellAttempt_holds bound undecided (fun _ held => held) fun _ _ held => held
  | ok sig =>
    refine wp_seq (waitSellConfirm_decides bound undecided (sent rfl)) fun trace r'' held => ?_
    split
    · rename_i confirmed
      rw [if_pos confirmed] at held
      exact held
    · rename_i unconfirmed
      rw [if_neg unconfirmed] at held
      split
      · exact jupiterSellAttempt_holds bound held.1 (fun _ held => held) fun _ _ held => held
      · exact held.1

theorem sellAttempts_hold {reason : SellReason} {routeViaJupiter : Bool} (bound : expected < 2 ^ 64 - 1)
    (left attempt : ℕ) (failureReason : String) (undecided : r.Undecided expected) :
    wp sellMonitor
      (fun outcome r' => match outcome with
        | .sold _ => r'.Decided
        | .unsold _ => r'.Undecided expected)
      (sellAttempts setup position reason routeViaJupiter tokenAmount expected left attempt failureReason)
      r := by
  induction left generalizing r attempt failureReason with
  | zero => exact undecided
  | succ left ih =>
    have holds : wp sellMonitor (AttemptHolds expected)
        (sellAttempt setup position reason routeViaJupiter tokenAmount expected attempt) r := by
      unfold sellAttempt
      split
      · exact jupiterSellAttempt_holds bound undecided (fun _ held => held) fun _ _ held => held
      · exact pumpfunSellAttempt_holds bound undecided
    unfold sellAttempts
    refine wp_seq holds fun result r' held => ?_
    cases result with
    | confirmed sig => exact held
    | onChainFailure failure => exact held
    | retry failure => exact ih (attempt + 1) (failure.getD failureReason) held

/-- How a handler may end: closed by what decided it, or without anything that decides. -/
def SellRecord.Settled (r : SellRecord) : Prop :=
  (r.closed = true → r.OneRead) ∧ (r.closed = false → r.failedRead = false ∧ r.lowReads = [])

theorem SellRecord.Undecided.settled (undecided : r.Undecided expected) : r.Settled :=
  ⟨fun closed => by simp [undecided.closed] at closed, fun _ => ⟨undecided.failedRead, undecided.lowReads⟩⟩

theorem finishSold_settles {signal : SellSignal} {lastSig : Signature} (decided : r.Decided) :
    wp sellMonitor (fun _ r' => r'.Settled) (finishSold signal position lastSig expected) r := by
  have settled : ({ r with closed := true } : SellRecord).Settled :=
    ⟨fun _ => decided.one, fun notClosed => by cases notClosed⟩
  have cleanup : Uses sellMonitor.Quiet (cleanupMintIfUnused position.tokenMint) :=
    cleanupMintIfUnused_uses (quiet_of_unrecorded rfl) (quiet_of_unrecorded rfl)
      (fun _ => quiet_of_unrecorded rfl) (quiet_of_unrecorded rfl) (quiet_of_unrecorded rfl)
  refine wp_perform decided.one fun _ _ _ => ?_
  refine wp_quiet_bind cleanup fun _ => ?_
  refine wp_perform trivial fun _ _ _ => ?_
  exact ⟨trivial, fun _ _ _ => settled⟩

theorem finishUnsold_settles {signal : SellSignal} {failureReason : String}
    (undecided : r.Undecided expected) :
    wp sellMonitor (fun _ r' => r'.Settled) (finishUnsold signal position failureReason) r := by
  unfold finishUnsold
  apply wp_perform trivial
  intro w current _
  have same : sellMonitor.next r ⟨w, .getPosition signal.positionKey, current⟩ = r := by
    simp [sellMonitor, SellRecord.next, Option.isNone_eq_false_iff.mpr undecided.sized]
  rw [same]
  apply wp_ite
  · intro _
    exact wp_perform trivial fun _ _ _ => ⟨trivial, fun _ _ _ => undecided.settled⟩
  · intro _
    exact wp_perform trivial fun _ _ _ => ⟨trivial, fun _ _ _ => undecided.settled⟩

theorem sellMarked_settles {signal : SellSignal} {snapshot : Option SellAccountSnapshot} {balance : ℕ}
    (undecided : r.Undecided (balance - tokenAmount)) (positive : 0 < tokenAmount)
    (fits : balance < 2 ^ 64) :
    wp sellMonitor (fun _ r' => r'.Settled)
      (sellMarked setup signal position snapshot balance tokenAmount) r := by
  have bound : balance - tokenAmount < 2 ^ 64 - 1 := by omega
  unfold sellMarked
  refine wp_quiet_bind (sellRoute_uses fun _ => quiet_of_unrecorded rfl) fun routeViaJupiter => ?_
  refine wp_seq (sellAttempts_hold bound _ _ _ undecided) fun outcome r' held => ?_
  cases outcome with
  | sold lastSig => exact finishSold_settles held
  | unsold failureReason => exact finishUnsold_settles held

/-- The record of a handler that has read its position and no balance. -/
def SellRecord.sizing (position : Option Position) : SellRecord := ⟨position, none, false, [], false, false⟩

theorem settled_of_clear (closed : r.closed = false) (failedRead : r.failedRead = false) (lowReads : r.lowReads = []) :
    r.Settled :=
  ⟨fun closed' => by simp [closed] at closed', fun _ => ⟨failedRead, lowReads⟩⟩

theorem sizedSale_settles {signal : SellSignal} {snapshot : Option SellAccountSnapshot} {balance : ℕ}
    (fits : balance < 2 ^ 64) :
    let sized : SellRecord := ⟨some position, some balance, false, [], false, false⟩
    let tokenAmount := if 0 < position.tokenAmount then min position.tokenAmount balance else balance
    wp sellMonitor (fun _ r' => r'.Settled)
      (if tokenAmount = 0 then skipZeroBalance signal.positionKey
      else do
        let marked ← perform (.markSelling signal.positionKey)
        if marked then sellMarked setup signal position snapshot balance tokenAmount)
      sized := by
  intro sized tokenAmount
  have clear : sized.Settled := settled_of_clear rfl rfl rfl
  split
  · refine wp_quiet_bind (uses_call.mpr (quiet_of_unrecorded rfl)) fun skips => ?_
    split
    · exact ⟨trivial, fun _ _ _ => clear⟩
    · exact clear
  · rename_i some_sold
    refine wp_quiet_bind (uses_call.mpr (quiet_of_unrecorded rfl)) fun marked => ?_
    split
    · exact sellMarked_settles ⟨rfl, rfl, rfl, rfl, rfl⟩ (Nat.pos_of_ne_zero some_sold) fits
    · exact clear

theorem directBalance_lt (answer : BalanceAnswer) : directBalance answer < 2 ^ 64 := by
  unfold directBalance
  split
  · exact Fin.isLt _
  · decide

theorem sellPosition_settles {signal : SellSignal} {snapshot : Option SellAccountSnapshot} :
    wp sellMonitor (fun _ r' => r'.Settled) (sellPosition setup signal position snapshot)
      (.sizing (some position)) := by
  unfold sellPosition currentBalance
  apply wp_perform trivial
  intro w cached _
  cases cached with
  | some balance => exact sizedSale_settles balance.isLt
  | none =>
    apply wp_perform trivial
    intro w answer _
    exact sizedSale_settles (directBalance_lt answer)

theorem handleSellSignal_settles {signal : SellSignal} {before : Option Position} :
    wp sellMonitor (fun _ r' => r'.Settled) (handleSellSignal setup signal) (.sizing before) := by
  apply handleSellSignal_wp trivial
  · exact fun _ => quiet_of_unrecorded rfl
  · exact fun _ _ => settled_of_clear rfl rfl rfl
  · exact fun _ position snapshot => sellPosition_settles

/-! ### Partial sales -/

def SellRecord.Clear (r : SellRecord) : Prop := r.closed = false ∧ r.failedRead = false ∧ r.lowReads = []

theorem keeps_clear_of_unrecorded {op : Op} (other : turnsRecord op = false) :
    sellMonitor.Keeps SellRecord.Clear op := by
  intro r clear
  have quiet := quiet_of_unrecorded other
  exact ⟨quiet.1 r, fun w answer _ => (quiet.2 r w answer).symm ▸ clear⟩

theorem keeps_clear_sendPumpfunSell {snapshot : SellAccountSnapshot} :
    sellMonitor.Keeps SellRecord.Clear (.sendPumpfunSell position snapshot tokenAmount) := by
  intro r clear
  refine ⟨trivial, fun w answer _ => ?_⟩
  cases answer with
  | ok sig => exact ⟨clear.1, clear.2.1, clear.2.2⟩
  | error err => exact clear

theorem keeps_clear_sendJupiterSell {mint : Pubkey} {slippageBps : ℕ} :
    sellMonitor.Keeps SellRecord.Clear (.sendJupiterSell mint tokenAmount slippageBps) := by
  intro r clear
  refine ⟨trivial, fun w answer _ => ?_⟩
  cases answer with
  | ok sig => exact ⟨clear.1, clear.2.1, clear.2.2⟩
  | error err => exact clear

theorem partialSellMarked_keeps {signal : SellSignal} {mint : Pubkey} {percent : ℕ} :
    Uses (sellMonitor.Keeps SellRecord.Clear) (partialSellMarked signal position mint tokenAmount percent) := by
  refine partialSellMarked_uses (fun _ => ?_) (fun _ => ?_) (fun _ => keeps_clear_sendPumpfunSell)
    keeps_clear_sendJupiterSell ?_ ?_ (fun _ => ?_) ?_
  all_goals exact keeps_clear_of_unrecorded rfl

theorem handlePartialSell_settles {groupId : String} {mint : Pubkey} {percent : ℕ} :
    wp sellMonitor (fun _ r' => r'.Settled) (handlePartialSell setup groupId mint percent) .start := by
  have clear (found : Option Position) : (SellRecord.sizing found).Settled := settled_of_clear rfl rfl rfl
  apply handlePartialSell_wp trivial
  · exact fun _ found => clear found
  · exact fun _ _ position => handleSellSignal_settles
  · intro _ _ position
    refine wp_quiet_bind (uses_call.mpr (quiet_of_unrecorded rfl)) fun marked => ?_
    split
    · exact wp_mono (fun _ r held => settled_of_clear held.1 held.2.1 held.2.2)
        (wp_keeps partialSellMarked_keeps ⟨rfl, rfl, rfl⟩)
    · exact clear (some position)

/-! ### Closing -/

/-- The tasks that run a sale. -/
def Sells : Role → Bool
  | .sell _ | .partialSell .. => true
  | _ => false

theorem code_settles {role : Role} (sells : Sells role = true) :
    wp sellMonitor (fun _ r' => r'.Settled) (role.code setup) .start := by
  cases role with
  | sell signal => exact handleSellSignal_settles
  | partialSell groupId mint percent => exact handlePartialSell_settles
  | _ => cases sells

/-- A closed position was closed on a low balance or after a failed read. -/
def SellRecord.ClosedWell (r : SellRecord) : Prop := r.closed = true → r.OneRead

theorem read_closedWell {balance : ℕ} (well : r.ClosedWell) : (r.read site balance).ClosedWell := by
  intro closed
  have closed : r.closed = true := closed
  have same : r.read site balance = r := by
    unfold SellRecord.read
    rw [if_neg (by simp [closed])]
  rw [same]
  exact well closed

theorem polled_closedWell {answer : BalanceAnswer} (well : r.ClosedWell) : (r.polled account answer).ClosedWell := by
  have failed : ({ r with failedRead := r.failedRead || !r.closed } : SellRecord).ClosedWell := by
    intro closed
    have closed : r.closed = true := closed
    simpa [SellRecord.OneRead, closed] using well closed
  cases answer with
  | joinError => exact well
  | rpcError => exact failed
  | ok amount =>
    cases amount with
    | none => exact failed
    | some balance => exact read_closedWell well

theorem next_closedWell {e : Moment} (allowed : sellMonitor.allows r e.op) (well : r.ClosedWell) :
    (sellMonitor.next r e).ClosedWell := by
  obtain ⟨world, op, answer⟩ := e
  cases op with
  | markClosed => exact fun _ => allowed
  | getPosition =>
    dsimp only [sellMonitor, SellRecord.next]
    split <;> exact well
  | ataCacheGet =>
    cases answer with
    | none => exact well
    | some balance =>
      dsimp only [sellMonitor, SellRecord.next]
      split
      · exact well
      · exact read_closedWell well
  | rpcTokenBalance =>
    dsimp only [sellMonitor, SellRecord.next]
    split
    · exact well
    · exact polled_closedWell well
  | sendPumpfunSell => cases answer <;> exact well
  | sendJupiterSell => cases answer <;> exact well
  | _ => exact well

/-- A handler that has closed its position, or is done, closed it only on a low balance of the position,
unless a balance request of its confirmations has failed, or has shown a low balance of another account. -/
theorem closes_on_evidence_iff {s : State} (reach : (process setup).Reachable World.Starts anyStep s)
    {i : ℕ} {t : TaskState} (here : s.tasks[i]? = some t) (sells : Sells t.role = true)
    (ended : (sellRecord t.past).closed = true ∨ t.rest = .done ()) :
    ((sellRecord t.past).closed = true → (sellRecord t.past).evidence setup = true) ↔
      (sellRecord t.past).failedRead = false ∧ (sellRecord t.past).strayRead setup = false := by
  obtain ⟨ends, well⟩ : t.rest.wp sellMonitor (fun _ r => r.Settled) (sellRecord t.past) ∧
      (sellRecord t.past).ClosedWell :=
    reach.follows_trusting sellMonitor .start (Sells · = true) (·.ClosedWell) (fun _ => trivial)
      (fun _ sells => code_settles sells) (fun closed => Bool.noConfusion closed)
      (fun _ _ allowed well => next_closedWell allowed well) here sells
  cases closed : (sellRecord t.past).closed with
  | true => simp [(well closed).evidence_iff]
  | false =>
    have done : t.rest = .done () := ended.resolve_left (by simp [closed])
    rw [done] at ends
    obtain ⟨failedRead, lowReads⟩ := ends.2 closed
    simp [failedRead, SellRecord.strayRead, lowReads]

/-- A sale of the sample position, whose confirmation reads the balance once. -/
def sampleSale (answer : BalanceAnswer) : List Step :=
  sampleIntake 0 (sampleTrade "t1" false) ++ sampleBuy 1 1000 "b1" ++
    .start (.sell ⟨⟨"g1", 5⟩, "first", .manual, 0, 0⟩) ::
    runs 3 [.nothing, .nothing, .balance (sampleAnswer 1000), .nothing, .migrated none, .sent (.ok "s1"),
      .nothing, .nothing, .nothing, .nothing] ++
    .disturb (.tick (Duration.fromMillis SELL_POLL_MS)) ::
    runs 3 [.nothing, .status .rpcError, .balance answer, .nothing]

theorem closes_on_evidence_iff_sample : ∃ s, (process sampleSetup).Reachable World.Starts anyStep s ∧
    ∃ t, s.tasks[3]? = some t ∧ (sellRecord t.past).closed = true ∧
      (sellRecord t.past).evidence sampleSetup = true := by
  obtain ⟨s, reach, t, here, passes⟩ := reaches_task sampleSetup anyStep sampleGroups
    (sampleSale (sampleAnswer 0)) 3
    (fun t => Sells t.role && (sellRecord t.past).closed && !(sellRecord t.past).failedRead &&
      !(sellRecord t.past).strayRead sampleSetup)
    (by decide +kernel)
  simp only [Bool.and_eq_true, Bool.not_eq_true'] at passes
  obtain ⟨⟨⟨sells, closed⟩, failedRead⟩, stray⟩ := passes
  exact ⟨s, reach, t, here, closed,
    (closes_on_evidence_iff reach here sells (Or.inl closed)).mpr ⟨failedRead, stray⟩ closed⟩

/-- The balance request that fails is taken for a balance of zero. -/
theorem closes_without_evidence : ¬ ∀ s, (process sampleSetup).Reachable World.Starts anyStep s →
    ∀ (i : ℕ) t, s.tasks[i]? = some t → Sells t.role = true → (sellRecord t.past).closed = true →
      (sellRecord t.past).evidence sampleSetup = true := by
  intro claim
  obtain ⟨s, reach, t, here, passes⟩ := reaches_task sampleSetup anyStep sampleGroups
    (sampleSale .rpcError) 3
    (fun t => Sells t.role && (sellRecord t.past).closed && !(sellRecord t.past).evidence sampleSetup)
    (by decide +kernel)
  simp only [Bool.and_eq_true, Bool.not_eq_true'] at passes
  obtain ⟨⟨sells, closed⟩, evidence⟩ := passes
  have shown := claim s reach 3 t here sells closed
  simp [evidence] at shown

end CopyTrader.Tx
