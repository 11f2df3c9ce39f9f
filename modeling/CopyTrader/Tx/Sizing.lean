import CopyTrader.Tasks.Alphabet
import CopyTrader.Tasks.Reads
import CopyTrader.Tx.SellEvidence
import Mathlib.Algebra.GroupWithZero.Nat
import Mathlib.Algebra.Order.BigOperators.Group.List
import Mathlib.Algebra.Order.Group.Nat

/-!
# How much a sale sells

A sell handler sizes its sale once, by the position and the balance it has read. Every transaction
of its attempts asks for this amount; none of them looks at what the earlier ones have moved.
-/

namespace CopyTrader.Tx
open Lib AutoSell Tasks Program

/-- The amount a transaction asks to sell. -/
def sellsAmount : Op → Option ℕ
  | .sendPumpfunSell _ _ tokenAmount | .sendJupiterSell _ tokenAmount _ => some tokenAmount
  | _ => none

/-- A transaction that was sent, and the amount it sells. -/
def sentSale (e : Moment) : Option (Signature × ℕ) :=
  match e.op, e.answer with
  | .sendPumpfunSell _ _ tokenAmount, .ok sig | .sendJupiterSell _ tokenAmount _, .ok sig =>
    some (sig, tokenAmount)
  | _, _ => none

def sentSales (t : TaskState) : List (Signature × ℕ) := t.past.filterMap sentSale

/-- The transactions of a task that have landed. -/
def landedSales (t : TaskState) (ledger : Ledger) : Ledger :=
  ledger.filter fun l => l.signature ∈ (sentSales t).map Prod.fst

/-- What the transactions of a task have moved out of an account. -/
def movedOut (t : TaskState) (ledger : Ledger) (account : Pubkey) : ℕ :=
  ((landedSales t ledger).map (·.debit account)).sum

/-- A transaction of the task moves no more than the amount it sells. -/
def LandsAsSent (t : TaskState) (ledger : Ledger) (account : Pubkey) : Prop :=
  ∀ l ∈ ledger, ∀ sale ∈ sentSales t, l.signature = sale.1 → l.debit account ≤ sale.2

instance (t : TaskState) (ledger : Ledger) (account : Pubkey) : Decidable (LandsAsSent t ledger account) :=
  inferInstanceAs (Decidable (∀ l ∈ ledger, ∀ sale ∈ sentSales t, l.signature = sale.1 → l.debit account ≤ sale.2))

/-- A transaction of the task that lands moves all that it sells. -/
def LandsInFull (t : TaskState) (ledger : Ledger) (account : Pubkey) : Prop :=
  ∀ l ∈ ledger, ∀ sale ∈ sentSales t, l.signature = sale.1 → l.debit account = sale.2

/-! ### The record of the sizing -/

variable {r : SellRecord} {e : Moment}

/-- Once a sale is sized, the record keeps its position and balance. -/
theorem SellRecord.next_sized (sized : r.balance.isSome = true) :
    (r.next e).position = r.position ∧ (r.next e).balance = r.balance := by
  have later : r.balance.isNone = false := Option.isNone_eq_false_iff.mpr sized
  obtain ⟨w, op, answer⟩ := e
  cases op
  case getPosition => simp [SellRecord.next, later]
  case ataCacheGet =>
    cases answer with
    | none => exact ⟨rfl, rfl⟩
    | some balance => simp [SellRecord.next, later, SellRecord.read]
  case rpcTokenBalance =>
    cases answer with
    | joinError | rpcError => simp [SellRecord.next, later, SellRecord.polled]
    | ok amount => cases amount <;> simp [SellRecord.next, later, SellRecord.polled, SellRecord.read]
  case sendPumpfunSell | sendJupiterSell => cases answer <;> exact ⟨rfl, rfl⟩
  all_goals exact ⟨rfl, rfl⟩

/-- The sale is sized to `amount`, and has asked for at most `sends` transactions. -/
structure Sized (amount sends : ℕ) (q : SellRecord × List ℕ) : Prop where
  sized : q.1.balance.isSome = true
  amount_eq : q.1.tokenAmount = amount
  room : q.2.length ≤ sends

/-- Follows the sizing of a sale and the amounts it asks to sell: each transaction is sent after
the sizing, for the amount it gave. -/
def sizingMonitor (limit : ℕ) : Monitor World Op Ans (SellRecord × List ℕ) where
  trusts _ := True
  allows q op := ∀ tokenAmount, sellsAmount op = some tokenAmount →
    q.1.balance.isSome = true ∧ tokenAmount = q.1.tokenAmount ∧ q.2.length < limit
  next q e := (q.1.next e, q.2 ++ (sellsAmount e.op).toList)

variable {limit amount sends : ℕ}

theorem SellRecord.next_tokenAmount (sized : r.balance.isSome = true) : (r.next e).tokenAmount = r.tokenAmount := by
  obtain ⟨position, balance⟩ := SellRecord.next_sized (e := e) sized
  rw [tokenAmount, position, balance]
  rfl

theorem Sized.next {q : SellRecord × List ℕ} (held : Sized amount sends q) (e : Moment) :
    Sized amount (sends + (sellsAmount e.op).toList.length) ((sizingMonitor limit).next q e) := by
  constructor
  · show (q.1.next e).balance.isSome = true
    rw [(SellRecord.next_sized held.sized).2]
    exact held.sized
  · exact (SellRecord.next_tokenAmount held.sized).trans held.amount_eq
  · show (q.2 ++ _).length ≤ _
    rw [List.length_append]
    exact Nat.add_le_add_right held.room _

theorem Sized.mono {more : ℕ} {q : SellRecord × List ℕ} (held : Sized amount sends q) (le : sends ≤ more) :
    Sized amount more q :=
  ⟨held.sized, held.amount_eq, held.room.trans le⟩

theorem sizing_allows {q : SellRecord × List ℕ} {op : Op} (silent : sellsAmount op = none) :
    (sizingMonitor limit).allows q op := by
  intro tokenAmount sells
  rw [silent] at sells
  cases sells

theorem sizing_keeps {op : Op} (silent : sellsAmount op = none) :
    (sizingMonitor limit).Keeps (Sized amount sends) op := by
  intro q held
  refine ⟨sizing_allows silent, ?_⟩
  intro w answer _
  have after : Sized amount _ ((sizingMonitor limit).next q ⟨w, op, answer⟩) := held.next ⟨w, op, answer⟩
  rwa [silent] at after

theorem sizing_keeps_of_wait (op : Op) (waits : op.ofSellWait = true) :
    (sizingMonitor limit).Keeps (Sized amount sends) op := by
  cases op <;> first | exact sizing_keeps rfl | cases waits

/-- The rule for a transaction: it takes one of those left. -/
theorem sizing_sends {α : Type} {op : Op} {f : Ans op → Prog α} {q : SellRecord × List ℕ}
    {post : α → SellRecord × List ℕ → Prop} (held : Sized amount sends q) (sells : sellsAmount op = some amount)
    (left : sends < limit) (rest : ∀ answer q', Sized amount (sends + 1) q' → wp (sizingMonitor limit) post (f answer) q') :
    wp (sizingMonitor limit) post (perform op >>= f) q := by
  apply wp_perform
  · intro tokenAmount same
    rw [sells] at same
    exact ⟨held.sized, (Option.some.inj same).symm.trans held.amount_eq.symm, held.room.trans_lt left⟩
  · intro w answer _
    have after : Sized amount _ ((sizingMonitor limit).next q ⟨w, op, answer⟩) := held.next ⟨w, op, answer⟩
    rw [sells] at after
    exact rest answer _ after

/-! ### From one attempt to the whole handler -/

variable {setup : Setup} {position : Position} {confirmMs expected : ℕ} {q : SellRecord × List ℕ}

theorem waitSellConfirm_sized {sig : Signature} (held : Sized amount sends q) :
    wp (sizingMonitor limit) (fun _ => Sized amount sends) (waitSellConfirm setup position sig confirmMs expected) q :=
  wp_keeps (uses_mono sizing_keeps_of_wait waitSellConfirm_waits) held

theorem tryPumpfunSell_sized (held : Sized amount sends q) (left : sends < limit) :
    wp (sizingMonitor limit) (fun _ => Sized amount (sends + 1)) (tryPumpfunSell position amount) q := by
  have reads : Uses ((sizingMonitor limit).Keeps (Sized amount sends)) (resolveSellSnapshot position) :=
    resolveSellSnapshot_uses fun _ => sizing_keeps rfl
  refine wp_seq (wp_keeps reads held) fun snapshot q' held' => ?_
  cases snapshot with
  | none => exact held'.mono (Nat.le_succ _)
  | some snapshot => exact sizing_sends held' rfl left fun answer q'' held'' => held''

theorem jupiterSellAttempt_sized {unconfirmed : SellAttempt} {failed : String → SellAttempt}
    (held : Sized amount sends q) (left : sends < limit) :
    wp (sizingMonitor limit) (fun _ => Sized amount (sends + 1))
      (jupiterSellAttempt setup position amount confirmMs expected unconfirmed failed) q := by
  have tries : wp (sizingMonitor limit) (fun _ => Sized amount (sends + 1))
      (tryJupiterSellWithConfirm setup position amount confirmMs expected) q := by
    refine sizing_sends held rfl left fun answer q' held' => ?_
    cases answer with
    | error err => exact held'
    | ok sig => exact wp_seq (waitSellConfirm_sized held') fun trace q'' held'' => held''
  refine wp_seq tries fun result q' held' => ?_
  cases result with
  | error err => exact held'
  | ok result => exact wp_ite (fun _ => held') fun _ => wp_ite (fun _ => held') fun _ => held'

theorem pumpfunSellAttempt_sized (held : Sized amount sends q) (left : sends + 1 < limit) :
    wp (sizingMonitor limit) (fun _ => Sized amount (sends + 2))
      (pumpfunSellAttempt setup position amount confirmMs expected) q := by
  refine wp_seq (tryPumpfunSell_sized held (Nat.lt_of_succ_lt left)) fun result q' held' => ?_
  cases result with
  | error err => exact jupiterSellAttempt_sized held' left
  | ok sig =>
    refine wp_seq (waitSellConfirm_sized held') fun trace q'' held'' => ?_
    have kept := held''.mono (Nat.le_succ _)
    exact wp_ite (fun _ => kept) fun _ => wp_ite (fun _ => jupiterSellAttempt_sized held'' left) fun _ => kept

theorem sellAttempts_sized {reason : SellReason} {routeViaJupiter : Bool} (left attempt : ℕ)
    (failureReason : String) (held : Sized amount sends q) (room : sends + 2 * left ≤ limit) :
    wp (sizingMonitor limit) (fun _ => Sized amount (sends + 2 * left))
      (sellAttempts setup position reason routeViaJupiter amount expected left attempt failureReason) q := by
  induction left generalizing q sends attempt failureReason with
  | zero => exact held
  | succ left ih =>
    have attempts : wp (sizingMonitor limit) (fun _ => Sized amount (sends + 2))
        (sellAttempt setup position reason routeViaJupiter amount expected attempt) q := by
      apply wp_ite
      · intro _
        exact wp_mono (fun _ q' held' => held'.mono (Nat.le_succ _)) (jupiterSellAttempt_sized held (by omega))
      · intro _
        exact pumpfunSellAttempt_sized held (by omega)
    refine wp_seq attempts fun result q' held' => ?_
    have enough : sends + 2 + 2 * left = sends + 2 * (left + 1) := by omega
    cases result with
    | confirmed sig => exact held'.mono (by omega)
    | onChainFailure failure => exact held'.mono (by omega)
    | retry failure =>
      rw [← enough]
      exact ih (attempt + 1) (failure.getD failureReason) held' (enough ▸ room)

theorem sizing_keeps_true {op : Op} (silent : sellsAmount op = none) :
    (sizingMonitor limit).Keeps (fun _ => True) op :=
  fun _ _ => ⟨sizing_allows silent, fun _ _ _ => trivial⟩

theorem sizing_quiet {op : Op} (other : turnsRecord op = false) : (sizingMonitor limit).Quiet op := by
  have same := (quiet_of_unrecorded other).2
  have silent : sellsAmount op = none := by
    cases op <;> first | rfl | cases other
  refine ⟨fun q => sizing_allows silent, ?_⟩
  intro q w answer
  refine Prod.ext (same q.1 w answer) ?_
  show q.2 ++ (sellsAmount op).toList = q.2
  rw [silent]
  exact List.append_nil _

theorem finishSold_silent {signal : SellSignal} {lastSig : Signature} :
    Uses ((sizingMonitor limit).Keeps fun _ => True) (finishSold signal position lastSig expected) := by
  refine finishSold_uses ?_ ?_ ?_ (fun _ => ?_) ?_ ?_ ?_ fun _ => ?_
  all_goals exact sizing_keeps_true rfl

theorem finishUnsold_silent {signal : SellSignal} {failureReason : String} :
    Uses ((sizingMonitor limit).Keeps fun _ => True) (finishUnsold signal position failureReason) :=
  finishUnsold_uses (sizing_keeps_true rfl) (fun _ _ => sizing_keeps_true rfl) (fun _ => sizing_keeps_true rfl)
    fun _ _ => sizing_keeps_true rfl

/-- A whole sale sends at most two transactions in each of its attempts. -/
def saleLimit : ℕ := 2 * MAX_SELL_RETRIES

theorem sellMarked_sized {signal : SellSignal} {snapshot : Option SellAccountSnapshot} {balance : ℕ}
    (held : Sized amount 0 q) :
    wp (sizingMonitor saleLimit) (fun _ _ => True) (sellMarked setup signal position snapshot balance amount) q := by
  have routes : Uses ((sizingMonitor saleLimit).Keeps (Sized amount 0)) (sellRoute position snapshot) :=
    sellRoute_uses fun _ => sizing_keeps rfl
  refine wp_seq (wp_keeps routes held) fun routeViaJupiter q' held' => ?_
  refine wp_seq (sellAttempts_sized MAX_SELL_RETRIES 1 _ held' (Nat.zero_add _).le) fun outcome q'' _ => ?_
  cases outcome with
  | sold lastSig => exact wp_keeps finishSold_silent trivial
  | unsold failureReason => exact wp_keeps finishUnsold_silent trivial

theorem sizedSale_sized {signal : SellSignal} {snapshot : Option SellAccountSnapshot} {balance : ℕ}
    (held : Sized amount 0 q) :
    wp (sizingMonitor saleLimit) (fun _ _ => True)
      (if amount = 0 then skipZeroBalance signal.positionKey
      else do
        let marked ← perform (.markSelling signal.positionKey)
        if marked then sellMarked setup signal position snapshot balance amount) q := by
  apply wp_ite
  · intro _
    exact wp_keeps (skipZeroBalance_uses (sizing_keeps_true rfl) fun _ => sizing_keeps_true rfl) trivial
  · intro _
    refine wp_quiet_bind (uses_call.mpr (sizing_quiet rfl)) fun marked => ?_
    exact wp_ite (fun _ => sellMarked_sized held) fun _ => trivial

theorem sellPosition_sized {signal : SellSignal} {snapshot : Option SellAccountSnapshot} :
    wp (sizingMonitor saleLimit) (fun _ _ => True) (sellPosition setup signal position snapshot)
      (.sizing (some position), []) := by
  unfold sellPosition currentBalance
  apply wp_perform (sizing_allows rfl)
  intro w cached _
  cases cached with
  | some balance => exact sizedSale_sized ⟨rfl, rfl, Nat.le_refl 0⟩
  | none =>
    apply wp_perform (sizing_allows rfl)
    intro w answer _
    exact sizedSale_sized ⟨rfl, rfl, Nat.le_refl 0⟩

theorem handleSellSignal_sized {signal : SellSignal} {before : Option Position} :
    wp (sizingMonitor saleLimit) (fun _ _ => True) (handleSellSignal setup signal) (.sizing before, []) := by
  apply handleSellSignal_wp (sizing_allows rfl)
  · exact fun _ => sizing_quiet rfl
  · exact fun _ _ => trivial
  · exact fun _ position snapshot => sellPosition_sized

/-- The tasks that run `handle_sell_signal`. -/
def sellsWhole : Role → Bool
  | .sell _ => true
  | .partialSell _ _ percent => 100 ≤ percent
  | _ => false

theorem code_sized {role : Role} (whole : sellsWhole role = true) :
    wp (sizingMonitor saleLimit) (fun _ _ => True) (role.code setup) (.start, []) := by
  cases role with
  | sell signal => exact handleSellSignal_sized
  | partialSell groupId mint percent =>
    apply handlePartialSell_wp (sizing_allows rfl)
    · exact fun _ _ => trivial
    · exact fun _ w position => handleSellSignal_sized
    · exact fun part => absurd (of_decide_eq_true whole) (Nat.not_le.mpr part)
  | _ => cases whole

/-! ### What a sale moves -/

/-- Every amount asked for is the one the sale was sized to. -/
structure AskedAsSized (q : SellRecord × List ℕ) : Prop where
  amounts : ∀ tokenAmount ∈ q.2, tokenAmount = q.1.tokenAmount
  sized : q.2 ≠ [] → q.1.balance.isSome = true
  room : q.2.length ≤ saleLimit

theorem AskedAsSized.next {q : SellRecord × List ℕ} (allowed : (sizingMonitor saleLimit).allows q e.op)
    (held : AskedAsSized q) : AskedAsSized ((sizingMonitor saleLimit).next q e) := by
  cases sells : sellsAmount e.op with
  | some tokenAmount =>
    obtain ⟨sized, asked, left⟩ := allowed tokenAmount sells
    have same : (q.1.next e).tokenAmount = q.1.tokenAmount := SellRecord.next_tokenAmount sized
    have grown : ((sizingMonitor saleLimit).next q e) = (q.1.next e, q.2 ++ [tokenAmount]) := by
      simp [sizingMonitor, sells]
    rw [grown]
    constructor
    · intro other member
      rw [same]
      rcases List.mem_append.mp member with old | new
      · exact held.amounts other old
      · exact (List.mem_singleton.mp new).trans asked
    · intro _
      exact ((SellRecord.next_sized sized).2 ▸ sized :)
    · show (q.2 ++ [tokenAmount]).length ≤ saleLimit
      rw [List.length_append]
      exact left
  | none =>
    have kept : ((sizingMonitor saleLimit).next q e) = (q.1.next e, q.2) := by
      simp [sizingMonitor, sells]
    rw [kept]
    constructor
    · intro other member
      have sized := held.sized (List.ne_nil_of_mem member)
      exact (held.amounts other member).trans (SellRecord.next_tokenAmount sized).symm
    · intro some_asked
      have sized := held.sized some_asked
      exact ((SellRecord.next_sized sized).2 ▸ sized :)
    · exact held.room

/-- The amounts that a task has asked to sell. -/
def askedAmounts (t : TaskState) : List ℕ := t.past.filterMap fun e => sellsAmount e.op

theorem sizing_after (past : List Moment) : (sizingMonitor limit).after (.start, []) past =
    (sellRecord past, past.filterMap fun e => sellsAmount e.op) := by
  induction past using List.reverseRecOn with
  | nil => rfl
  | append_singleton past e ih =>
    have recorded : sellRecord (past ++ [e]) = (sellRecord past).next e := Monitor.after_snoc ..
    rw [Monitor.after_snoc, ih, recorded, List.filterMap_append]
    cases sells : sellsAmount e.op <;> simp [sizingMonitor, sells]

theorem sentSale_amount {sale : Signature × ℕ} (sent : sentSale e = some sale) :
    sellsAmount e.op = some sale.2 := by
  obtain ⟨w, op, answer⟩ := e
  cases op
  case sendPumpfunSell | sendJupiterSell =>
    cases answer with
    | error err => cases sent
    | ok sig =>
      cases sent
      rfl
  all_goals cases sent

theorem sentSales_sublist (t : TaskState) : ((sentSales t).map Prod.snd).Sublist (askedAmounts t) :=
  map_filterMap_sublist (fun _ _ sent => sentSale_amount sent) t.past

theorem movedOut_le {t : TaskState} {ledger : Ledger} {account : Pubkey} (lands : LandsAsSent t ledger account)
    (same : ∀ sale ∈ sentSales t, sale.2 = amount) :
    movedOut t ledger account ≤ (landedSales t ledger).length * amount := by
  have each : ∀ moved ∈ (landedSales t ledger).map (·.debit account), moved ≤ amount := by
    intro moved member
    obtain ⟨l, landed, rfl⟩ := List.mem_map.mp member
    obtain ⟨there, signed⟩ := List.mem_filter.mp landed
    obtain ⟨sale, sent, mine⟩ := List.mem_map.mp (of_decide_eq_true signed)
    rw [← same sale sent]
    exact lands l there sale sent mine.symm
  have total := List.sum_le_card_nsmul _ _ each
  rwa [List.length_map, Nat.nsmul_eq_mul] at total

theorem movedOut_eq {t : TaskState} {ledger : Ledger} {account : Pubkey} (lands : LandsInFull t ledger account)
    (same : ∀ sale ∈ sentSales t, sale.2 = amount) :
    movedOut t ledger account = (landedSales t ledger).length * amount := by
  have each : ∀ moved ∈ (landedSales t ledger).map (·.debit account), moved = amount := by
    intro moved member
    obtain ⟨l, landed, rfl⟩ := List.mem_map.mp member
    obtain ⟨there, signed⟩ := List.mem_filter.mp landed
    obtain ⟨sale, sent, mine⟩ := List.mem_map.mp (of_decide_eq_true signed)
    rw [← same sale sent]
    exact lands l there sale sent mine.symm
  have total := List.sum_eq_card_nsmul _ _ each
  rwa [List.length_map, Nat.nsmul_eq_mul] at total

/-- So many sales of the sized amount are covered when there is one at most, of a known amount, or when
the balance that sized them is small enough. -/
theorem covered_iff {p : Position} (sized : r.position = some p) (n : ℕ) :
    n * r.tokenAmount ≤ p.tokenAmount ↔
      (0 < p.tokenAmount ∧ n ≤ 1) ∨ n * r.balance.getD 0 ≤ p.tokenAmount := by
  unfold SellRecord.tokenAmount
  rw [sized]
  cases r.balance with
  | none => simp
  | some balance =>
    dsimp only [Option.getD_some]
    split
    · rename_i known
      constructor
      · intro covered
        by_cases once : n ≤ 1
        · exact Or.inl ⟨known, once⟩
        · right
          rcases Nat.le_total p.tokenAmount balance with more | less
          · rw [min_eq_left more] at covered
            have twice : 2 * p.tokenAmount ≤ n * p.tokenAmount := Nat.mul_le_mul_right _ (by omega)
            omega
          · rwa [min_eq_right less] at covered
      · rintro (⟨_, once⟩ | small)
        · calc n * min p.tokenAmount balance
              ≤ 1 * p.tokenAmount := Nat.mul_le_mul once (min_le_left ..)
            _ = p.tokenAmount := Nat.one_mul _
        · exact (Nat.mul_le_mul_left n (min_le_right ..)).trans small
    · rename_i unknown
      simp [unknown]

/-- All transactions of a sell handler ask for the amount it was sized to, at most two in each
attempt; they move no more than this amount for each that lands. So they stay within the position's
amount when that is known and at most one of them lands, and, apart from balances too small to matter,
only then. -/
theorem sale_moves_out {setup : Setup} {ok : State → Step → Prop} {s : State}
    (reach : (process setup).Reachable World.Starts ok s) {i : ℕ} {t : TaskState} {account : Pubkey}
    (here : s.tasks[i]? = some t) (whole : sellsWhole t.role = true)
    (lands : LandsAsSent t s.world.ledger account) :
    (∀ sale ∈ sentSales t, sale.2 = (sellRecord t.past).tokenAmount) ∧
      (sentSales t).length ≤ 2 * MAX_SELL_RETRIES ∧
      movedOut t s.world.ledger account ≤
        (landedSales t s.world.ledger).length * (sellRecord t.past).tokenAmount ∧
      (∀ p, (sellRecord t.past).position = some p → 0 < p.tokenAmount →
        (landedSales t s.world.ledger).length ≤ 1 → movedOut t s.world.ledger account ≤ p.tokenAmount) ∧
      ∀ p, (sellRecord t.past).position = some p → LandsInFull t s.world.ledger account →
        (movedOut t s.world.ledger account ≤ p.tokenAmount ↔
          (0 < p.tokenAmount ∧ (landedSales t s.world.ledger).length ≤ 1) ∨
            (landedSales t s.world.ledger).length * (sellRecord t.past).balance.getD 0 ≤ p.tokenAmount) := by
  have asked : AskedAsSized (sellRecord t.past, askedAmounts t) := by
    have follows := reach.follows_trusting (sizingMonitor saleLimit) (.start, []) (sellsWhole · = true) AskedAsSized
      (fun _ => trivial) (fun _ whole => code_sized whole)
      ⟨nofun, fun some_asked => absurd rfl some_asked, Nat.zero_le _⟩
      (fun _ _ allowed held => held.next allowed) here whole
    rw [sizing_after] at follows
    exact follows.2
  have sent := sentSales_sublist t
  have amounts : ∀ sale ∈ sentSales t, sale.2 = (sellRecord t.past).tokenAmount := fun sale member =>
    asked.amounts sale.2 (sent.subset (List.mem_map_of_mem member))
  have moved := movedOut_le lands amounts
  refine ⟨amounts, ?_, moved, fun p sized positive once => ?_, fun p sized full => ?_⟩
  · have fewer := sent.length_le
    rw [List.length_map] at fewer
    exact fewer.trans asked.room
  · exact moved.trans ((covered_iff sized _).mpr (Or.inl ⟨positive, once⟩))
  · rw [movedOut_eq full amounts]
    exact covered_iff sized _

/-- The wallet holds 5000 tokens, 1000 of them bought for the position. Its sale is sent again when
no confirmation has come in three seconds; then the first transaction lands. -/
def sampleResent : List Step :=
  .disturb (.land ⟨"prior", false, [⟨105, 5000, 0⟩]⟩) :: sampleIntake 0 (sampleTrade "t1" false) ++
    sampleBuy 1 1000 "b1" ++ .start (.sell ⟨⟨"g1", 5⟩, "first", .manual, 0, 0⟩) ::
    runs 3 [.nothing, .nothing, .balance (sampleAnswer 5000), .nothing, .migrated none, .sent (.ok "s1"), .nothing] ++
    .disturb (.tick (Duration.fromMillis DEFAULT_CONFIRM_MS)) :: runs 3 [.nothing, .sent (.ok "s2")] ++
    [.disturb (.land ⟨"s1", false, [⟨105, 0, 1000⟩]⟩)]

theorem sale_moves_out_sample : ∃ s t p, (process sampleSetup).Reachable World.Starts Truthful s ∧
    s.tasks[3]? = some t ∧ (sentSales t).length = 2 ∧ (landedSales t s.world.ledger).length = 1 ∧
      (sellRecord t.past).position = some p ∧ movedOut t s.world.ledger 105 ≤ p.tokenAmount := by
  obtain ⟨s, reach, passes⟩ := reaches sampleSetup Truthful sampleGroups sampleResent
    (fun s => s.tasks[3]?.any fun t => sellsWhole t.role && decide ((sentSales t).length = 2) &&
      decide ((landedSales t s.world.ledger).length = 1) && decide (LandsAsSent t s.world.ledger 105) &&
      (sellRecord t.past).position.any fun p => 0 < p.tokenAmount) (by decide +kernel)
  simp only [Option.any_eq_true, Bool.and_eq_true, decide_eq_true_eq] at passes
  obtain ⟨t, here, ⟨⟨⟨whole, sent⟩, landed⟩, lands⟩, p, sized, positive⟩ := passes
  exact ⟨s, t, p, reach, here, sent, landed, sized,
    (sale_moves_out reach here whole lands).2.2.2.1 p sized positive landed.le⟩

/-- Both transactions land. -/
def sampleTwice : List Step := sampleResent ++ [.disturb (.land ⟨"s2", false, [⟨105, 0, 1000⟩]⟩)]

/-- The sale of a position of 1000 tokens moves 2000 out of the account. -/
theorem sale_moves_more : ¬ ∀ s, (process sampleSetup).Reachable World.Starts Truthful s →
    ∀ (i : ℕ) (t : TaskState) account p, s.tasks[i]? = some t → sellsWhole t.role = true →
      LandsAsSent t s.world.ledger account → (sellRecord t.past).position = some p →
        movedOut t s.world.ledger account ≤ p.tokenAmount := by
  intro claim
  obtain ⟨s, reach, passes⟩ := reaches sampleSetup Truthful sampleGroups sampleTwice
    (fun s => s.tasks[3]?.any fun t => sellsWhole t.role && decide (LandsAsSent t s.world.ledger 105) &&
      (sellRecord t.past).position.any fun p => p.tokenAmount < movedOut t s.world.ledger 105) (by decide +kernel)
  obtain ⟨t, here, passes⟩ := (Option.any_eq_true ..).mp passes
  rw [Bool.and_eq_true, Bool.and_eq_true] at passes
  obtain ⟨⟨whole, lands⟩, more⟩ := passes
  obtain ⟨p, sized, more⟩ := (Option.any_eq_true ..).mp more
  have bound := claim s reach 3 t 105 p here whole (of_decide_eq_true lands) sized
  exact absurd (of_decide_eq_true more) (Nat.not_lt.mpr bound)

end CopyTrader.Tx
