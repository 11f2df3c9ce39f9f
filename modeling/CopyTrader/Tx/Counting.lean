import CopyTrader.Tasks.Positions
import CopyTrader.Telegram.Performance
import CopyTrader.Tx.Activation
import CopyTrader.Tx.Sizing
import CopyTrader.Tx.Terminal

/-!
# Counting closed positions

A sale that has closed its position reports it to the bot, which counts the reports of full closes.
The report takes a close for full when the sale was sized to the whole balance.
-/

namespace CopyTrader.Tx
open Lib AutoSell Tasks Telegram Program

/-! ### Reports of a sale -/

/-- The balance that a sale was sized by is covered by its position. -/
def SellRecord.coversBalance (r : SellRecord) : Bool :=
  match r.position, r.balance with
  | some p, some balance => p.tokenAmount = 0 || balance ≤ p.tokenAmount
  | _, _ => true

def saleReport : TgEvent → Option (String × Bool)
  | .sellSuccess groupId _ _ _ _ _ _ _ _ _ fullyClosed => some (groupId, fullyClosed)
  | _ => none

/-- Follows the group of a closed position that a sale has not reported. -/
def reportMonitor : Monitor World Op Ans (SellRecord × Option String) where
  trusts _ := True
  allows q
    | .markClosed .. => q.1.balance.isSome = true ∧ q.2 = none
    | .tgSend event => ∀ groupId full, saleReport event = some (groupId, full) →
        full = (q.2.isSome && q.1.coversBalance) ∧ ∀ owed, q.2 = some owed → owed = groupId
    | _ => True
  next q e :=
    (q.1.next e,
      match e.op with
      | .markClosed key _ => some key.groupId
      | .tgSend event => if event.reportsSale then none else q.2
      | _ => q.2)

def reporting (past : List Moment) : SellRecord × Option String := reportMonitor.after (.start, none) past

def closesOrReports : Op → Bool
  | .markClosed .. => true
  | .tgSend event => event.reportsSale
  | _ => false

variable {q : SellRecord × Option String} {e : Moment} {op : Op}

theorem saleReport_none {event : TgEvent} (other : event.reportsSale = false) : saleReport event = none := by
  cases event <;> first | rfl | cases other

theorem report_allows (other : closesOrReports op = false) : reportMonitor.allows q op := by
  cases op
  case markClosed => cases other
  case tgSend event =>
    intro groupId full same
    rw [saleReport_none other] at same
    cases same
  all_goals trivial

theorem next_owed (other : closesOrReports e.op = false) : (reportMonitor.next q e).2 = q.2 := by
  obtain ⟨w, op, answer⟩ := e
  cases op
  case markClosed => cases other
  case tgSend event => exact if_neg (Bool.eq_false_iff.mp other)
  all_goals rfl

theorem report_quiet (unrecorded : turnsRecord op = false) (other : closesOrReports op = false) :
    reportMonitor.Quiet op :=
  ⟨fun _ => report_allows other, fun q w answer =>
    Prod.ext ((quiet_of_unrecorded unrecorded).2 q.1 w answer) (next_owed (e := ⟨w, op, answer⟩) other)⟩

/-- The sale of `position` is sized by `balance` and has `owed` to report. -/
structure Measured (position : Position) (balance : ℕ) (owed : Option String) (q : SellRecord × Option String) :
    Prop where
  position_eq : q.1.position = some position
  balance_eq : q.1.balance = some balance
  owed_eq : q.2 = owed

variable {position : Position} {balance : ℕ} {owed : Option String}

theorem Measured.sized (held : Measured position balance owed q) : q.1.balance.isSome = true := by
  rw [held.balance_eq]
  rfl

theorem Measured.record_next (held : Measured position balance owed q) :
    (q.1.next e).position = some position ∧ (q.1.next e).balance = some balance := by
  obtain ⟨samePosition, sameBalance⟩ := SellRecord.next_sized (e := e) held.sized
  exact ⟨samePosition.trans held.position_eq, sameBalance.trans held.balance_eq⟩

theorem Measured.covers_eq {owed' : Option String} {q' : SellRecord × Option String}
    (held : Measured position balance owed q) (held' : Measured position balance owed' q') :
    q'.1.coversBalance = q.1.coversBalance := by
  unfold SellRecord.coversBalance
  rw [held.position_eq, held.balance_eq, held'.position_eq, held'.balance_eq]

theorem report_keeps (other : closesOrReports op = false) :
    reportMonitor.Keeps (Measured position balance owed) op := by
  intro q held
  refine ⟨report_allows other, fun w answer _ => ?_⟩
  obtain ⟨samePosition, sameBalance⟩ := held.record_next (e := ⟨w, op, answer⟩)
  exact ⟨samePosition, sameBalance, (next_owed (e := ⟨w, op, answer⟩) other).trans held.owed_eq⟩

theorem report_keeps_none (other : closesOrReports op = false) : reportMonitor.Keeps (·.2 = none) op :=
  fun _ owes => ⟨report_allows other, fun w answer _ => (next_owed (e := ⟨w, op, answer⟩) other).trans owes⟩

theorem keeps_of_sale (op : Op) (sale : op.ofSale = true) : reportMonitor.Keeps (Measured position balance owed) op := by
  cases op <;> first | exact report_keeps rfl | cases sale

/-- What is left is nothing exactly when the position covers the balance. -/
theorem leaves_nothing (held : Measured position balance owed q) :
    (decide (balance - (if 0 < position.tokenAmount then min position.tokenAmount balance else balance) = 0)) =
      q.1.coversBalance := by
  unfold SellRecord.coversBalance
  rw [held.position_eq, held.balance_eq]
  dsimp only
  rw [← Bool.decide_or]
  apply decide_eq_decide.mpr
  split
  · omega
  · omega

variable {setup : Setup} {signal : SellSignal} {snapshot : Option SellAccountSnapshot}

theorem finishSold_reports {lastSig : Signature} {expected : ℕ} (held : Measured position balance none q)
    (whole : decide (expected = 0) = q.1.coversBalance) :
    wp reportMonitor (fun _ q => q.2 = none) (finishSold signal position lastSig expected) q := by
  refine wp_perform ⟨held.sized, held.owed_eq⟩ fun w answer _ => ?_
  obtain ⟨samePosition, sameBalance⟩ := held.record_next (e := ⟨w, .markClosed signal.positionKey lastSig, answer⟩)
  have owes : Measured position balance (some signal.positionKey.groupId)
      (reportMonitor.next q ⟨w, .markClosed signal.positionKey lastSig, answer⟩) := ⟨samePosition, sameBalance, rfl⟩
  have cleanup : Uses (reportMonitor.Keeps (Measured position balance (some signal.positionKey.groupId)))
      (cleanupMintIfUnused position.tokenMint) :=
    cleanupMintIfUnused_uses (report_keeps rfl) (report_keeps rfl) (fun _ => report_keeps rfl) (report_keeps rfl)
      (report_keeps rfl)
  refine wp_seq (wp_keeps cleanup owes) fun _ q' owes' => ?_
  refine wp_quiet_bind (uses_call.mpr (report_quiet rfl rfl)) fun t => ⟨?_, fun _ _ _ => rfl⟩
  rintro groupId full ⟨⟩
  refine ⟨?_, fun owed same => Option.some.inj (same.symm.trans owes'.owed_eq)⟩
  rw [owes'.owed_eq, held.covers_eq owes']
  exact whole

theorem finishUnsold_reports {failureReason : String} (held : Measured position balance none q) :
    wp reportMonitor (fun _ q => q.2 = none) (finishUnsold signal position failureReason) q := by
  have asks : Uses (reportMonitor.Keeps (Measured position balance none))
      (finishUnsold signal position failureReason) :=
    finishUnsold_uses (report_keeps rfl) (fun _ _ => report_keeps rfl) (fun _ => report_keeps rfl)
      fun event (unreporting : closesOrReports (.tgSend event) = false) => report_keeps unreporting
  exact wp_mono (fun _ _ held => held.owed_eq) (wp_keeps asks held)

theorem sellMarked_reports {tokenAmount : ℕ} (held : Measured position balance none q)
    (whole : decide (balance - tokenAmount = 0) = q.1.coversBalance) :
    wp reportMonitor (fun _ q => q.2 = none) (sellMarked setup signal position snapshot balance tokenAmount) q := by
  refine wp_seq (wp_keeps (sellRoute_uses fun _ => report_keeps rfl) held) fun routeViaJupiter q' held' => ?_
  refine wp_seq (wp_keeps (uses_mono keeps_of_sale sellAttempts_within) held') fun outcome q'' held'' => ?_
  cases outcome with
  | sold lastSig => exact finishSold_reports held'' (whole.trans (held.covers_eq held'').symm)
  | unsold failureReason => exact finishUnsold_reports held''

/-- The position has been read, and the balance has not. -/
structure Located (position : Position) (q : SellRecord × Option String) : Prop where
  position_eq : q.1.position = some position
  balance_eq : q.1.balance = none
  owed_eq : q.2 = none

theorem currentBalance_measures {mint userAta : Pubkey} (located : Located position q) :
    wp reportMonitor (fun balance q => Measured position balance none q) (currentBalance mint userAta) q := by
  unfold currentBalance
  refine wp_perform trivial fun w cached _ => ?_
  cases cached with
  | some balance =>
    refine ⟨?_, ?_, located.owed_eq⟩
    · simp [reportMonitor, SellRecord.next, located.balance_eq, located.position_eq]
    · simp [reportMonitor, SellRecord.next, located.balance_eq]
  | none =>
    refine ⟨trivial, fun w answer _ => ⟨?_, ?_, located.owed_eq⟩⟩
    · simp [reportMonitor, SellRecord.next, located.balance_eq, located.position_eq]
    · simp [reportMonitor, SellRecord.next, located.balance_eq]

theorem sellPosition_reports (located : Located position q) :
    wp reportMonitor (fun _ q => q.2 = none) (sellPosition setup signal position snapshot) q := by
  unfold sellPosition
  refine wp_seq (currentBalance_measures located) fun balance q' held => ?_
  apply wp_ite
  · intro _
    have skips : Uses (reportMonitor.Keeps (Measured position balance none)) (skipZeroBalance signal.positionKey) :=
      skipZeroBalance_uses (report_keeps rfl) fun _ => report_keeps rfl
    exact wp_mono (fun _ _ held => held.owed_eq) (wp_keeps skips held)
  · intro _
    refine wp_quiet_bind (uses_call.mpr (report_quiet rfl rfl)) fun marked => ?_
    exact wp_ite (fun _ => sellMarked_reports held (leaves_nothing held)) fun _ => held.owed_eq

theorem handleSellSignal_reports (unsized : q.1.balance = none) (owes : q.2 = none) :
    wp reportMonitor (fun _ q => q.2 = none) (handleSellSignal setup signal) q := by
  have located (w : World) (position : Position) :
      Located position (reportMonitor.next q ⟨w, .getPosition signal.positionKey, some position⟩) := by
    refine ⟨?_, ?_, owes⟩
    · simp [reportMonitor, SellRecord.next, unsized]
    · simp [reportMonitor, SellRecord.next, unsized]
  apply handleSellSignal_wp trivial
  · exact fun _ => report_quiet rfl rfl
  · exact fun _ _ => owes
  · exact fun w position snapshot => sellPosition_reports (located w position)

theorem handlePartialSell_reports {groupId : String} {mint : Pubkey} {percent : ℕ} (unsized : q.1.balance = none)
    (owes : q.2 = none) :
    wp reportMonitor (fun _ q => q.2 = none) (handlePartialSell setup groupId mint percent) q := by
  apply handlePartialSell_wp trivial
  · exact fun _ _ => owes
  · intro _ w position
    refine handleSellSignal_reports ?_ owes
    simp [reportMonitor, SellRecord.next, unsized]
  · intro _ w position
    refine wp_quiet_bind (uses_call.mpr (report_quiet rfl rfl)) fun marked => wp_ite (fun _ => ?_) fun _ => owes
    have part (amount : ℕ) : Uses (reportMonitor.Keeps (·.2 = none)) (trySellPart position amount) :=
      trySellPart_uses (fun _ => report_keeps_none rfl) (fun _ => report_keeps_none rfl)
        (fun _ => report_keeps_none rfl) (report_keeps_none rfl)
    refine wp_seq (wp_keeps (I := fun q => q.2 = none) (part _) owes) fun sent q' owes' => ?_
    cases sent with
    | error err => exact ⟨trivial, fun _ _ _ => owes'⟩
    | ok sig =>
      refine wp_quiet_bind (uses_call.mpr (report_quiet rfl rfl)) fun _ =>
        wp_quiet_bind (uses_call.mpr (report_quiet rfl rfl)) fun t => ⟨?_, fun _ _ _ => rfl⟩
      -- a partial sale is no full close
      rintro groupId full ⟨⟩
      rw [owes']
      exact ⟨rfl, fun owed same => by cases same⟩

theorem code_reports (role : Role) : wp reportMonitor (fun _ q => q.2 = none) (role.code setup) (.start, none) := by
  have other (silent : ∀ op, role.alphabet op = true → closesOrReports op = false) :
      wp reportMonitor (fun _ q => q.2 = none) (role.code setup) (.start, none) :=
    wp_keeps (uses_mono (fun op member => report_keeps_none (silent op member)) (code_within setup role)) rfl
  cases role with
  | sell signal => exact handleSellSignal_reports rfl rfl
  | partialSell groupId mint percent => exact handlePartialSell_reports rfl rfl
  | _ =>
    refine other fun op member => ?_
    cases op
    case tgSend event => first | exact (Bool.not_eq_true' _).mp member | cases member
    all_goals first | rfl | cases member

/-! ### Closings -/

/-- A sale moves a position of the group to the closed state. -/
def closesSelling (groupId : String) (e : Moment) : Bool :=
  match e.op with
  | .markClosed key _ => key.groupId = groupId && (e.world.autoSell.getPosition key).any (·.state = .selling)
  | _ => false

def sendsReport (groupId : String) (e : Moment) : Bool :=
  match e.op with
  | .tgSend event => reportsClosed groupId event
  | _ => false

/-- How many positions of the group sales have moved to the closed state. -/
def closings (groupId : String) (s : State) : ℕ := System.count (closesSelling groupId) s

/-- The task has closed a position of the group, and has still to report the full close. -/
def unreported (groupId : String) (t : TaskState) : Bool :=
  (reporting t.past).2 = some groupId && (sellRecord t.past).coversBalance

/-- A sale that closes its position finds it still selling exactly when it covers the balance it was
sized by. -/
def closesWhole (s : State) : Step → Bool
  | .run i _ =>
    match s.tasks[i]? with
    | some ⟨_, past, .perform (.markClosed key _) _⟩ =>
      (s.world.autoSell.getPosition key).any (·.state = .selling) = (sellRecord past).coversBalance
    | _ => true
  | _ => true

def ClosesWhole (s : State) (step : Step) : Prop := closesWhole s step = true

instance (s : State) (step : Step) : Decidable (ClosesWhole s step) := inferInstanceAs (Decidable (_ = true))

variable {s : State} {groupId : String} {ok : State → Step → Prop}

theorem reporting_snoc (past : List Moment) (e : Moment) :
    reporting (past ++ [e]) = reportMonitor.next (reporting past) e := Monitor.after_snoc ..

theorem reporting_record (past : List Moment) : (reporting past).1 = sellRecord past := by
  induction past using List.reverseRecOn with
  | nil => rfl
  | append_singleton past e ih =>
    rw [reporting_snoc, sellRecord, Monitor.after_snoc]
    exact congrArg (SellRecord.next · e) ih

theorem coversBalance_next {r : SellRecord} {e : Moment} (sized : r.balance.isSome = true) :
    (r.next e).coversBalance = r.coversBalance := by
  obtain ⟨position, balance⟩ := SellRecord.next_sized (e := e) sized
  unfold SellRecord.coversBalance
  rw [position, balance]

/-- What is owed was sized. -/
theorem reporting_sized (reach : (process setup).Reachable World.Starts ok s) {i : ℕ} {t : TaskState}
    (here : s.tasks[i]? = some t) (owes : (reporting t.past).2 ≠ none) : (sellRecord t.past).balance.isSome = true := by
  have held := (reach.follows_trusting reportMonitor (.start, none) (fun _ => True)
    (fun q => q.2 ≠ none → q.1.balance.isSome = true) (fun _ => trivial) (fun role _ => code_reports role)
    (fun owes => absurd rfl owes) ?_ here trivial).2
  · rw [← reporting_record]
    exact held owes
  · intro q e allowed sized owes
    have kept (sized : q.1.balance.isSome = true) : (q.1.next e).balance.isSome = true := by
      rw [(SellRecord.next_sized sized).2]
      exact sized
    by_cases other : closesOrReports e.op = true
    · obtain ⟨w, op, answer⟩ := e
      cases op
      case markClosed => exact kept allowed.1
      case tgSend event => exact absurd (if_pos other) owes
      all_goals cases other
    · rw [next_owed (Bool.eq_false_iff.mpr other)] at owes
      exact kept (sized owes)

theorem report_allowed (reach : (process setup).Reachable World.Starts ok s) {i : ℕ} {t : TaskState} {op : Op}
    {next : Ans op → Prog Unit} (here : s.tasks[i]? = some t) (rest : t.rest = .perform op next) :
    reportMonitor.allows (reporting t.past) op :=
  reach.allows_trusting reportMonitor (.start, none) (fun _ => True) (fun _ => trivial)
    (fun role _ => code_reports role) here trivial rest

/-- A task has reported its closings, up to the one it owes. -/
def Balanced (groupId : String) (t : TaskState) : Prop :=
  t.past.countP (closesSelling groupId) =
    t.past.countP (sendsReport groupId) + if unreported groupId t then 1 else 0

theorem unreported_next {t : TaskState} {e : Moment} {rest : Prog Unit}
    (sized : (reporting t.past).2 ≠ none → (sellRecord t.past).balance.isSome = true)
    (other : closesOrReports e.op = false) :
    unreported groupId ⟨t.role, t.past ++ [e], rest⟩ = unreported groupId t := by
  unfold unreported
  dsimp only
  rw [reporting_snoc, next_owed other, sellRecord, Monitor.after_snoc]
  cases owes : (reporting t.past).2 with
  | none => rfl
  | some owed =>
    have kept : ((sellRecord t.past).next e).coversBalance = (sellRecord t.past).coversBalance :=
      coversBalance_next (sized (by simp [owes]))
    exact congrArg (decide (some owed = some groupId) && ·) kept

theorem uncounted {e : Moment} (other : closesOrReports e.op = false) :
    closesSelling groupId e = false ∧ sendsReport groupId e = false := by
  obtain ⟨w, op, answer⟩ := e
  cases op
  case markClosed => cases other
  case tgSend event =>
    refine ⟨rfl, ?_⟩
    cases event <;> first | rfl | cases other
  all_goals exact ⟨rfl, rfl⟩

theorem unreported_closed {t : TaskState} {key : PositionKey} {sig : Signature} {answer : Ans (.markClosed key sig)}
    {w : World} {rest : Prog Unit} (sized : (sellRecord t.past).balance.isSome = true)
    (whole : (w.autoSell.getPosition key).any (·.state = .selling) = (sellRecord t.past).coversBalance) :
    unreported groupId ⟨t.role, t.past ++ [⟨w, .markClosed key sig, answer⟩], rest⟩ =
      closesSelling groupId ⟨w, .markClosed key sig, answer⟩ := by
  have covers : ((sellRecord t.past).next ⟨w, .markClosed key sig, answer⟩).coversBalance =
      (sellRecord t.past).coversBalance := coversBalance_next sized
  unfold unreported
  dsimp only
  rw [reporting_snoc, sellRecord, Monitor.after_snoc]
  change (decide (some key.groupId = some groupId) && ((sellRecord t.past).next _).coversBalance) = _
  rw [covers, ← whole]
  simp [closesSelling]

theorem unreported_reported {t : TaskState} {event : TgEvent} {answer : Ans (.tgSend event)} {w : World}
    {rest : Prog Unit} (sale : event.reportsSale = true) :
    unreported groupId ⟨t.role, t.past ++ [⟨w, .tgSend event, answer⟩], rest⟩ = false := by
  have settled : (reportMonitor.next (reporting t.past) ⟨w, .tgSend event, answer⟩).2 = none := if_pos sale
  simp [unreported, reporting_snoc, settled]

/-- The report of a sale tells of a full close exactly when the sale owes one. -/
theorem reports_owed {t : TaskState} {event : TgEvent} {answer : Ans (.tgSend event)} {w : World}
    (sale : event.reportsSale = true) (allowed : reportMonitor.allows (reporting t.past) (.tgSend event)) :
    sendsReport groupId ⟨w, .tgSend event, answer⟩ = unreported groupId t := by
  cases event
  case sellSuccess owner groupName mint tokenName reason pnlPercent txSig buySig holdSeconds entrySol full =>
    obtain ⟨whole, mine⟩ := allowed owner full rfl
    rw [reporting_record] at whole
    change (decide (owner = groupId) && full) = _
    unfold unreported
    rw [whole]
    cases owes : (reporting t.past).2 with
    | none => simp
    | some owed => simp [mine owed owes]
  all_goals cases sale

theorem balanced_ran (reach : (process setup).Reachable World.Starts ok s) {i : ℕ} {choice : Choice} {t : TaskState}
    {op : Op} {next : Ans op → Prog Unit} (fine : ClosesWhole s (.run i choice)) (here : s.tasks[i]? = some t)
    (rest : t.rest = .perform op next) (balanced : Balanced groupId t) (answer : Ans op) :
    Balanced groupId ⟨t.role, t.past ++ [⟨s.world, op, answer⟩], next answer⟩ := by
  have sized := reporting_sized reach here
  have allowed := report_allowed reach here rest
  unfold Balanced at balanced ⊢
  dsimp only
  rw [List.countP_append, List.countP_append, List.countP_singleton, List.countP_singleton, balanced]
  by_cases other : closesOrReports op = true
  · cases op
    case markClosed key sig =>
      -- the close is owed until it is reported
      obtain ⟨isSized, unowed⟩ : (reporting t.past).1.balance.isSome = true ∧ (reporting t.past).2 = none := allowed
      rw [reporting_record] at isSized
      have whole : (s.world.autoSell.getPosition key).any (·.state = .selling) = (sellRecord t.past).coversBalance := by
        obtain ⟨role, past, code⟩ := t
        obtain rfl : code = .perform (.markClosed key sig) next := rest
        simpa [ClosesWhole, closesWhole, here] using fine
      have before : unreported groupId t = false := by simp [unreported, unowed]
      rw [before, unreported_closed isSized whole]
      simp [sendsReport]
    case tgSend event =>
      rw [unreported_reported other, reports_owed other allowed]
      simp [closesSelling]
    all_goals cases other
  · have silent : closesOrReports op = false := Bool.eq_false_iff.mpr other
    obtain ⟨closes, reports⟩ : closesSelling groupId ⟨s.world, op, answer⟩ = false ∧
        sendsReport groupId ⟨s.world, op, answer⟩ = false := uncounted silent
    rw [unreported_next sized silent, closes, reports]
    simp

theorem tasks_balanced (reach : (process setup).Reachable World.Starts ClosesWhole s) (groupId : String) :
    ∀ (i : ℕ) t, s.tasks[i]? = some t → Balanced groupId t := by
  refine reach.invariant (I := fun s => ∀ (i : ℕ) t, s.tasks[i]? = some t → Balanced groupId t) ?_ ?_
  · intro world _ i t here
    cases here
  · intro s step s' reach balanced fine stepped i t' here
    rcases stepped.task here with ⟨role, rfl, _⟩ | ⟨t, before, moved⟩
    · rfl
    · cases moved with
      | still => exact balanced i t' before
      | ran choice runs op next rest answer reply =>
        subst runs
        exact balanced_ran reach fine before rest (balanced i t before) answer

/-! ### The channel -/

theorem tgEvents_count (reach : (process setup).Reachable World.Launched ok s) (groupId : String) :
    s.world.tgEvents.countP (reportsClosed groupId) = System.count (sendsReport groupId) s := by
  refine reach.measure_eq_count (f := fun w => w.tgEvents.countP (reportsClosed groupId)) ?_ ?_ ?_
  · intro w launched
    rw [launched.2]
    rfl
  · intro w op choice answer w' reply
    have frame : w.Frame w' (World.writes op) := World.respond_frame reply
    cases op
    case tgSend event =>
      cases reply
      change (w.tgEvents ++ [event]).countP (reportsClosed groupId) = _
      rw [List.countP_append, List.countP_singleton]
      rfl
    all_goals
      rw [frame.messages nofun]
      rfl
  · intro w env w' change
    rw [(World.disturb_drift change).messages]

/-- Every closing is reported, or owed by the sale that made it. -/
theorem closings_eq (reach : (process setup).Reachable World.Launched ClosesWhole s) (groupId : String) :
    closings groupId s =
      s.world.tgEvents.countP (reportsClosed groupId) + s.tasks.countP (unreported groupId) := by
  rw [tgEvents_count reach]
  refine sum_map_eq_add_countP fun t member => ?_
  obtain ⟨i, here⟩ := List.mem_iff_getElem?.mp member
  exact tasks_balanced (reach.of_starts fun w launched => launched.1) groupId i t here

theorem unowed_of_other (reach : (process setup).Reachable World.Starts ok s) :
    ∀ (i : ℕ) t, s.tasks[i]? = some t → Sells t.role = false → (reporting t.past).2 = none := by
  refine reach.invariant
    (I := fun s => ∀ (i : ℕ) t, s.tasks[i]? = some t → Sells t.role = false → (reporting t.past).2 = none) ?_ ?_
  · intro world _ i t here
    cases here
  · intro s step s' reach unowed _ stepped i t' here other
    rcases stepped.task here with ⟨role, rfl, _⟩ | ⟨t, before, moved⟩
    · rfl
    · cases moved with
      | still => exact unowed i t' before other
      | ran choice runs op next rest answer reply =>
        have member := performs_within reach before rest
        have owes := unowed i t before other
        dsimp only at other ⊢
        rw [reporting_snoc]
        cases op
        case markClosed =>
          generalize t.role = role at member other
          cases role with
          | sell | partialSell => cases other
          | _ => cases member
        case tgSend event =>
          show (if event.reportsSale then none else (reporting t.past).2) = none
          rw [owes, ite_self]
        all_goals exact owes

theorem unreported_of_ended (reach : (process setup).Reachable World.Starts ok s) {t : TaskState} (member : t ∈ s.tasks)
    (ended : Sells t.role = true → t.rest.isDone = true) : unreported groupId t = false := by
  obtain ⟨i, here⟩ := List.mem_iff_getElem?.mp member
  have settled := reach.obeys_trusting reportMonitor (.start, none) (fun _ => True) (fun _ => trivial)
    (fun role _ => code_reports role) here trivial
  have owes : (reporting t.past).2 = none := by
    cases sale : Sells t.role with
    | false => exact unowed_of_other reach i t here sale
    | true =>
      have ended := ended sale
      cases rest : t.rest with
      | done a =>
        rw [rest] at settled
        exact settled
      | perform op next =>
        rw [rest] at ended
        cases ended
  simp [unreported, owes]

/-- In every run whose closing sales cover the balance they were sized by exactly when their position is
still selling, every closed position of a group is recorded once, as soon as its report is made and
handled. -/
theorem closed_positions_counted (reach : (process setup).Reachable World.Launched ClosesWhole s) (kept : Tallies)
    {handled : List (TgEvent × ℕ)} {queued : List TgEvent}
    (delivered : s.world.tgEvents = handled.map Prod.fst ++ queued) (groupId : String) :
    (recordedTrades kept handled).countP (·.groupId = groupId) + queued.countP (reportsClosed groupId) +
        s.tasks.countP (unreported groupId) = closings groupId s ∧
      (queued = [] → (∀ t ∈ s.tasks, Sells t.role = true → t.rest.isDone = true) →
        (recordedTrades kept handled).countP (·.groupId = groupId) = closings groupId s) := by
  have balance : (recordedTrades kept handled).countP (·.groupId = groupId) + queued.countP (reportsClosed groupId) +
      s.tasks.countP (unreported groupId) = closings groupId s := by
    rw [closings_eq reach, delivered, List.countP_append, countP_recordedTrades]
  refine ⟨balance, fun nothing ended => ?_⟩
  have settled : s.tasks.countP (unreported groupId) = 0 := by
    rw [List.countP_eq_zero]
    intro t member
    rw [unreported_of_ended (reach.of_starts fun w launched => launched.1) member (ended t member)]
    exact Bool.false_ne_true
  rw [settled, nothing] at balance
  exact balance

def salesEnded (s : State) : Bool := s.tasks.all fun t => !Sells t.role || t.rest.isDone

theorem salesEnded_ended (all : salesEnded s = true) : ∀ t ∈ s.tasks, Sells t.role = true → t.rest.isDone = true := by
  intro t member sale
  have ended := List.all_eq_true.mp all t member
  simpa [sale] using ended

/-- One position, sold with the whole balance. -/
theorem closed_positions_counted_sample : ∃ s, (process sampleSetup).Reachable World.Launched ClosesWhole s ∧
    closings "g1" s = 1 ∧ ∀ kept handled, s.world.tgEvents = handled.map Prod.fst →
      (recordedTrades kept handled).countP (·.groupId = "g1") = closings "g1" s := by
  obtain ⟨s, reach, passes⟩ := launches sampleSetup ClosesWhole sampleGroups
    (sampleIntake 0 (sampleTrade "t1" false) ++ sampleBuy 1 1000 "b1" ++ sampleSold 3 1000 0 ++
      runs 3 (List.replicate 14 .nothing))
    (fun s => closings "g1" s = 1 && salesEnded s) (by decide +kernel)
  rw [Bool.and_eq_true, decide_eq_true_eq] at passes
  refine ⟨s, reach, passes.1, fun kept handled delivered => ?_⟩
  have delivered' : s.world.tgEvents = handled.map Prod.fst ++ [] := delivered.trans (List.append_nil _).symm
  exact (closed_positions_counted reach kept delivered' "g1").2 rfl (salesEnded_ended passes.2)

/-- Two groups hold the mint. The sale of the first leaves the tokens of the second, so that its close
is reported as a partial one and nobody counts it. -/
theorem closed_position_uncounted : ¬ ∀ s, (process sampleSetup).Reachable World.Launched anyStep s →
    (∀ t ∈ s.tasks, Sells t.role = true → t.rest.isDone = true) →
    ∀ kept handled, s.world.tgEvents = handled.map Prod.fst →
      ∀ groupId, (recordedTrades kept handled).countP (·.groupId = groupId) = closings groupId s := by
  intro claim
  obtain ⟨s, reach, passes⟩ := launches sampleSetup anyStep pairGroups
    (sampleIntake 0 (sampleTrade "t1" false) ++ [.run 0 .nothing] ++ sampleBuy 1 1000 "b1" ++
      sampleBuy 2 700 "b2" ++ sampleSold 5 1700 700 ++ runs 5 (List.replicate 3 .nothing))
    (fun s => closings "g1" s = 1 && salesEnded s && s.world.tgEvents.countP (reportsClosed "g1") = 0)
    (by decide +kernel)
  simp only [Bool.and_eq_true, decide_eq_true_eq] at passes
  obtain ⟨⟨closed, ended⟩, unreported⟩ := passes
  have events : (s.world.tgEvents.map (·, 0)).map Prod.fst = s.world.tgEvents := by
    rw [List.map_map]
    exact List.map_id' _
  have all := claim s reach (salesEnded_ended ended) ⟨⟨0, 0⟩, ⟨DashMap.empty, []⟩⟩ (s.world.tgEvents.map (·, 0))
    events.symm "g1"
  rw [countP_recordedTrades, events, unreported, closed] at all
  cases all

end CopyTrader.Tx
