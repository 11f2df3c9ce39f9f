import CopyTrader.Lib.DashMap
import CopyTrader.Lib.Machine
import CopyTrader.Solana
import CopyTrader.Telegram

/-!
# Group performance

The results of each group, kept by the bot from the events it receives. The events are handled one
at a time, in the order they were sent; the messages that they lead to are left out, and so are the
files that are rewritten from the summaries.
-/

namespace CopyTrader.Telegram
open Lib

def WIN_THRESHOLD_PERCENT : ℚ := 1 / 2

inductive TradeOutcome where
  | win | loss | flat
  deriving DecidableEq, Repr

structure ClosedTradeRecord where
  groupId : String
  groupName : String
  mint : String
  tokenName : String
  buySignature : Signature
  sellSignature : Signature
  exitReason : String
  entrySolAmount : ℚ
  pnlPercent : ℚ
  holdSeconds : ℕ
  openedAtUnixSecs : ℕ
  closedAtUnixSecs : ℕ
  outcome : TradeOutcome
  deriving DecidableEq, Repr

structure GroupPerformanceSummary where
  groupId : String
  groupName : String
  buyConfirmedCount : ℕ
  buyFailedCount : ℕ
  sellFailedCount : ℕ
  closedTrades : ℕ
  wins : ℕ
  losses : ℕ
  flats : ℕ
  avgPnlPercent : ℚ
  netPnlPercentSum : ℚ
  bestTradePercent : Option ℚ
  worstTradePercent : Option ℚ
  avgHoldSeconds : ℚ
  lastUpdatedUnixSecs : ℕ
  deriving DecidableEq, Repr

def classifyTradeOutcome (pnlPercent : ℚ) : TradeOutcome :=
  if WIN_THRESHOLD_PERCENT < pnlPercent then .win
  else if pnlPercent < -WIN_THRESHOLD_PERCENT then .loss
  else .flat

def buildClosedTradeRecord (groupId groupName mint tokenName : String) (buySignature sellSignature : Signature)
    (exitReason : String) (entrySolAmount pnlPercent : ℚ) (holdSeconds nowUnixSecs : ℕ) : ClosedTradeRecord where
  groupId := groupId
  groupName := groupName
  mint := mint
  tokenName := tokenName
  buySignature := buySignature
  sellSignature := sellSignature
  exitReason := exitReason
  entrySolAmount := entrySolAmount
  pnlPercent := pnlPercent
  holdSeconds := holdSeconds
  openedAtUnixSecs := nowUnixSecs - holdSeconds
  closedAtUnixSecs := nowUnixSecs
  outcome := classifyTradeOutcome pnlPercent

namespace GroupPerformanceSummary

def blank (groupId groupName : String) : GroupPerformanceSummary where
  groupId := groupId
  groupName := groupName
  buyConfirmedCount := 0
  buyFailedCount := 0
  sellFailedCount := 0
  closedTrades := 0
  wins := 0
  losses := 0
  flats := 0
  avgPnlPercent := 0
  netPnlPercentSum := 0
  bestTradePercent := none
  worstTradePercent := none
  avgHoldSeconds := 0
  lastUpdatedUnixSecs := 0

variable (summary : GroupPerformanceSummary) (now : ℕ)

def touch : GroupPerformanceSummary := { summary with lastUpdatedUnixSecs := now }

def applyGroupName (groupName : String) : GroupPerformanceSummary := { summary with groupName }.touch now

def recordBuyConfirmed : GroupPerformanceSummary :=
  { summary with buyConfirmedCount := summary.buyConfirmedCount + 1 }.touch now

def recordBuyFailed : GroupPerformanceSummary :=
  { summary with buyFailedCount := summary.buyFailedCount + 1 }.touch now

def recordSellFailed : GroupPerformanceSummary :=
  { summary with sellFailedCount := summary.sellFailedCount + 1 }.touch now

def recordClosedTrade (record : ClosedTradeRecord) : GroupPerformanceSummary :=
  let closedTrades := summary.closedTrades + 1
  let netPnlPercentSum := summary.netPnlPercentSum + record.pnlPercent
  let totalHold := summary.avgHoldSeconds * ((closedTrades - 1 : ℕ) : ℚ) + record.holdSeconds
  let counted := { summary with
    closedTrades
    netPnlPercentSum
    avgPnlPercent := netPnlPercentSum / closedTrades
    avgHoldSeconds := totalHold / closedTrades
    bestTradePercent := some ((summary.bestTradePercent.map (max · record.pnlPercent)).getD record.pnlPercent)
    worstTradePercent := some ((summary.worstTradePercent.map (min · record.pnlPercent)).getD record.pnlPercent) }
  let sorted := match record.outcome with
    | .win => { counted with wins := counted.wins + 1 }
    | .loss => { counted with losses := counted.losses + 1 }
    | .flat => { counted with flats := counted.flats + 1 }
  sorted.touch now

end GroupPerformanceSummary

/-- The summaries, and the lines of the trade history. -/
structure GroupPerformanceStore where
  summaries : DashMap String GroupPerformanceSummary
  tradeHistory : List ClosedTradeRecord

namespace GroupPerformanceStore

variable (store : GroupPerformanceStore) (now : ℕ)

def updateSummary (groupId groupName : String) (mutator : GroupPerformanceSummary → GroupPerformanceSummary) :
    GroupPerformanceStore :=
  let summary := (store.summaries.get groupId).getD (.blank groupId groupName)
  { store with summaries := store.summaries.insert groupId (mutator (summary.applyGroupName now groupName)) }

def recordBuyConfirmed (groupId groupName : String) : GroupPerformanceStore :=
  store.updateSummary now groupId groupName (·.recordBuyConfirmed now)

def recordBuyFailed (groupId groupName : String) : GroupPerformanceStore :=
  store.updateSummary now groupId groupName (·.recordBuyFailed now)

def recordSellFailed (groupId groupName : String) : GroupPerformanceStore :=
  store.updateSummary now groupId groupName (·.recordSellFailed now)

def recordClosedTrade (record : ClosedTradeRecord) : GroupPerformanceStore :=
  { store with tradeHistory := store.tradeHistory ++ [record] }.updateSummary now record.groupId record.groupName
    (·.recordClosedTrade now record)

end GroupPerformanceStore

structure TgStats where
  buySuccess : ℕ
  buyFailed : ℕ

/-- What a bot keeps of its events. -/
structure Tallies where
  stats : TgStats
  performance : GroupPerformanceStore

/-- The record that an event leads to, handled at the time `now`. -/
def closedTrade (now : ℕ) : TgEvent → Option ClosedTradeRecord
  | .sellSuccess groupId groupName mint tokenName reason pnlPercent txSig buySig holdSeconds entrySolAmount
      fullyClosed =>
    if fullyClosed then
      some (buildClosedTradeRecord groupId groupName mint.toText tokenName buySig txSig reason entrySolAmount
        pnlPercent holdSeconds now)
    else none
  | _ => none

/-- `handle_event`, with the record it passes to `record_closed_trade`. -/
def handleEvent : Machine Tallies (TgEvent × ℕ) (Option ClosedTradeRecord)
  | kept, (.consensusReached .., _) | kept, (.buySubmitted .., _) => (kept, none)
  | ⟨stats, performance⟩, (.buyConfirmed groupId groupName .., now) =>
    (⟨{ stats with buySuccess := stats.buySuccess + 1 },
      performance.recordBuyConfirmed now groupId groupName⟩, none)
  | ⟨stats, performance⟩, (.buyFailed groupId groupName .., now) =>
    (⟨{ stats with buyFailed := stats.buyFailed + 1 }, performance.recordBuyFailed now groupId groupName⟩, none)
  | ⟨stats, performance⟩, (event@(.sellSuccess ..), now) =>
    match closedTrade now event with
    | some record => (⟨stats, performance.recordClosedTrade now record⟩, some record)
    | none => (⟨stats, performance⟩, none)
  | ⟨stats, performance⟩, (.sellFailed groupId groupName .., now) =>
    (⟨stats, performance.recordSellFailed now groupId groupName⟩, none)

/-- The calls of `record_closed_trade` while the bot handles events, each at its time. -/
def recordedTrades (kept : Tallies) (handled : List (TgEvent × ℕ)) : List ClosedTradeRecord :=
  (Machine.outputs handleEvent kept handled).filterMap id

/-! ### What the bot records -/

/-- The event reports that a position of the group is fully closed. -/
def reportsClosed (groupId : String) : TgEvent → Bool
  | .sellSuccess groupId' _ _ _ _ _ _ _ _ _ fullyClosed => groupId' = groupId && fullyClosed
  | _ => false

variable (kept : Tallies) (groupId : String)

theorem handleEvent_record (event : TgEvent) (now : ℕ) :
    (handleEvent kept (event, now)).2 = closedTrade now event := by
  cases event
  case sellSuccess groupId' groupName mint tokenName reason pnlPercent txSig buySig holdSeconds entrySolAmount full =>
    cases full <;> rfl
  all_goals rfl

theorem recordedTrades_cons (event : TgEvent) (now : ℕ) (rest : List (TgEvent × ℕ)) :
    recordedTrades kept ((event, now) :: rest) =
      (closedTrade now event).toList ++ recordedTrades (handleEvent kept (event, now)).1 rest := by
  unfold recordedTrades
  rw [Machine.outputs, List.filterMap_cons, handleEvent_record]
  cases closedTrade now event <;> rfl

theorem countP_closedTrade (now : ℕ) (event : TgEvent) :
    (closedTrade now event).toList.countP (·.groupId = groupId) = if reportsClosed groupId event then 1 else 0 := by
  cases event
  case sellSuccess groupId' groupName mint tokenName reason pnlPercent txSig buySig holdSeconds entrySolAmount full =>
    cases full
    · simp [closedTrade, reportsClosed]
    · simp [closedTrade, reportsClosed, buildClosedTradeRecord, List.countP_cons]
  all_goals rfl

/-- Every report of a full close is recorded once. -/
theorem countP_recordedTrades (handled : List (TgEvent × ℕ)) :
    (recordedTrades kept handled).countP (·.groupId = groupId) =
      (handled.map Prod.fst).countP (reportsClosed groupId) := by
  induction handled generalizing kept with
  | nil => rfl
  | cons first rest ih =>
    obtain ⟨event, now⟩ := first
    rw [recordedTrades_cons, List.countP_append, ih, countP_closedTrade, List.map_cons, List.countP_cons, Nat.add_comm]

namespace GroupPerformanceStore

def closedTrades (store : GroupPerformanceStore) (groupId : String) : ℕ :=
  ((store.summaries.get groupId).map (·.closedTrades)).getD 0

variable {store : GroupPerformanceStore} {now : ℕ} {groupId}

theorem closedTrades_updateSummary {groupId' groupName : String}
    {mutator : GroupPerformanceSummary → GroupPerformanceSummary} {more : ℕ}
    (adds : ∀ summary, (mutator summary).closedTrades = summary.closedTrades + more) :
    (store.updateSummary now groupId' groupName mutator).closedTrades groupId =
      store.closedTrades groupId + if groupId' = groupId then more else 0 := by
  unfold closedTrades updateSummary
  rw [DashMap.get_insert]
  by_cases same : groupId = groupId'
  · subst same
    rw [if_pos rfl, if_pos rfl, Option.map_some, Option.getD_some, adds]
    cases store.summaries.get groupId <;> rfl
  · rw [if_neg same, if_neg (Ne.symm same)]
    rfl

theorem closedTrades_recordClosedTrade {record : ClosedTradeRecord} :
    (store.recordClosedTrade now record).closedTrades groupId =
      store.closedTrades groupId + if record.groupId = groupId then 1 else 0 := by
  refine closedTrades_updateSummary fun summary => ?_
  unfold GroupPerformanceSummary.recordClosedTrade
  cases record.outcome <;> rfl

end GroupPerformanceStore

theorem closedTrades_handleEvent (event : TgEvent) (now : ℕ) :
    (handleEvent kept (event, now)).1.performance.closedTrades groupId =
      kept.performance.closedTrades groupId + (closedTrade now event).toList.countP (·.groupId = groupId) := by
  have uncounted {groupId' groupName : String} {mutator : GroupPerformanceSummary → GroupPerformanceSummary}
      (same : ∀ summary, (mutator summary).closedTrades = summary.closedTrades) :
      (kept.performance.updateSummary now groupId' groupName mutator).closedTrades groupId =
        kept.performance.closedTrades groupId := by
    have adds : (kept.performance.updateSummary now groupId' groupName mutator).closedTrades groupId =
        kept.performance.closedTrades groupId + if groupId' = groupId then 0 else 0 :=
      GroupPerformanceStore.closedTrades_updateSummary same
    rwa [ite_self] at adds
  cases event
  case sellSuccess groupId' groupName mint tokenName reason pnlPercent txSig buySig holdSeconds entrySolAmount full =>
    cases full
    · rfl
    · refine GroupPerformanceStore.closedTrades_recordClosedTrade.trans ?_
      simp [closedTrade, List.countP_cons]
  case buyConfirmed | buyFailed | sellFailed => exact uncounted fun _ => rfl
  all_goals rfl

/-- The summary of a group counts its recorded trades. -/
theorem closedTrades_after (handled : List (TgEvent × ℕ)) :
    (Machine.after handleEvent kept handled).performance.closedTrades groupId =
      kept.performance.closedTrades groupId + (recordedTrades kept handled).countP (·.groupId = groupId) := by
  induction handled generalizing kept with
  | nil => rfl
  | cons first rest ih =>
    obtain ⟨event, now⟩ := first
    rw [recordedTrades_cons, List.countP_append, Machine.after, ih, closedTrades_handleEvent, Nat.add_assoc]

end CopyTrader.Telegram
