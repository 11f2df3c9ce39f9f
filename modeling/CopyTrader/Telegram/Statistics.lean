import CopyTrader.Groups.Manager
import CopyTrader.Lib.Statistics
import CopyTrader.Telegram.Performance

/-!
# Group statistics

A summary is kept up one trade at a time. What it says of the trades is what can be worked out from
all the records of its group at once. The sums and means of the source are of `f64` numbers; here they
are exact.
-/

namespace CopyTrader.Telegram
open Lib

/-- What a summary says of the closed trades. -/
structure TradeTotals where
  closedTrades : ℕ
  wins : ℕ
  losses : ℕ
  flats : ℕ
  netPnlPercentSum : ℚ
  avgPnlPercent : ℚ
  avgHoldSeconds : ℚ
  bestTradePercent : Option ℚ
  worstTradePercent : Option ℚ

def GroupPerformanceSummary.tradeTotals (summary : GroupPerformanceSummary) : TradeTotals :=
  { summary with }

namespace TradeTotals

def pnls (records : List ClosedTradeRecord) : List ℚ := records.map (·.pnlPercent)

def holds (records : List ClosedTradeRecord) : List ℚ := records.map fun record => (record.holdSeconds : ℚ)

/-- The batch statistics. -/
def ofRecords (records : List ClosedTradeRecord) : TradeTotals where
  closedTrades := records.length
  wins := records.countP (·.outcome = .win)
  losses := records.countP (·.outcome = .loss)
  flats := records.countP (·.outcome = .flat)
  netPnlPercentSum := (pnls records).sum
  avgPnlPercent := mean (pnls records)
  avgHoldSeconds := mean (holds records)
  bestTradePercent := (pnls records).max?
  worstTradePercent := (pnls records).min?

variable {records records' : List ClosedTradeRecord}

theorem ofRecords_perm (perm : records.Perm records') : ofRecords records = ofRecords records' := by
  have samePnls : (pnls records).Perm (pnls records') := perm.map _
  have sameHolds : (holds records).Perm (holds records') := perm.map _
  unfold ofRecords
  rw [perm.length_eq, perm.countP_eq, perm.countP_eq, perm.countP_eq, samePnls.sum_eq, mean_perm samePnls,
    mean_perm sameHolds, max?_perm samePnls, min?_perm samePnls]

/-- Every trade is a win, a loss or flat. -/
theorem length_eq_outcomes (records : List ClosedTradeRecord) :
    records.length = records.countP (·.outcome = .win) + records.countP (·.outcome = .loss) +
      records.countP (·.outcome = .flat) := by
  induction records with
  | nil => rfl
  | cons record rest ih =>
    simp only [List.length_cons, List.countP_cons, ih]
    cases record.outcome <;> simp <;> omega

theorem worst_le_avg {worst : ℚ} (least : (pnls records).min? = some worst) : worst ≤ mean (pnls records) := by
  obtain ⟨member, bound⟩ := List.min?_eq_some_iff.mp least
  exact le_mean (List.ne_nil_of_mem member) bound

theorem avg_le_best {best : ℚ} (greatest : (pnls records).max? = some best) : mean (pnls records) ≤ best := by
  obtain ⟨member, bound⟩ := List.max?_eq_some_iff.mp greatest
  exact mean_le (List.ne_nil_of_mem member) bound

end TradeTotals

open TradeTotals

/-! ### One trade -/

namespace GroupPerformanceSummary

variable {summary : GroupPerformanceSummary} {records : List ClosedTradeRecord} {now : ℕ}

theorem tradeTotals_blank (groupId groupName : String) : (blank groupId groupName).tradeTotals = ofRecords [] := by
  unfold blank tradeTotals ofRecords pnls holds
  simp [mean_nil]

theorem tradeTotals_applyGroupName (groupName : String) :
    (summary.applyGroupName now groupName).tradeTotals = summary.tradeTotals := rfl

theorem totals_fields (batch : summary.tradeTotals = ofRecords records) :
    summary.closedTrades = records.length ∧ summary.wins = records.countP (·.outcome = .win) ∧
      summary.losses = records.countP (·.outcome = .loss) ∧ summary.flats = records.countP (·.outcome = .flat) ∧
      summary.netPnlPercentSum = (pnls records).sum ∧ summary.avgPnlPercent = mean (pnls records) ∧
      summary.avgHoldSeconds = mean (holds records) ∧ summary.bestTradePercent = (pnls records).max? ∧
      summary.worstTradePercent = (pnls records).min? := TradeTotals.mk.inj batch

theorem tradeTotals_recordClosedTrade (batch : summary.tradeTotals = ofRecords records) (record : ClosedTradeRecord) :
    (summary.recordClosedTrade now record).tradeTotals = ofRecords (records ++ [record]) := by
  have pnlsNext : pnls (records ++ [record]) = pnls records ++ [record.pnlPercent] := List.map_append
  have holdsNext : holds (records ++ [record]) = holds records ++ [(record.holdSeconds : ℚ)] := List.map_append
  obtain ⟨closed, wins, losses, flats, net, -, hold, best, worst⟩ := totals_fields batch
  have nextSum : summary.netPnlPercentSum + record.pnlPercent = (pnls records ++ [record.pnlPercent]).sum := by
    rw [List.sum_append, List.sum_singleton, net]
  -- the mean is the running sum over the new number of trades
  have nextMean : (summary.netPnlPercentSum + record.pnlPercent) / ((summary.closedTrades + 1 : ℕ) : ℚ) =
      mean (pnls records ++ [record.pnlPercent]) := by
    rw [nextSum, mean, List.length_append, List.length_singleton, closed, pnls, List.length_map]
  -- the mean hold time is taken apart and put together again
  have nextHold : (summary.avgHoldSeconds * ((summary.closedTrades + 1 - 1 : ℕ) : ℚ) + record.holdSeconds) /
      ((summary.closedTrades + 1 : ℕ) : ℚ) = mean (holds records ++ [(record.holdSeconds : ℚ)]) := by
    have count : (holds records).length = summary.closedTrades := (List.length_map _).trans closed.symm
    rw [mean_snoc, count, hold, Nat.add_sub_cancel, Nat.cast_add, Nat.cast_one]
  unfold recordClosedTrade ofRecords tradeTotals touch
  rw [pnlsNext, holdsNext, max?_snoc, min?_snoc, ← best, ← worst, ← nextSum, ← nextMean, ← nextHold]
  cases kind : record.outcome <;>
    simp [List.countP_append, kind, closed, wins, losses, flats]

end GroupPerformanceSummary

/-! ### One update of the store -/

namespace GroupPerformanceStore

/-- `sync_groups`, at the time `now`. -/
def syncGroups {F : Type} (store : GroupPerformanceStore) (now : ℕ) (groups : GroupManager F) : GroupPerformanceStore :=
  { store with
    summaries := groups.allGroups.foldl (fun summaries group =>
      if summaries.contains group.id then summaries.modify group.id (·.applyGroupName now group.name)
      else summaries.insert group.id (.blank group.id group.name)) store.summaries }

/-- The summary of a group, which is blank until something is written. -/
def summaryOf (summaries : DashMap String GroupPerformanceSummary) (groupId : String) : GroupPerformanceSummary :=
  (summaries.get groupId).getD (.blank groupId "")

variable {store : GroupPerformanceStore} {summaries : DashMap String GroupPerformanceSummary}
  {records records' : List ClosedTradeRecord} {now : ℕ} {groupId groupId' groupName : String}

theorem totals_updateSummary {mutator : GroupPerformanceSummary → GroupPerformanceSummary}
    (acts : ∀ summary : GroupPerformanceSummary, summary.tradeTotals = ofRecords records →
      (mutator summary).tradeTotals = ofRecords records')
    (batch : (summaryOf store.summaries groupId).tradeTotals = ofRecords records) :
    (summaryOf (store.updateSummary now groupId groupName mutator).summaries groupId).tradeTotals =
      ofRecords records' := by
  unfold summaryOf updateSummary
  rw [DashMap.get_insert_same, Option.getD_some]
  apply acts
  rw [GroupPerformanceSummary.tradeTotals_applyGroupName, ← batch]
  unfold summaryOf
  cases store.summaries.get groupId <;> rfl

theorem summaryOf_updateSummary_other {mutator : GroupPerformanceSummary → GroupPerformanceSummary}
    (other : groupId ≠ groupId') :
    summaryOf (store.updateSummary now groupId' groupName mutator).summaries groupId =
      summaryOf store.summaries groupId := by
  unfold summaryOf updateSummary
  rw [DashMap.get_insert_other _ _ other]

theorem totals_syncGroups {F : Type} (groups : GroupManager F) :
    (summaryOf (store.syncGroups now groups).summaries groupId).tradeTotals =
      (summaryOf store.summaries groupId).tradeTotals := by
  unfold syncGroups
  dsimp only
  generalize store.summaries = summaries
  induction groups.allGroups generalizing summaries with
  | nil => rfl
  | cons group rest ih =>
    rw [List.foldl_cons, ih]
    by_cases same : groupId = group.id
    · subst same
      unfold summaryOf DashMap.contains
      cases read : summaries.get group.id <;> simp [read, GroupPerformanceSummary.tradeTotals_blank,
        GroupPerformanceSummary.tradeTotals_applyGroupName]
    · unfold summaryOf
      split
      · rw [DashMap.get_modify_other _ _ same]
      · rw [DashMap.get_insert_other _ _ same]

end GroupPerformanceStore

/-! ### Runs -/

/-- An update of the statistics. -/
inductive StatsUpdate (F : Type) where
  | buyConfirmed (groupId groupName : String)
  | buyFailed (groupId groupName : String)
  | sellFailed (groupId groupName : String)
  | closedTrade (record : ClosedTradeRecord)
  | syncGroups (groups : GroupManager F)

namespace StatsUpdate
open GroupPerformanceStore

variable {F : Type}

/-- The update, made at its time. -/
def perform : Machine GroupPerformanceStore (StatsUpdate F × ℕ) Unit
  | store, (buyConfirmed groupId groupName, now) => (store.recordBuyConfirmed now groupId groupName, ())
  | store, (buyFailed groupId groupName, now) => (store.recordBuyFailed now groupId groupName, ())
  | store, (sellFailed groupId groupName, now) => (store.recordSellFailed now groupId groupName, ())
  | store, (closedTrade record, now) => (store.recordClosedTrade now record, ())
  | store, (syncGroups groups, now) => (store.syncGroups now groups, ())

/-- The record of a closed trade of the group. -/
def recordOf (groupId : String) : StatsUpdate F × ℕ → Option ClosedTradeRecord
  | (closedTrade record, _) => if record.groupId = groupId then some record else none
  | _ => none

@[simp] theorem recordOf_closedTrade (groupId : String) (record : ClosedTradeRecord) (now : ℕ) :
    recordOf (F := F) groupId (closedTrade record, now) = if record.groupId = groupId then some record else none := rfl

def recordsOf (groupId : String) (updates : List (StatsUpdate F × ℕ)) : List ClosedTradeRecord :=
  updates.filterMap (recordOf groupId)

variable {store store' : GroupPerformanceStore} {groupId : String}

theorem totals_step {records : List ClosedTradeRecord} (update : StatsUpdate F × ℕ)
    (batch : (summaryOf store.summaries groupId).tradeTotals = ofRecords records) :
    (summaryOf (perform store update).1.summaries groupId).tradeTotals =
      ofRecords (records ++ (recordOf groupId update).toList) := by
  -- an update of one group that leaves what it says of its trades
  have frame {now : ℕ} {groupId' groupName : String} {mutator : GroupPerformanceSummary → GroupPerformanceSummary}
      (leaves : ∀ summary, (mutator summary).tradeTotals = summary.tradeTotals) :
      (summaryOf (store.updateSummary now groupId' groupName mutator).summaries groupId).tradeTotals =
        ofRecords (records ++ []) := by
    rw [List.append_nil]
    by_cases same : groupId = groupId'
    · subst same
      exact totals_updateSummary (fun summary before => (leaves summary).trans before) batch
    · rw [summaryOf_updateSummary_other same, batch]
  obtain ⟨update, now⟩ := update
  cases update with
  | buyConfirmed | buyFailed | sellFailed => exact frame fun _ => rfl
  | syncGroups groups =>
    refine (totals_syncGroups groups).trans ?_
    rw [batch]
    exact congrArg ofRecords (List.append_nil records).symm
  | closedTrade record =>
    rw [recordOf_closedTrade]
    by_cases same : record.groupId = groupId
    · subst same
      rw [if_pos rfl]
      exact totals_updateSummary (fun summary before => summary.tradeTotals_recordClosedTrade before record) batch
    · rw [if_neg same]
      refine Eq.trans ?_ (batch.trans (congrArg ofRecords (List.append_nil records).symm))
      exact congrArg GroupPerformanceSummary.tradeTotals (summaryOf_updateSummary_other (Ne.symm same))

theorem totals_after (blank : (summaryOf store.summaries groupId).tradeTotals = ofRecords [])
    (updates : List (StatsUpdate F × ℕ)) :
    (summaryOf (Machine.after perform store updates).summaries groupId).tradeTotals =
      ofRecords (recordsOf groupId updates) := by
  refine Machine.history_invariant perform
    (P := fun updates store => (summaryOf store.summaries groupId).tradeTotals = ofRecords (recordsOf groupId updates))
    blank ?_ updates
  intro before update batch
  have next := totals_step update batch
  unfold recordsOf at next ⊢
  rw [List.filterMap_append]
  cases found : recordOf groupId update <;> simpa [found] using next

/-- The summary of a group is worked out from the records of its closed trades, whatever their order. -/
theorem incremental_batch {groupName groupName' : String}
    (blank : summaryOf store.summaries groupId = .blank groupId groupName)
    (blank' : summaryOf store'.summaries groupId = .blank groupId groupName')
    (updates updates' : List (StatsUpdate F × ℕ)) :
    let records := recordsOf groupId updates
    let summary := summaryOf (Machine.after perform store updates).summaries groupId
    let summary' := summaryOf (Machine.after perform store' updates').summaries groupId
    summary.closedTrades = records.length ∧
    summary.closedTrades = summary.wins + summary.losses + summary.flats ∧
    summary.netPnlPercentSum = (pnls records).sum ∧
    summary.avgPnlPercent = mean (pnls records) ∧
    summary.avgHoldSeconds = mean (holds records) ∧
    summary.bestTradePercent = (pnls records).max? ∧
    summary.worstTradePercent = (pnls records).min? ∧
    (∀ worst, summary.worstTradePercent = some worst → worst ≤ summary.avgPnlPercent) ∧
    (∀ best, summary.bestTradePercent = some best → summary.avgPnlPercent ≤ best) ∧
    ((recordsOf groupId updates').Perm records → summary'.tradeTotals = summary.tradeTotals) := by
  intro records summary summary'
  have batch : summary.tradeTotals = ofRecords records := by
    refine totals_after ?_ updates
    rw [blank, GroupPerformanceSummary.tradeTotals_blank]
  obtain ⟨closed, wins, losses, flats, net, average, hold, best, worst⟩ :=
    GroupPerformanceSummary.totals_fields batch
  refine ⟨closed, ?_, net, average, hold, best, worst, ?_, ?_, ?_⟩
  · rw [closed, wins, losses, flats]
    exact length_eq_outcomes records
  · intro least found
    rw [average]
    exact worst_le_avg (worst.symm.trans found)
  · intro greatest found
    rw [average]
    exact avg_le_best (best.symm.trans found)
  · intro perm
    have batch' : summary'.tradeTotals = ofRecords (recordsOf groupId updates') := by
      refine totals_after ?_ updates'
      rw [blank', GroupPerformanceSummary.tradeTotals_blank]
    rw [batch', batch, ofRecords_perm perm]

/-- Two closed trades of a group around a failed sale. -/
def sampleUpdates : List (StatsUpdate ℚ × ℕ) :=
  [(closedTrade (buildClosedTradeRecord "g1" "main" "mint" "token" "s1" "s2" "take profit" 1 30 60 1000), 1000),
   (sellFailed "g1" "main", 1001),
   (closedTrade (buildClosedTradeRecord "g1" "main" "mint" "token" "s3" "s4" "stop loss" 1 (-10) 20 1002), 1002)]

theorem incremental_batch_sample :
    let store : GroupPerformanceStore := ⟨DashMap.empty, []⟩
    let summary := summaryOf (Machine.after perform store sampleUpdates).summaries "g1"
    summary.closedTrades = 2 ∧ summary.avgPnlPercent = 10 ∧ summary.avgHoldSeconds = 40 ∧
      summary.bestTradePercent = some 30 ∧ summary.worstTradePercent = some (-10) ∧
      (summaryOf (Machine.after perform store sampleUpdates.reverse).summaries "g1").tradeTotals =
        summary.tradeTotals := by
  intro store summary
  have blank : summaryOf store.summaries "g1" = .blank "g1" "" := rfl
  obtain ⟨closed, -, -, average, hold, best, worst, -, -, anyOrder⟩ :=
    incremental_batch blank blank sampleUpdates sampleUpdates.reverse
  refine ⟨closed, average.trans (by decide +kernel), hold.trans (by decide +kernel), best.trans (by decide +kernel),
    worst.trans (by decide +kernel), anyOrder ?_⟩
  exact (List.reverse_perm sampleUpdates).filterMap (recordOf "g1")

end StatsUpdate

end CopyTrader.Telegram
