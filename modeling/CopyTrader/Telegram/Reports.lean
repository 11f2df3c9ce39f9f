import CopyTrader.Groups.File
import CopyTrader.Lib.OrderedMaps
import CopyTrader.Telegram.Statistics
import Mathlib.Data.Prod.Lex
import Mathlib.Data.String.Basic

/-!
# Reports and the statistics file

The report lists the summaries, best group first. It is rewritten into a file after every update, and a start
reads the summaries back from it. What is read back gives the same report.
-/

namespace CopyTrader.Telegram
open Lib

namespace GroupPerformanceSummary
open Json

def winRatePercent (summary : GroupPerformanceSummary) : ℚ :=
  if summary.closedTrades = 0 then 0 else summary.wins * 100 / summary.closedTrades

/-! ### One summary in the file -/

def toJson (summary : GroupPerformanceSummary) : Json :=
  .obj [
    ("group_id", .str summary.groupId),
    ("group_name", .str summary.groupName),
    ("buy_confirmed_count", .int summary.buyConfirmedCount),
    ("buy_failed_count", .int summary.buyFailedCount),
    ("sell_failed_count", .int summary.sellFailedCount),
    ("closed_trades", .int summary.closedTrades),
    ("wins", .int summary.wins),
    ("losses", .int summary.losses),
    ("flats", .int summary.flats),
    ("avg_pnl_percent", .float summary.avgPnlPercent),
    ("net_pnl_percent_sum", .float summary.netPnlPercentSum),
    ("best_trade_percent", summary.bestTradePercent.elim .null .float),
    ("worst_trade_percent", summary.worstTradePercent.elim .null .float),
    ("avg_hold_seconds", .float summary.avgHoldSeconds),
    ("last_updated_unix_secs", .int summary.lastUpdatedUnixSecs)]

def ofJson : Json → Option GroupPerformanceSummary
  | .obj fields => do
    some {
      groupId := ← required fields "group_id" asStr
      groupName := ← required fields "group_name" asStr
      buyConfirmedCount := ← required fields "buy_confirmed_count" (asUnsigned 64)
      buyFailedCount := ← required fields "buy_failed_count" (asUnsigned 64)
      sellFailedCount := ← required fields "sell_failed_count" (asUnsigned 64)
      closedTrades := ← required fields "closed_trades" (asUnsigned 64)
      wins := ← required fields "wins" (asUnsigned 64)
      losses := ← required fields "losses" (asUnsigned 64)
      flats := ← required fields "flats" (asUnsigned 64)
      avgPnlPercent := ← required fields "avg_pnl_percent" asFinite
      netPnlPercentSum := ← required fields "net_pnl_percent_sum" asFinite
      bestTradePercent := ← defaulted fields "best_trade_percent" (asOption asFinite) none
      worstTradePercent := ← defaulted fields "worst_trade_percent" (asOption asFinite) none
      avgHoldSeconds := ← required fields "avg_hold_seconds" asFinite
      lastUpdatedUnixSecs := ← required fields "last_updated_unix_secs" (asUnsigned 64) }
  | _ => none

def counts (summary : GroupPerformanceSummary) : List ℕ :=
  [summary.buyConfirmedCount, summary.buyFailedCount, summary.sellFailedCount, summary.closedTrades, summary.wins,
    summary.losses, summary.flats, summary.lastUpdatedUnixSecs]

/-- The bounds of the integer type. -/
def Fits (summary : GroupPerformanceSummary) : Prop := ∀ n ∈ summary.counts, n < 2 ^ 64

theorem asOption_elim (value : Option ℚ) : asOption asFinite (value.elim .null .float) = some value := by
  cases value <;> rfl

theorem ofJson_toJson {summary : GroupPerformanceSummary} (fits : summary.Fits) :
    ofJson summary.toJson = some summary := by
  simp only [Fits, counts, List.forall_mem_cons, List.not_mem_nil, false_imp_iff, implies_true, and_true] at fits
  obtain ⟨confirmed, failed, sellFailed, closed, wins, losses, flats, updated⟩ := fits
  unfold toJson ofJson
  dsimp only [required, defaulted]
  simp only [given, List.filter, List.map, decide_true, decide_false, String.reduceEq]
  simp only [asStr, asUnsigned_int, asFinite_float, asOption_elim, confirmed, failed, sellFailed, closed, wins, losses,
    flats, updated, Option.bind_eq_bind, Option.bind_some]

end GroupPerformanceSummary

/-! ### The report -/

/-- The order of the report: by the sum of the results, then by the win rate, then by the number of trades, each
from high to low. -/
def reportOrder (a b : GroupPerformanceSummary) : Ordering :=
  (compare b.netPnlPercentSum a.netPnlPercentSum).then
    ((compare b.winRatePercent a.winRatePercent).then (compare b.closedTrades a.closedTrades))

namespace GroupPerformanceStore

variable {F : Type}

/-- The summary of a current group, under its current name. -/
def named (store : GroupPerformanceStore) (group : CopyGroup F) : GroupPerformanceSummary :=
  match store.summaries.get group.id with
  | some item => { item with groupName := group.name }
  | none => .blank group.id group.name

/-- The summaries of the current groups, and then those of other groups. -/
def merged (store : GroupPerformanceStore) (groups : GroupManager F) : DashMap String GroupPerformanceSummary :=
  (DashMap.empty.insertAll (·.id) store.named groups.allGroups).fill store.summaries.entries

def snapshot (store : GroupPerformanceStore) (groups : GroupManager F) : List GroupPerformanceSummary :=
  ((store.merged groups).inOrder.map Prod.snd).mergeSort fun a b => reportOrder a b != .gt

/-- What `save_json` writes. -/
def saveJson (store : GroupPerformanceStore) (groups : GroupManager F) : Json :=
  .arr ((store.snapshot groups).map (·.toJson))

/-- `load_or_default`; no file stands for one that is missing or cannot be read as a tree. -/
def loadOrDefault (file : Option Json) : DashMap String GroupPerformanceSummary :=
  ((file.bind (Json.asArr GroupPerformanceSummary.ofJson)).map (DashMap.collect (·.groupId))).getD DashMap.empty

/-! ### What the report holds -/

/-- Every summary is stored under the id of its group. -/
def Keyed (summaries : DashMap String GroupPerformanceSummary) : Prop :=
  ∀ id summary, summaries.get id = some summary → summary.groupId = id

variable {store : GroupPerformanceStore} {groups : GroupManager F}

theorem find_allGroups (groups : GroupManager F) (id : String) :
    (groups.allGroups.reverse.find? fun group => group.id = id) = groups.getGroup id := by
  cases found : groups.allGroups.reverse.find? fun group => group.id = id with
  | some group =>
    obtain rfl : group.id = id := by simpa using List.find?_some found
    exact (GroupManager.mem_allGroups.mp (List.mem_reverse.mp (List.mem_of_find?_eq_some found))).symm
  | none =>
    cases stored : groups.getGroup id with
    | none => rfl
    | some group =>
      obtain rfl : group.id = id := GroupManager.keyed_iff.mp groups.keyed id group stored
      have listed := List.mem_reverse.mpr (GroupManager.mem_allGroups.mpr stored)
      have absent := List.find?_eq_none.mp found group listed
      simp at absent

theorem get_merged (id : String) :
    (store.merged groups).get id = ((groups.getGroup id).map store.named).or (store.summaries.get id) := by
  unfold merged
  rw [DashMap.get_fill, DashMap.get_insertAll, find_allGroups, DashMap.get_empty, Option.or_none]
  rfl

theorem named_groupId (keyed : Keyed store.summaries) (group : CopyGroup F) : (store.named group).groupId = group.id := by
  unfold named
  cases stored : store.summaries.get group.id with
  | none => rfl
  | some item => exact keyed group.id item stored

theorem keyed_merged (keyed : Keyed store.summaries) : Keyed (store.merged groups) := by
  intro id summary stored
  rw [get_merged] at stored
  cases current : groups.getGroup id with
  | none =>
    rw [current] at stored
    exact keyed id summary stored
  | some group =>
    rw [current] at stored
    obtain rfl := Option.some.inj stored
    exact (named_groupId keyed group).trans (GroupManager.keyed_iff.mp groups.keyed id group current)

theorem snapshot_perm : (store.snapshot groups).Perm (store.merged groups).values :=
  (List.mergeSort_perm _ _).trans ((DashMap.inOrder_perm _).map Prod.snd)

/-- The report is settled by the merged summaries. -/
theorem snapshot_congr {store' : GroupPerformanceStore} {groups' : GroupManager F}
    (same : ∀ id, (store.merged groups).get id = (store'.merged groups').get id) :
    store.snapshot groups = store'.snapshot groups' := by
  unfold snapshot
  rw [DashMap.inOrder_congr same]

theorem listed_iff_current (keyed : Keyed store.summaries) (id : String) :
    id ∈ (store.snapshot groups).map (·.groupId) ↔
      (groups.getGroup id).isSome ∨ (store.summaries.get id).isSome := by
  rw [(snapshot_perm.map _).mem_iff, List.mem_map]
  have stored : ((store.merged groups).get id).isSome ↔
      (groups.getGroup id).isSome ∨ (store.summaries.get id).isSome := by
    rw [get_merged, Option.isSome_or, Option.isSome_map, Bool.or_eq_true]
  rw [← stored, Option.isSome_iff_exists]
  constructor
  · rintro ⟨summary, listed, rfl⟩
    obtain ⟨key, read⟩ := DashMap.mem_values.mp listed
    exact ⟨summary, (keyed_merged keyed key summary read).symm ▸ read⟩
  · rintro ⟨summary, read⟩
    exact ⟨summary, DashMap.mem_values.mpr ⟨id, read⟩, keyed_merged keyed id summary read⟩

theorem nodup_snapshot (keyed : Keyed store.summaries) : ((store.snapshot groups).map (·.groupId)).Nodup := by
  refine ((snapshot_perm.map _).nodup_iff).mpr ?_
  have ids : (store.merged groups).values.map (·.groupId) = (store.merged groups).keys := by
    rw [DashMap.values, DashMap.keys, List.map_map]
    exact List.map_congr_left fun entry stored => keyed_merged keyed entry.1 entry.2 (DashMap.get_of_mem stored)
  rw [ids]
  exact (store.merged groups).distinct

/-! ### Best first -/

/-- What the report is sorted by. -/
def reportKey (summary : GroupPerformanceSummary) : ℚ ×ₗ ℚ ×ₗ ℕ :=
  toLex (summary.netPnlPercentSum, toLex (summary.winRatePercent, summary.closedTrades))

theorem then_ne_gt {α : Type} [LinearOrder α] (x y : α) (next : Ordering) :
    (compare x y).then next ≠ .gt ↔ x < y ∨ x = y ∧ next ≠ .gt := by
  rcases lt_trichotomy x y with below | rfl | above
  · simp [compare_lt_iff_lt.mpr below, below]
  · simp
  · simp [compare_gt_iff_gt.mpr above, above.ne', above.not_gt]

theorem reportOrder_iff (a b : GroupPerformanceSummary) :
    (reportOrder a b != .gt) = true ↔ reportKey b ≤ reportKey a := by
  rw [bne_iff_ne, reportOrder, then_ne_gt, then_ne_gt, compare_le_iff_le, reportKey, reportKey,
    Prod.Lex.toLex_le_toLex, Prod.Lex.toLex_le_toLex]

theorem snapshot_sorted : (store.snapshot groups).Pairwise fun a b => reportKey b ≤ reportKey a := by
  refine (List.pairwise_mergeSort (fun a b c first second => ?_) (fun a b => ?_) _).imp fun ordered =>
    (reportOrder_iff _ _).mp ordered
  · exact (reportOrder_iff a c).mpr (((reportOrder_iff b c).mp second).trans ((reportOrder_iff a b).mp first))
  · rw [Bool.or_eq_true, reportOrder_iff, reportOrder_iff]
    exact le_total _ _

/-! ### Reading the file back -/

/-- Every count of every summary is in bounds. -/
def Fit (summaries : DashMap String GroupPerformanceSummary) : Prop :=
  ∀ id summary, summaries.get id = some summary → summary.Fits

theorem fit_merged (groups : GroupManager F) (fit : Fit store.summaries) : Fit (store.merged groups) := by
  intro id summary stored
  rw [get_merged] at stored
  cases current : groups.getGroup id with
  | none =>
    rw [current] at stored
    exact fit id summary stored
  | some group =>
    rw [current] at stored
    obtain rfl := Option.some.inj stored
    unfold named
    cases item : store.summaries.get group.id with
    | none => simp [GroupPerformanceSummary.Fits, GroupPerformanceSummary.counts, GroupPerformanceSummary.blank]
    | some item' => exact fit group.id item' item

theorem get_loadOrDefault (groups : GroupManager F) (keyed : Keyed store.summaries) (fit : Fit store.summaries)
    (id : String) :
    (loadOrDefault (some (store.saveJson groups))).get id = (store.merged groups).get id := by
  have read : Json.asArr GroupPerformanceSummary.ofJson (store.saveJson groups) = some (store.snapshot groups) := by
    refine Json.mapM_eq_some fun summary listed => ?_
    obtain ⟨key, stored⟩ := DashMap.mem_values.mp (snapshot_perm.mem_iff.mp listed)
    exact GroupPerformanceSummary.ofJson_toJson (fit_merged groups fit key summary stored)
  rw [loadOrDefault, Option.bind_some, read]
  exact DashMap.get_collect (keyed_merged keyed) snapshot_perm id

/-- What was read back is merged into the same report. -/
theorem merged_reloaded {store' : GroupPerformanceStore}
    (reloaded : ∀ id, store'.summaries.get id = (store.merged groups).get id) (id : String) :
    (store'.merged groups).get id = (store.merged groups).get id := by
  have read : (store'.merged groups).get id = ((groups.getGroup id).map store'.named).or (store'.summaries.get id) :=
    get_merged id
  rw [read, reloaded]
  cases current : groups.getGroup id with
  | none => rfl
  | some group =>
    obtain rfl : group.id = id := GroupManager.keyed_iff.mp groups.keyed id group current
    have stored : (store.merged groups).get group.id = some (store.named group) := by
      rw [get_merged, current]
      rfl
    rw [stored, Option.map_some, Option.some_or, named, reloaded, stored]
    unfold named
    cases store.summaries.get group.id <;> rfl

end GroupPerformanceStore

end CopyTrader.Telegram
