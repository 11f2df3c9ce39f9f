import CopyTrader.Lib.Durable
import CopyTrader.Telegram.Reports

/-!
# The statistics across restarts

Each update of the statistics is followed by a write of the file. What memory and file say of a group is worked
out from the updates that they account for, and while every write is done these are all updates. Sums are exact,
and a number in the file is read back as it was written.
-/

namespace CopyTrader.Telegram
open Lib

/-! ### Figures -/

/-- What a summary says of its group besides names and times. -/
structure Figures where
  buyConfirmed : ℕ
  buyFailed : ℕ
  sellFailed : ℕ
  trades : TradeTotals

def GroupPerformanceSummary.figures (summary : GroupPerformanceSummary) : Figures :=
  ⟨summary.buyConfirmedCount, summary.buyFailedCount, summary.sellFailedCount, summary.tradeTotals⟩

namespace StatsUpdate

variable {F : Type} (groupId : String)

def isBuyConfirmed : StatsUpdate F × ℕ → Bool
  | (buyConfirmed groupId' _, _) => groupId' = groupId
  | _ => false

def isBuyFailed : StatsUpdate F × ℕ → Bool
  | (buyFailed groupId' _, _) => groupId' = groupId
  | _ => false

def isSellFailed : StatsUpdate F × ℕ → Bool
  | (sellFailed groupId' _, _) => groupId' = groupId
  | _ => false

/-- The figures of a group, worked out from all the updates at once. -/
def figuresOf (updates : List (StatsUpdate F × ℕ)) : Figures where
  buyConfirmed := updates.countP (isBuyConfirmed groupId)
  buyFailed := updates.countP (isBuyFailed groupId)
  sellFailed := updates.countP (isSellFailed groupId)
  trades := TradeTotals.ofRecords (recordsOf groupId updates)

variable {groupId} {store : GroupPerformanceStore} {updates : List (StatsUpdate F × ℕ)}
open GroupPerformanceStore

theorem figuresOf_snoc (updates : List (StatsUpdate F × ℕ)) (update : StatsUpdate F × ℕ) :
    figuresOf groupId (updates ++ [update]) =
      ⟨updates.countP (isBuyConfirmed groupId) + if isBuyConfirmed groupId update then 1 else 0,
        updates.countP (isBuyFailed groupId) + if isBuyFailed groupId update then 1 else 0,
        updates.countP (isSellFailed groupId) + if isSellFailed groupId update then 1 else 0,
        TradeTotals.ofRecords (recordsOf groupId updates ++ (recordOf groupId update).toList)⟩ := by
  have records : recordsOf groupId (updates ++ [update]) =
      recordsOf groupId updates ++ (recordOf groupId update).toList := by
    rw [recordsOf, List.filterMap_append]
    cases found : recordOf groupId update <;> simp [recordsOf, found]
  rw [figuresOf, List.countP_append, List.countP_append, List.countP_append, records, List.countP_singleton,
    List.countP_singleton, List.countP_singleton]

theorem figures_blank (groupName : String) :
    (GroupPerformanceSummary.blank groupId groupName).figures = figuresOf (F := F) groupId [] :=
  congrArg (Figures.mk 0 0 0) (GroupPerformanceSummary.tradeTotals_blank groupId groupName)

/-! ### One update of the figures -/

/-- A number that a summary starts without, with what each kind of event adds to it. -/
structure Counter (count : GroupPerformanceSummary → ℕ) (confirmed failed sellFailed : ℕ) : Prop where
  blank : ∀ groupId groupName, count (.blank groupId groupName) = 0
  renamed : ∀ summary now groupName, count (GroupPerformanceSummary.applyGroupName summary now groupName) = count summary
  onConfirmed : ∀ summary now, count (GroupPerformanceSummary.recordBuyConfirmed summary now) = count summary + confirmed
  onFailed : ∀ summary now, count (GroupPerformanceSummary.recordBuyFailed summary now) = count summary + failed
  onSellFailed : ∀ summary now, count (GroupPerformanceSummary.recordSellFailed summary now) = count summary + sellFailed
  onClosed : ∀ summary now record, count (GroupPerformanceSummary.recordClosedTrade summary now record) = count summary

section
variable {count : GroupPerformanceSummary → ℕ} {confirmed failed sellFailed : ℕ}
  (counter : Counter count confirmed failed sellFailed)
include counter

theorem count_updateSummary {now more : ℕ} {groupId' groupName : String}
    {mutator : GroupPerformanceSummary → GroupPerformanceSummary}
    (adds : ∀ summary, count (mutator summary) = count summary + more) :
    count (summaryOf (store.updateSummary now groupId' groupName mutator).summaries groupId) =
      count (summaryOf store.summaries groupId) + if groupId' = groupId then more else 0 := by
  by_cases same : groupId' = groupId
  · subst same
    unfold summaryOf updateSummary
    rw [DashMap.get_insert_same, Option.getD_some, adds, counter.renamed, if_pos rfl]
    cases store.summaries.get groupId'
    · rw [Option.getD_none, Option.getD_none, counter.blank, counter.blank]
    · rfl
  · rw [summaryOf_updateSummary_other (Ne.symm same), if_neg same, Nat.add_zero]

theorem count_syncGroups (now : ℕ) (groups : GroupManager F) :
    count (summaryOf (store.syncGroups now groups).summaries groupId) = count (summaryOf store.summaries groupId) := by
  unfold GroupPerformanceStore.syncGroups
  dsimp only
  generalize store.summaries = summaries
  induction groups.allGroups generalizing summaries with
  | nil => rfl
  | cons group rest ih =>
    rw [List.foldl_cons, ih]
    by_cases same : groupId = group.id
    · subst same
      unfold summaryOf DashMap.contains
      cases read : summaries.get group.id <;> simp [read, counter.blank, counter.renamed]
    · unfold summaryOf
      split
      · rw [DashMap.get_modify_other _ _ same]
      · rw [DashMap.get_insert_other _ _ same]

/-- What an update adds to a count of a group. -/
theorem count_step (groupId : String) (store : GroupPerformanceStore) (update : StatsUpdate F × ℕ) :
    count (summaryOf (perform store update).1.summaries groupId) =
      count (summaryOf store.summaries groupId) + ((if isBuyConfirmed groupId update then confirmed else 0) +
        (if isBuyFailed groupId update then failed else 0) + if isSellFailed groupId update then sellFailed else 0) := by
  obtain ⟨update, now⟩ := update
  cases update with
  | buyConfirmed groupId' groupName =>
    refine (count_updateSummary counter fun summary => counter.onConfirmed summary now).trans ?_
    simp [isBuyConfirmed, isBuyFailed, isSellFailed]
  | buyFailed groupId' groupName =>
    refine (count_updateSummary counter fun summary => counter.onFailed summary now).trans ?_
    simp [isBuyConfirmed, isBuyFailed, isSellFailed]
  | sellFailed groupId' groupName =>
    refine (count_updateSummary counter fun summary => counter.onSellFailed summary now).trans ?_
    simp [isBuyConfirmed, isBuyFailed, isSellFailed]
  | closedTrade record =>
    have kept : count (summaryOf (store.recordClosedTrade now record).summaries groupId) =
        count (summaryOf store.summaries groupId) + if record.groupId = groupId then 0 else 0 :=
      count_updateSummary counter fun summary => counter.onClosed summary now record
    refine kept.trans ?_
    simp [isBuyConfirmed, isBuyFailed, isSellFailed]
  | syncGroups groups => exact count_syncGroups counter now groups

end

/-- A closed trade is none of the counted events. -/
theorem recordClosedTrade_counts (summary : GroupPerformanceSummary) (now : ℕ) (record : ClosedTradeRecord) :
    (summary.recordClosedTrade now record).buyConfirmedCount = summary.buyConfirmedCount ∧
      (summary.recordClosedTrade now record).buyFailedCount = summary.buyFailedCount ∧
      (summary.recordClosedTrade now record).sellFailedCount = summary.sellFailedCount := by
  unfold GroupPerformanceSummary.recordClosedTrade
  cases record.outcome <;> exact ⟨rfl, rfl, rfl⟩

theorem confirmedCounter : Counter (·.buyConfirmedCount) 1 0 0 :=
  ⟨fun _ _ => rfl, fun _ _ _ => rfl, fun _ _ => rfl, fun _ _ => rfl, fun _ _ => rfl,
    fun summary now record => (recordClosedTrade_counts summary now record).1⟩

theorem failedCounter : Counter (·.buyFailedCount) 0 1 0 :=
  ⟨fun _ _ => rfl, fun _ _ _ => rfl, fun _ _ => rfl, fun _ _ => rfl, fun _ _ => rfl,
    fun summary now record => (recordClosedTrade_counts summary now record).2.1⟩

theorem sellFailedCounter : Counter (·.sellFailedCount) 0 0 1 :=
  ⟨fun _ _ => rfl, fun _ _ _ => rfl, fun _ _ => rfl, fun _ _ => rfl, fun _ _ => rfl,
    fun summary now record => (recordClosedTrade_counts summary now record).2.2⟩

theorem figures_step (held : (summaryOf store.summaries groupId).figures = figuresOf groupId updates)
    (update : StatsUpdate F × ℕ) :
    (summaryOf (perform store update).1.summaries groupId).figures = figuresOf groupId (updates ++ [update]) := by
  obtain ⟨confirmed, failed, sellFailed, trades⟩ := Figures.mk.inj held
  have confirmedNext := count_step confirmedCounter groupId store update
  have failedNext := count_step failedCounter groupId store update
  have sellFailedNext := count_step sellFailedCounter groupId store update
  simp only [ite_self, Nat.add_zero, Nat.zero_add] at confirmedNext failedNext sellFailedNext
  have tradesNext := totals_step update trades
  rw [figuresOf_snoc, GroupPerformanceSummary.figures, confirmedNext, failedNext, sellFailedNext, tradesNext, confirmed,
    failed, sellFailed]

/-! ### Updates keep the store in order -/

/-- What holds of every stored summary with its id. -/
def Every (P : String → GroupPerformanceSummary → Prop) (summaries : DashMap String GroupPerformanceSummary) : Prop :=
  ∀ id summary, summaries.get id = some summary → P id summary

theorem every_insert {P : String → GroupPerformanceSummary → Prop} {summaries : DashMap String GroupPerformanceSummary}
    (every : Every P summaries) {id : String} {summary : GroupPerformanceSummary} (holds : P id summary) :
    Every P (summaries.insert id summary) := by
  intro id' summary' stored
  rw [DashMap.get_insert] at stored
  split at stored
  · rename_i same
    rw [same, ← Option.some.inj stored]
    exact holds
  · exact every id' summary' stored

theorem every_modify {P : String → GroupPerformanceSummary → Prop} {summaries : DashMap String GroupPerformanceSummary}
    (every : Every P summaries) {id : String} {f : GroupPerformanceSummary → GroupPerformanceSummary}
    (keeps : ∀ summary, P id summary → P id (f summary)) : Every P (summaries.modify id f) := by
  intro id' summary' stored
  rw [DashMap.get_modify] at stored
  split at stored
  · rename_i same
    subst same
    obtain ⟨summary, read, rfl⟩ := Option.map_eq_some_iff.mp stored
    exact keeps summary (every id' summary read)
  · exact every id' summary' stored

/-- A property of stored summaries that blanks have, and that the methods of a summary keep. -/
structure Lasting (now : ℕ) (P : String → GroupPerformanceSummary → Prop) : Prop where
  blank : ∀ id groupName, P id (.blank id groupName)
  renamed : ∀ id summary groupName, P id summary → P id (summary.applyGroupName now groupName)
  confirmed : ∀ id summary, P id summary → P id (summary.recordBuyConfirmed now)
  failed : ∀ id summary, P id summary → P id (summary.recordBuyFailed now)
  sellFailed : ∀ id summary, P id summary → P id (summary.recordSellFailed now)
  closed : ∀ id summary record, P id summary → P id (summary.recordClosedTrade now record)

theorem every_updateSummary {now : ℕ} {P : String → GroupPerformanceSummary → Prop} (lasting : Lasting now P)
    (every : Every P store.summaries) {id groupName : String} {mutator : GroupPerformanceSummary → GroupPerformanceSummary}
    (keeps : ∀ summary, P id summary → P id (mutator summary)) :
    Every P (store.updateSummary now id groupName mutator).summaries := by
  refine every_insert every (keeps _ (lasting.renamed id _ groupName ?_))
  cases stored : store.summaries.get id with
  | none => exact lasting.blank id groupName
  | some summary => exact every id summary stored

theorem every_step {P : String → GroupPerformanceSummary → Prop} {update : StatsUpdate F × ℕ}
    (lasting : Lasting update.2 P) (every : Every P store.summaries) : Every P (perform store update).1.summaries := by
  obtain ⟨update, now⟩ := update
  cases update with
  | buyConfirmed groupId => exact every_updateSummary lasting every (lasting.confirmed groupId)
  | buyFailed groupId => exact every_updateSummary lasting every (lasting.failed groupId)
  | sellFailed groupId => exact every_updateSummary lasting every (lasting.sellFailed groupId)
  | closedTrade record =>
    exact every_updateSummary lasting every fun summary => lasting.closed record.groupId summary record
  | syncGroups groups =>
    show Every P (store.syncGroups now groups).summaries
    unfold GroupPerformanceStore.syncGroups
    dsimp only
    generalize store.summaries = summaries at every
    induction groups.allGroups generalizing summaries with
    | nil => exact every
    | cons group rest ih =>
      rw [List.foldl_cons]
      apply ih
      split
      · exact every_modify every fun summary => lasting.renamed group.id summary group.name
      · exact every_insert every (lasting.blank group.id group.name)

theorem recordClosedTrade_ids (summary : GroupPerformanceSummary) (now : ℕ) (record : ClosedTradeRecord) :
    (summary.recordClosedTrade now record).groupId = summary.groupId ∧
      (summary.recordClosedTrade now record).lastUpdatedUnixSecs = now := by
  unfold GroupPerformanceSummary.recordClosedTrade
  cases record.outcome <;> exact ⟨rfl, rfl⟩

theorem lasting_keyed (now : ℕ) : Lasting now fun id summary => summary.groupId = id where
  blank _ _ := rfl
  renamed _ _ _ keyed := keyed
  confirmed _ _ keyed := keyed
  failed _ _ keyed := keyed
  sellFailed _ _ keyed := keyed
  closed _ summary record keyed := (recordClosedTrade_ids summary now record).1.trans keyed

theorem lasting_updated {now bound : ℕ} (early : now < bound) :
    Lasting now fun _ summary => summary.lastUpdatedUnixSecs < bound where
  blank _ _ := Nat.zero_lt_of_lt early
  renamed _ _ _ _ := early
  confirmed _ _ _ := early
  failed _ _ _ := early
  sellFailed _ _ _ := early
  closed _ summary record _ := by
    rw [(recordClosedTrade_ids summary now record).2]
    exact early

/-! ### Memory and file against the updates -/

/-- The summaries account for the updates. -/
structure Accounts (summaries : DashMap String GroupPerformanceSummary) (updates : List (StatsUpdate F × ℕ)) : Prop where
  keyed : Every (fun id summary => summary.groupId = id) summaries
  updated : Every (fun _ summary => summary.lastUpdatedUnixSecs < 2 ^ 64) summaries
  figures : ∀ id, (summaryOf summaries id).figures = figuresOf id updates

theorem accounts_nothing : Accounts DashMap.empty ([] : List (StatsUpdate F × ℕ)) where
  keyed _ _ stored := by cases stored
  updated _ _ stored := by cases stored
  figures id := figures_blank ""

theorem Accounts.step (accounts : Accounts store.summaries updates) {update : StatsUpdate F × ℕ}
    (early : update.2 < 2 ^ 64) : Accounts (perform store update).1.summaries (updates ++ [update]) where
  keyed := every_step (lasting_keyed update.2) accounts.keyed
  updated := every_step (lasting_updated early) accounts.updated
  figures id := figures_step (accounts.figures id) update

/-- No count is above the number of updates. -/
theorem Accounts.fit {summaries : DashMap String GroupPerformanceSummary} (accounts : Accounts summaries updates)
    (few : updates.length < 2 ^ 64) : Fit summaries := by
  intro id summary stored
  have figures := accounts.figures id
  rw [summaryOf, stored, Option.getD_some] at figures
  obtain ⟨confirmed, failed, sellFailed, trades⟩ := Figures.mk.inj figures
  obtain ⟨closed, wins, losses, flats, -⟩ := GroupPerformanceSummary.totals_fields trades
  have recorded : (recordsOf id updates).length ≤ updates.length := List.length_filterMap_le _ _
  have counted (p : ClosedTradeRecord → Bool) : (recordsOf id updates).countP p < 2 ^ 64 :=
    (List.countP_le_length.trans recorded).trans_lt few
  have events (p : StatsUpdate F × ℕ → Bool) : updates.countP p < 2 ^ 64 := List.countP_le_length.trans_lt few
  simp only [GroupPerformanceSummary.Fits, GroupPerformanceSummary.counts, List.forall_mem_cons, List.not_mem_nil,
    false_imp_iff, implies_true, and_true]
  refine ⟨confirmed ▸ events _, failed ▸ events _, sellFailed ▸ events _, closed ▸ recorded.trans_lt few,
    wins ▸ counted _, losses ▸ counted _, flats ▸ counted _, accounts.updated id summary stored⟩

theorem figures_merged (groups : GroupManager F) (id : String) :
    (summaryOf (store.merged groups) id).figures = (summaryOf store.summaries id).figures := by
  unfold summaryOf
  rw [get_merged]
  cases current : groups.getGroup id with
  | none => rfl
  | some group =>
    obtain rfl : group.id = id := GroupManager.keyed_iff.mp groups.keyed id group current
    rw [Option.map_some, Option.some_or, Option.getD_some, named]
    cases store.summaries.get group.id <;> rfl

/-- A file that is written now accounts for the same updates when it is read. -/
theorem Accounts.saved (accounts : Accounts store.summaries updates) (few : updates.length < 2 ^ 64)
    (groups : GroupManager F) : Accounts (loadOrDefault (some (store.saveJson groups))) updates := by
  have read := get_loadOrDefault groups accounts.keyed (accounts.fit few)
  constructor
  case keyed =>
    intro id summary stored
    exact keyed_merged accounts.keyed id summary ((read id).symm.trans stored)
  case updated =>
    intro id summary stored
    have fits := fit_merged groups (accounts.fit few) id summary ((read id).symm.trans stored)
    exact fits _ (by simp [GroupPerformanceSummary.counts])
  case figures =>
    intro id
    have same : summaryOf (loadOrDefault (some (store.saveJson groups))) id = summaryOf (store.merged groups) id := by
      rw [summaryOf, summaryOf, read]
    rw [same, figures_merged, accounts.figures]

end StatsUpdate

/-! ### Runs with restarts -/

/-- The store of a running bot, and its file: none while it is missing or cannot be read. -/
structure Bookkeeping where
  store : GroupPerformanceStore
  file : Option Json

namespace Bookkeeping
open GroupPerformanceStore StatsUpdate

variable {F : Type}

/-- A bot before its first start. -/
def fresh : Bookkeeping := ⟨⟨DashMap.empty, []⟩, none⟩

/-- An update and the write of the file after it, with the groups of that time; or a restart. -/
def perform : Machine Bookkeeping (Durable ((StatsUpdate F × ℕ) × GroupManager F)) Unit
  | kept, .update (update, groups) write =>
    let store := (StatsUpdate.perform kept.store update).1
    (⟨store, write.over (some (store.saveJson groups)) kept.file none⟩, ())
  | kept, .restart => (⟨{ kept.store with summaries := loadOrDefault kept.file }, kept.file⟩, ())

/-- Times and the number of updates are in the range of the counters. -/
structure InRange (history : List (Durable ((StatsUpdate F × ℕ) × GroupManager F))) : Prop where
  times : ∀ update ∈ Durable.updates history, update.1.2 < 2 ^ 64
  few : (Durable.updates history).length < 2 ^ 64

theorem InRange.of_snoc {history : List (Durable ((StatsUpdate F × ℕ) × GroupManager F))}
    {event : Durable ((StatsUpdate F × ℕ) × GroupManager F)} (range : InRange (history ++ [event])) : InRange history := by
  obtain ⟨times, few⟩ := range
  rw [Durable.updates_snoc] at times few
  rw [List.length_append] at few
  exact ⟨fun update member => times update (List.mem_append_left _ member), Nat.lt_of_le_of_lt (Nat.le_add_right ..) few⟩

/-- Memory and file account for the updates that the history says. -/
theorem accounts_after (history : List (Durable ((StatsUpdate F × ℕ) × GroupManager F))) (range : InRange history) :
    Accounts (Machine.after perform fresh history).store.summaries
        ((Durable.accounted history).memory.map Prod.fst) ∧
      Accounts (loadOrDefault (Machine.after perform fresh history).file)
        ((Durable.accounted history).disk.map Prod.fst) := by
  induction history using List.reverseRecOn with
  | nil => exact ⟨accounts_nothing, accounts_nothing⟩
  | append_singleton history event ih =>
    obtain ⟨memory, disk⟩ := ih range.of_snoc
    obtain ⟨sublist, -⟩ := Durable.accounted_sublist (history ++ [event])
    rw [Machine.after_snoc]
    rw [Durable.accounted_snoc] at sublist ⊢
    cases event with
    | restart => exact ⟨disk, disk⟩
    | update input write =>
      obtain ⟨update, groups⟩ := input
      have early : update.2 < 2 ^ 64 := by
        refine range.times (update, groups) ?_
        rw [Durable.updates_snoc]
        exact List.mem_append_right _ (List.mem_singleton_self _)
      have next := memory.step early
      have same : ((Durable.accounted history).memory ++ [(update, groups)]).map Prod.fst =
          (Durable.accounted history).memory.map Prod.fst ++ [update] := List.map_append
      have few : ((Durable.accounted history).memory.map Prod.fst ++ [update]).length < 2 ^ 64 := by
        rw [← same, List.length_map]
        exact sublist.length_le.trans_lt range.few
      cases write with
      | done => exact ⟨same.symm ▸ next, same.symm ▸ next.saved few groups⟩
      | failed => exact ⟨same.symm ▸ next, disk⟩
      | torn => exact ⟨same.symm ▸ next, accounts_nothing⟩

/-- The figures of every group are those of the updates that memory and file account for; while every write is
done these are all updates, whatever restarts there are. -/
theorem statistics_survive_restarts (history : List (Durable ((StatsUpdate F × ℕ) × GroupManager F)))
    (range : InRange history) :
    let kept := Machine.after perform fresh history
    let updates := (Durable.updates history).map Prod.fst
    (∀ id, (summaryOf kept.store.summaries id).figures =
      figuresOf id ((Durable.accounted history).memory.map Prod.fst)) ∧
    (∀ id, (summaryOf (loadOrDefault kept.file) id).figures =
      figuresOf id ((Durable.accounted history).disk.map Prod.fst)) ∧
    ((Durable.accounted history).memory.map Prod.fst).Sublist updates ∧
    ((Durable.accounted history).disk.map Prod.fst).Sublist updates ∧
    (Durable.AllDone history → ∀ id, (summaryOf kept.store.summaries id).figures = figuresOf id updates ∧
      (summaryOf (loadOrDefault kept.file) id).figures = figuresOf id updates) := by
  intro kept updates
  obtain ⟨memory, disk⟩ := accounts_after history range
  obtain ⟨memorySublist, diskSublist⟩ := Durable.accounted_sublist history
  refine ⟨memory.figures, disk.figures, memorySublist.map _, diskSublist.map _, fun done id => ?_⟩
  have inMemory := memory.figures id
  have onDisk := disk.figures id
  rw [Durable.accounted_of_done done] at inMemory onDisk
  exact ⟨inMemory, onDisk⟩

def sampleReported : GroupManager ℚ where
  groups := DashMap.empty.insert "g1" (CopyGroup.fromAppConfig sampleConfig)
  keyed := by decide
  selectedGroupId := some "g1"
  blocklist := []
  zeroSlotBuyEnabled := false

/-- Every update of the sample is written, with a restart after each. -/
def sampleRestarts : List (Durable ((StatsUpdate ℚ × ℕ) × GroupManager ℚ)) :=
  sampleUpdates.flatMap fun update => [.update (update, sampleReported) .done, .restart]

theorem statistics_survive_restarts_sample :
    let summary := summaryOf (Machine.after perform fresh sampleRestarts).store.summaries "g1"
    summary.closedTrades = 2 ∧ summary.sellFailedCount = 1 := by
  intro summary
  have updates : Durable.updates sampleRestarts = sampleUpdates.map fun update => (update, sampleReported) := rfl
  have range : InRange sampleRestarts := by
    constructor
    · intro update member
      rw [updates] at member
      obtain ⟨made, among, rfl⟩ := List.mem_map.mp member
      have early : ∀ made ∈ sampleUpdates, made.2 < 2 ^ 64 := by simp [sampleUpdates]
      exact early made among
    · rw [updates]
      decide
  have done : Durable.AllDone sampleRestarts := by
    intro input write member
    obtain ⟨update, -, listed⟩ := List.mem_flatMap.mp member
    simp only [List.mem_cons, Durable.update.injEq, List.not_mem_nil, or_false] at listed
    rcases listed with ⟨-, rfl⟩ | restart
    · rfl
    · cases restart
  obtain ⟨-, -, -, -, all⟩ := statistics_survive_restarts sampleRestarts range
  have figures := (all done "g1").1
  exact ⟨congrArg (·.trades.closedTrades) figures, congrArg (·.sellFailed) figures⟩

/-- After a write that is done, a restart leaves the report as it was: every current or recorded group once, best
first. -/
theorem report_survives_restart (history : List (Durable ((StatsUpdate F × ℕ) × GroupManager F)))
    (update : StatsUpdate F × ℕ) (groups : GroupManager F)
    (range : InRange (history ++ [.update (update, groups) .done])) :
    let kept := Machine.after perform fresh (history ++ [.update (update, groups) .done])
    let restarted := (perform (F := F) kept .restart).1
    let report := kept.store.snapshot groups
    restarted.store.snapshot groups = report ∧
    (report.map (·.groupId)).Nodup ∧
    (∀ id, id ∈ report.map (·.groupId) ↔ (groups.getGroup id).isSome ∨ (kept.store.summaries.get id).isSome) ∧
    report.Pairwise fun a b => reportKey b ≤ reportKey a := by
  intro kept restarted report
  obtain ⟨memory, -⟩ := accounts_after _ range
  have few : ((Durable.accounted (history ++ [.update (update, groups) .done])).memory.map Prod.fst).length < 2 ^ 64 := by
    rw [List.length_map]
    exact (Durable.accounted_sublist _).1.length_le.trans_lt range.few
  have file : kept.file = some (kept.store.saveJson groups) := by
    show (Machine.after perform fresh (history ++ [.update (update, groups) .done])).file =
      some ((Machine.after perform fresh (history ++ [.update (update, groups) .done])).store.saveJson groups)
    rw [Machine.after_snoc]
    rfl
  have read := get_loadOrDefault groups memory.keyed (memory.fit few)
  refine ⟨snapshot_congr (merged_reloaded fun id => ?_), nodup_snapshot memory.keyed, listed_iff_current memory.keyed,
    snapshot_sorted⟩
  show (loadOrDefault kept.file).get id = _
  rw [file]
  exact read id

theorem report_survives_restart_sample :
    let update : StatsUpdate ℚ × ℕ := (.buyConfirmed "g2" "other", 1000)
    let kept := Machine.after perform fresh [.update (update, sampleReported) .done]
    let restarted := (perform (F := ℚ) kept .restart).1
    restarted.store.snapshot sampleReported = kept.store.snapshot sampleReported ∧
      "g1" ∈ (kept.store.snapshot sampleReported).map (·.groupId) ∧
      "g2" ∈ (kept.store.snapshot sampleReported).map (·.groupId) := by
  intro update kept restarted
  have range : InRange ([] ++ [Durable.update (update, sampleReported) .done]) := by
    refine ⟨fun made member => ?_, (by decide : 1 < 2 ^ 64)⟩
    obtain rfl : made = (update, sampleReported) := List.mem_singleton.mp member
    exact (by decide : 1000 < 2 ^ 64)
  obtain ⟨same, -, listed, -⟩ := report_survives_restart [] update sampleReported range
  exact ⟨same, (listed "g1").mpr (.inl rfl), (listed "g2").mpr (.inr rfl)⟩

end Bookkeeping

end CopyTrader.Telegram
