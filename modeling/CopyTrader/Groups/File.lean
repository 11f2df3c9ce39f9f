import CopyTrader.Groups.WellFormed
import CopyTrader.Lib.Json

/-!
# The groups file

What `save` writes and what a start reads. Written groups are read back exactly when their decimal
settings are finite.
-/

namespace CopyTrader
open Lib

namespace ExternalMode

def label : ExternalMode → String
  | .off => "off"
  | .dryRun => "dry_run"
  | .live => "live"

def ofJson : Json → Option ExternalMode
  | .str "off" => some .off
  | .str "dry_run" => some .dryRun
  | .str "live" => some .live
  | _ => none

theorem ofJson_label (mode : ExternalMode) : ofJson (.str mode.label) = some mode := by
  cases mode <;> rfl

end ExternalMode

namespace CopyGroup

variable {F : Type}

def decimals (group : CopyGroup F) : List F :=
  [group.buySolAmount, group.minTargetBuySol, group.takeProfitPercent, group.stopLossPercent,
    group.trailingStopPercent, group.externalBuySolAmount]

def counts (group : CopyGroup F) : List ℕ :=
  [group.consensusMinWallets, group.consensusTimeoutSecs, group.slippageBps, group.sellSlippageBps,
    group.maxHoldSeconds, group.tipBuyLamports, group.tipSellLamports, group.zeroSlotTipLamports]

def Finite (group : CopyGroup F64) : Prop := ∀ x ∈ group.decimals, x.isFinite = true

/-- The bounds of the integer types. -/
structure InRange (group : CopyGroup F) : Prop where
  counts : ∀ n ∈ group.counts, n < 2 ^ 64
  entryMode : group.entryMode < 2 ^ 8
  sellMode : group.sellMode < 2 ^ 8

end CopyGroup

namespace PersistedGroup
open Json

def toJson (group : PersistedGroup F64) : Json :=
  .obj [
    ("id", .str group.id),
    ("name", .str group.name),
    ("enabled", .bool group.enabled),
    ("wallets", .arr (group.wallets.map .str)),
    ("consensus_min_wallets", .int group.consensusMinWallets),
    ("consensus_timeout_secs", .int group.consensusTimeoutSecs),
    ("buy_sol_amount", ofF64 group.buySolAmount),
    ("min_target_buy_sol", ofF64 group.minTargetBuySol),
    ("take_profit_percent", ofF64 group.takeProfitPercent),
    ("stop_loss_percent", ofF64 group.stopLossPercent),
    ("trailing_stop_percent", ofF64 group.trailingStopPercent),
    ("slippage_bps", .int group.slippageBps),
    ("sell_slippage_bps", .int group.sellSlippageBps),
    ("max_hold_seconds", .int group.maxHoldSeconds),
    ("tip_buy_lamports", .int group.tipBuyLamports),
    ("tip_sell_lamports", .int group.tipSellLamports),
    ("zero_slot_tip_lamports", group.zeroSlotTipLamports.elim .null fun tip => .int tip),
    ("entry_mode", .int group.entryMode),
    ("sell_mode", .int group.sellMode),
    ("external_mode", .str group.externalMode.label),
    ("external_buy_sol_amount", ofF64 group.externalBuySolAmount),
    ("external_pumpswap_enabled", .bool group.externalPumpswapEnabled),
    ("external_raydium_amm_enabled", .bool group.externalRaydiumAmmEnabled),
    ("external_raydium_cpmm_enabled", .bool group.externalRaydiumCpmmEnabled)]

def ofJson : Json → Option (PersistedGroup F64)
  | .obj fields => do
    some {
      id := ← required fields "id" asStr
      name := ← required fields "name" asStr
      enabled := ← required fields "enabled" asBool
      wallets := ← required fields "wallets" (asArr asStr)
      consensusMinWallets := ← required fields "consensus_min_wallets" (asUnsigned 64)
      consensusTimeoutSecs := ← required fields "consensus_timeout_secs" (asUnsigned 64)
      buySolAmount := ← required fields "buy_sol_amount" asF64
      minTargetBuySol := ← required fields "min_target_buy_sol" asF64
      takeProfitPercent := ← required fields "take_profit_percent" asF64
      stopLossPercent := ← required fields "stop_loss_percent" asF64
      trailingStopPercent := ← required fields "trailing_stop_percent" asF64
      slippageBps := ← required fields "slippage_bps" (asUnsigned 64)
      sellSlippageBps := ← required fields "sell_slippage_bps" (asUnsigned 64)
      maxHoldSeconds := ← required fields "max_hold_seconds" (asUnsigned 64)
      tipBuyLamports := ← required fields "tip_buy_lamports" (asUnsigned 64)
      tipSellLamports := ← required fields "tip_sell_lamports" (asUnsigned 64)
      zeroSlotTipLamports := ← defaulted fields "zero_slot_tip_lamports" (asOption (asUnsigned 64)) none
      entryMode := ← defaulted fields "entry_mode" (asUnsigned 8) 0
      sellMode := ← required fields "sell_mode" (asUnsigned 8)
      externalMode := ← defaulted fields "external_mode" ExternalMode.ofJson .dryRun
      externalBuySolAmount := ← defaulted fields "external_buy_sol_amount" asF64 DEFAULT_EXTERNAL_BUY_SOL
      externalPumpswapEnabled := ← defaulted fields "external_pumpswap_enabled" asBool true
      externalRaydiumAmmEnabled := ← defaulted fields "external_raydium_amm_enabled" asBool true
      externalRaydiumCpmmEnabled := ← defaulted fields "external_raydium_cpmm_enabled" asBool true }
  | _ => none

theorem ofJson_toJson {group : CopyGroup F64} (range : group.InRange) (p : PersistedGroup F64) :
    ofJson (toJson (fromGroup group)) = some p ↔ group.Finite ∧ fromGroup group = p := by
  obtain ⟨counts, entryMode, sellMode⟩ := range
  simp only [CopyGroup.counts, List.forall_mem_cons, List.not_mem_nil, false_imp_iff, implies_true, and_true] at counts
  obtain ⟨minWallets, timeout, slippage, sellSlippage, hold, tipBuy, tipSell, zeroSlotTip⟩ := counts
  unfold toJson ofJson
  dsimp only [required, defaulted]
  simp only [given, List.filter, List.map, decide_true, decide_false, String.reduceEq]
  simp only [fromGroup, asStr, asBool, asArr_asStr, asUnsigned_int, asOption, Option.elim, ExternalMode.ofJson_label,
    minWallets, timeout, slippage, sellSlippage, hold, tipBuy, tipSell, zeroSlotTip, entryMode, sellMode,
    Option.map_some, Option.bind_eq_bind, Option.bind_some]
  -- only the decimals can fail to be read
  simp [CopyGroup.Finite, CopyGroup.decimals, asF64_ofF64, Option.bind_eq_some_iff, and_assoc]

/-- What is read from a file is in range and finite. -/
theorem ofJson_sound {json : Json} {p : PersistedGroup F64} {config : AppConfig F64} {group : CopyGroup F64}
    (read : ofJson json = some p) (made : p.intoGroup config = some group) (tip : config.zeroSlotTipLamports < 2 ^ 64) :
    group.InRange ∧ group.Finite := by
  cases json with
  | obj fields =>
    obtain ⟨id, -, read⟩ := Option.bind_eq_some_iff.mp read
    obtain ⟨name, -, read⟩ := Option.bind_eq_some_iff.mp read
    obtain ⟨enabled, -, read⟩ := Option.bind_eq_some_iff.mp read
    obtain ⟨wallets, -, read⟩ := Option.bind_eq_some_iff.mp read
    obtain ⟨minWallets, hMinWallets, read⟩ := Option.bind_eq_some_iff.mp read
    obtain ⟨timeout, hTimeout, read⟩ := Option.bind_eq_some_iff.mp read
    obtain ⟨buy, hBuy, read⟩ := Option.bind_eq_some_iff.mp read
    obtain ⟨minTarget, hMinTarget, read⟩ := Option.bind_eq_some_iff.mp read
    obtain ⟨takeProfit, hTakeProfit, read⟩ := Option.bind_eq_some_iff.mp read
    obtain ⟨stopLoss, hStopLoss, read⟩ := Option.bind_eq_some_iff.mp read
    obtain ⟨trailing, hTrailing, read⟩ := Option.bind_eq_some_iff.mp read
    obtain ⟨slippage, hSlippage, read⟩ := Option.bind_eq_some_iff.mp read
    obtain ⟨sellSlippage, hSellSlippage, read⟩ := Option.bind_eq_some_iff.mp read
    obtain ⟨hold, hHold, read⟩ := Option.bind_eq_some_iff.mp read
    obtain ⟨tipBuy, hTipBuy, read⟩ := Option.bind_eq_some_iff.mp read
    obtain ⟨tipSell, hTipSell, read⟩ := Option.bind_eq_some_iff.mp read
    obtain ⟨zeroSlot, hZeroSlot, read⟩ := Option.bind_eq_some_iff.mp read
    obtain ⟨entryMode, hEntryMode, read⟩ := Option.bind_eq_some_iff.mp read
    obtain ⟨sellMode, hSellMode, read⟩ := Option.bind_eq_some_iff.mp read
    obtain ⟨mode, -, read⟩ := Option.bind_eq_some_iff.mp read
    obtain ⟨external, hExternal, read⟩ := Option.bind_eq_some_iff.mp read
    obtain ⟨pumpswap, -, read⟩ := Option.bind_eq_some_iff.mp read
    obtain ⟨amm, -, read⟩ := Option.bind_eq_some_iff.mp read
    obtain ⟨cpmm, -, read⟩ := Option.bind_eq_some_iff.mp read
    obtain rfl := Option.some.inj read
    obtain ⟨keys, -, made⟩ := Option.bind_eq_some_iff.mp made
    obtain rfl := Option.some.inj made
    have tipRange : zeroSlot.getD config.zeroSlotTipLamports < 2 ^ 64 := by
      rcases given_defaulted hZeroSlot with rfl | ⟨json, value⟩
      · exact tip
      · exact asOption_lt value tip
    have entryRange : entryMode < 2 ^ 8 := by
      rcases given_defaulted hEntryMode with rfl | ⟨json, value⟩
      · decide
      · exact asUnsigned_lt value
    have externalFinite : external.isFinite = true := by
      rcases given_defaulted hExternal with rfl | ⟨json, value⟩
      · rfl
      · exact asF64_isFinite value
    constructor
    · refine ⟨?_, entryRange, required_lt hSellMode⟩
      simp only [CopyGroup.counts, List.forall_mem_cons, List.not_mem_nil, false_imp_iff, implies_true, and_true]
      exact ⟨required_lt hMinWallets, required_lt hTimeout, required_lt hSlippage, required_lt hSellSlippage,
        required_lt hHold, required_lt hTipBuy, required_lt hTipSell, tipRange⟩
    · simp only [CopyGroup.Finite, CopyGroup.decimals, List.forall_mem_cons, List.not_mem_nil, false_imp_iff, implies_true,
        and_true]
      exact ⟨required_finite hBuy, required_finite hMinTarget, required_finite hTakeProfit, required_finite hStopLoss,
        required_finite hTrailing, externalFinite⟩
  | _ => cases read

end PersistedGroup

namespace PersistedGroupsState
open Json

def toJson (state : PersistedGroupsState F64) : Json :=
  .obj [
    ("groups", .arr (state.groups.map (·.toJson))),
    ("selected_group_id", state.selectedGroupId.elim .null .str),
    ("blocklist", .arr (state.blocklist.map .str)),
    ("zero_slot_buy_enabled", .bool state.zeroSlotBuyEnabled)]

def ofJson : Json → Option (PersistedGroupsState F64)
  | .obj fields => do
    some {
      groups := ← required fields "groups" (asArr PersistedGroup.ofJson)
      selectedGroupId := ← defaulted fields "selected_group_id" (asOption asStr) none
      blocklist := ← required fields "blocklist" (asArr asStr)
      zeroSlotBuyEnabled := ← defaulted fields "zero_slot_buy_enabled" asBool false }
  | _ => none

theorem ofJson_toJson (state : PersistedGroupsState F64) :
    ofJson state.toJson = (asArr PersistedGroup.ofJson (.arr (state.groups.map (·.toJson)))).map
      fun groups => { state with groups := groups } := by
  obtain ⟨groups, selected, blocklist, zeroSlot⟩ := state
  have chosen : asOption asStr (selected.elim .null .str) = some selected := by cases selected <;> rfl
  unfold toJson ofJson
  dsimp only [required, defaulted]
  simp only [given, List.filter, List.map, decide_true, decide_false, String.reduceEq]
  rw [chosen, asArr_asStr]
  cases asArr PersistedGroup.ofJson (.arr (groups.map (·.toJson))) <;> rfl

end PersistedGroupsState

namespace GroupManager

/-- The file that `save` writes. -/
def save (manager : GroupManager F64) : Json :=
  PersistedGroupsState.toJson {
    groups := manager.allGroups.map PersistedGroup.fromGroup
    selectedGroupId := manager.selectedGroupId
    blocklist := manager.blocklist.map Pubkey.toText
    zeroSlotBuyEnabled := manager.zeroSlotBuyEnabled }

/-- A start with the given file, none for a file that is missing or is no JSON. -/
def load (config : AppConfig F64) (file : Option Json) : GroupManager F64 :=
  loadOrDefault config (file.bind PersistedGroupsState.ofJson)

structure Restored (manager loaded : GroupManager F64) : Prop where
  groups : ∀ id, loaded.getGroup id = manager.getGroup id
  selected : loaded.selectedGroupId = manager.selectedGroupId
  blocklist : ∀ mint, loaded.isBlocked mint = manager.isBlocked mint
  zeroSlot : loaded.zeroSlotBuyEnabled = manager.zeroSlotBuyEnabled

/-- The saved file parses, and a start with it restores the store. -/
def RoundTrips (config : AppConfig F64) (manager : GroupManager F64) : Prop :=
  ∃ saved, PersistedGroupsState.ofJson manager.save = some saved ∧ Restored manager (loadOrDefault config (some saved))

/-- A property of every group of the store. -/
def All {F : Type} (P : CopyGroup F → Prop) (manager : GroupManager F) : Prop :=
  ∀ id group, manager.getGroup id = some group → P group

/-! ### Inserting the groups of a file -/

section

variable {F : Type} {groups : List (CopyGroup F)} {manager : GroupManager F}

theorem foldl_insertGroup_frame (groups : List (CopyGroup F)) (manager : GroupManager F) :
    (groups.foldl insertGroup manager).selectedGroupId = manager.selectedGroupId ∧
      (groups.foldl insertGroup manager).blocklist = manager.blocklist ∧
      (groups.foldl insertGroup manager).zeroSlotBuyEnabled = manager.zeroSlotBuyEnabled := by
  induction groups generalizing manager with
  | nil => exact ⟨rfl, rfl, rfl⟩
  | cons group groups ih => exact ih (manager.insertGroup group)

theorem foldl_insertGroup_kept {id : String} (stored : (manager.getGroup id).isSome = true) :
    ((groups.foldl insertGroup manager).getGroup id).isSome = true := by
  induction groups generalizing manager with
  | nil => exact stored
  | cons group groups ih => exact ih (insertGroup_kept manager group id stored)

theorem foldl_insertGroup_stored {group : CopyGroup F} (member : group ∈ groups) :
    ((groups.foldl insertGroup manager).getGroup group.id).isSome = true := by
  induction groups generalizing manager with
  | nil => cases member
  | cons first groups ih =>
    rcases List.mem_cons.mp member with rfl | later
    · have inserted : ((manager.insertGroup group).getGroup group.id).isSome = true := by
        rw [getGroup_insertGroup, if_pos rfl]
        rfl
      rw [List.foldl_cons]
      exact foldl_insertGroup_kept inserted
    · exact ih later

/-- Nothing else gets into the store. -/
theorem foldl_insertGroup_all {P : CopyGroup F → Prop} (start : manager.All P) (each : ∀ group ∈ groups, P group) :
    (groups.foldl insertGroup manager).All P := by
  induction groups generalizing manager with
  | nil => exact start
  | cons first groups ih =>
    refine ih ?_ fun group later => each group (List.mem_cons_of_mem first later)
    intro id group stored
    rw [getGroup_insertGroup] at stored
    split at stored
    · obtain rfl := Option.some.inj stored
      exact each _ (List.mem_cons_self ..)
    · exact start id group stored

end

/-- A start with the groups of a store, in any order, has these groups. -/
theorem getGroup_foldl_allGroups {manager empty : GroupManager F64} (starts : empty.groups = DashMap.empty) (id : String) :
    (manager.allGroups.foldl insertGroup empty).getGroup id = manager.getGroup id := by
  have within : (manager.allGroups.foldl insertGroup empty).All fun group => manager.getGroup group.id = some group := by
    apply foldl_insertGroup_all
    · intro id group stored
      rw [getGroup, starts] at stored
      cases stored
    · exact fun group => mem_allGroups.mp
  cases stored : manager.getGroup id with
  | some group =>
    obtain rfl : group.id = id := keyed_iff.mp manager.keyed id group stored
    obtain ⟨other, read⟩ : ∃ other, (manager.allGroups.foldl insertGroup empty).getGroup group.id = some other :=
      Option.isSome_iff_exists.mp (foldl_insertGroup_stored (mem_allGroups.mpr stored))
    have same : manager.getGroup other.id = some other := within _ other read
    rw [keyed_iff.mp (manager.allGroups.foldl insertGroup empty).keyed _ other read, stored] at same
    rw [read, same]
  | none =>
    cases read : (manager.allGroups.foldl insertGroup empty).getGroup id with
    | none => rfl
    | some other =>
      have same : manager.getGroup other.id = some other := within _ other read
      rw [keyed_iff.mp (manager.allGroups.foldl insertGroup empty).keyed _ other read, stored] at same
      cases same

theorem loadedGroups_saved {manager : GroupManager F64} (config : AppConfig F64)
    {saved : PersistedGroupsState F64} (same : saved.groups = manager.allGroups.map PersistedGroup.fromGroup)
    (nonempty : manager.allGroups ≠ []) : loadedGroups config (some saved) = manager.allGroups := by
  have read : readableGroups config (some saved) = manager.allGroups := by
    have each : (PersistedGroup.intoGroup · config) ∘ PersistedGroup.fromGroup = some :=
      funext fun group => PersistedGroup.intoGroup_fromGroup group config
    unfold readableGroups
    dsimp only [Option.elim]
    rw [same, List.filterMap_map, each, List.filterMap_some]
  unfold loadedGroups
  dsimp only
  rw [read, if_neg nonempty]

theorem filterMap_fromStr (keys : List Pubkey) : (keys.map Pubkey.toText).filterMap Pubkey.fromStr = keys := by
  have each : Pubkey.fromStr ∘ Pubkey.toText = some := by
    funext key
    rw [Function.comp_apply, Pubkey.fromStr_toText]
  rw [List.filterMap_map, each, List.filterMap_some]

theorem loadOrDefault_restores {manager : GroupManager F64} (config : AppConfig F64)
    (selected : manager.selectedGroup.isSome = true) :
    Restored manager (loadOrDefault config (some {
      groups := manager.allGroups.map PersistedGroup.fromGroup
      selectedGroupId := manager.selectedGroupId
      blocklist := manager.blocklist.map Pubkey.toText
      zeroSlotBuyEnabled := manager.zeroSlotBuyEnabled })) := by
  obtain ⟨id, group, chosen, stored⟩ := selectedGroup_isSome_iff.mp selected
  obtain rfl : group.id = id := keyed_iff.mp manager.keyed id group stored
  have nonempty : manager.allGroups ≠ [] := List.ne_nil_of_mem (mem_allGroups.mpr stored)
  unfold loadOrDefault
  rw [loadedGroups_saved config rfl nonempty]
  dsimp only [Option.elim, Option.bind]
  generalize start : ({ groups := DashMap.empty, .. } : GroupManager F64) = empty
  have starts : empty.groups = DashMap.empty := by rw [← start]
  obtain ⟨sameSelected, sameBlocklist, sameZeroSlot⟩ := foldl_insertGroup_frame manager.allGroups empty
  have kept : (manager.allGroups.foldl insertGroup empty).selectedGroup.isSome = true := by
    apply selectedGroup_isSome_iff.mpr
    refine ⟨group.id, group, ?_, ?_⟩
    · rw [sameSelected, ← start]
      exact chosen
    · rw [getGroup_foldl_allGroups starts, stored]
  rw [if_neg (by simpa [Option.isNone_iff_eq_none, Option.isSome_iff_ne_none] using kept)]
  constructor
  case groups => exact getGroup_foldl_allGroups starts
  case selected => rw [sameSelected, ← start]
  case zeroSlot => rw [sameZeroSlot, ← start]
  case blocklist =>
    intro mint
    rw [isBlocked, isBlocked, sameBlocklist, ← start]
    dsimp only
    rw [filterMap_fromStr]
    exact Bool.eq_iff_iff.mpr (by simp only [List.contains_iff_mem, List.mem_dedup])

/-- The file of a store can be loaded back exactly when the decimal settings of its groups are finite. -/
theorem roundTrips_iff_decimals {manager : GroupManager F64} (config : AppConfig F64)
    (selected : manager.selectedGroup.isSome = true) (range : manager.All CopyGroup.InRange) :
    manager.RoundTrips config ↔ manager.All CopyGroup.Finite := by
  unfold RoundTrips save
  rw [PersistedGroupsState.ofJson_toJson]
  constructor
  · rintro ⟨saved, parsed, -⟩ id group stored
    obtain rfl : group.id = id := keyed_iff.mp manager.keyed id group stored
    obtain ⟨groups, read, -⟩ := Option.map_eq_some_iff.mp parsed
    cases single : PersistedGroup.ofJson (PersistedGroup.fromGroup group).toJson with
    | some p => exact ((PersistedGroup.ofJson_toJson (range _ group stored) p).mp single).1
    | none =>
      have written : (PersistedGroup.fromGroup group).toJson ∈
          (manager.allGroups.map PersistedGroup.fromGroup).map (·.toJson) :=
        List.mem_map.mpr ⟨_, List.mem_map.mpr ⟨group, mem_allGroups.mpr stored, rfl⟩, rfl⟩
      exact absurd (read.symm.trans (Json.mapM_eq_none written single)) (Option.some_ne_none groups)
  · intro finite
    have each : ∀ p ∈ manager.allGroups.map PersistedGroup.fromGroup, PersistedGroup.ofJson p.toJson = some p := by
      intro p member
      obtain ⟨group, listed, rfl⟩ := List.mem_map.mp member
      have stored := mem_allGroups.mp listed
      exact (PersistedGroup.ofJson_toJson (range _ group stored) _).mpr ⟨finite _ group stored, rfl⟩
    exact ⟨_, congrArg (Option.map _) (Json.mapM_eq_some each), loadOrDefault_restores config selected⟩

end GroupManager

end CopyTrader
