import CopyTrader.Lib.DashMap
import CopyTrader.Processor.Trade
import Mathlib.Data.List.Sort

/-!
# Copy groups
-/

namespace CopyTrader
open Lib Processor

/-- The settings of the process. `F` is the number type of its decimal settings. -/
structure AppConfig (F : Type := ℚ) where
  keypair : Keypair
  pubkey : Pubkey
  /-- `from_env` takes the address from the keypair. -/
  own : pubkey = keypair.pubkey
  targetWallets : List Pubkey
  consensusMinWallets : ℕ
  consensusTimeoutSecs : ℕ
  buySolAmount : F
  slippageBps : ℕ
  sellSlippageBps : ℕ
  computeUnits : ℕ
  priorityFeeMicroLamport : ℕ
  minTargetBuySol : F
  jitoEnabled : Bool
  jitoBuyTipLamports : ℕ
  jitoSellTipLamports : ℕ
  zeroSlotUrls : List String
  zeroSlotTipLamports : ℕ
  confirmTimeoutSecs : ℕ
  autoSellEnabled : Bool
  takeProfitPercent : F
  stopLossPercent : F
  trailingStopPercent : F
  maxHoldSeconds : ℕ

def SELL_MODE_TP_SL : ℕ := 0
def SELL_MODE_FOLLOW : ℕ := 1
def ENTRY_MODE_SMART_BUY : ℕ := 0
def ENTRY_MODE_SMART_SELL : ℕ := 1
def DEFAULT_EXTERNAL_BUY_SOL {F : Type} [OfScientific F] : F := 0.002

inductive ExternalMode where
  | off | dryRun | live
  deriving DecidableEq, Repr

namespace ExternalMode

def isEnabled (mode : ExternalMode) : Bool := mode ≠ .off

def isLive (mode : ExternalMode) : Bool := mode = .live

end ExternalMode

structure CopyGroup (F : Type := ℚ) where
  id : String
  name : String
  enabled : Bool
  wallets : List Pubkey
  consensusMinWallets : ℕ
  consensusTimeoutSecs : ℕ
  buySolAmount : F
  minTargetBuySol : F
  takeProfitPercent : F
  stopLossPercent : F
  trailingStopPercent : F
  slippageBps : ℕ
  sellSlippageBps : ℕ
  maxHoldSeconds : ℕ
  tipBuyLamports : ℕ
  tipSellLamports : ℕ
  zeroSlotTipLamports : ℕ
  entryMode : ℕ
  sellMode : ℕ
  externalMode : ExternalMode
  externalBuySolAmount : F
  externalPumpswapEnabled : Bool
  externalRaydiumAmmEnabled : Bool
  externalRaydiumCpmmEnabled : Bool
  deriving DecidableEq, Repr

namespace CopyGroup

def fromAppConfig {F : Type} [OfScientific F] (config : AppConfig F) : CopyGroup F where
  id := "g1"
  name := "group-1"
  enabled := true
  wallets := config.targetWallets
  consensusMinWallets := config.consensusMinWallets
  consensusTimeoutSecs := config.consensusTimeoutSecs
  buySolAmount := config.buySolAmount
  minTargetBuySol := config.minTargetBuySol
  takeProfitPercent := config.takeProfitPercent
  stopLossPercent := config.stopLossPercent
  trailingStopPercent := config.trailingStopPercent
  slippageBps := config.slippageBps
  sellSlippageBps := config.sellSlippageBps
  maxHoldSeconds := config.maxHoldSeconds
  tipBuyLamports := config.jitoBuyTipLamports
  tipSellLamports := config.jitoSellTipLamports
  zeroSlotTipLamports := config.zeroSlotTipLamports
  entryMode := ENTRY_MODE_SMART_BUY
  sellMode := SELL_MODE_TP_SL
  externalMode := .dryRun
  externalBuySolAmount := DEFAULT_EXTERNAL_BUY_SOL
  externalPumpswapEnabled := true
  externalRaydiumAmmEnabled := true
  externalRaydiumCpmmEnabled := true

def toAppConfig {F : Type} (group : CopyGroup F) (base : AppConfig F) : AppConfig F :=
  { base with
    targetWallets := group.wallets
    consensusMinWallets := group.consensusMinWallets
    consensusTimeoutSecs := group.consensusTimeoutSecs
    buySolAmount := group.buySolAmount
    minTargetBuySol := group.minTargetBuySol
    takeProfitPercent := group.takeProfitPercent
    stopLossPercent := group.stopLossPercent
    trailingStopPercent := group.trailingStopPercent
    slippageBps := group.slippageBps
    sellSlippageBps := group.sellSlippageBps
    maxHoldSeconds := group.maxHoldSeconds
    jitoBuyTipLamports := group.tipBuyLamports
    jitoSellTipLamports := group.tipSellLamports
    zeroSlotTipLamports := group.zeroSlotTipLamports }

/-- The product is one of `f64` numbers in the source, and exact here; so are the next two. -/
def buyLamports (group : CopyGroup) : ℕ := toU64 (group.buySolAmount * 1000000000)

def minTargetBuyLamports (group : CopyGroup) : ℕ := toU64 (group.minTargetBuySol * 1000000000)

def externalBuyLamports (group : CopyGroup) : ℕ := toU64 (group.externalBuySolAmount * 1000000000)

def followSellMode (group : CopyGroup) : Bool := group.sellMode ≠ SELL_MODE_TP_SL

def acceptsExternalTradeType (group : CopyGroup) (tradeType : TradeType) : Bool :=
  if !group.externalMode.isEnabled then false else tradeType ≠ .pumpfun

def buyOnSmartBuy (group : CopyGroup) : Bool := group.entryMode = ENTRY_MODE_SMART_BUY

def buyOnSmartSell (group : CopyGroup) : Bool := group.entryMode = ENTRY_MODE_SMART_SELL

end CopyGroup

/-- The groups under their ids, the selected group, the blocked mints and the channel switch. -/
structure GroupManager (F : Type := ℚ) where
  groups : DashMap String (CopyGroup F)
  keyed : ∀ entry ∈ groups.entries, entry.2.id = entry.1
  selectedGroupId : Option String
  blocklist : List Pubkey
  zeroSlotBuyEnabled : Bool

namespace GroupManager

def getGroup {F : Type} (manager : GroupManager F) (groupId : String) : Option (CopyGroup F) :=
  manager.groups.get groupId

def allGroups {F : Type} (manager : GroupManager F) : List (CopyGroup F) :=
  manager.groups.values.insertionSort fun left right => left.id ≤ right.id

def groupsForWallet (manager : GroupManager) (wallet : Pubkey) : List CopyGroup :=
  manager.allGroups.filter fun group => group.enabled && group.wallets.contains wallet

def isBlocked {F : Type} (manager : GroupManager F) (mint : Pubkey) : Bool := manager.blocklist.contains mint

theorem mem_allGroups {F : Type} {manager : GroupManager F} {group : CopyGroup F} :
    group ∈ manager.allGroups ↔ manager.getGroup group.id = some group := by
  unfold allGroups
  rw [List.mem_insertionSort]
  constructor
  · intro member
    obtain ⟨⟨id, group⟩, entry, rfl⟩ := List.mem_map.mp member
    obtain rfl : group.id = id := manager.keyed _ entry
    exact DashMap.get_of_mem entry
  · intro stored
    exact List.mem_map.mpr ⟨_, DashMap.mem_of_get stored, rfl⟩

theorem groupsForWallet_nodup (manager : GroupManager) (wallet : Pubkey) :
    ((manager.groupsForWallet wallet).map (·.id)).Nodup := by
  have ids : manager.groups.values.map (·.id) = manager.groups.entries.map Prod.fst := by
    rw [DashMap.values, List.map_map]
    exact List.map_congr_left fun entry member => manager.keyed entry member
  have distinct : (manager.groups.values.map (·.id)).Nodup := ids ▸ manager.groups.distinct
  have sorted : (manager.allGroups.map (·.id)).Nodup := ((List.perm_insertionSort ..).map _).nodup_iff.mpr distinct
  exact sorted.sublist (List.filter_sublist.map _)

theorem getGroup_of_mem (manager : GroupManager) {wallet : Pubkey} {group : CopyGroup}
    (member : group ∈ manager.groupsForWallet wallet) : manager.getGroup group.id = some group :=
  mem_allGroups.mp (List.mem_filter.mp member).1

end GroupManager

def sampleConfig {F : Type} [OfScientific F] : AppConfig F where
  keypair := 1
  pubkey := 1
  own := by decide +kernel
  targetWallets := [7]
  consensusMinWallets := 1
  consensusTimeoutSecs := 60
  buySolAmount := 1.0
  slippageBps := 100
  sellSlippageBps := 100
  computeUnits := 400000
  priorityFeeMicroLamport := 5000
  minTargetBuySol := 0.0
  jitoEnabled := false
  jitoBuyTipLamports := 10000
  jitoSellTipLamports := 10000
  zeroSlotUrls := []
  zeroSlotTipLamports := 1000000
  confirmTimeoutSecs := 5
  autoSellEnabled := true
  takeProfitPercent := 50.0
  stopLossPercent := 30.0
  trailingStopPercent := 0.0
  maxHoldSeconds := 0

end CopyTrader
