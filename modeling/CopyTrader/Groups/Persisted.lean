import CopyTrader.Groups
import CopyTrader.Solana

/-!
# The saved form of a group

What `copy_groups.json` holds of the groups, with addresses as text.
-/

namespace CopyTrader

structure PersistedGroup (F : Type) where
  id : String
  name : String
  enabled : Bool
  wallets : List String
  consensusMinWallets : ℕ
  consensusTimeoutSecs : ℕ
  buySolAmount : F
  minTargetBuySol : F
  takeProfitPercent : F
  stopLossPercent : F
  trailingStopPercent : F
  slippageBps : ℕ
  sellSlippageBps : ℕ
  maxHoldSeconds : ℕ
  tipBuyLamports : ℕ
  tipSellLamports : ℕ
  zeroSlotTipLamports : Option ℕ
  entryMode : ℕ
  sellMode : ℕ
  externalMode : ExternalMode
  externalBuySolAmount : F
  externalPumpswapEnabled : Bool
  externalRaydiumAmmEnabled : Bool
  externalRaydiumCpmmEnabled : Bool

structure PersistedGroupsState (F : Type) where
  groups : List (PersistedGroup F)
  selectedGroupId : Option String
  blocklist : List String
  zeroSlotBuyEnabled : Bool

namespace PersistedGroup

variable {F : Type}

def fromGroup (group : CopyGroup F) : PersistedGroup F where
  id := group.id
  name := group.name
  enabled := group.enabled
  wallets := group.wallets.map Pubkey.toText
  consensusMinWallets := group.consensusMinWallets
  consensusTimeoutSecs := group.consensusTimeoutSecs
  buySolAmount := group.buySolAmount
  minTargetBuySol := group.minTargetBuySol
  takeProfitPercent := group.takeProfitPercent
  stopLossPercent := group.stopLossPercent
  trailingStopPercent := group.trailingStopPercent
  slippageBps := group.slippageBps
  sellSlippageBps := group.sellSlippageBps
  maxHoldSeconds := group.maxHoldSeconds
  tipBuyLamports := group.tipBuyLamports
  tipSellLamports := group.tipSellLamports
  zeroSlotTipLamports := some group.zeroSlotTipLamports
  entryMode := group.entryMode
  sellMode := group.sellMode
  externalMode := group.externalMode
  externalBuySolAmount := group.externalBuySolAmount
  externalPumpswapEnabled := group.externalPumpswapEnabled
  externalRaydiumAmmEnabled := group.externalRaydiumAmmEnabled
  externalRaydiumCpmmEnabled := group.externalRaydiumCpmmEnabled

/-- A group with an address that cannot be read is dropped. -/
def intoGroup (self : PersistedGroup F) (base : AppConfig F) : Option (CopyGroup F) := do
  let wallets ← self.wallets.mapM Pubkey.fromStr
  some {
    id := self.id
    name := self.name
    enabled := self.enabled
    wallets := wallets
    consensusMinWallets := self.consensusMinWallets
    consensusTimeoutSecs := self.consensusTimeoutSecs
    buySolAmount := self.buySolAmount
    minTargetBuySol := self.minTargetBuySol
    takeProfitPercent := self.takeProfitPercent
    stopLossPercent := self.stopLossPercent
    trailingStopPercent := self.trailingStopPercent
    slippageBps := self.slippageBps
    sellSlippageBps := self.sellSlippageBps
    maxHoldSeconds := self.maxHoldSeconds
    tipBuyLamports := self.tipBuyLamports
    tipSellLamports := self.tipSellLamports
    zeroSlotTipLamports := self.zeroSlotTipLamports.getD base.zeroSlotTipLamports
    entryMode := self.entryMode
    sellMode := self.sellMode
    externalMode := self.externalMode
    externalBuySolAmount := self.externalBuySolAmount
    externalPumpswapEnabled := self.externalPumpswapEnabled
    externalRaydiumAmmEnabled := self.externalRaydiumAmmEnabled
    externalRaydiumCpmmEnabled := self.externalRaydiumCpmmEnabled }

theorem mapM_fromStr (keys : List Pubkey) : (keys.map Pubkey.toText).mapM Pubkey.fromStr = some keys := by
  induction keys with
  | nil => rfl
  | cons key keys ih =>
    rw [List.map_cons, List.mapM_cons, Pubkey.fromStr_toText, ih]
    rfl

theorem intoGroup_fromGroup (group : CopyGroup F) (base : AppConfig F) :
    (fromGroup group).intoGroup base = some group := by
  unfold intoGroup fromGroup
  rw [mapM_fromStr]
  rfl

end PersistedGroup

end CopyTrader
