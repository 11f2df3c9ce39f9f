import CopyTrader.Groups.File
import CopyTrader.Lib.Outcome

/-!
# Settings of a group

The values `/set` and the menu accept, and what they leave finite and in range. The confirmation that
is sent back is left out.
-/

namespace CopyTrader
open Lib

def ExternalMode.fromStr (value : String) : Except String ExternalMode :=
  match Text.toAsciiLowercase (Text.trim value) with
  | "off" | "0" | "false" | "no" => .ok .off
  | "dry_run" | "dry-run" | "dryrun" | "dry" => .ok .dryRun
  | "live" | "on" | "1" | "true" | "yes" => .ok .live
  | _ => .error "external mode must be off, dry_run, or live"

namespace Telegram

def parseEntryMode (value : String) : Except String ℕ :=
  match Text.toAsciiLowercase value with
  | "buy" | "smart_buy" | "buy_follow" | "buy-follow" => .ok ENTRY_MODE_SMART_BUY
  | "sell" | "smart_sell" | "sell_buy" | "sell-follow" | "sell_follow" => .ok ENTRY_MODE_SMART_SELL
  | _ => .error "跟单买入模式无效，请使用 buy 或 sell。"

def parseSellMode (value : String) : Except String ℕ :=
  match Text.toAsciiLowercase value with
  | "follow" | "follow_sell" | "follow-sell" => .ok SELL_MODE_FOLLOW
  | "tp" | "sl" | "tp_sl" | "tpsl" | "tp-sl" => .ok SELL_MODE_TP_SL
  | _ => .error "卖出模式无效，请使用 follow 或 tp_sl。"

def parseBoolFlag (value : String) : Except String Bool :=
  match Text.toAsciiLowercase value with
  | "1" | "on" | "true" | "yes" => .ok true
  | "0" | "off" | "false" | "no" => .ok false
  | _ => .error "布尔值无效，请使用 on/off。"

def parseU64 (value : String) : Except String ℕ := (Text.parseUnsigned 64 value).mapError (·.toText)

/-- A value as it is typed, a percent sign at its end aside. -/
def settingText (rawValue : String) : String := Text.trimEndMatches (Text.trim rawValue) '%'

def applyGroupSettingValue (group : CopyGroup F64) (key rawValue : String) : Except String (CopyGroup F64) :=
  let value := settingText rawValue
  match key with
  | "buy" => (F64.parse value).map fun v => { group with buySolAmount := v }
  | "min_buy" => (F64.parse value).map fun v => { group with minTargetBuySol := v }
  | "tp" => (F64.parse value).map fun v => { group with takeProfitPercent := v }
  | "sl" => (F64.parse value).map fun v => { group with stopLossPercent := v.abs }
  | "trailing" => (F64.parse value).map fun v => { group with trailingStopPercent := v }
  | "slippage" => (parseU64 value).map fun v => { group with slippageBps := v }
  | "sell_slippage" => (parseU64 value).map fun v => { group with sellSlippageBps := v }
  | "consensus" => (parseU64 value).map fun v => { group with consensusMinWallets := max v 1 }
  -- the product wraps around
  | "hold" => (parseU64 value).map fun v => { group with maxHoldSeconds := v * 60 % 2 ^ 64 }
  | "tip_buy" => (parseU64 value).map fun v => { group with tipBuyLamports := v }
  | "tip_sell" => (parseU64 value).map fun v => { group with tipSellLamports := v }
  | "zero_slot_tip" | "zero_slot_tip_buy" | "tip_0slot" =>
    (parseU64 value).map fun v => { group with zeroSlotTipLamports := v }
  | "entry" | "buy_mode" | "entry_mode" => (parseEntryMode value).map fun mode => { group with entryMode := mode }
  | "exit" | "mode" | "sell_mode" => (parseSellMode value).map fun mode => { group with sellMode := mode }
  | "enabled" => (parseBoolFlag value).map fun enabled => { group with enabled := enabled }
  | "external" | "external_mode" =>
    (ExternalMode.fromStr value).map fun mode =>
      { group with
        externalMode := mode
        externalPumpswapEnabled := mode.isEnabled
        externalRaydiumAmmEnabled := mode.isEnabled
        externalRaydiumCpmmEnabled := mode.isEnabled }
  | "external_buy" | "external_buy_sol" =>
    (F64.parse value).map fun v => { group with externalBuySolAmount := v.maxZero }
  | _ => .error ("未知参数键: " ++ key)

/-! ### What a setting can hold -/

/-- What is stored of the number given to a decimal setting. -/
def decimalSetting : String → Option (F64 → F64)
  | "buy" | "min_buy" | "tp" | "trailing" => some id
  | "sl" => some F64.abs
  | "external_buy" | "external_buy_sol" => some F64.maxZero
  | _ => none

/-- The value is accepted for a decimal setting and is an infinity or no number. -/
def GivesNonFinite (key rawValue : String) : Prop :=
  ∃ store v, decimalSetting key = some store ∧ F64.parse (settingText rawValue) = .ok v ∧ (store v).isFinite = false

/-- What an accepted setting does to a group. -/
structure SettingApplied (group group' : CopyGroup F64) (key rawValue : String) : Prop where
  id : group'.id = group.id
  inRange : group.InRange → group'.InRange
  finite : group.Finite → (group'.Finite ↔ ¬ GivesNonFinite key rawValue)

section

variable {group group' : CopyGroup F64} {key rawValue : String}

theorem givesNonFinite_iff {store : F64 → F64} {v : F64} (isDecimal : decimalSetting key = some store)
    (read : F64.parse (settingText rawValue) = .ok v) : GivesNonFinite key rawValue ↔ (store v).isFinite = false := by
  constructor
  · rintro ⟨store', v', isDecimal', read', gives⟩
    rw [isDecimal] at isDecimal'
    rw [read] at read'
    rw [Option.some.inj isDecimal', Except.ok.inj read']
    exact gives
  · intro gives
    exact ⟨store, v, isDecimal, read, gives⟩

/-- A decimal setting puts its value in the place of one decimal. -/
theorem decimal_applied {store : F64 → F64} {v : F64} (i : ℕ) (within : i < 6)
    (isDecimal : decimalSetting key = some store) (read : F64.parse (settingText rawValue) = .ok v)
    (id : group'.id = group.id) (decimals : group'.decimals = group.decimals.set i (store v))
    (inRange : group.InRange → group'.InRange) : SettingApplied group group' key rawValue := by
  refine ⟨id, inRange, fun finite => ?_⟩
  rw [givesNonFinite_iff isDecimal read, Bool.not_eq_false]
  constructor
  · intro finite'
    apply finite'
    rw [decimals]
    exact List.mem_set within (store v)
  · intro given x member
    rw [decimals] at member
    rcases List.mem_or_eq_of_mem_set member with old | rfl
    · exact finite x old
    · exact given

theorem other_applied (other : decimalSetting key = none) (id : group'.id = group.id)
    (decimals : group'.decimals = group.decimals) (inRange : group.InRange → group'.InRange) :
    SettingApplied group group' key rawValue := by
  refine ⟨id, inRange, fun finite => ⟨fun _ => ?_, fun _ => ?_⟩⟩
  · rintro ⟨store, v, isDecimal, -, -⟩
    rw [other] at isDecimal
    cases isDecimal
  · intro x member
    exact finite x (decimals ▸ member)

theorem count_applied {n : ℕ} (i : ℕ) (other : decimalSetting key = none) (fits : n < 2 ^ 64)
    (id : group'.id = group.id) (decimals : group'.decimals = group.decimals)
    (counts : group'.counts = group.counts.set i n)
    (modes : group'.entryMode = group.entryMode ∧ group'.sellMode = group.sellMode) :
    SettingApplied group group' key rawValue := by
  refine other_applied other id decimals fun range => ?_
  constructor
  case counts =>
    intro m member
    rw [counts] at member
    rcases List.mem_or_eq_of_mem_set member with old | rfl
    · exact range.counts m old
    · exact fits
  case entryMode => rw [modes.1]; exact range.entryMode
  case sellMode => rw [modes.2]; exact range.sellMode

theorem parseU64_lt {value : String} {n : ℕ} (read : parseU64 value = .ok n) : n < 2 ^ 64 := by
  unfold parseU64 at read
  cases parsed : Text.parseUnsigned 64 value with
  | error e =>
    rw [parsed] at read
    cases read
  | ok m =>
    rw [parsed] at read
    obtain rfl : m = n := Except.ok.inj read
    exact Text.parseUnsigned_lt parsed

theorem parseEntryMode_lt {value : String} {mode : ℕ} (read : parseEntryMode value = .ok mode) : mode < 2 ^ 8 := by
  unfold parseEntryMode at read
  split at read
  all_goals cases read
  all_goals decide

theorem parseSellMode_lt {value : String} {mode : ℕ} (read : parseSellMode value = .ok mode) : mode < 2 ^ 8 := by
  unfold parseSellMode at read
  split at read
  all_goals cases read
  all_goals decide

theorem applyGroupSettingValue_applied (applied : applyGroupSettingValue group key rawValue = .ok group') :
    SettingApplied group group' key rawValue := by
  unfold applyGroupSettingValue at applied
  dsimp only at applied
  split at applied
  case h_1 =>
    obtain ⟨v, read, rfl⟩ := map_ok applied
    exact decimal_applied 0 (by decide) rfl read rfl rfl fun range => ⟨range.counts, range.entryMode, range.sellMode⟩
  case h_2 =>
    obtain ⟨v, read, rfl⟩ := map_ok applied
    exact decimal_applied 1 (by decide) rfl read rfl rfl fun range => ⟨range.counts, range.entryMode, range.sellMode⟩
  case h_3 =>
    obtain ⟨v, read, rfl⟩ := map_ok applied
    exact decimal_applied 2 (by decide) rfl read rfl rfl fun range => ⟨range.counts, range.entryMode, range.sellMode⟩
  case h_4 =>
    obtain ⟨v, read, rfl⟩ := map_ok applied
    exact decimal_applied 3 (by decide) rfl read rfl rfl fun range => ⟨range.counts, range.entryMode, range.sellMode⟩
  case h_5 =>
    obtain ⟨v, read, rfl⟩ := map_ok applied
    exact decimal_applied 4 (by decide) rfl read rfl rfl fun range => ⟨range.counts, range.entryMode, range.sellMode⟩
  case h_6 =>
    obtain ⟨v, read, rfl⟩ := map_ok applied
    exact count_applied 2 rfl (parseU64_lt read) rfl rfl rfl ⟨rfl, rfl⟩
  case h_7 =>
    obtain ⟨v, read, rfl⟩ := map_ok applied
    exact count_applied 3 rfl (parseU64_lt read) rfl rfl rfl ⟨rfl, rfl⟩
  case h_8 =>
    obtain ⟨v, read, rfl⟩ := map_ok applied
    exact count_applied 0 rfl (Nat.max_lt.mpr ⟨parseU64_lt read, by decide⟩) rfl rfl rfl ⟨rfl, rfl⟩
  case h_9 =>
    obtain ⟨v, read, rfl⟩ := map_ok applied
    exact count_applied 4 rfl (Nat.mod_lt _ (by decide)) rfl rfl rfl ⟨rfl, rfl⟩
  case h_10 =>
    obtain ⟨v, read, rfl⟩ := map_ok applied
    exact count_applied 5 rfl (parseU64_lt read) rfl rfl rfl ⟨rfl, rfl⟩
  case h_11 =>
    obtain ⟨v, read, rfl⟩ := map_ok applied
    exact count_applied 6 rfl (parseU64_lt read) rfl rfl rfl ⟨rfl, rfl⟩
  case h_12 | h_13 | h_14 =>
    obtain ⟨v, read, rfl⟩ := map_ok applied
    exact count_applied 7 rfl (parseU64_lt read) rfl rfl rfl ⟨rfl, rfl⟩
  case h_15 | h_16 | h_17 =>
    obtain ⟨mode, read, rfl⟩ := map_ok applied
    exact other_applied rfl rfl rfl fun range => ⟨range.counts, parseEntryMode_lt read, range.sellMode⟩
  case h_18 | h_19 | h_20 =>
    obtain ⟨mode, read, rfl⟩ := map_ok applied
    exact other_applied rfl rfl rfl fun range => ⟨range.counts, range.entryMode, parseSellMode_lt read⟩
  case h_21 | h_22 | h_23 =>
    obtain ⟨flag, read, rfl⟩ := map_ok applied
    exact other_applied rfl rfl rfl fun range => ⟨range.counts, range.entryMode, range.sellMode⟩
  case h_24 | h_25 =>
    obtain ⟨v, read, rfl⟩ := map_ok applied
    exact decimal_applied 5 (by decide) rfl read rfl rfl fun range => ⟨range.counts, range.entryMode, range.sellMode⟩
  case h_26 => cases applied

/-- A number is always accepted for a decimal setting. -/
theorem applyGroupSettingValue_decimal {store : F64 → F64} {v : F64} (isDecimal : decimalSetting key = some store)
    (read : F64.parse (settingText rawValue) = .ok v) : ∃ group', applyGroupSettingValue group key rawValue = .ok group' := by
  unfold decimalSetting at isDecimal
  split at isDecimal
  case h_8 => cases isDecimal
  all_goals
    unfold applyGroupSettingValue
    dsimp only
    rw [read]
    exact ⟨_, rfl⟩

end

end Telegram

end CopyTrader
