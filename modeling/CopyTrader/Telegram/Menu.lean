import CopyTrader.AutoSell.Manager
import CopyTrader.Telegram.Commands

/-!
# The menu of the bot

The keyboards that the bot shows and what their buttons do. A button carries its callback in one line
of fields. The texts of the messages above the keyboards are left out.
-/

namespace CopyTrader

/-- `get_active_positions`: the positions that wait, confirm or are held. -/
def AutoSell.AutoSellManager.getActivePositions (manager : AutoSell.AutoSellManager) : List AutoSell.Position :=
  manager.positions.values.filter fun p => !(p.state = .closed || p.state = .failed || p.state = .selling)

namespace Telegram
open Lib AutoSell

structure Button where
  text : String
  callbackData : String
  deriving DecidableEq, Repr

abbrev Keyboard := List (List Button)

/-! ### Callbacks -/

/-- What a button asks for. Addresses and the percentage are read later. -/
inductive Callback where
  | main
  | toggleZeroSlotBuy
  | overview
  | perf
  | positions
  | add
  | pick (action : String)
  | view (groupId : String)
  | set (groupId : String)
  | addWallet (groupId : String)
  | removeWallets (groupId : String)
  | removeWallet (groupId walletRaw : String)
  | rename (groupId : String)
  | del (groupId : String)
  | enable (groupId : String) (enabled : Bool)
  | use (groupId : String)
  | key (groupId key : String)
  | val (groupId key value : String)
  | positionList
  | viewPosition (groupId mintRaw : String)
  | sellPosition (groupId mintRaw percentRaw : String)
  | unknown
  deriving DecidableEq

namespace Callback

/-- The patterns of `handle_callback_v2`, then those of `handle_callback`. -/
def ofFields : List String → Callback
  | ["gm", "positions"] => .positions
  | ["ps", "list"] => .positionList
  | ["ps", "view", groupId, mintRaw] => .viewPosition groupId mintRaw
  | ["ps", "sell", groupId, mintRaw, percentRaw] => .sellPosition groupId mintRaw percentRaw
  | ["gm", "main"] => .main
  | ["gm", "toggle_zero_slot_buy"] => .toggleZeroSlotBuy
  | ["gm", "overview"] => .overview
  | ["gm", "perf"] => .perf
  | ["gm", "add"] => .add
  | ["gm", "pick", action] => .pick action
  | ["gm", "view", groupId] => .view groupId
  | ["gm", "set", groupId] => .set groupId
  | ["gw", "a", groupId] => .addWallet groupId
  | ["gw", "r", groupId] => .removeWallets groupId
  | ["gw", "x", groupId, walletRaw] => .removeWallet groupId walletRaw
  | ["gn", groupId] => .rename groupId
  | ["gm", "del", groupId] => .del groupId
  | ["gm", "on", groupId] => .enable groupId true
  | ["gm", "off", groupId] => .enable groupId false
  | ["gm", "use", groupId] => .use groupId
  | ["gm", "key", groupId, setting] => .key groupId setting
  | ["gm", "val", groupId, setting, value] => .val groupId setting value
  | _ => .unknown

def ofData (data : String) : Callback := ofFields (Text.split data ':')

/-- The command on the groups that a press stands for. -/
def command : Callback → Command
  | .toggleZeroSlotBuy => .toggleZeroSlotBuy
  | .add => .menuAdd
  | .removeWallet groupId walletRaw => .menuRemoveWallet groupId walletRaw
  | .del groupId => .menuDel groupId
  | .enable groupId enabled => .menuEnabled groupId enabled
  | .use groupId => .menuUse groupId
  | .val groupId setting value => .menuVal groupId setting value
  | _ => .other

theorem ofCallback_eq (data : String) : Command.ofCallback data = (ofData data).command := by
  unfold Command.ofCallback ofData
  generalize Text.split data ':' = fields
  split
  case h_9 =>
    unfold ofFields
    split <;> first | rfl | simp_all
  all_goals rfl

end Callback

/-! ### Keyboards -/

section
variable {F : Type}

def zeroSlotBuyButtonLabel (enabled : Bool) : String := if enabled then "关闭 0slot 买入" else "开启 0slot 买入"

def groupMenuKeyboardV2 (zeroSlotBuyEnabled : Bool) : Keyboard :=
  [[⟨"查看组合", "gm:overview"⟩, ⟨"新增组合", "gm:add"⟩],
    [⟨"删除组合", "gm:pick:del"⟩, ⟨"启用组合", "gm:pick:on"⟩],
    [⟨"停用组合", "gm:pick:off"⟩, ⟨"设置组合", "gm:pick:set"⟩],
    [⟨"切换当前组合", "gm:pick:use"⟩, ⟨"查看持仓列表", "gm:positions"⟩],
    [⟨"组合绩效", "gm:perf"⟩],
    [⟨zeroSlotBuyButtonLabel zeroSlotBuyEnabled, "gm:toggle_zero_slot_buy"⟩]]

def groupPerformanceKeyboard : Keyboard :=
  [[⟨"刷新组合绩效", "gm:perf"⟩, ⟨"查看组合", "gm:overview"⟩], [⟨"返回菜单", "gm:main"⟩]]

def groupsOverviewKeyboard (groups : GroupManager F) : Keyboard :=
  groups.allGroups.map (fun group =>
      [⟨"查看 " ++ group.name ++ " (" ++ group.id ++ ")", "gm:view:" ++ group.id⟩, ⟨"设置", "gm:set:" ++ group.id⟩]) ++
    [[⟨"组合绩效", "gm:perf"⟩], [⟨"新增组合", "gm:add"⟩, ⟨"菜单", "gm:main"⟩]]

def groupPickerKeyboard (groups : GroupManager F) (action : String) : Keyboard :=
  groups.allGroups.map (fun group =>
      [⟨group.name ++ " (" ++ group.id ++ ")", "gm:" ++ action ++ ":" ++ group.id⟩]) ++
    [[⟨"返回菜单", "gm:main"⟩]]

def groupDetailKeyboard (group : CopyGroup F) : Keyboard :=
  let toggleText := if group.enabled then "停用组合" else "启用组合"
  let toggleCb := if group.enabled then "gm:off:" ++ group.id else "gm:on:" ++ group.id
  [[⟨"设置参数", "gm:set:" ++ group.id⟩, ⟨"设为当前组合", "gm:use:" ++ group.id⟩],
    [⟨"添加钱包", "gw:a:" ++ group.id⟩, ⟨"删除钱包", "gw:r:" ++ group.id⟩],
    [⟨"修改名称", "gn:" ++ group.id⟩, ⟨toggleText, toggleCb⟩],
    [⟨"删除组合", "gm:del:" ++ group.id⟩],
    [⟨"查看全部组合", "gm:overview"⟩, ⟨"返回菜单", "gm:main"⟩]]

/-- The button that opens the values of a setting. -/
def keyButton (group : CopyGroup F) (text key : String) : Button := ⟨text, "gm:key:" ++ group.id ++ ":" ++ key⟩

def groupSettingMenuKeyboardV2 (group : CopyGroup F) : Keyboard :=
  [[keyButton group "买入金额" "buy", keyButton group "最小买入" "min_buy"],
    [keyButton group "止盈" "tp", keyButton group "止损" "sl"],
    [keyButton group "移动止损" "trailing", keyButton group "共识数量" "consensus"],
    [keyButton group "买入滑点" "slippage", keyButton group "卖出滑点" "sell_slippage"],
    [keyButton group "持仓时间" "hold", keyButton group "跟单买入模式" "buy_mode"],
    [keyButton group "买入小费" "tip_buy", keyButton group "卖出小费" "tip_sell"],
    [keyButton group "0slot 小费" "zero_slot_tip", keyButton group "卖出模式" "mode"],
    [keyButton group "外盘模式" "external", keyButton group "外盘买入" "external_buy"],
    [⟨"查看组合", "gm:view:" ++ group.id⟩, ⟨"返回菜单", "gm:main"⟩]]

def valueRow (groupId key : String) (values : List (String × String)) : List Button :=
  values.map fun (label, value) => ⟨label, "gm:val:" ++ groupId ++ ":" ++ key ++ ":" ++ value⟩

/-- The labels and values that a setting offers, row by row. -/
def presets : String → List (List (String × String))
  | "buy" => [[("0.003 SOL", "0.003"), ("0.005 SOL", "0.005")], [("0.01 SOL", "0.01"), ("0.02 SOL", "0.02")]]
  | "min_buy" => [[("0.1 SOL", "0.1"), ("0.3 SOL", "0.3")], [("0.5 SOL", "0.5"), ("1 SOL", "1.0")]]
  | "tp" => [[("30%", "30"), ("50%", "50")], [("100%", "100"), ("1000%", "1000")]]
  | "sl" => [[("10%", "10"), ("15%", "15")], [("20%", "20"), ("30%", "30")]]
  | "trailing" => [[("0%", "0"), ("5%", "5")], [("10%", "10"), ("15%", "15")]]
  | "consensus" => [[("1", "1"), ("2", "2")], [("3", "3"), ("4", "4")]]
  | "slippage" | "sell_slippage" =>
    [[("2000 bps", "2000"), ("3000 bps", "3000")], [("5000 bps", "5000"), ("8000 bps", "8000")]]
  | "hold" => [[("5 min", "5"), ("10 min", "10")], [("20 min", "20"), ("30 min", "30")]]
  | "tip_buy" | "tip_sell" =>
    [[("10000", "10000"), ("50000", "50000")], [("100000", "100000"), ("300000", "300000")]]
  | "zero_slot_tip" =>
    [[("100000", "100000"), ("300000", "300000")], [("500000", "500000"), ("1000000", "1000000")]]
  | "buy_mode" => [[("买入时跟单买入", "buy"), ("卖出时跟单买入", "sell")]]
  | "mode" => [[("跟卖模式", "follow"), ("止盈止损", "tp_sl")]]
  | "external" | "external_mode" => [[("off", "off"), ("dry-run", "dry_run"), ("live", "live")]]
  | "external_buy" | "external_buy_sol" => [[("0.002 SOL", "0.002"), ("0.005 SOL", "0.005")]]
  | _ => [[("默认", "0")]]

def groupSettingValueKeyboard (groupId key : String) : Keyboard :=
  (presets key).map (valueRow groupId key) ++
    [[⟨"返回参数页", "gm:set:" ++ groupId⟩, ⟨"返回菜单", "gm:main"⟩]]

def groupWalletHintKeyboard (group : CopyGroup F) : Keyboard :=
  [[⟨"查看钱包列表", "gm:view:" ++ group.id⟩, ⟨"删除钱包", "gw:r:" ++ group.id⟩],
    [⟨"返回组合", "gm:view:" ++ group.id⟩]]

def shortPubkey (pubkey : Pubkey) : String :=
  let value := pubkey.toText.toList
  String.ofList (value.take 6) ++ ".." ++ String.ofList (value.drop (value.length - 4))

def groupWalletRemoveKeyboard (group : CopyGroup F) : Keyboard :=
  (if group.wallets = [] then [[⟨"暂无钱包", "gm:view:" ++ group.id⟩]]
    else group.wallets.map fun wallet =>
      [⟨shortPubkey wallet, "gw:x:" ++ group.id ++ ":" ++ wallet.toText⟩]) ++
    [[⟨"返回组合", "gm:view:" ++ group.id⟩]]

def groupRenameKeyboard (group : CopyGroup F) : Keyboard :=
  [[⟨"返回组合", "gm:view:" ++ group.id⟩, ⟨"查看全部组合", "gm:overview"⟩]]

end

def positionDisplayName (position : Position) : String :=
  if position.tokenName = "" then shortPubkey position.tokenMint else position.tokenName

/-- By display name, then by mint, then by group. -/
def sortedPositions (positions : List Position) : List Position :=
  positions.mergeSort fun left right =>
    ((compare (positionDisplayName left) (positionDisplayName right)).then
      ((compare left.tokenMint.toText right.tokenMint.toText).then (compare left.group.id right.group.id))).isLE

def positionsListKeyboard (positions : List Position) : Keyboard :=
  positions.map (fun position =>
      [⟨positionDisplayName position ++ " [" ++ position.group.id ++ "]",
        "ps:view:" ++ position.group.id ++ ":" ++ position.tokenMint.toText⟩]) ++
    [[⟨"刷新", "ps:list"⟩, ⟨"返回菜单", "gm:main"⟩]]

/-- The button that sells a share of a position. -/
def sellButton (position : Position) (text percent : String) : Button :=
  ⟨text, "ps:sell:" ++ position.group.id ++ ":" ++ position.tokenMint.toText ++ ":" ++ percent⟩

def positionDetailKeyboard (position : Position) : Keyboard :=
  [[sellButton position "25%" "25", sellButton position "50%" "50"],
    [sellButton position "75%" "75", sellButton position "100%" "100"],
    [⟨"刷新", "ps:view:" ++ position.group.id ++ ":" ++ position.tokenMint.toText⟩, ⟨"返回列表", "ps:list"⟩]]

/-! ### Pressing a button -/

/-- What a press leads to: the groups after it, the answers to the press in order, the keyboard that
takes the place of the pressed one, and the sale that was run. -/
structure Outcome where
  manager : GroupManager F64
  answers : List (Option String)
  edit : Option Keyboard
  sale : Option (String × Pubkey × ℕ)

section
variable (bot : TgBot) (manager : GroupManager F64)

/-- A press that changes nothing: it is answered, and a keyboard may be shown. -/
def shows (edit : Option Keyboard) : Outcome := ⟨manager, [none], edit, none⟩

def refuses (text : String) : Outcome := ⟨manager, [some text], none, none⟩

/-- A press on a group that is stored, with its detail shown afterwards. -/
def editsGroup (result : GroupManager F64 × Except String Unit) (text groupId : String) : Outcome :=
  match result.2 with
  | .ok () => ⟨result.1, [some text], (result.1.getGroup groupId).map groupDetailKeyboard, none⟩
  | .error err => ⟨result.1, [some err], none, none⟩

def listPositions (autoSell : AutoSellManager) : Keyboard :=
  positionsListKeyboard (sortedPositions autoSell.getActivePositions)

def showPosition (autoSell : AutoSellManager) (groupId : String) (mint : Pubkey) : Keyboard :=
  match autoSell.getPositionByGroupMint groupId mint with
  | some position => positionDetailKeyboard position
  | none => listPositions autoSell

/-- `handle_callback_v2`. The positions are those it reads, after the sale if there is one. -/
def handleCallback (autoSell : AutoSellManager) (data : String) : Outcome :=
  match Callback.ofData data with
  | .positions | .positionList => shows manager (some (listPositions autoSell))
  | .viewPosition groupId mintRaw =>
    match Pubkey.fromStr mintRaw with
    | some mint => shows manager (some (showPosition autoSell groupId mint))
    | none => ⟨manager, [none, some "代币地址无效"], none, none⟩
  | .sellPosition groupId mintRaw percentRaw =>
    match Pubkey.fromStr mintRaw with
    | none => refuses manager "代币地址无效"
    | some mint =>
      match Text.parseUnsigned 32 percentRaw with
      | .ok percent =>
        if 1 ≤ percent ∧ percent ≤ 100 then
          ⟨manager, [some "卖出指令已发送"], some (showPosition autoSell groupId mint), some (groupId, mint, percent)⟩
        else refuses manager "卖出比例无效"
      | .error _ => refuses manager "卖出比例无效"
  | .main => shows manager (some (groupMenuKeyboardV2 manager.zeroSlotBuyEnabled))
  | .toggleZeroSlotBuy =>
    if bot.config.zeroSlotUrls = [] then refuses manager "未配置 0slot 端点"
    else
      let enabled := !manager.zeroSlotBuyEnabled
      ⟨{ manager with zeroSlotBuyEnabled := enabled },
        [some (if enabled then "0slot 买入通道已开启" else "0slot 买入通道已关闭")],
        some (groupMenuKeyboardV2 enabled), none⟩
  | .overview => shows manager (some (groupsOverviewKeyboard manager))
  | .perf => shows manager (some groupPerformanceKeyboard)
  | .add =>
    let added := manager.addGroup (defaultGroupName manager) bot.config
    ⟨added.1, [some "已新增组合"], some (groupDetailKeyboard added.2), none⟩
  | .pick action => shows manager (some (groupPickerKeyboard manager action))
  | .view groupId => shows manager ((manager.getGroup groupId).map groupDetailKeyboard)
  | .set groupId => shows manager ((manager.getGroup groupId).map groupSettingMenuKeyboardV2)
  | .addWallet groupId => shows manager ((manager.getGroup groupId).map groupWalletHintKeyboard)
  | .removeWallets groupId => shows manager ((manager.getGroup groupId).map groupWalletRemoveKeyboard)
  | .removeWallet groupId walletRaw =>
    match Pubkey.fromStr walletRaw with
    | some wallet =>
      let result := manager.removeWallet groupId wallet
      match result.2 with
      | .ok () => ⟨result.1, [none], (result.1.getGroup groupId).map groupDetailKeyboard, none⟩
      | .error err => ⟨result.1, [none, some err], none, none⟩
    | none => ⟨manager, [none, some "钱包地址无效"], none, none⟩
  | .rename groupId => shows manager ((manager.getGroup groupId).map groupRenameKeyboard)
  | .del groupId =>
    let result := manager.deleteGroup groupId
    match result.2 with
    | .ok () => ⟨result.1, [some "组合已删除"], some (groupsOverviewKeyboard result.1), none⟩
    | .error err => ⟨result.1, [some err], none, none⟩
  | .enable groupId true => editsGroup (manager.setGroupEnabled groupId true) "组合已启用" groupId
  | .enable groupId false => editsGroup (manager.setGroupEnabled groupId false) "组合已停用" groupId
  | .use groupId => editsGroup (manager.setSelectedGroup groupId) "已切换当前组合" groupId
  | .key groupId key => shows manager ((manager.getGroup groupId).map fun _ => groupSettingValueKeyboard groupId key)
  | .val groupId key value =>
    match manager.getGroup groupId with
    | some group =>
      match applyGroupSettingValue group key value with
      | .ok group =>
        ⟨manager.replaceGroup group, [some "参数已更新"], some (groupSettingMenuKeyboardV2 group), none⟩
      | .error _ => ⟨manager, [some "参数已更新"], some (groupSettingValueKeyboard groupId key), none⟩
    | none => ⟨manager, [some "参数已更新"], none, none⟩
  | .unknown => refuses manager "未识别的操作"

end

theorem editsGroup_manager (result : GroupManager F64 × Except String Unit) (text groupId : String) :
    (editsGroup result text groupId).manager = result.1 := by
  unfold editsGroup
  split <;> rfl

/-- The groups after a press are those of the command it stands for. -/
theorem handleCallback_manager (bot : TgBot) (manager : GroupManager F64) (autoSell : AutoSellManager) (data : String) :
    (handleCallback bot manager autoSell data).manager = (Command.ofCallback data).run bot manager := by
  rw [Callback.ofCallback_eq]
  unfold handleCallback
  cases Callback.ofData data with
  | viewPosition groupId mintRaw =>
    dsimp only
    split <;> rfl
  | sellPosition groupId mintRaw percentRaw =>
    dsimp only
    split
    · rfl
    · split
      · split <;> rfl
      · rfl
  | toggleZeroSlotBuy =>
    dsimp only [Callback.command, Command.run]
    split <;> rfl
  | removeWallet groupId walletRaw =>
    dsimp only [Callback.command, Command.run]
    cases Pubkey.fromStr walletRaw with
    | none => rfl
    | some wallet =>
      dsimp only [Option.elim_some]
      split <;> rfl
  | del groupId =>
    dsimp only [Callback.command, Command.run]
    split <;> rfl
  | enable groupId enabled => cases enabled <;> exact editsGroup_manager _ _ _
  | use groupId => exact editsGroup_manager _ _ _
  | val groupId setting value =>
    dsimp only [Callback.command, Command.run]
    cases manager.getGroup groupId with
    | none => rfl
    | some group =>
      dsimp only [Option.elim_some, applySetting]
      cases applyGroupSettingValue group setting value <;> rfl
  | _ => rfl

end Telegram

end CopyTrader
