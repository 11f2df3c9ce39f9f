import CopyTrader.Telegram.Settings

/-!
# Commands of the bot

The updates that change the group store: messages with a command and buttons of the menu. What is
sent back is left out, and so are the commands that leave the store alone.
-/

namespace CopyTrader.Telegram
open Lib

structure TgBot where
  config : AppConfig F64
  chatId : String

inductive Update where
  | message (chatId : ℤ) (text : String)
  | callbackQuery (chatId : ℤ) (data : String)

inductive Command where
  | groupadd (args : List String)
  | groupdel (args : List String)
  | usegroup (args : List String)
  | groupEnabled (args : List String) (enabled : Bool)
  | set (args : List String)
  | addwallet (args : List String)
  | rmwallet (args : List String)
  | renamegroup (args : List String)
  | buymode (args : List String)
  | sellmode (args : List String)
  | toggleZeroSlotBuy
  | menuAdd
  | menuDel (groupId : String)
  | menuEnabled (groupId : String) (enabled : Bool)
  | menuUse (groupId : String)
  | menuVal (groupId key value : String)
  | menuRemoveWallet (groupId walletRaw : String)
  | other
  deriving DecidableEq

namespace Command

/-- `handle_message`. -/
def ofMessage (text : String) : Command :=
  let parts := Text.splitWhitespace text
  match (Text.split (parts.head?.getD "") '@').head?.getD "" with
  | "/groupadd" => .groupadd parts.tail
  | "/groupdel" => .groupdel parts.tail
  | "/usegroup" => .usegroup parts.tail
  | "/groupon" => .groupEnabled parts.tail true
  | "/groupoff" => .groupEnabled parts.tail false
  | "/set" => .set parts.tail
  | "/addwallet" => .addwallet parts.tail
  | "/rmwallet" => .rmwallet parts.tail
  | "/renamegroup" => .renamegroup parts.tail
  | "/buymode" => .buymode parts.tail
  | "/sellmode" => .sellmode parts.tail
  | _ => .other

/-- `handle_callback`. -/
def ofCallback (data : String) : Command :=
  match Text.split data ':' with
  | ["gm", "toggle_zero_slot_buy"] => .toggleZeroSlotBuy
  | ["gm", "add"] => .menuAdd
  | ["gw", "x", groupId, walletRaw] => .menuRemoveWallet groupId walletRaw
  | ["gm", "del", groupId] => .menuDel groupId
  | ["gm", "on", groupId] => .menuEnabled groupId true
  | ["gm", "off", groupId] => .menuEnabled groupId false
  | ["gm", "use", groupId] => .menuUse groupId
  | ["gm", "val", groupId, key, value] => .menuVal groupId key value
  | _ => .other

end Command

/-- The command of an update from the bot's own chat. -/
def TgBot.command (bot : TgBot) : Update → Command
  | .message chatId text => if toString chatId = bot.chatId then .ofMessage text else .other
  | .callbackQuery chatId data => if toString chatId = bot.chatId then .ofCallback data else .other

variable (bot : TgBot) (manager : GroupManager F64)

def defaultGroupName : String := "组合" ++ toString (manager.allGroups.length + 1)

def cmdGroupadd (args : List String) : GroupManager F64 :=
  let name := if args = [] then defaultGroupName manager else " ".intercalate args
  (manager.addGroup name bot.config).1

def cmdGroupdel (args : List String) : GroupManager F64 :=
  args.head?.elim manager fun groupId => (manager.deleteGroup groupId).1

def cmdUsegroup (args : List String) : GroupManager F64 :=
  args.head?.elim manager fun groupId => (manager.setSelectedGroup groupId).1

def cmdGroupEnabled (args : List String) (enabled : Bool) : GroupManager F64 :=
  args.head?.elim manager fun groupId => (manager.setGroupEnabled groupId enabled).1

/-- The key and the value of `/set key value` or `/set key = value`. -/
def settingArgs : List String → Option (String × String)
  | key :: "=" :: value :: _ => some (Text.toAsciiLowercase key, value)
  | key :: value :: _ => some (Text.toAsciiLowercase key, value)
  | _ => none

/-- A group read from the store goes back with the setting, unless it is refused. -/
def applySetting (group : CopyGroup F64) (key value : String) : GroupManager F64 :=
  match applyGroupSettingValue group key value with
  | .ok group => manager.replaceGroup group
  | .error _ => manager

def cmdSet (args : List String) : GroupManager F64 :=
  match manager.selectedGroup, settingArgs args with
  | some group, some (key, value) => applySetting manager group key value
  | _, _ => manager

def cmdAddwallet (args : List String) : GroupManager F64 :=
  match manager.selectedGroup, args.head?.bind Pubkey.fromStr with
  | some group, some wallet => (manager.addWallet group.id wallet).1
  | _, _ => manager

def cmdRmwallet (args : List String) : GroupManager F64 :=
  match manager.selectedGroup, args.head?.bind Pubkey.fromStr with
  | some group, some wallet => (manager.removeWallet group.id wallet).1
  | _, _ => manager

def cmdRenamegroup (args : List String) : GroupManager F64 :=
  match manager.selectedGroup, args with
  | some group, _ :: _ => (manager.renameGroup group.id (" ".intercalate args)).1
  | _, _ => manager

def cmdBuymode (args : List String) : GroupManager F64 :=
  match manager.selectedGroup, args.head?.map parseEntryMode with
  | some group, some (.ok mode) => manager.replaceGroup { group with entryMode := mode }
  | _, _ => manager

def cmdSellmode (args : List String) : GroupManager F64 :=
  match manager.selectedGroup, args.head?.map parseSellMode with
  | some group, some (.ok mode) => manager.replaceGroup { group with sellMode := mode }
  | _, _ => manager

def Command.run : Command → GroupManager F64
  | .groupadd args => cmdGroupadd bot manager args
  | .groupdel args => cmdGroupdel manager args
  | .usegroup args => cmdUsegroup manager args
  | .groupEnabled args enabled => cmdGroupEnabled manager args enabled
  | .set args => cmdSet manager args
  | .addwallet args => cmdAddwallet manager args
  | .rmwallet args => cmdRmwallet manager args
  | .renamegroup args => cmdRenamegroup manager args
  | .buymode args => cmdBuymode manager args
  | .sellmode args => cmdSellmode manager args
  | .toggleZeroSlotBuy =>
    if bot.config.zeroSlotUrls = [] then manager
    else { manager with zeroSlotBuyEnabled := !manager.zeroSlotBuyEnabled }
  | .menuAdd => (manager.addGroup (defaultGroupName manager) bot.config).1
  | .menuDel groupId => (manager.deleteGroup groupId).1
  | .menuEnabled groupId enabled => (manager.setGroupEnabled groupId enabled).1
  | .menuUse groupId => (manager.setSelectedGroup groupId).1
  | .menuVal groupId key value =>
    (manager.getGroup groupId).elim manager fun group => applySetting manager group key value
  | .menuRemoveWallet groupId walletRaw =>
    (Pubkey.fromStr walletRaw).elim manager fun wallet => (manager.removeWallet groupId wallet).1
  | .other => manager

def TgBot.handleUpdate : Machine (GroupManager F64) Update Unit := fun manager update =>
  ((bot.command update).run bot manager, ())

example : Command.ofMessage "/set@bot  TP = 20%" = .set ["TP", "=", "20%"] := by decide +kernel

end CopyTrader.Telegram
