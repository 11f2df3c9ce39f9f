import CopyTrader.Tasks.World
import CopyTrader.Telegram.Menu

/-!
# Sessions with the menu

Whatever keyboards a chat has been shown, and however the groups and positions have changed since, a
press on any of their buttons is understood: the data fits into a button and is read back as the
callback it was written for, its addresses, percentages and presets are accepted, and only the stores
can refuse what it asks for.
-/

namespace CopyTrader.Telegram
open Lib AutoSell

/-! ### Callbacks as fields -/

namespace Callback

/-- The fixed words that a callback begins with. -/
def words : Callback → List String
  | .main => ["gm", "main"]
  | .toggleZeroSlotBuy => ["gm", "toggle_zero_slot_buy"]
  | .overview => ["gm", "overview"]
  | .perf => ["gm", "perf"]
  | .positions => ["gm", "positions"]
  | .add => ["gm", "add"]
  | .pick _ => ["gm", "pick"]
  | .view _ => ["gm", "view"]
  | .set _ => ["gm", "set"]
  | .addWallet _ => ["gw", "a"]
  | .removeWallets _ => ["gw", "r"]
  | .removeWallet .. => ["gw", "x"]
  | .rename _ => ["gn"]
  | .del _ => ["gm", "del"]
  | .enable _ true => ["gm", "on"]
  | .enable _ false => ["gm", "off"]
  | .use _ => ["gm", "use"]
  | .key .. => ["gm", "key"]
  | .val .. => ["gm", "val"]
  | .positionList => ["ps", "list"]
  | .viewPosition .. => ["ps", "view"]
  | .sellPosition .. => ["ps", "sell"]
  | .unknown => ["unknown"]

def parameters : Callback → List String
  | .pick action => [action]
  | .view groupId | .set groupId | .addWallet groupId | .removeWallets groupId | .rename groupId | .del groupId
  | .enable groupId _ | .use groupId => [groupId]
  | .removeWallet groupId walletRaw => [groupId, walletRaw]
  | .key groupId setting => [groupId, setting]
  | .val groupId setting value => [groupId, setting, value]
  | .viewPosition groupId mintRaw => [groupId, mintRaw]
  | .sellPosition groupId mintRaw percentRaw => [groupId, mintRaw, percentRaw]
  | _ => []

def fields (callback : Callback) : List String := callback.words ++ callback.parameters

def data (callback : Callback) : String := Text.join ':' callback.fields

theorem ofFields_fields (callback : Callback) : ofFields callback.fields = callback := by
  cases callback with
  | enable groupId enabled => cases enabled <;> rfl
  | _ => rfl

theorem words_clean (callback : Callback) :
    callback.words ≠ [] ∧ ∀ word ∈ callback.words, ':' ∉ word.toList := by
  cases callback with
  | enable groupId enabled =>
    cases enabled
    all_goals
      dsimp only [words]
      decide
  | _ =>
    dsimp only [words]
    decide

/-- No parameter holds the separator. -/
def Clean (callback : Callback) : Prop := ∀ parameter ∈ callback.parameters, ':' ∉ parameter.toList

theorem fields_ne_nil (callback : Callback) : callback.fields ≠ [] :=
  List.append_ne_nil_of_left_ne_nil callback.words_clean.1 _

/-- A callback is read back from the data of its button. -/
theorem ofData_data {callback : Callback} (clean : callback.Clean) : ofData callback.data = callback := by
  have separated : ∀ field ∈ callback.fields, ':' ∉ field.toList := by
    intro field member
    exact (List.mem_append.mp member).elim (callback.words_clean.2 field) (clean field)
  rw [ofData, data, Text.split_join callback.fields_ne_nil separated, ofFields_fields]

/-- Fields with the separator after each. -/
def sizeOf (fields : List String) : ℕ := (fields.map fun field => field.utf8ByteSize + 1).sum

end Callback

def menuSettings : List String :=
  ["buy", "min_buy", "tp", "sl", "trailing", "consensus", "slippage", "sell_slippage", "hold", "buy_mode", "tip_buy",
    "tip_sell", "zero_slot_tip", "mode", "external", "external_buy"]

def pickActions : List String := ["del", "on", "off", "set", "use"]

/-- What the handler does not refuse for its form. -/
def Callback.Accepted : Callback → Prop
  | .pick action => action ∈ pickActions
  | .key _ setting => setting ∈ menuSettings
  | .val _ setting value => ∀ group, ∃ group', applyGroupSettingValue group setting value = .ok group'
  | .removeWallet _ raw | .viewPosition _ raw => ∃ address, Pubkey.fromStr raw = some address
  | .sellPosition _ mintRaw percentRaw => (∃ mint, Pubkey.fromStr mintRaw = some mint) ∧
    ∃ percent, Text.parseUnsigned 32 percentRaw = .ok percent ∧ 1 ≤ percent ∧ percent ≤ 100
  | .unknown => False
  | _ => True

/-- The longest data a button may carry, in bytes. -/
def CALLBACK_DATA_MAX : ℕ := 64

/-- The data of the button is that of the callback, and the handler reads this callback from it. -/
structure Button.StandsFor (button : Button) (callback : Callback) : Prop where
  written : button.callbackData = callback.data
  read : Callback.ofData button.callbackData = callback

/-- A button stands for a callback that is accepted, in data of the size that a button may carry. -/
structure Button.Sound (button : Button) : Prop where
  stands : ∃ callback, button.StandsFor callback
  accepted : (Callback.ofData button.callbackData).Accepted
  fits : button.callbackData.utf8ByteSize ≤ CALLBACK_DATA_MAX

/-- A short id without the separator, like `g` with a number of up to six digits. -/
structure ShortId (id : String) : Prop where
  clean : ':' ∉ id.toList
  short : id.utf8ByteSize ≤ 7

/-- A callback that is accepted, in fields of at most 65 bytes with their separators. -/
theorem Callback.sound {callback : Callback} (accepted : callback.Accepted) (clean : callback.Clean)
    (fits : sizeOf callback.words + sizeOf callback.parameters ≤ CALLBACK_DATA_MAX + 1) (text : String) :
    Button.Sound ⟨text, callback.data⟩ where
  stands := ⟨callback, rfl, ofData_data clean⟩
  accepted := by rwa [ofData_data clean]
  fits := by
    have size : callback.data.utf8ByteSize + 1 = sizeOf callback.fields := Text.utf8ByteSize_join callback.fields_ne_nil
    have parts : sizeOf callback.fields = sizeOf callback.words + sizeOf callback.parameters := by
      rw [sizeOf, fields, List.map_append, List.sum_append]
      rfl
    show callback.data.utf8ByteSize ≤ CALLBACK_DATA_MAX
    omega

/-! ### Every button of every keyboard -/

def Keyboard.Sound (keyboard : Keyboard) : Prop := ∀ row ∈ keyboard, ∀ button ∈ row, button.Sound

/-- The buttons without parameters and the pickers. -/
def plainCallbacks : List (String × Callback) :=
  [("gm:main", .main), ("gm:overview", .overview), ("gm:add", .add), ("gm:perf", .perf),
    ("gm:positions", .positions), ("ps:list", .positionList), ("gm:toggle_zero_slot_buy", .toggleZeroSlotBuy),
    ("gm:pick:del", .pick "del"), ("gm:pick:on", .pick "on"), ("gm:pick:off", .pick "off"),
    ("gm:pick:set", .pick "set"), ("gm:pick:use", .pick "use")]

theorem plain_sound {data : String} (among : data ∈ plainCallbacks.map Prod.fst) (text : String) :
    Button.Sound ⟨text, data⟩ := by
  obtain ⟨entry, stored, rfl⟩ := List.mem_map.mp among
  have read : ∀ entry ∈ plainCallbacks, entry.1 = entry.2.data ∧ Callback.ofData entry.1 = entry.2 ∧
      entry.1.utf8ByteSize ≤ CALLBACK_DATA_MAX := by decide
  have accepted : ∀ entry ∈ plainCallbacks, entry.2.Accepted := by simp [plainCallbacks, Callback.Accepted, pickActions]
  obtain ⟨written, same, fits⟩ := read entry stored
  exact ⟨⟨entry.2, written, same⟩, same.symm ▸ accepted entry stored, fits⟩

/-- The buttons with the id of a group and nothing else. -/
def groupCallbacks (id : String) : List (String × Callback) :=
  [("gm:view:" ++ id, .view id), ("gm:set:" ++ id, .set id), ("gw:a:" ++ id, .addWallet id),
    ("gw:r:" ++ id, .removeWallets id), ("gn:" ++ id, .rename id), ("gm:del:" ++ id, .del id),
    ("gm:on:" ++ id, .enable id true), ("gm:off:" ++ id, .enable id false), ("gm:use:" ++ id, .use id)]

theorem group_sound {id : String} (short : ShortId id) {data : String}
    (among : data ∈ (groupCallbacks id).map Prod.fst) (text : String) : Button.Sound ⟨text, data⟩ := by
  obtain ⟨entry, stored, rfl⟩ := List.mem_map.mp among
  have same : ∀ entry ∈ groupCallbacks id, entry.1 = entry.2.data := by
    simp [groupCallbacks, Callback.data, Callback.fields, Callback.words, Callback.parameters, Text.join,
      ← String.append_assoc]
  have accepted : ∀ entry ∈ groupCallbacks id, entry.2.Accepted := by simp [groupCallbacks, Callback.Accepted]
  have parameters : ∀ entry ∈ groupCallbacks id, entry.2.parameters = [id] := by
    simp [groupCallbacks, Callback.parameters]
  have words : (groupCallbacks id).all fun entry => Callback.sizeOf entry.2.words ≤ 9 := rfl
  rw [same entry stored]
  apply Callback.sound (accepted entry stored)
  · rw [Callback.Clean, parameters entry stored]
    exact List.forall_mem_singleton.mpr short.clean
  · have before : Callback.sizeOf entry.2.words ≤ 9 := of_decide_eq_true (List.all_eq_true.mp words entry stored)
    have after : Callback.sizeOf entry.2.parameters = id.utf8ByteSize + 1 := by
      rw [parameters entry stored]
      rfl
    have size := short.short
    dsimp only [CALLBACK_DATA_MAX]
    omega

/-- The settings and their values, in text that fits next to an id. -/
theorem preset_fits : ∀ setting ∈ menuSettings, ':' ∉ setting.toList ∧ setting.utf8ByteSize ≤ 13 ∧
    ∀ row ∈ presets setting, ∀ preset ∈ row, ':' ∉ preset.2.toList ∧ preset.2.utf8ByteSize ≤ 7 := by
  decide

theorem isOk_map {α β ε : Type} (f : α → β) (x : Except ε α) : (x.map f).isOk = x.isOk := by cases x <;> rfl

/-- Whether a value is accepted for a setting is a matter of the two texts. -/
theorem setting_isOk {setting : String} (known : setting ∈ menuSettings) (group group' : CopyGroup F64) (value : String) :
    (applyGroupSettingValue group setting value).isOk = (applyGroupSettingValue group' setting value).isOk := by
  simp only [menuSettings, List.mem_cons, List.not_mem_nil, or_false] at known
  rcases known with rfl | rfl | rfl | rfl | rfl | rfl | rfl | rfl | rfl | rfl | rfl | rfl | rfl | rfl | rfl | rfl
  all_goals simp only [applyGroupSettingValue, isOk_map]

theorem preset_isOk : ∀ setting ∈ menuSettings, ∀ row ∈ presets setting, ∀ preset ∈ row,
    (applyGroupSettingValue (CopyGroup.fromAppConfig sampleConfig) setting preset.2).isOk = true := by
  decide

theorem preset_accepted {setting : String} (known : setting ∈ menuSettings) {row : List (String × String)}
    (offered : row ∈ presets setting) {preset : String × String} (among : preset ∈ row) (group : CopyGroup F64) :
    ∃ group', applyGroupSettingValue group setting preset.2 = .ok group' := by
  have fine := preset_isOk setting known row offered preset among
  rw [setting_isOk known _ group] at fine
  cases applied : applyGroupSettingValue group setting preset.2 with
  | ok group' => exact ⟨group', rfl⟩
  | error err => simp [applied, Except.isOk, Except.toBool] at fine

/-- The data of a callback with parameters, as the keyboards write it. -/
theorem parameters_data (id : String) :
    (∀ setting, (Callback.key id setting).data = "gm:key:" ++ id ++ ":" ++ setting) ∧
    (∀ setting value, (Callback.val id setting value).data = "gm:val:" ++ id ++ ":" ++ setting ++ ":" ++ value) ∧
    (∀ raw, (Callback.removeWallet id raw).data = "gw:x:" ++ id ++ ":" ++ raw) ∧
    (∀ raw, (Callback.viewPosition id raw).data = "ps:view:" ++ id ++ ":" ++ raw) ∧
    ∀ raw percent, (Callback.sellPosition id raw percent).data = "ps:sell:" ++ id ++ ":" ++ raw ++ ":" ++ percent := by
  simp [Callback.data, Callback.fields, Callback.words, Callback.parameters, Text.join, ← String.append_assoc]

section
variable {id : String} (short : ShortId id)
include short

theorem key_sound {setting : String} (known : setting ∈ menuSettings) (text : String) :
    Button.Sound ⟨text, "gm:key:" ++ id ++ ":" ++ setting⟩ := by
  obtain ⟨clean, size, -⟩ := preset_fits setting known
  have accepted : (Callback.key id setting).Accepted := known
  rw [← (parameters_data id).1]
  apply Callback.sound accepted
  · simp [Callback.Clean, Callback.parameters, short.clean, clean]
  · have before : Callback.sizeOf (Callback.key id setting).words = 7 := rfl
    have after : Callback.sizeOf (Callback.key id setting).parameters =
        id.utf8ByteSize + 1 + (setting.utf8ByteSize + 1) := by simp [Callback.sizeOf, Callback.parameters]
    have idSize := short.short
    dsimp only [CALLBACK_DATA_MAX]
    omega

theorem preset_sound {setting : String} (known : setting ∈ menuSettings) {row : List (String × String)}
    (offered : row ∈ presets setting) {preset : String × String} (among : preset ∈ row) (text : String) :
    Button.Sound ⟨text, "gm:val:" ++ id ++ ":" ++ setting ++ ":" ++ preset.2⟩ := by
  obtain ⟨clean, size, fits⟩ := preset_fits setting known
  obtain ⟨valueClean, valueSize⟩ := fits row offered preset among
  have accepted : (Callback.val id setting preset.2).Accepted := preset_accepted known offered among
  rw [← (parameters_data id).2.1]
  apply Callback.sound accepted
  · simp [Callback.Clean, Callback.parameters, short.clean, clean, valueClean]
  · have before : Callback.sizeOf (Callback.val id setting preset.2).words = 7 := rfl
    have after : Callback.sizeOf (Callback.val id setting preset.2).parameters =
        id.utf8ByteSize + 1 + (setting.utf8ByteSize + 1 + (preset.2.utf8ByteSize + 1)) := by
      simp [Callback.sizeOf, Callback.parameters]
    have idSize := short.short
    dsimp only [CALLBACK_DATA_MAX]
    omega

theorem removeWallet_sound (wallet : Pubkey) (text : String) :
    Button.Sound ⟨text, "gw:x:" ++ id ++ ":" ++ wallet.toText⟩ := by
  have accepted : (Callback.removeWallet id wallet.toText).Accepted := ⟨wallet, wallet.fromStr_toText⟩
  rw [← (parameters_data id).2.2.1]
  apply Callback.sound accepted
  · simp [Callback.Clean, Callback.parameters, short.clean, wallet.toText_clean]
  · have before : Callback.sizeOf (Callback.removeWallet id wallet.toText).words = 5 := rfl
    have after : Callback.sizeOf (Callback.removeWallet id wallet.toText).parameters =
        id.utf8ByteSize + 1 + (wallet.toText.utf8ByteSize + 1) := by simp [Callback.sizeOf, Callback.parameters]
    have idSize := short.short
    have keySize := wallet.toText_size
    dsimp only [CALLBACK_DATA_MAX]
    omega

theorem viewPosition_sound (mint : Pubkey) (text : String) :
    Button.Sound ⟨text, "ps:view:" ++ id ++ ":" ++ mint.toText⟩ := by
  have accepted : (Callback.viewPosition id mint.toText).Accepted := ⟨mint, mint.fromStr_toText⟩
  rw [← (parameters_data id).2.2.2.1]
  apply Callback.sound accepted
  · simp [Callback.Clean, Callback.parameters, short.clean, mint.toText_clean]
  · have before : Callback.sizeOf (Callback.viewPosition id mint.toText).words = 8 := rfl
    have after : Callback.sizeOf (Callback.viewPosition id mint.toText).parameters =
        id.utf8ByteSize + 1 + (mint.toText.utf8ByteSize + 1) := by simp [Callback.sizeOf, Callback.parameters]
    have idSize := short.short
    have keySize := mint.toText_size
    dsimp only [CALLBACK_DATA_MAX]
    omega

/-- With an id of seven bytes, an address of 44 and three digits the data has exactly 64 bytes. -/
theorem sellPosition_sound (mint : Pubkey) {percent : String} (shares : percent ∈ ["25", "50", "75", "100"])
    (text : String) : Button.Sound ⟨text, "ps:sell:" ++ id ++ ":" ++ mint.toText ++ ":" ++ percent⟩ := by
  have read : ∀ percent ∈ ["25", "50", "75", "100"], ':' ∉ percent.toList ∧ percent.utf8ByteSize ≤ 3 ∧
      (Text.parseUnsigned 32 percent).toOption.any fun n => 1 ≤ n ∧ n ≤ 100 := by decide
  obtain ⟨clean, size, within⟩ := read percent shares
  have accepted : (Callback.sellPosition id mint.toText percent).Accepted := by
    refine ⟨⟨mint, mint.fromStr_toText⟩, ?_⟩
    cases parsed : Text.parseUnsigned 32 percent with
    | error err => simp [parsed, Except.toOption] at within
    | ok n => exact ⟨n, rfl, by simpa [parsed, Except.toOption] using within⟩
  rw [← (parameters_data id).2.2.2.2]
  apply Callback.sound accepted
  · simp [Callback.Clean, Callback.parameters, short.clean, mint.toText_clean, clean]
  · have before : Callback.sizeOf (Callback.sellPosition id mint.toText percent).words = 8 := rfl
    have after : Callback.sizeOf (Callback.sellPosition id mint.toText percent).parameters =
        id.utf8ByteSize + 1 + (mint.toText.utf8ByteSize + 1 + (percent.utf8ByteSize + 1)) := by
      simp [Callback.sizeOf, Callback.parameters]
    have idSize := short.short
    have keySize := mint.toText_size
    dsimp only [CALLBACK_DATA_MAX]
    omega

end

/-! ### Keyboards -/

namespace Keyboard

@[simp] theorem sound_nil : Keyboard.Sound [] := fun _ member => nomatch member

@[simp] theorem sound_cons {row : List Button} {rest : Keyboard} :
    Keyboard.Sound (row :: rest) ↔ (∀ button ∈ row, button.Sound) ∧ Keyboard.Sound rest := List.forall_mem_cons

@[simp] theorem sound_append {first second : Keyboard} :
    Keyboard.Sound (first ++ second) ↔ first.Sound ∧ second.Sound := List.forall_mem_append

theorem sound_map {α : Type} {items : List α} {row : α → List Button} :
    Keyboard.Sound (items.map row) ↔ ∀ item ∈ items, ∀ button ∈ row item, button.Sound := List.forall_mem_map

end Keyboard

theorem menu_sound (enabled : Bool) : (groupMenuKeyboardV2 enabled).Sound := by
  intro row member button among
  apply plain_sound
  revert button
  revert row
  simp [groupMenuKeyboardV2, plainCallbacks]

theorem performance_sound : groupPerformanceKeyboard.Sound := by
  intro row member button among
  apply plain_sound
  revert button
  revert row
  simp [groupPerformanceKeyboard, plainCallbacks]

section
variable {group : CopyGroup F64} (short : ShortId group.id)
include short

theorem own_sound {data : String} (among : data ∈ (groupCallbacks group.id).map Prod.fst) (text : String) :
    Button.Sound ⟨text, data⟩ := group_sound short among text

theorem detail_sound : (groupDetailKeyboard group).Sound := by
  cases enabled : group.enabled
  all_goals simp [groupDetailKeyboard, enabled, own_sound short, plain_sound, groupCallbacks, plainCallbacks]

theorem settingMenu_sound : (groupSettingMenuKeyboardV2 group).Sound := by
  have keys : ∀ setting ∈ menuSettings, ∀ text, (keyButton group text setting).Sound :=
    fun setting known text => key_sound short known text
  simp only [menuSettings, List.forall_mem_cons] at keys
  simp [groupSettingMenuKeyboardV2, keys, own_sound short, plain_sound, groupCallbacks, plainCallbacks]

theorem walletHint_sound : (groupWalletHintKeyboard group).Sound := by
  simp [groupWalletHintKeyboard, own_sound short, groupCallbacks]

theorem rename_sound : (groupRenameKeyboard group).Sound := by
  simp [groupRenameKeyboard, own_sound short, plain_sound, groupCallbacks, plainCallbacks]

theorem walletRemove_sound : (groupWalletRemoveKeyboard group).Sound := by
  have back (text : String) : Button.Sound ⟨text, "gm:view:" ++ group.id⟩ := own_sound short (by simp [groupCallbacks]) text
  unfold groupWalletRemoveKeyboard
  rw [Keyboard.sound_append]
  constructor
  · split
    · simp [back]
    · rw [Keyboard.sound_map]
      intro wallet _
      exact List.forall_mem_singleton.mpr (removeWallet_sound short wallet _)
  · simp [back]

end

theorem settingValue_sound {id : String} (short : ShortId id) {setting : String} (known : setting ∈ menuSettings) :
    (groupSettingValueKeyboard id setting).Sound := by
  unfold groupSettingValueKeyboard
  rw [Keyboard.sound_append, Keyboard.sound_map]
  constructor
  · intro row offered button member
    obtain ⟨preset, among, rfl⟩ := List.mem_map.mp member
    exact preset_sound short known offered among preset.1
  · have back (text : String) : Button.Sound ⟨text, "gm:set:" ++ id⟩ := group_sound short (by simp [groupCallbacks]) text
    simp [back, plain_sound, plainCallbacks]

theorem overview_sound {manager : GroupManager F64} (short : ∀ group ∈ manager.allGroups, ShortId group.id) :
    (groupsOverviewKeyboard manager).Sound := by
  unfold groupsOverviewKeyboard
  rw [Keyboard.sound_append, Keyboard.sound_map]
  constructor
  · intro group stored
    simp [own_sound (short group stored), groupCallbacks]
  · simp [plain_sound, plainCallbacks]

theorem picker_sound {manager : GroupManager F64} (short : ∀ group ∈ manager.allGroups, ShortId group.id)
    {action : String} (known : action ∈ pickActions) : (groupPickerKeyboard manager action).Sound := by
  unfold groupPickerKeyboard
  rw [Keyboard.sound_append, Keyboard.sound_map]
  constructor
  · intro group stored
    refine List.forall_mem_singleton.mpr (own_sound (short group stored) ?_ _)
    simp only [pickActions, List.mem_cons, List.not_mem_nil, or_false] at known
    rcases known with rfl | rfl | rfl | rfl | rfl
    all_goals simp [groupCallbacks]
  · simp [plain_sound, plainCallbacks]

theorem positionsList_sound {positions : List Position} (short : ∀ p ∈ positions, ShortId p.group.id) :
    (positionsListKeyboard positions).Sound := by
  unfold positionsListKeyboard
  rw [Keyboard.sound_append, Keyboard.sound_map]
  constructor
  · intro p held
    exact List.forall_mem_singleton.mpr (viewPosition_sound (short p held) p.tokenMint _)
  · simp [plain_sound, plainCallbacks]

theorem positionDetail_sound {p : Position} (short : ShortId p.group.id) : (positionDetailKeyboard p).Sound := by
  have sells {percent : String} (shares : percent ∈ ["25", "50", "75", "100"]) (text : String) :
      (sellButton p text percent).Sound := sellPosition_sound short p.tokenMint shares text
  have refresh := viewPosition_sound short p.tokenMint
  simp [positionDetailKeyboard, sells, refresh, plain_sound, plainCallbacks]

/-! ### Presses -/

/-- Every group and position is under a short id. -/
structure ShortIds (manager : GroupManager F64) (autoSell : AutoSellManager) : Prop where
  groups : ∀ id group, manager.getGroup id = some group → ShortId id
  positions : ∀ key p, autoSell.getPosition key = some p → ShortId p.group.id

section
variable {manager : GroupManager F64} {autoSell : AutoSellManager}

theorem getGroup_id {id : String} {group : CopyGroup F64} (stored : manager.getGroup id = some group) : group.id = id :=
  GroupManager.keyed_iff.mp manager.keyed id group stored

theorem ShortIds.stored (short : ShortIds manager autoSell) {id : String} {group : CopyGroup F64}
    (stored : manager.getGroup id = some group) : ShortId group.id :=
  getGroup_id stored ▸ short.groups id group stored

theorem ShortIds.listed (short : ShortIds manager autoSell) : ∀ group ∈ manager.allGroups, ShortId group.id :=
  fun group member => short.groups group.id group (GroupManager.mem_allGroups.mp member)

theorem ShortIds.held (short : ShortIds manager autoSell) : ∀ p ∈ autoSell.positions.values, ShortId p.group.id := by
  intro p member
  obtain ⟨key, read⟩ := DashMap.mem_values.mp member
  exact short.positions key p read

theorem listPositions_sound (short : ShortIds manager autoSell) : (listPositions autoSell).Sound := by
  apply positionsList_sound
  intro p member
  exact short.held p (List.mem_of_mem_filter (List.mem_mergeSort.mp member))

theorem showPosition_sound (short : ShortIds manager autoSell) (groupId : String) (mint : Pubkey) :
    (showPosition autoSell groupId mint).Sound := by
  unfold showPosition
  split
  · rename_i p read
    exact positionDetail_sound (short.positions _ p read)
  · exact listPositions_sound short

theorem mapped_sound {id : String} {shown : CopyGroup F64 → Keyboard} (short : ShortIds manager autoSell)
    (sound : ∀ group, ShortId group.id → (shown group).Sound) :
    ∀ keyboard ∈ (manager.getGroup id).map shown, keyboard.Sound := by
  intro keyboard among
  obtain ⟨group, stored, rfl⟩ := Option.map_eq_some_iff.mp among
  exact sound group (short.stored stored)

end

theorem editsGroup_sound {result : GroupManager F64 × Except String Unit} {text id : String} {autoSell : AutoSellManager}
    (after : ShortIds (editsGroup result text id).manager autoSell) :
    ∀ keyboard ∈ (editsGroup result text id).edit, keyboard.Sound := by
  rw [editsGroup_manager] at after
  unfold editsGroup
  split
  · exact mapped_sound after fun group => detail_sound
  · simp

/-- An accepted press puts a sound keyboard in the place of the pressed one. -/
theorem edit_sound {bot : TgBot} {manager : GroupManager F64} {autoSell : AutoSellManager} {data : String}
    (accepted : (Callback.ofData data).Accepted) (short : ShortIds manager autoSell)
    (after : ShortIds (handleCallback bot manager autoSell data).manager autoSell) :
    ∀ keyboard ∈ (handleCallback bot manager autoSell data).edit, keyboard.Sound := by
  unfold handleCallback at after ⊢
  generalize Callback.ofData data = callback at accepted after ⊢
  cases callback with
  | main => simp [shows, menu_sound]
  | overview => simp [shows, overview_sound short.listed]
  | perf => simp [shows, performance_sound]
  | positions | positionList => simp [shows, listPositions_sound short]
  | pick action =>
    have known : action ∈ pickActions := accepted
    simp [shows, picker_sound short.listed known]
  | view id => exact mapped_sound short fun group => detail_sound
  | set id => exact mapped_sound short fun group => settingMenu_sound
  | addWallet id => exact mapped_sound short fun group => walletHint_sound
  | removeWallets id => exact mapped_sound short fun group => walletRemove_sound
  | rename id => exact mapped_sound short fun group => rename_sound
  | key id setting =>
    intro keyboard among
    obtain ⟨group, stored, rfl⟩ := Option.map_eq_some_iff.mp among
    exact settingValue_sound (short.groups id group stored) accepted
  | viewPosition id mintRaw =>
    dsimp only
    split
    · simp [shows, showPosition_sound short]
    · simp
  | sellPosition id mintRaw percentRaw =>
    dsimp only
    split
    · simp [refuses]
    · split
      · split
        · simp [showPosition_sound short]
        · simp [refuses]
      · simp [refuses]
  | toggleZeroSlotBuy =>
    dsimp only
    split
    · simp [refuses]
    · simp [menu_sound]
  | add =>
    have added : ShortId (manager.addGroup (defaultGroupName manager) bot.config).2.id := by
      apply after.groups _ (manager.addGroup (defaultGroupName manager) bot.config).2
      exact (GroupManager.getGroup_insertGroup ..).trans (if_pos rfl)
    simp [detail_sound added]
  | removeWallet id walletRaw =>
    dsimp only at after ⊢
    generalize Pubkey.fromStr walletRaw = wallet at after ⊢
    cases wallet with
    | none => simp
    | some wallet =>
      dsimp only at after ⊢
      split
      · rename_i removed
        rw [removed] at after
        exact mapped_sound after fun group => detail_sound
      · simp
  | del id =>
    dsimp only at after ⊢
    split
    · rename_i deleted
      rw [deleted] at after
      simp [overview_sound after.listed]
    · simp
  | enable id enabled =>
    cases enabled
    all_goals exact editsGroup_sound after
  | use id => exact editsGroup_sound after
  | val id setting value =>
    dsimp only at after ⊢
    generalize read : manager.getGroup id = stored at after ⊢
    cases stored with
    | none => simp
    | some group =>
      obtain ⟨group', applied⟩ := accepted group
      simp only [applied] at after ⊢
      have updated : ShortId group'.id :=
        after.groups _ group' ((GroupManager.getGroup_insertGroup ..).trans (if_pos rfl))
      simp [settingMenu_sound updated]
  | unknown => simp [refuses]

/-! ### The chat -/

/-- The answers to a press whose data cannot be read. -/
def formErrors : List String := ["未识别的操作", "钱包地址无效", "代币地址无效", "卖出比例无效"]

/-- A press is answered for what it asks, and a preset or a sale that it asks for is taken up. -/
structure Understood (bot : TgBot) (manager : GroupManager F64) (autoSell : AutoSellManager) (data : String) : Prop where
  answered : ∀ text ∈ formErrors, some text ∉ (handleCallback bot manager autoSell data).answers
  preset : ∀ id setting value group, Callback.ofData data = .val id setting value → manager.getGroup id = some group →
    ∃ group', applyGroupSettingValue group setting value = .ok group' ∧
      (handleCallback bot manager autoSell data).manager = manager.replaceGroup group'
  sale : ∀ id mint percent, (handleCallback bot manager autoSell data).sale = some (id, mint, percent) →
    (Tasks.Role.partialSell id mint percent).opens = true

/-- The texts that the stores refuse with are not in Chinese. -/
theorem not_formError {text : String} (latin : text.toList.head?.any Char.isLower = true) : text ∉ formErrors := by
  have other : ∀ text ∈ formErrors, text.toList.head?.any Char.isLower = false := by decide
  intro among
  rw [other text among] at latin
  cases latin

theorem answered_alone {text other : String} (formError : text ∈ formErrors) (distinct : other ∉ formErrors) :
    some text ∉ [some other] := by
  rw [List.mem_singleton, Option.some_inj]
  exact fun same => distinct (same ▸ formError)

theorem editsGroup_answers {result : GroupManager F64 × Except String Unit} {text done id : String}
    (formError : text ∈ formErrors) (other : done ∉ formErrors)
    (refusal : ∀ err, result.2 = .error err → err ∉ formErrors) : some text ∉ (editsGroup result done id).answers := by
  unfold editsGroup
  split
  · exact answered_alone formError other
  · rename_i err refused
    exact answered_alone formError (refusal err refused)

section
variable {manager : GroupManager F64} {id : String} {err : String}

theorem notFound_latin (id : String) : "group not found: " ++ id ∉ formErrors := not_formError (by simp)

theorem setGroupEnabled_refusal {enabled : Bool} (refused : (manager.setGroupEnabled id enabled).2 = .error err) :
    err ∉ formErrors := by
  unfold GroupManager.setGroupEnabled at refused
  split at refused
  · rw [← Except.error.inj refused]
    exact notFound_latin id
  · cases refused

theorem setSelectedGroup_refusal (refused : (manager.setSelectedGroup id).2 = .error err) : err ∉ formErrors := by
  unfold GroupManager.setSelectedGroup at refused
  split at refused
  · rw [← Except.error.inj refused]
    exact notFound_latin id
  · cases refused

theorem deleteGroup_refusal (refused : (manager.deleteGroup id).2 = .error err) : err ∉ formErrors := by
  unfold GroupManager.deleteGroup at refused
  split at refused
  · rw [← Except.error.inj refused]
    decide
  · split at refused
    · rw [← Except.error.inj refused]
      exact notFound_latin id
    · dsimp only at refused
      split at refused <;> cases refused

theorem removeWallet_refusal {wallet : Pubkey} (refused : (manager.removeWallet id wallet).2 = .error err) :
    err ∉ formErrors := by
  unfold GroupManager.removeWallet at refused
  split at refused
  · rw [← Except.error.inj refused]
    exact notFound_latin id
  · split at refused
    · cases refused
    · rw [← Except.error.inj refused]
      decide

end

/-- An accepted press is not answered with an error of its form. -/
theorem accepted_answered (bot : TgBot) (manager : GroupManager F64) (autoSell : AutoSellManager) {data : String}
    (accepted : (Callback.ofData data).Accepted) {text : String} (formError : text ∈ formErrors) :
    some text ∉ (handleCallback bot manager autoSell data).answers := by
  unfold handleCallback
  generalize Callback.ofData data = callback at accepted
  cases callback with
  | viewPosition id mintRaw =>
    obtain ⟨mint, read⟩ := accepted
    simp [read, shows]
  | sellPosition id mintRaw percentRaw =>
    obtain ⟨⟨mint, read⟩, percent, parsed, within⟩ := accepted
    simp only [read, parsed, if_pos within]
    exact answered_alone formError (by decide)
  | toggleZeroSlotBuy =>
    dsimp only
    split
    · exact answered_alone formError (by decide)
    · cases manager.zeroSlotBuyEnabled
      all_goals exact answered_alone formError (by decide)
  | add => exact answered_alone formError (by decide)
  | removeWallet id walletRaw =>
    obtain ⟨wallet, read⟩ := accepted
    simp only [read]
    split
    · simp
    · rename_i err refused
      have distinct := removeWallet_refusal refused
      simp only [List.mem_cons, reduceCtorEq, Option.some_inj, List.not_mem_nil, or_false, false_or]
      exact fun same => distinct (same ▸ formError)
  | del id =>
    dsimp only
    split
    · exact answered_alone formError (by decide)
    · rename_i err refused
      exact answered_alone formError (deleteGroup_refusal refused)
  | enable id enabled =>
    cases enabled
    all_goals exact editsGroup_answers formError (by decide) fun err refused => setGroupEnabled_refusal refused
  | use id => exact editsGroup_answers formError (by decide) fun err refused => setSelectedGroup_refusal refused
  | val id setting value =>
    dsimp only
    split
    · rename_i group stored
      obtain ⟨group', applied⟩ := accepted group
      simp only [applied]
      exact answered_alone formError (by decide)
    · exact answered_alone formError (by decide)
  | unknown => exact accepted.elim
  | _ => simp [shows]

theorem editsGroup_sale (result : GroupManager F64 × Except String Unit) (text id : String) :
    (editsGroup result text id).sale = none := by
  unfold editsGroup
  split <;> rfl

/-- A sale that is run is one of a position's share that the sell tasks take. -/
theorem sale_opens {bot : TgBot} {manager : GroupManager F64} {autoSell : AutoSellManager} {data id : String}
    {mint : Pubkey} {percent : ℕ} (sold : (handleCallback bot manager autoSell data).sale = some (id, mint, percent)) :
    (Tasks.Role.partialSell id mint percent).opens = true := by
  unfold handleCallback at sold
  generalize Callback.ofData data = callback at sold
  cases callback with
  | sellPosition groupId mintRaw percentRaw =>
    dsimp only at sold
    split at sold
    · cases sold
    · split at sold
      · split at sold
        · rename_i within
          cases sold
          simpa [Tasks.Role.opens] using within
        · cases sold
      · cases sold
  | viewPosition groupId mintRaw =>
    dsimp only at sold
    split at sold <;> cases sold
  | toggleZeroSlotBuy =>
    dsimp only at sold
    split at sold <;> cases sold
  | removeWallet groupId walletRaw =>
    dsimp only at sold
    split at sold
    · split at sold <;> cases sold
    · cases sold
  | del groupId =>
    dsimp only at sold
    split at sold <;> cases sold
  | enable groupId enabled =>
    cases enabled
    all_goals
      dsimp only at sold
      rw [editsGroup_sale] at sold
      cases sold
  | use groupId =>
    dsimp only at sold
    rw [editsGroup_sale] at sold
    cases sold
  | val groupId setting value =>
    dsimp only at sold
    split at sold
    · split at sold <;> cases sold
    · cases sold
  | _ => cases sold

theorem understood (bot : TgBot) (manager : GroupManager F64) (autoSell : AutoSellManager) {data : String}
    (accepted : (Callback.ofData data).Accepted) : Understood bot manager autoSell data where
  answered := fun text formError => accepted_answered bot manager autoSell accepted formError
  preset := by
    intro id setting value group asks stored
    rw [asks] at accepted
    obtain ⟨group', applied⟩ := accepted group
    refine ⟨group', applied, ?_⟩
    simp only [handleCallback, asks, stored, applied]
  sale := fun id mint percent sold => sale_opens sold

/-- A chat with the bot: the stores as they are and every keyboard that was shown so far. -/
structure Chat where
  manager : GroupManager F64
  autoSell : AutoSellManager
  shown : List Keyboard

namespace Chat

/-- The keyboards that come with the bot's own messages and with its answers to commands. -/
inductive Offers (chat : Chat) : Keyboard → Prop
  | menu : Offers chat (groupMenuKeyboardV2 chat.manager.zeroSlotBuyEnabled)
  | performance : Offers chat groupPerformanceKeyboard
  | overview : Offers chat (groupsOverviewKeyboard chat.manager)
  | picker {action : String} (asks : action ∈ ["del", "use", "on", "off"]) :
    Offers chat (groupPickerKeyboard chat.manager action)
  | detail {group : CopyGroup F64} (stored : group ∈ chat.manager.allGroups) : Offers chat (groupDetailKeyboard group)
  | settings {group : CopyGroup F64} (stored : group ∈ chat.manager.allGroups) :
    Offers chat (groupSettingMenuKeyboardV2 group)
  | positions {positions : List Position} (held : ∀ p ∈ positions, p ∈ chat.autoSell.positions.values) :
    Offers chat (positionsListKeyboard positions)
  | position {p : Position} (held : p ∈ chat.autoSell.positions.values) : Offers chat (positionDetailKeyboard p)

/-- A message with a keyboard, a press on any button that was ever shown, or a change of the stores by
anything else. -/
inductive Step (bot : TgBot) (chat : Chat) : Chat → Prop
  | message {keyboard : Keyboard} (offered : chat.Offers keyboard) :
    Step bot chat { chat with shown := keyboard :: chat.shown }
  | press {keyboard : Keyboard} {row : List Button} {button : Button} (shown : keyboard ∈ chat.shown)
    (among : row ∈ keyboard) (pressed : button ∈ row) :
    Step bot chat
      { chat with
        manager := (handleCallback bot chat.manager chat.autoSell button.callbackData).manager
        shown := (handleCallback bot chat.manager chat.autoSell button.callbackData).edit.toList ++ chat.shown }
  | stores (manager : GroupManager F64) (autoSell : AutoSellManager) :
    Step bot chat { chat with manager := manager, autoSell := autoSell }

/-- Steps that leave all ids short. -/
def Runs (bot : TgBot) : Chat → Chat → Prop :=
  Relation.ReflTransGen fun chat chat' => Step bot chat chat' ∧ ShortIds chat'.manager chat'.autoSell

theorem Offers.sound {chat : Chat} (short : ShortIds chat.manager chat.autoSell) {keyboard : Keyboard}
    (offered : chat.Offers keyboard) : keyboard.Sound := by
  cases offered with
  | menu => exact menu_sound _
  | performance => exact performance_sound
  | overview => exact overview_sound short.listed
  | picker asks =>
    have known : ∀ action ∈ ["del", "use", "on", "off"], action ∈ pickActions := by decide
    exact picker_sound short.listed (known _ asks)
  | detail stored => exact detail_sound (short.listed _ stored)
  | settings stored => exact settingMenu_sound (short.listed _ stored)
  | positions held => exact positionsList_sound fun p member => short.held p (held p member)
  | position held => exact positionDetail_sound (short.held _ held)

/-- All keyboards shown are sound, and the ids are short. -/
structure Readable (chat : Chat) : Prop where
  ids : ShortIds chat.manager chat.autoSell
  sound : ∀ keyboard ∈ chat.shown, keyboard.Sound

theorem Step.readable {bot : TgBot} {chat chat' : Chat} (step : Step bot chat chat') (before : chat.Readable)
    (after : ShortIds chat'.manager chat'.autoSell) : chat'.Readable := by
  refine ⟨after, ?_⟩
  cases step with
  | message offered => exact List.forall_mem_cons.mpr ⟨offered.sound before.ids, before.sound⟩
  | press shown among pressed =>
    have accepted := (before.sound _ shown _ among _ pressed).accepted
    have edited := edit_sound accepted before.ids after
    intro keyboard member
    rcases List.mem_append.mp member with new | old
    · exact edited keyboard (Option.mem_toList.mp new)
    · exact before.sound keyboard old
  | stores => exact before.sound

theorem Runs.readable {bot : TgBot} {chat chat' : Chat} (run : Runs bot chat chat') (start : chat.Readable) :
    chat'.Readable := by
  induction run with
  | refl => exact start
  | tail _ step ih => exact step.1.readable ih step.2

end Chat

/-- Whichever buttons were shown when, and whatever the stores have become by then, each of them fits
the limit of the data, is read back as the callback it was written for and is understood when it is
pressed. -/
theorem shown_buttons_understood {bot : TgBot} {chat chat' : Chat} (fresh : chat.shown = [])
    (short : ShortIds chat.manager chat.autoSell) (run : chat.Runs bot chat') {keyboard : Keyboard}
    {row : List Button} {button : Button} (shown : keyboard ∈ chat'.shown) (among : row ∈ keyboard) (member : button ∈ row) :
    button.callbackData.utf8ByteSize ≤ CALLBACK_DATA_MAX ∧ (∃ callback, button.StandsFor callback) ∧
      ∀ manager autoSell, Understood bot manager autoSell button.callbackData := by
  have start : chat.Readable := ⟨short, fun keyboard member => nomatch fresh ▸ member⟩
  have sound : button.Sound := (run.readable start).sound keyboard shown row among button member
  exact ⟨sound.fits, sound.stands, fun manager autoSell => understood bot manager autoSell sound.accepted⟩

/-- One group after a start without files; its settings are opened from the overview. -/
theorem sample_button_understood :
    "gm:key:g1:buy".utf8ByteSize ≤ CALLBACK_DATA_MAX ∧
      (∃ callback, (⟨"买入金额", "gm:key:g1:buy"⟩ : Button).StandsFor callback) ∧
      ∀ manager autoSell, Understood ⟨sampleConfig, "5"⟩ manager autoSell "gm:key:g1:buy" := by
  let bot : TgBot := ⟨sampleConfig, "5"⟩
  let manager : GroupManager F64 := GroupManager.loadOrDefault sampleConfig none
  let autoSell := AutoSellManager.new []
  let group : CopyGroup F64 := CopyGroup.fromAppConfig sampleConfig
  have entries : manager.groups.entries = [("g1", group)] := rfl
  have stored : manager.getGroup "g1" = some group := DashMap.get_of_mem (entries ▸ List.mem_cons_self)
  have listed : manager.allGroups = [group] := by
    rw [GroupManager.allGroups, DashMap.values, entries]
    rfl
  have short : ShortIds manager autoSell := by
    refine ⟨fun id group stored => ?_, fun key p stored => by cases stored⟩
    have among := DashMap.mem_of_get stored
    rw [entries, List.mem_singleton] at among
    cases among
    exact ⟨by decide, by decide⟩
  let overview := groupsOverviewKeyboard manager
  let start : Chat := ⟨manager, autoSell, []⟩
  let opened : Chat := ⟨manager, autoSell, [overview]⟩
  let settings : Chat := ⟨manager, autoSell, [groupSettingMenuKeyboardV2 group, overview]⟩
  have message : Chat.Step bot start opened := .message .overview
  have press : Chat.Step bot opened settings := by
    have rows : overview.head? = some [⟨"查看 group-1 (g1)", "gm:view:g1"⟩, ⟨"设置", "gm:set:g1"⟩] := by
      show (groupsOverviewKeyboard manager).head? = _
      rw [groupsOverviewKeyboard, listed]
      rfl
    have shown : overview ∈ opened.shown := List.mem_cons_self
    have pressed : (⟨"设置", "gm:set:g1"⟩ : Button) ∈ [⟨"查看 group-1 (g1)", "gm:view:g1"⟩, ⟨"设置", "gm:set:g1"⟩] :=
      List.mem_cons_of_mem _ List.mem_cons_self
    have step : Chat.Step bot opened _ := .press shown (List.mem_of_mem_head? rows) pressed
    have asks : Callback.ofData "gm:set:g1" = .set "g1" := by decide
    have outcome : handleCallback bot manager autoSell "gm:set:g1" =
        shows manager (some (groupSettingMenuKeyboardV2 group)) := by
      simp only [handleCallback, asks, stored, Option.map_some]
    simp only [opened, outcome] at step
    exact step
  have run : start.Runs bot settings :=
    (Relation.ReflTransGen.single ⟨message, short⟩).tail ⟨press, short⟩
  exact shown_buttons_understood rfl short run List.mem_cons_self List.mem_cons_self
    (show keyButton group "买入金额" "buy" ∈ _ from List.mem_cons_self)

end CopyTrader.Telegram
