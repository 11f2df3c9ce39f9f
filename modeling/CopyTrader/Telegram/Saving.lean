import CopyTrader.Telegram.Commands

/-!
# Restarts

After every update of the bot the saved file can be loaded back, as long as no decimal setting that
is not finite gets into the store.
-/

namespace CopyTrader
open Lib

namespace AppConfig

def decimals {F : Type} (config : AppConfig F) : List F :=
  [config.buySolAmount, config.minTargetBuySol, config.takeProfitPercent, config.stopLossPercent,
    config.trailingStopPercent]

def counts {F : Type} (config : AppConfig F) : List ℕ :=
  [config.consensusMinWallets, config.consensusTimeoutSecs, config.slippageBps, config.sellSlippageBps,
    config.maxHoldSeconds, config.jitoBuyTipLamports, config.jitoSellTipLamports, config.zeroSlotTipLamports]

def Finite (config : AppConfig F64) : Prop := ∀ x ∈ config.decimals, x.isFinite = true

/-- The bounds of the integer types. -/
def InRange {F : Type} (config : AppConfig F) : Prop := ∀ n ∈ config.counts, n < 2 ^ 64

end AppConfig

theorem CopyGroup.fromAppConfig_finite {config : AppConfig F64} {id name : String} {wallets : List Pubkey} {minWallets : ℕ} :
    ({ fromAppConfig config with
        id := id, name := name, wallets := wallets, consensusMinWallets := minWallets } : CopyGroup F64).Finite ↔
      config.Finite := by
  simp only [Finite, decimals, AppConfig.Finite, AppConfig.decimals, fromAppConfig, List.forall_mem_cons,
    List.not_mem_nil, false_imp_iff, implies_true, and_true]
  have external : (DEFAULT_EXTERNAL_BUY_SOL : F64).isFinite = true := rfl
  simp only [external, and_true]

theorem CopyGroup.fromAppConfig_inRange {config : AppConfig F64} (range : config.InRange) {id name : String}
    {wallets : List Pubkey} {minWallets : ℕ} (fits : minWallets < 2 ^ 64) :
    ({ fromAppConfig config with
        id := id, name := name, wallets := wallets, consensusMinWallets := minWallets } : CopyGroup F64).InRange := by
  refine ⟨?_, show 0 < 2 ^ 8 by decide, show 0 < 2 ^ 8 by decide⟩
  simp only [AppConfig.InRange, AppConfig.counts, List.forall_mem_cons] at range
  simp only [counts, fromAppConfig, List.forall_mem_cons]
  exact ⟨fits, range.2⟩

namespace Telegram
open GroupManager

/-- The decimal settings that the command puts into the store are finite. -/
def Command.StoresFinite (bot : TgBot) (manager : GroupManager F64) : Command → Prop
  | .groupadd _ | .menuAdd => bot.config.Finite
  | .set args => ∀ key value, settingArgs args = some (key, value) → ¬ GivesNonFinite key value
  | .menuVal groupId key value => (manager.getGroup groupId).isSome = true → ¬ GivesNonFinite key value
  | _ => True

structure SameSettings (group group' : CopyGroup F64) : Prop where
  decimals : group'.decimals = group.decimals
  counts : group'.counts = group.counts
  entryMode : group'.entryMode = group.entryMode
  sellMode : group'.sellMode = group.sellMode

/-- What a command does to the groups; `finite` says that it stores finite decimals only. -/
inductive Effect (bot : TgBot) (manager after : GroupManager F64) (finite : Prop) : Prop where
  | keeps (each : ∀ id group', after.getGroup id = some group' →
      ∃ group, manager.getGroup id = some group ∧ SameSettings group group') (holds : finite)
  | adds (name : String) (same : after = (manager.addGroup name bot.config).1) (iff : finite ↔ bot.config.Finite)
  | sets (group group' : CopyGroup F64) (stored : manager.getGroup group.id = some group)
      (inRange : group.InRange → group'.InRange) (iff : group.Finite → (group'.Finite ↔ finite))
      (same : after = manager.replaceGroup group')

section

variable {bot : TgBot} {manager : GroupManager F64} {finite : Prop}

theorem Effect.unchanged (holds : finite) : Effect bot manager manager finite :=
  .keeps (fun _ group' stored => ⟨group', stored, rfl, rfl, rfl, rfl⟩) holds

theorem Effect.modified {groupId : String} {f : CopyGroup F64 → CopyGroup F64}
    {sameId : ∀ group, (f group).id = group.id} (settings : ∀ group, SameSettings group (f group)) (holds : finite) :
    Effect bot manager (manager.modifyGroup groupId f sameId) finite := by
  refine .keeps (fun id group' stored => ?_) holds
  rw [getGroup_modifyGroup] at stored
  split at stored
  · obtain ⟨group, read, rfl⟩ := Option.map_eq_some_iff.mp stored
    exact ⟨group, read, settings group⟩
  · exact ⟨group', stored, rfl, rfl, rfl, rfl⟩

theorem deleteGroup_effect (groupId : String) (holds : finite) :
    Effect bot manager (manager.deleteGroup groupId).1 finite := by
  have removed : ∀ after : GroupManager F64, after.groups = manager.groups.remove groupId → Effect bot manager after finite := by
    intro after groups
    refine .keeps (fun id group' stored => ?_) holds
    rw [getGroup, groups, DashMap.get_remove] at stored
    split at stored
    · cases stored
    · exact ⟨group', stored, rfl, rfl, rfl, rfl⟩
  unfold deleteGroup
  split
  · exact .unchanged holds
  · split
    · exact .unchanged holds
    · dsimp only
      split
      · exact removed _ rfl
      · exact removed _ rfl

theorem setSelectedGroup_effect (groupId : String) (holds : finite) :
    Effect bot manager (manager.setSelectedGroup groupId).1 finite := by
  unfold setSelectedGroup
  split
  · exact .unchanged holds
  · exact .keeps (fun _ group' stored => ⟨group', stored, rfl, rfl, rfl, rfl⟩) holds

theorem setGroupEnabled_effect (groupId : String) (enabled : Bool) (holds : finite) :
    Effect bot manager (manager.setGroupEnabled groupId enabled).1 finite := by
  unfold setGroupEnabled
  split
  · exact .unchanged holds
  · apply Effect.modified
    case settings => exact fun _ => ⟨rfl, rfl, rfl, rfl⟩
    case holds => exact holds
    case sameId => exact fun _ => rfl

theorem addWallet_effect (groupId : String) (wallet : Pubkey) (holds : finite) :
    Effect bot manager (manager.addWallet groupId wallet).1 finite := by
  unfold addWallet
  split
  · exact .unchanged holds
  · apply Effect.modified
    case settings => exact fun _ => ⟨rfl, rfl, rfl, rfl⟩
    case holds => exact holds
    case sameId => exact fun _ => rfl

theorem removeWallet_effect (groupId : String) (wallet : Pubkey) (holds : finite) :
    Effect bot manager (manager.removeWallet groupId wallet).1 finite := by
  unfold removeWallet
  split
  · exact .unchanged holds
  · split
    · apply Effect.modified
      case settings => exact fun _ => ⟨rfl, rfl, rfl, rfl⟩
      case holds => exact holds
      case sameId => exact fun _ => rfl
    · exact .unchanged holds

theorem renameGroup_effect (groupId name : String) (holds : finite) :
    Effect bot manager (manager.renameGroup groupId name).1 finite := by
  unfold renameGroup
  dsimp only
  split
  · exact .unchanged holds
  · split
    · exact .unchanged holds
    · apply Effect.modified
      case settings => exact fun _ => ⟨rfl, rfl, rfl, rfl⟩
      case holds => exact holds
      case sameId => exact fun _ => rfl

theorem applySetting_effect {group : CopyGroup F64} {key value : String} (stored : manager.getGroup group.id = some group)
    (iff : finite ↔ ¬ GivesNonFinite key value) :
    Effect bot manager (applySetting manager group key value) finite := by
  unfold applySetting
  cases applied : applyGroupSettingValue group key value with
  | ok group' =>
    obtain ⟨-, inRange, finiteIff⟩ := applyGroupSettingValue_applied applied
    exact .sets group group' stored inRange (fun was => (finiteIff was).trans iff.symm) rfl
  | error _ =>
    apply Effect.unchanged
    apply iff.mpr
    rintro ⟨store, v, isDecimal, read, -⟩
    obtain ⟨group', accepted⟩ : ∃ group', applyGroupSettingValue group key value = .ok group' :=
      applyGroupSettingValue_decimal isDecimal read
    rw [applied] at accepted
    cases accepted

theorem run_effect (command : Command) (wellFormed : manager.WellFormed) :
    Effect bot manager (command.run bot manager) (command.StoresFinite bot manager) := by
  have stored : ∀ group, manager.selectedGroup = some group → manager.getGroup group.id = some group := by
    intro group selected
    obtain ⟨id, -, read⟩ := Option.bind_eq_some_iff.mp selected
    rw [wellFormed.keyed id group read]
    exact read
  cases command with
  | groupadd args => exact .adds _ rfl Iff.rfl
  | menuAdd => exact .adds _ rfl Iff.rfl
  | groupdel args =>
    cases args with
    | nil => exact .unchanged trivial
    | cons groupId rest => exact deleteGroup_effect groupId trivial
  | menuDel groupId => exact deleteGroup_effect groupId trivial
  | usegroup args =>
    cases args with
    | nil => exact .unchanged trivial
    | cons groupId rest => exact setSelectedGroup_effect groupId trivial
  | menuUse groupId => exact setSelectedGroup_effect groupId trivial
  | groupEnabled args enabled =>
    cases args with
    | nil => exact .unchanged trivial
    | cons groupId rest => exact setGroupEnabled_effect groupId enabled trivial
  | menuEnabled groupId enabled => exact setGroupEnabled_effect groupId enabled trivial
  | set args =>
    dsimp only [Command.run, Command.StoresFinite, cmdSet]
    obtain ⟨id, group, chosen, read⟩ := wellFormed.selected
    have selected : manager.selectedGroup = some group := Option.bind_eq_some_iff.mpr ⟨id, chosen, read⟩
    rw [selected]
    cases settingArgs args with
    | none => exact .unchanged nofun
    | some setting =>
      obtain ⟨key, value⟩ := setting
      apply applySetting_effect (stored group selected)
      exact ⟨fun all => all key value rfl, fun fine key' value' same => by cases same; exact fine⟩
  | menuVal groupId key value =>
    dsimp only [Command.run, Command.StoresFinite]
    cases read : manager.getGroup groupId with
    | none => exact .unchanged nofun
    | some group =>
      have own : manager.getGroup group.id = some group := by rw [wellFormed.keyed groupId group read, read]
      exact applySetting_effect own ⟨fun all => all rfl, fun fine _ => fine⟩
  | addwallet args =>
    dsimp only [Command.run, cmdAddwallet]
    split
    · exact addWallet_effect _ _ trivial
    · exact .unchanged trivial
  | rmwallet args =>
    dsimp only [Command.run, cmdRmwallet]
    split
    · exact removeWallet_effect _ _ trivial
    · exact .unchanged trivial
  | menuRemoveWallet groupId walletRaw =>
    dsimp only [Command.run]
    cases Pubkey.fromStr walletRaw with
    | none => exact .unchanged trivial
    | some wallet => exact removeWallet_effect groupId wallet trivial
  | renamegroup args =>
    dsimp only [Command.run, cmdRenamegroup]
    split
    · exact renameGroup_effect _ _ trivial
    · exact .unchanged trivial
  | buymode args =>
    dsimp only [Command.run, cmdBuymode]
    split
    · rename_i group mode selected given
      obtain ⟨arg, -, parsed⟩ := Option.map_eq_some_iff.mp given
      exact .sets group { group with entryMode := mode } (stored group selected)
        (fun range => ⟨range.counts, parseEntryMode_lt parsed, range.sellMode⟩)
        (fun was => ⟨fun _ => trivial, fun _ => was⟩) rfl
    · exact .unchanged trivial
  | sellmode args =>
    dsimp only [Command.run, cmdSellmode]
    split
    · rename_i group mode selected given
      obtain ⟨arg, -, parsed⟩ := Option.map_eq_some_iff.mp given
      exact .sets group { group with sellMode := mode } (stored group selected)
        (fun range => ⟨range.counts, range.entryMode, parseSellMode_lt parsed⟩)
        (fun was => ⟨fun _ => trivial, fun _ => was⟩) rfl
    · exact .unchanged trivial
  | toggleZeroSlotBuy =>
    dsimp only [Command.run]
    split
    · exact .unchanged trivial
    · exact .keeps (fun _ group' stored => ⟨group', stored, rfl, rfl, rfl, rfl⟩) trivial
  | other => exact .unchanged trivial

theorem applySetting_selected {group : CopyGroup F64} {key value : String} (selected : manager.selectedGroup.isSome = true) :
    (applySetting manager group key value).selectedGroup.isSome = true := by
  unfold applySetting
  split
  · exact perform_selected (.replaceGroup _) selected
  · exact selected

theorem run_selected (command : Command) (selected : manager.selectedGroup.isSome = true) :
    (command.run bot manager).selectedGroup.isSome = true := by
  cases command with
  | groupadd args => exact perform_selected (.addGroup _ bot.config) selected
  | menuAdd => exact perform_selected (.addGroup _ bot.config) selected
  | groupdel args =>
    cases args with
    | nil => exact selected
    | cons groupId rest => exact perform_selected (.deleteGroup groupId) selected
  | menuDel groupId => exact perform_selected (.deleteGroup groupId) selected
  | usegroup args =>
    cases args with
    | nil => exact selected
    | cons groupId rest => exact perform_selected (.setSelectedGroup groupId) selected
  | menuUse groupId => exact perform_selected (.setSelectedGroup groupId) selected
  | groupEnabled args enabled =>
    cases args with
    | nil => exact selected
    | cons groupId rest => exact perform_selected (.setGroupEnabled groupId enabled) selected
  | menuEnabled groupId enabled => exact perform_selected (.setGroupEnabled groupId enabled) selected
  | set args =>
    dsimp only [Command.run, cmdSet]
    split
    · exact applySetting_selected selected
    · exact selected
  | menuVal groupId key value =>
    dsimp only [Command.run]
    cases manager.getGroup groupId with
    | none => exact selected
    | some group => exact applySetting_selected selected
  | addwallet args =>
    dsimp only [Command.run, cmdAddwallet]
    split
    · exact perform_selected (.addWallet _ _) selected
    · exact selected
  | rmwallet args =>
    dsimp only [Command.run, cmdRmwallet]
    split
    · exact perform_selected (.removeWallet _ _) selected
    · exact selected
  | menuRemoveWallet groupId walletRaw =>
    dsimp only [Command.run]
    cases Pubkey.fromStr walletRaw with
    | none => exact selected
    | some wallet => exact perform_selected (.removeWallet groupId wallet) selected
  | renamegroup args =>
    dsimp only [Command.run, cmdRenamegroup]
    split
    · exact perform_selected (.renameGroup _ _) selected
    · exact selected
  | buymode args =>
    dsimp only [Command.run, cmdBuymode]
    split
    · exact perform_selected (.replaceGroup _) selected
    · exact selected
  | sellmode args =>
    dsimp only [Command.run, cmdSellmode]
    split
    · exact perform_selected (.replaceGroup _) selected
    · exact selected
  | toggleZeroSlotBuy =>
    dsimp only [Command.run]
    split
    · exact selected
    · exact selected
  | other => exact selected

/-! ### Every group of the store -/

theorem all_insertGroup {P : CopyGroup F64 → Prop} {group : CopyGroup F64} (all : manager.All P) :
    (manager.insertGroup group).All P ↔ P group := by
  constructor
  · intro after
    exact after group.id group (by rw [getGroup_insertGroup, if_pos rfl])
  · intro holds id group' stored
    rw [getGroup_insertGroup] at stored
    split at stored
    · rwa [← Option.some.inj stored]
    · exact all id group' stored

theorem Effect.finite_iff {after : GroupManager F64} (effect : Effect bot manager after finite)
    (all : manager.All CopyGroup.Finite) : after.All CopyGroup.Finite ↔ finite := by
  cases effect with
  | keeps each holds =>
    refine ⟨fun _ => holds, fun _ id group' stored => ?_⟩
    obtain ⟨group, read, settings⟩ := each id group' stored
    intro x member
    exact all id group read x (settings.decimals ▸ member)
  | adds name same iff =>
    rw [same, iff, ← CopyGroup.fromAppConfig_finite]
    exact all_insertGroup all
  | sets group group' stored inRange iff same =>
    rw [same, ← iff (all _ group stored)]
    exact all_insertGroup all

theorem Effect.inRange {after : GroupManager F64} (effect : Effect bot manager after finite)
    (range : bot.config.InRange) (all : manager.All CopyGroup.InRange) : after.All CopyGroup.InRange := by
  cases effect with
  | keeps each holds =>
    intro id group' stored
    obtain ⟨group, read, settings⟩ := each id group' stored
    have was := all id group read
    constructor
    case counts => exact settings.counts ▸ was.counts
    case entryMode => exact settings.entryMode ▸ was.entryMode
    case sellMode => exact settings.sellMode ▸ was.sellMode
  | adds name same iff =>
    rw [same]
    exact (all_insertGroup all).mpr (CopyGroup.fromAppConfig_inRange range (by decide))
  | sets group group' stored inRange iff same =>
    rw [same]
    exact (all_insertGroup all).mpr (inRange (all _ group stored))

end

/-! ### The start -/

/-- Settings that are made into a group at the start are finite. -/
def LoadsFinite (config : AppConfig F64) (file : Option Json) : Prop :=
  readableGroups config (file.bind PersistedGroupsState.ofJson) = [] → config.Finite

theorem loadOrDefault_all {config : AppConfig F64} {saved : Option (PersistedGroupsState F64)} {P : CopyGroup F64 → Prop}
    (each : ∀ group ∈ loadedGroups config saved, P group) : (loadOrDefault config saved).All P := by
  have folded : ∀ empty : GroupManager F64, empty.groups = DashMap.empty →
      ((loadedGroups config saved).foldl insertGroup empty).All P := by
    intro empty starts
    refine foldl_insertGroup_all ?_ each
    intro id group stored
    rw [getGroup, starts] at stored
    cases stored
  unfold loadOrDefault
  dsimp only
  split
  · exact folded _ rfl
  · exact folded _ rfl

theorem readable_sound {config : AppConfig F64} (range : config.InRange) {file : Option Json} {group : CopyGroup F64}
    (member : group ∈ readableGroups config (file.bind PersistedGroupsState.ofJson)) : group.InRange ∧ group.Finite := by
  have tip : config.zeroSlotTipLamports < 2 ^ 64 := range _ (by simp [AppConfig.counts])
  cases file with
  | none => cases member
  | some json =>
    cases json with
    | obj fields =>
      cases read : PersistedGroupsState.ofJson (.obj fields) with
      | none =>
        rw [Option.bind_some, read] at member
        cases member
      | some saved =>
        rw [Option.bind_some, read] at member
        obtain ⟨p, listed, made⟩ := List.mem_filterMap.mp member
        obtain ⟨groups, parsed, read⟩ := Option.bind_eq_some_iff.mp read
        obtain ⟨selected, -, read⟩ := Option.bind_eq_some_iff.mp read
        obtain ⟨blocklist, -, read⟩ := Option.bind_eq_some_iff.mp read
        obtain ⟨zeroSlot, -, read⟩ := Option.bind_eq_some_iff.mp read
        obtain rfl := Option.some.inj read
        obtain ⟨json, items⟩ := Json.given_required parsed
        obtain ⟨json, item⟩ := Json.mem_asArr items listed
        exact PersistedGroup.ofJson_sound item made tip
    | _ => cases member

theorem load_inRange {config : AppConfig F64} (range : config.InRange) (file : Option Json) :
    (load config file).All CopyGroup.InRange := by
  apply loadOrDefault_all
  intro group member
  unfold loadedGroups at member
  dsimp only at member
  split at member
  · obtain rfl := List.mem_singleton.mp member
    apply CopyGroup.fromAppConfig_inRange range
    exact range _ (by simp [AppConfig.counts])
  · exact (readable_sound range member).1

theorem load_finite_iff {config : AppConfig F64} (range : config.InRange) (file : Option Json) :
    (load config file).All CopyGroup.Finite ↔ LoadsFinite config file := by
  constructor
  · intro all none
    have only : (load config file).All fun group => group = CopyGroup.fromAppConfig config := by
      apply loadOrDefault_all
      intro group member
      unfold loadedGroups at member
      dsimp only at member
      rw [none, if_pos rfl] at member
      exact List.mem_singleton.mp member
    obtain ⟨id, group, -, stored⟩ := (wellFormed_of_selected (loadOrDefault_selected config _)).selected
    obtain rfl := only id group stored
    exact CopyGroup.fromAppConfig_finite.mp (all id _ stored)
  · intro finite
    apply loadOrDefault_all
    intro group member
    unfold loadedGroups at member
    dsimp only at member
    split at member
    · rename_i none
      obtain rfl := List.mem_singleton.mp member
      exact CopyGroup.fromAppConfig_finite.mpr (finite none)
    · exact (readable_sound range member).2

/-! ### Runs -/

/-- What every reachable store satisfies. -/
structure Sound (manager : GroupManager F64) : Prop where
  selected : manager.selectedGroup.isSome = true
  inRange : manager.All CopyGroup.InRange

section

variable {bot : TgBot} {manager : GroupManager F64}

theorem load_sound {config : AppConfig F64} (range : config.InRange) (file : Option Json) : Sound (load config file) :=
  ⟨loadOrDefault_selected config _, load_inRange range file⟩

theorem Sound.roundTrips_iff_decimals (sound : Sound manager) (config : AppConfig F64) :
    manager.RoundTrips config ↔ manager.All CopyGroup.Finite :=
  GroupManager.roundTrips_iff_decimals config sound.selected sound.inRange

theorem handleUpdate_effect (update : Update) (sound : Sound manager) :
    Effect bot manager (bot.handleUpdate manager update).1 ((bot.command update).StoresFinite bot manager) :=
  run_effect _ (wellFormed_of_selected sound.selected)

theorem Sound.handleUpdate (range : bot.config.InRange) (update : Update) (sound : Sound manager) :
    Sound (bot.handleUpdate manager update).1 := by
  constructor
  case selected => exact run_selected _ sound.selected
  case inRange => exact (handleUpdate_effect update sound).inRange range sound.inRange

theorem after_sound (range : bot.config.InRange) (sound : Sound manager) (h : List Update) :
    Sound (bot.handleUpdate.after manager h) :=
  Machine.invariant (P := Sound) bot.handleUpdate (fun _ update _ before => before.handleUpdate range update) sound

end

/-- After every update the file of the store can be loaded back, exactly when no decimal that is not
finite is ever put into the store: by the settings at the start or with a new group, or by `/set` and
the menu. -/
theorem roundTrips_iff_finite (bot : TgBot) (range : bot.config.InRange) (file : Option Json) (updates : List Update) :
    (∀ h, h <+: updates → (bot.handleUpdate.after (load bot.config file) h).RoundTrips bot.config) ↔
      LoadsFinite bot.config file ∧ ∀ h update, h ++ [update] <+: updates →
        (bot.command update).StoresFinite bot (bot.handleUpdate.after (load bot.config file) h) := by
  have sound := load_sound range file
  have same : (∀ h, h <+: updates → (bot.handleUpdate.after (load bot.config file) h).RoundTrips bot.config) ↔
      ∀ h, h <+: updates → (bot.handleUpdate.after (load bot.config file) h).All CopyGroup.Finite :=
    forall₂_congr fun h _ => (after_sound range sound h).roundTrips_iff_decimals bot.config
  rw [same, ← load_finite_iff range file]
  by_cases finite : (load bot.config file).All CopyGroup.Finite
  · have always := Machine.always_iff bot.handleUpdate
      (P := fun manager => Sound manager ∧ manager.All CopyGroup.Finite)
      (fun manager update before => (and_iff_right (before.1.handleUpdate range update)).trans
        ((handleUpdate_effect update before.1).finite_iff before.2)) ⟨sound, finite⟩ updates
    rw [and_iff_right finite, ← always]
    exact forall₂_congr fun h _ => (and_iff_right (after_sound range sound h)).symm
  · constructor
    · intro all
      exact absurd (all [] (List.nil_prefix ..)) finite
    · rintro ⟨fine, -⟩
      exact absurd fine finite

def sampleBot : TgBot where
  config := sampleConfig
  chatId := "5"

theorem sampleBot_inRange : sampleBot.config.InRange := by
  unfold AppConfig.InRange
  decide

theorem roundTrips_iff_finite_sample :
    (sampleBot.handleUpdate.after (load sampleBot.config none) [.message 5 "/set tp 20%"]).RoundTrips
      sampleBot.config := by
  refine (roundTrips_iff_finite sampleBot sampleBot_inRange none [.message 5 "/set tp 20%"]).mpr ⟨?_, ?_⟩ _
    List.prefix_rfl
  · intro _ x member
    exact List.all_eq_true.mp (by decide +kernel : sampleBot.config.decimals.all F64.isFinite = true) x member
  · intro h update before
    obtain ⟨rfl, rfl⟩ : h = [] ∧ update = .message 5 "/set tp 20%" := by
      cases h with
      | nil => exact ⟨rfl, (List.cons_prefix_cons.mp before).1⟩
      | cons first rest =>
        have short := before.length_le
        simp at short
    have command : sampleBot.command (.message 5 "/set tp 20%") = .set ["tp", "20%"] := by decide +kernel
    rw [command]
    rintro key value given
    obtain ⟨rfl, rfl⟩ : key = "tp" ∧ value = "20%" := by
      have args : settingArgs ["tp", "20%"] = some ("tp", "20%") := by decide +kernel
      exact Prod.mk.inj (Option.some.inj (given.symm.trans args))
    have read : F64.parse (settingText "20%") = .ok (.finite 20) := by decide +kernel
    rw [givesNonFinite_iff rfl read]
    decide

/-- A value that is no number is accepted, and no group survives a restart. -/
theorem nan_not_restored : ¬ ∀ (bot : TgBot), bot.config.InRange → ∀ file updates,
    ∀ h, h <+: updates → (bot.handleUpdate.after (load bot.config file) h).RoundTrips bot.config := by
  intro claim
  have restored := claim sampleBot sampleBot_inRange none [.message 5 "/set buy nan"] _ List.prefix_rfl
  have sound := after_sound sampleBot_inRange (load_sound sampleBot_inRange none) [.message 5 "/set buy nan"]
  have stored : (sampleBot.handleUpdate.after (load sampleBot.config none) [.message 5 "/set buy nan"]).getGroup "g1" =
      some { CopyGroup.fromAppConfig sampleBot.config with buySolAmount := .nan } := by
    decide +kernel
  have finite := (sound.roundTrips_iff_decimals _).mp restored "g1" _ stored .nan (by simp [CopyGroup.decimals])
  cases finite

end Telegram

end CopyTrader
