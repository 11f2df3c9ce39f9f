import CopyTrader.Groups.Persisted
import CopyTrader.Lib.Machine
import CopyTrader.Lib.Text
import Mathlib.Data.List.Dedup

/-!
# The group store

Loading, the operations on groups and what they keep: the store is not empty, every group stands
under its own id, and the selected group exists.
-/

namespace CopyTrader.GroupManager
open Lib

variable {F : Type}

theorem keyed_iff {groups : DashMap String (CopyGroup F)} :
    (∀ entry ∈ groups.entries, entry.2.id = entry.1) ↔ ∀ id group, groups.get id = some group → group.id = id := by
  constructor
  · intro keyed id group stored
    exact keyed (id, group) (DashMap.mem_of_get stored)
  · rintro keyed ⟨id, group⟩ member
    exact keyed id group (DashMap.get_of_mem member)

/-- `groups.insert(group.id.clone(), group)`. -/
def insertGroup (manager : GroupManager F) (group : CopyGroup F) : GroupManager F :=
  { manager with
    groups := manager.groups.insert group.id group
    keyed := by
      apply keyed_iff.mpr
      intro id group' stored
      rw [DashMap.get_insert] at stored
      split at stored
      · rename_i same
        rw [← Option.some.inj stored, same]
      · exact keyed_iff.mp manager.keyed id group' stored }

def removeGroup (manager : GroupManager F) (groupId : String) : GroupManager F :=
  { manager with
    groups := manager.groups.remove groupId
    keyed := by
      apply keyed_iff.mpr
      intro id group stored
      rw [DashMap.get_remove] at stored
      split at stored
      · cases stored
      · exact keyed_iff.mp manager.keyed id group stored }

/-- A write through `groups.get_mut`. -/
def modifyGroup (manager : GroupManager F) (groupId : String) (f : CopyGroup F → CopyGroup F)
    (sameId : ∀ group, (f group).id = group.id) : GroupManager F :=
  { manager with
    groups := manager.groups.modify groupId f
    keyed := by
      apply keyed_iff.mpr
      intro id group stored
      rw [DashMap.get_modify] at stored
      split at stored
      · obtain ⟨old, read, rfl⟩ := Option.map_eq_some_iff.mp stored
        rw [sameId]
        exact keyed_iff.mp manager.keyed id old read
      · exact keyed_iff.mp manager.keyed id group stored }

def selectedGroup (manager : GroupManager F) : Option (CopyGroup F) :=
  manager.selectedGroupId.bind manager.getGroup

def setSelectedGroup (manager : GroupManager F) (groupId : String) : GroupManager F × Except String Unit :=
  if !manager.groups.contains groupId then (manager, .error ("group not found: " ++ groupId))
  else ({ manager with selectedGroupId := some groupId }, .ok ())

def replaceGroup (manager : GroupManager F) (group : CopyGroup F) : GroupManager F := manager.insertGroup group

/-- The number in an id of the form `g12`. -/
def groupIndex (id : String) : Option ℕ :=
  match id.toList with
  | 'g' :: digits => (Text.parseUnsigned 64 (String.ofList digits)).toOption
  | _ => none

def nextGroupId (manager : GroupManager F) : String :=
  let maxIndex := (manager.groups.keys.filterMap groupIndex).max?.getD 0
  "g" ++ toString ((maxIndex + 1) % 2 ^ 64)

def addGroup [OfScientific F] (manager : GroupManager F) (name : String) (base : AppConfig F) :
    GroupManager F × CopyGroup F :=
  let nextId := manager.nextGroupId
  let group := { CopyGroup.fromAppConfig base with id := nextId, name := name, wallets := [], consensusMinWallets := 1 }
  ({ manager.insertGroup group with selectedGroupId := some nextId }, group)

def deleteGroup (manager : GroupManager F) (groupId : String) : GroupManager F × Except String Unit :=
  if manager.groups.entries.length ≤ 1 then (manager, .error "at least one group must remain")
  else if !manager.groups.contains groupId then (manager, .error ("group not found: " ++ groupId))
  else
    let manager := manager.removeGroup groupId
    if manager.selectedGroupId = some groupId then
      ({ manager with selectedGroupId := manager.allGroups.head?.map (·.id) }, .ok ())
    else (manager, .ok ())

def setGroupEnabled (manager : GroupManager F) (groupId : String) (enabled : Bool) :
    GroupManager F × Except String Unit :=
  if !manager.groups.contains groupId then (manager, .error ("group not found: " ++ groupId))
  else (manager.modifyGroup groupId (fun entry => { entry with enabled := enabled }) fun _ => rfl, .ok ())

def addWallet (manager : GroupManager F) (groupId : String) (wallet : Pubkey) :
    GroupManager F × Except String Unit :=
  if !manager.groups.contains groupId then (manager, .error ("group not found: " ++ groupId))
  else
    (manager.modifyGroup groupId (fun entry =>
      { entry with wallets := if entry.wallets.contains wallet then entry.wallets else entry.wallets ++ [wallet] })
      fun _ => rfl, .ok ())

def renameGroup (manager : GroupManager F) (groupId name : String) : GroupManager F × Except String Unit :=
  let trimmed := Text.trim name
  if trimmed = "" then (manager, .error "group name cannot be empty")
  else if !manager.groups.contains groupId then (manager, .error ("group not found: " ++ groupId))
  else (manager.modifyGroup groupId (fun entry => { entry with name := trimmed }) fun _ => rfl, .ok ())

def removeWallet (manager : GroupManager F) (groupId : String) (wallet : Pubkey) :
    GroupManager F × Except String Unit :=
  match manager.getGroup groupId with
  | none => (manager, .error ("group not found: " ++ groupId))
  | some entry =>
    if entry.wallets.contains wallet then
      (manager.modifyGroup groupId (fun entry => { entry with wallets := entry.wallets.erase wallet }) fun _ => rfl,
        .ok ())
    else (manager, .error "wallet not found in group")

def readableGroups (config : AppConfig F) (saved : Option (PersistedGroupsState F)) : List (CopyGroup F) :=
  saved.elim [] fun saved => saved.groups.filterMap (·.intoGroup config)

/-- The groups that can be read, or one made of the settings when there are none. -/
def loadedGroups [OfScientific F] (config : AppConfig F) (saved : Option (PersistedGroupsState F)) :
    List (CopyGroup F) :=
  let groups := readableGroups config saved
  if groups = [] then [CopyGroup.fromAppConfig config] else groups

/-- `saved` is none for a file that is missing or does not parse. -/
def loadOrDefault [OfScientific F] (config : AppConfig F) (saved : Option (PersistedGroupsState F)) : GroupManager F :=
  let empty : GroupManager F :=
    { groups := DashMap.empty
      keyed := nofun
      selectedGroupId := saved.bind (·.selectedGroupId)
      blocklist := ((saved.elim [] (·.blocklist)).filterMap Pubkey.fromStr).dedup
      zeroSlotBuyEnabled := saved.elim false (·.zeroSlotBuyEnabled) }
  let manager := (loadedGroups config saved).foldl insertGroup empty
  if manager.selectedGroup.isNone then { manager with selectedGroupId := manager.allGroups.head?.map (·.id) }
  else manager

end CopyTrader.GroupManager
