import CopyTrader.Groups.Manager

/-!
# The group store stays well-formed
-/

namespace CopyTrader
open Lib

inductive GroupOp (F : Type) where
  | setSelectedGroup (groupId : String)
  | replaceGroup (group : CopyGroup F)
  | addGroup (name : String) (base : AppConfig F)
  | deleteGroup (groupId : String)
  | setGroupEnabled (groupId : String) (enabled : Bool)
  | addWallet (groupId : String) (wallet : Pubkey)
  | renameGroup (groupId name : String)
  | removeWallet (groupId : String) (wallet : Pubkey)

namespace GroupManager

variable {F : Type}

def perform [OfScientific F] : Machine (GroupManager F) (GroupOp F) (Except String Unit) := fun manager op =>
  match op with
  | .setSelectedGroup groupId => manager.setSelectedGroup groupId
  | .replaceGroup group => (manager.replaceGroup group, .ok ())
  | .addGroup name base => ((manager.addGroup name base).1, .ok ())
  | .deleteGroup groupId => manager.deleteGroup groupId
  | .setGroupEnabled groupId enabled => manager.setGroupEnabled groupId enabled
  | .addWallet groupId wallet => manager.addWallet groupId wallet
  | .renameGroup groupId name => manager.renameGroup groupId name
  | .removeWallet groupId wallet => manager.removeWallet groupId wallet

structure WellFormed (manager : GroupManager F) : Prop where
  nonempty : manager.groups.entries ≠ []
  keyed : ∀ id group, manager.getGroup id = some group → group.id = id
  selected : ∃ id group, manager.selectedGroupId = some id ∧ manager.getGroup id = some group

/-- The group is one more entry, under an id that was free; the other groups are as before. -/
structure AddsOne (manager after : GroupManager F) (group : CopyGroup F) : Prop where
  fresh : manager.getGroup group.id = none
  added : after.getGroup group.id = some group
  others : ∀ id, id ≠ group.id → after.getGroup id = manager.getGroup id
  count : after.groups.entries.length = manager.groups.entries.length + 1

/-- The numbers in the ids leave room for the next one. -/
def SuffixesBelowMax (manager : GroupManager F) : Prop :=
  ∀ id group n, manager.getGroup id = some group → groupIndex id = some n → n < 2 ^ 64 - 1

/-! ### The selected group -/

theorem selectedGroup_isSome_iff {manager : GroupManager F} :
    manager.selectedGroup.isSome = true ↔
      ∃ id group, manager.selectedGroupId = some id ∧ manager.getGroup id = some group := by
  unfold selectedGroup
  rw [Option.isSome_iff_exists]
  constructor
  · rintro ⟨group, found⟩
    obtain ⟨id, selected, stored⟩ := Option.bind_eq_some_iff.mp found
    exact ⟨id, group, selected, stored⟩
  · rintro ⟨id, group, selected, stored⟩
    exact ⟨group, Option.bind_eq_some_iff.mpr ⟨id, selected, stored⟩⟩

/-- The store has a group as soon as the selected one exists. -/
theorem wellFormed_of_selected {manager : GroupManager F} (selected : manager.selectedGroup.isSome = true) :
    manager.WellFormed := by
  obtain ⟨id, group, chosen, stored⟩ := selectedGroup_isSome_iff.mp selected
  constructor
  case nonempty => exact List.ne_nil_of_mem (DashMap.mem_of_get stored)
  case keyed => exact keyed_iff.mp manager.keyed
  case selected => exact ⟨id, group, chosen, stored⟩

theorem getGroup_insertGroup (manager : GroupManager F) (group : CopyGroup F) (id : String) :
    (manager.insertGroup group).getGroup id = if id = group.id then some group else manager.getGroup id :=
  DashMap.get_insert ..

theorem getGroup_removeGroup (manager : GroupManager F) (groupId id : String) :
    (manager.removeGroup groupId).getGroup id = if id = groupId then none else manager.getGroup id :=
  DashMap.get_remove ..

theorem getGroup_modifyGroup (manager : GroupManager F) (groupId : String) (f : CopyGroup F → CopyGroup F)
    (sameId : ∀ group, (f group).id = group.id) (id : String) :
    (manager.modifyGroup groupId f sameId).getGroup id =
      if id = groupId then (manager.getGroup id).map f else manager.getGroup id :=
  DashMap.get_modify ..

/-- A write that drops no group keeps the selected one. -/
theorem selected_of_kept {manager after : GroupManager F} (selected : manager.selectedGroup.isSome = true)
    (chosen : after.selectedGroupId = manager.selectedGroupId)
    (kept : ∀ id, (manager.getGroup id).isSome = true → (after.getGroup id).isSome = true) :
    after.selectedGroup.isSome = true := by
  obtain ⟨id, group, choice, stored⟩ := selectedGroup_isSome_iff.mp selected
  obtain ⟨group', stored'⟩ := Option.isSome_iff_exists.mp (kept id (by rw [stored]; rfl))
  exact selectedGroup_isSome_iff.mpr ⟨id, group', chosen.trans choice, stored'⟩

theorem insertGroup_kept (manager : GroupManager F) (group : CopyGroup F) (id : String)
    (stored : (manager.getGroup id).isSome = true) : ((manager.insertGroup group).getGroup id).isSome = true := by
  rw [getGroup_insertGroup]
  split
  · rfl
  · exact stored

theorem modifyGroup_selected {manager : GroupManager F} (selected : manager.selectedGroup.isSome = true)
    (groupId : String) (f : CopyGroup F → CopyGroup F) (sameId : ∀ group, (f group).id = group.id) :
    (manager.modifyGroup groupId f sameId).selectedGroup.isSome = true := by
  refine selected_of_kept selected ?_ ?_
  · rfl
  · intro id stored
    rw [getGroup_modifyGroup]
    split
    · rwa [Option.isSome_map]
    · exact stored

/-- The first group by id is one of the store. -/
theorem first_selected {manager : GroupManager F} {id : String} (stored : (manager.getGroup id).isSome = true) :
    ({ manager with selectedGroupId := manager.allGroups.head?.map (·.id) } :
      GroupManager F).selectedGroup.isSome = true := by
  obtain ⟨group, read⟩ := Option.isSome_iff_exists.mp stored
  have listed : group ∈ manager.allGroups :=
    mem_allGroups.mpr (manager.keyed (id, group) (DashMap.mem_of_get read) ▸ read)
  obtain ⟨first, rest, sorted⟩ := List.exists_cons_of_ne_nil (List.ne_nil_of_mem listed)
  have member : first ∈ manager.allGroups := sorted ▸ List.mem_cons_self ..
  apply selectedGroup_isSome_iff.mpr
  refine ⟨first.id, first, ?_, mem_allGroups.mp member⟩
  rw [sorted]
  rfl

/-! ### Every operation keeps it -/

theorem deleteGroup_selected {manager : GroupManager F} (selected : manager.selectedGroup.isSome = true)
    (groupId : String) : (manager.deleteGroup groupId).1.selectedGroup.isSome = true := by
  unfold deleteGroup
  split
  · exact selected
  · rename_i several
    split
    · exact selected
    · dsimp only
      have other : ∃ id, id ≠ groupId ∧ (manager.getGroup id).isSome = true := by
        by_contra none
        have only : manager.groups.entries.map Prod.fst ⊆ [groupId] := by
          intro id member
          obtain ⟨entry, stored, rfl⟩ := List.mem_map.mp member
          rw [List.mem_singleton]
          by_contra differs
          exact none ⟨entry.1, differs, by rw [getGroup, DashMap.get_of_mem stored]; rfl⟩
        have short := (manager.groups.distinct.subperm only).length_le
        rw [List.length_map] at short
        exact several short
      obtain ⟨id, differs, stored⟩ := other
      have remains : ((manager.removeGroup groupId).getGroup id).isSome = true := by
        rwa [getGroup_removeGroup, if_neg differs]
      split
      · exact first_selected remains
      · rename_i elsewhere
        obtain ⟨choice, group, chosen, read⟩ := selectedGroup_isSome_iff.mp selected
        apply selectedGroup_isSome_iff.mpr
        refine ⟨choice, group, chosen, ?_⟩
        rwa [getGroup_removeGroup, if_neg (fun same => elsewhere (chosen.trans (congrArg some same)))]

/-- What the operations that edit a group in place do to it. -/
def GroupOp.edit : GroupOp F → Option (CopyGroup F → CopyGroup F)
  | .setGroupEnabled _ enabled => some fun entry => { entry with enabled := enabled }
  | .addWallet _ wallet => some fun entry =>
    { entry with wallets := if entry.wallets.contains wallet then entry.wallets else entry.wallets ++ [wallet] }
  | .renameGroup _ name => some fun entry => { entry with name := Text.trim name }
  | .removeWallet _ wallet => some fun entry => { entry with wallets := entry.wallets.erase wallet }
  | _ => none

theorem edit_id {op : GroupOp F} {f : CopyGroup F → CopyGroup F} (edits : GroupOp.edit op = some f)
    (group : CopyGroup F) : (f group).id = group.id := by
  cases op <;> cases edits <;> rfl

theorem perform_edit [OfScientific F] (manager : GroupManager F) {op : GroupOp F} {f : CopyGroup F → CopyGroup F}
    (edits : GroupOp.edit op = some f) : (perform manager op).1 = manager ∨
      ∃ groupId, (perform manager op).1 = manager.modifyGroup groupId f (edit_id edits) := by
  cases op with
  | setSelectedGroup | replaceGroup | addGroup | deleteGroup => cases edits
  | setGroupEnabled | addWallet | renameGroup | removeWallet =>
    cases edits
    simp only [perform, setGroupEnabled, addWallet, renameGroup, removeWallet]
    repeat' split
    all_goals first | exact Or.inl rfl | exact Or.inr ⟨_, rfl⟩

theorem perform_selected [OfScientific F] {manager : GroupManager F} (op : GroupOp F)
    (selected : manager.selectedGroup.isSome = true) : (perform manager op).1.selectedGroup.isSome = true := by
  cases edits : GroupOp.edit op with
  | some f =>
    rcases perform_edit manager edits with same | ⟨groupId, same⟩
    · rwa [same]
    · rw [same]
      exact modifyGroup_selected selected groupId f (edit_id edits)
  | none =>
    cases op with
    | setSelectedGroup groupId =>
      simp only [perform, setSelectedGroup]
      split
      · exact selected
      · rename_i present
        have contained : manager.groups.contains groupId = true := by simpa using present
        obtain ⟨group, stored⟩ := Option.isSome_iff_exists.mp contained
        exact selectedGroup_isSome_iff.mpr ⟨groupId, group, rfl, stored⟩
    | replaceGroup group => exact selected_of_kept selected rfl (insertGroup_kept manager group)
    | addGroup name base =>
      apply selectedGroup_isSome_iff.mpr
      refine ⟨manager.nextGroupId, (manager.addGroup name base).2, rfl, ?_⟩
      exact (getGroup_insertGroup manager _ _).trans (if_pos rfl)
    | deleteGroup groupId => exact deleteGroup_selected selected groupId
    | setGroupEnabled | addWallet | renameGroup | removeWallet => cases edits

theorem loadedGroups_ne_nil [OfScientific F] (config : AppConfig F) (saved : Option (PersistedGroupsState F)) :
    loadedGroups config saved ≠ [] := by
  unfold loadedGroups
  dsimp only
  split
  · exact List.cons_ne_nil _ _
  · assumption

theorem loadOrDefault_selected [OfScientific F] (config : AppConfig F) (saved : Option (PersistedGroupsState F)) :
    (loadOrDefault config saved).selectedGroup.isSome = true := by
  have filled : ∀ (groups : List (CopyGroup F)) (manager : GroupManager F),
      groups ≠ [] ∨ (∃ id, (manager.getGroup id).isSome = true) →
      ∃ id, ((groups.foldl insertGroup manager).getGroup id).isSome = true := by
    intro groups
    induction groups with
    | nil =>
      rintro manager (absurdity | stored)
      · exact absurd rfl absurdity
      · exact stored
    | cons group groups ih =>
      intro manager _
      apply ih
      exact Or.inr ⟨group.id, by rw [getGroup_insertGroup, if_pos rfl]; rfl⟩
  unfold loadOrDefault
  dsimp only
  split
  · obtain ⟨id, stored⟩ := filled _ _ (Or.inl (loadedGroups_ne_nil config saved))
    exact first_selected stored
  · rename_i found
    exact Option.isSome_iff_ne_none.mpr (by simpa using found)

/-- An operation that fails changes nothing. -/
theorem perform_error [OfScientific F] {manager : GroupManager F} {op : GroupOp F} {error : String}
    (failed : (perform manager op).2 = .error error) : (perform manager op).1 = manager := by
  cases op with
  | replaceGroup group => cases failed
  | addGroup name base => cases failed
  | setSelectedGroup | deleteGroup | setGroupEnabled | addWallet | renameGroup | removeWallet =>
    revert failed
    simp only [perform, setSelectedGroup, deleteGroup, setGroupEnabled, addWallet, renameGroup, removeWallet]
    repeat' split
    all_goals first | exact fun _ => rfl | nofun

/-! ### A new group -/

theorem groupIndex_numbered {n : ℕ} (fits : n < 2 ^ 64) : groupIndex ("g" ++ toString n) = some n := by
  unfold groupIndex
  rw [String.toList_append]
  show (Text.parseUnsigned 64 (String.ofList (toString n).toList)).toOption = some n
  rw [String.ofList_toList, Text.parseUnsigned_toString fits]
  rfl

/-- The next id carries a number above all the others. -/
theorem nextGroupId_fresh {manager : GroupManager F} (below : manager.SuffixesBelowMax) :
    manager.getGroup manager.nextGroupId = none := by
  by_contra taken
  obtain ⟨group, stored⟩ := Option.ne_none_iff_exists'.mp taken
  have member : manager.nextGroupId ∈ manager.groups.keys :=
    List.mem_map.mpr ⟨_, DashMap.mem_of_get stored, rfl⟩
  generalize numbers : manager.groups.keys.filterMap groupIndex = indices at *
  have largest : indices.max?.getD 0 < 2 ^ 64 - 1 := by
    cases most : indices.max? with
    | none => exact Nat.lt_sub_of_add_lt (by decide)
    | some n =>
      have among : n ∈ manager.groups.keys.filterMap groupIndex := numbers ▸ List.max?_mem most
      obtain ⟨id, key, index⟩ := List.mem_filterMap.mp among
      obtain ⟨⟨id, group⟩, entry, rfl⟩ := List.mem_map.mp key
      exact below id group n (DashMap.get_of_mem entry) index
  have small : indices.max?.getD 0 + 1 < 2 ^ 64 := by omega
  have next : manager.nextGroupId = "g" ++ toString (indices.max?.getD 0 + 1) := by
    rw [nextGroupId, numbers, Nat.mod_eq_of_lt small]
  have counted : indices.max?.getD 0 + 1 ∈ indices := by
    rw [← numbers]
    refine List.mem_filterMap.mpr ⟨_, member, ?_⟩
    rw [next, groupIndex_numbered small, numbers]
  have bound : indices.max?.getD 0 + 1 ≤ indices.max?.getD 0 := List.le_max?_getD_of_mem counted
  omega

theorem addGroup_addsOne [OfScientific F] {manager : GroupManager F} (name : String) (base : AppConfig F)
    (below : manager.SuffixesBelowMax) :
    AddsOne manager (manager.addGroup name base).1 (manager.addGroup name base).2 := by
  have fresh := nextGroupId_fresh below
  constructor
  case fresh => exact fresh
  case added => exact (getGroup_insertGroup manager _ _).trans (if_pos rfl)
  case others => exact fun id differs => (getGroup_insertGroup manager _ _).trans (if_neg differs)
  case count =>
    show (manager.groups.insert _ _).entries.length = _
    rw [DashMap.entries_insert fresh, List.length_append, List.length_singleton]

/-- Whatever was saved and whatever is done with the groups: the store is well-formed, an operation
that fails changes nothing, and a new group is one more entry under a free id. -/
theorem store_wellFormed [OfScientific F] (config : AppConfig F) (saved : Option (PersistedGroupsState F))
    (operations : List (GroupOp F)) :
    let manager := Machine.after perform (loadOrDefault config saved) operations
    manager.WellFormed ∧
      (∀ op error, (perform manager op).2 = .error error → (perform manager op).1 = manager) ∧
      (manager.SuffixesBelowMax →
        ∀ name base, AddsOne manager (manager.addGroup name base).1 (manager.addGroup name base).2) := by
  intro manager
  have selected : manager.selectedGroup.isSome = true :=
    Machine.invariant (P := fun manager => manager.selectedGroup.isSome = true) perform
      (fun _ op _ => perform_selected op) (loadOrDefault_selected config saved)
  exact ⟨wellFormed_of_selected selected, fun op error => perform_error,
    fun below name base => addGroup_addsOne name base below⟩

theorem store_wellFormed_sample :
    let manager : GroupManager ℚ :=
      Machine.after perform (loadOrDefault sampleConfig none) [.deleteGroup "g1", .addGroup "b" sampleConfig]
    AddsOne manager (manager.addGroup "c" sampleConfig).1 (manager.addGroup "c" sampleConfig).2 := by
  refine (store_wellFormed sampleConfig none [.deleteGroup "g1", .addGroup "b" sampleConfig]).2.2 ?_ "c" sampleConfig
  have below : ∀ key ∈ (Machine.after perform (loadOrDefault sampleConfig none)
      [.deleteGroup "g1", .addGroup "b" sampleConfig] : GroupManager ℚ).groups.keys,
      (groupIndex key).all (· < 2 ^ 64 - 1) = true := by
    decide +kernel
  intro id group n stored index
  have small := below id (List.mem_map.mpr ⟨_, DashMap.mem_of_get stored, rfl⟩)
  rw [index] at small
  exact of_decide_eq_true small

end GroupManager

end CopyTrader
