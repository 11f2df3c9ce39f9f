import CopyTrader.Groups.WellFormed

/-!
# Removing a wallet

A removal takes one occurrence of the wallet out of the list of its group. Adding a wallet never
repeats one, but the wallets of the settings, of the saved file and of a group that is replaced are
taken as they are.
-/

namespace CopyTrader.GroupManager
open Lib

/-- The group is not copied from the wallet after the removal, and its other wallets are still there. -/
structure RemovalStops (manager : GroupManager) (groupId : String) (wallet : Pubkey) : Prop where
  stopped : ∀ group ∈ (manager.removeWallet groupId wallet).1.groupsForWallet wallet, group.id ≠ groupId
  others : ∀ group, manager.getGroup groupId = some group →
    ∃ group', (manager.removeWallet groupId wallet).1.getGroup groupId = some group' ∧
      ∀ other ∈ group.wallets, other ≠ wallet → other ∈ group'.wallets

/-! ### One removal -/

section
variable {manager : GroupManager} {groupId : String} {wallet : Pubkey} {group : CopyGroup}

theorem mem_groupsForWallet : group ∈ manager.groupsForWallet wallet ↔
    manager.getGroup group.id = some group ∧ group.enabled = true ∧ wallet ∈ group.wallets := by
  constructor
  · intro member
    refine ⟨getGroup_of_mem manager member, ?_⟩
    simpa using (List.mem_filter.mp member).2
  · rintro ⟨stored, enabled, among⟩
    refine List.mem_filter.mpr ⟨mem_allGroups.mpr stored, ?_⟩
    simp [enabled, among]

theorem removeWallet_ok (ok : (manager.removeWallet groupId wallet).2 = .ok ()) :
    ∃ group, manager.getGroup groupId = some group ∧ wallet ∈ group.wallets ∧
      (manager.removeWallet groupId wallet).1.getGroup groupId =
        some { group with wallets := group.wallets.erase wallet } := by
  cases stored : manager.getGroup groupId with
  | none =>
    simp only [removeWallet, stored] at ok
    cases ok
  | some group =>
    by_cases among : group.wallets.contains wallet = true
    · refine ⟨group, rfl, by simpa using among, ?_⟩
      simp only [removeWallet, stored, if_pos among]
      rw [getGroup_modifyGroup, if_pos rfl, stored]
      rfl
    · simp only [removeWallet, stored, if_neg among] at ok
      cases ok

theorem mem_erase_self_iff {wallets : List Pubkey} : wallet ∈ wallets.erase wallet ↔ 1 < wallets.count wallet := by
  rw [← List.count_pos_iff, List.count_erase_self]
  omega

theorem removalStops_iff (stored : manager.getGroup groupId = some group)
    (ok : (manager.removeWallet groupId wallet).2 = .ok ()) :
    manager.RemovalStops groupId wallet ↔ group.enabled = false ∨ group.wallets.count wallet = 1 := by
  obtain ⟨read, same, among, after⟩ := removeWallet_ok ok
  obtain rfl : group = read := Option.some.inj (stored.symm.trans same)
  have own : group.id = groupId := keyed_iff.mp manager.keyed groupId group stored
  have listed : 0 < group.wallets.count wallet := List.count_pos_iff.mpr among
  constructor
  · intro stops
    by_contra still
    obtain ⟨enabled, repeated⟩ := not_or.mp still
    refine stops.stopped { group with wallets := group.wallets.erase wallet } ?_ own
    refine mem_groupsForWallet.mpr ⟨?_, by simpa using enabled, mem_erase_self_iff.mpr (by omega)⟩
    exact (congrArg _ own).trans after
  · intro once
    constructor
    case stopped =>
      intro later member own'
      obtain ⟨stored', enabled, kept⟩ := mem_groupsForWallet.mp member
      rw [own', after] at stored'
      obtain rfl := Option.some.inj stored'
      rcases once with disabled | once
      · exact absurd enabled (by simp [disabled])
      · have twice : 1 < group.wallets.count wallet := mem_erase_self_iff.mp kept
        omega
    case others =>
      intro before stored'
      obtain rfl : group = before := Option.some.inj (stored.symm.trans stored')
      exact ⟨_, after, fun other member differs => (List.mem_erase_of_ne differs).mpr member⟩

end

/-! ### Lists without repeats -/

section
variable {F : Type}

def NoRepeats (manager : GroupManager F) : Prop :=
  ∀ id group, manager.getGroup id = some group → group.wallets.Nodup

variable {manager : GroupManager F}

theorem noRepeats_insertGroup (clean : manager.NoRepeats) {group : CopyGroup F} (nodup : group.wallets.Nodup) :
    (manager.insertGroup group).NoRepeats := by
  intro id group' stored
  rw [getGroup_insertGroup] at stored
  split at stored
  · rwa [← Option.some.inj stored]
  · exact clean id group' stored

theorem noRepeats_removeGroup (clean : manager.NoRepeats) (groupId : String) :
    (manager.removeGroup groupId).NoRepeats := by
  intro id group stored
  rw [getGroup_removeGroup] at stored
  split at stored
  · cases stored
  · exact clean id group stored

theorem noRepeats_modifyGroup (clean : manager.NoRepeats) {groupId : String} {f : CopyGroup F → CopyGroup F}
    (sameId : ∀ group, (f group).id = group.id) (keeps : ∀ group, group.wallets.Nodup → (f group).wallets.Nodup) :
    (manager.modifyGroup groupId f sameId).NoRepeats := by
  intro id group stored
  rw [getGroup_modifyGroup] at stored
  split at stored
  · obtain ⟨before, read, rfl⟩ := Option.map_eq_some_iff.mp stored
    exact keeps before (clean id before read)
  · exact clean id group stored

/-- A group that takes the place of another has no wallet twice. -/
def CleanOp : GroupOp F → Prop
  | .replaceGroup group => group.wallets.Nodup
  | _ => True

theorem edit_nodup {op : GroupOp F} {f : CopyGroup F → CopyGroup F} (edits : GroupOp.edit op = some f)
    {group : CopyGroup F} (nodup : group.wallets.Nodup) : (f group).wallets.Nodup := by
  cases op with
  | setSelectedGroup | replaceGroup | addGroup | deleteGroup => cases edits
  | setGroupEnabled | renameGroup =>
    cases edits
    exact nodup
  | addWallet groupId wallet =>
    cases edits
    dsimp only
    split
    · exact nodup
    · rename_i absent
      have new : wallet ∉ group.wallets := by simpa using absent
      rw [← List.concat_eq_append]
      exact nodup.concat new
  | removeWallet groupId wallet =>
    cases edits
    exact nodup.erase wallet

theorem perform_noRepeats [OfScientific F] {op : GroupOp F} (clean : manager.NoRepeats) (cleanOp : CleanOp op) :
    (perform manager op).1.NoRepeats := by
  cases edits : GroupOp.edit op with
  | some f =>
    rcases perform_edit manager edits with same | ⟨groupId, same⟩
    · rwa [same]
    · rw [same]
      exact noRepeats_modifyGroup clean (edit_id edits) fun group nodup => edit_nodup edits nodup
  | none =>
    cases op with
    | replaceGroup group => exact noRepeats_insertGroup clean cleanOp
    | addGroup name base => exact noRepeats_insertGroup clean List.nodup_nil
    | setSelectedGroup groupId =>
      simp only [perform, setSelectedGroup]
      split <;> exact clean
    | deleteGroup groupId =>
      simp only [perform, deleteGroup]
      repeat' split
      case isTrue | isFalse.isTrue => exact clean
      all_goals exact noRepeats_removeGroup clean groupId
    | setGroupEnabled | addWallet | renameGroup | removeWallet => cases edits

theorem loadOrDefault_noRepeats [OfScientific F] {config : AppConfig F} {saved : Option (PersistedGroupsState F)}
    (clean : ∀ group ∈ loadedGroups config saved, group.wallets.Nodup) : (loadOrDefault config saved).NoRepeats := by
  have filled : ∀ (groups : List (CopyGroup F)) (manager : GroupManager F), manager.NoRepeats →
      (∀ group ∈ groups, group.wallets.Nodup) → (groups.foldl insertGroup manager).NoRepeats := by
    intro groups
    induction groups with
    | nil => exact fun manager before _ => before
    | cons group groups ih =>
      intro manager before nodup
      exact ih _ (noRepeats_insertGroup before (nodup group List.mem_cons_self))
        fun later member => nodup later (List.mem_cons_of_mem _ member)
  unfold loadOrDefault
  dsimp only
  split <;> exact filled _ _ (fun _ _ stored => by cases stored) clean

end

/-! ### Runs -/

/-- In every state that can be reached a removal stops the copying exactly if the group is disabled
or had the wallet once, and this is always so where nothing that fills a list repeats a wallet. -/
theorem removal_stops (config : AppConfig) (saved : Option (PersistedGroupsState ℚ)) (operations : List (GroupOp ℚ)) :
    let manager := Machine.after perform (loadOrDefault config saved) operations
    (∀ groupId wallet group, manager.getGroup groupId = some group →
      (manager.removeWallet groupId wallet).2 = .ok () →
      (manager.RemovalStops groupId wallet ↔ group.enabled = false ∨ group.wallets.count wallet = 1)) ∧
    ((∀ group ∈ loadedGroups config saved, group.wallets.Nodup) → (∀ op ∈ operations, CleanOp op) →
      ∀ groupId wallet, (manager.removeWallet groupId wallet).2 = .ok () → manager.RemovalStops groupId wallet) := by
  intro manager
  constructor
  · intro groupId wallet group stored ok
    exact removalStops_iff stored ok
  · intro cleanStart cleanOps groupId wallet ok
    have clean : manager.NoRepeats :=
      Machine.invariant (P := NoRepeats) perform
        (fun before op member nodup => perform_noRepeats nodup (cleanOps op member))
        (loadOrDefault_noRepeats cleanStart)
    obtain ⟨group, stored, among, -⟩ := removeWallet_ok ok
    have once : group.wallets.count wallet = 1 := List.count_eq_one_of_mem (clean groupId group stored) among
    exact (removalStops_iff stored ok).mpr (Or.inr once)

theorem removal_stops_sample :
    let manager := Machine.after perform (loadOrDefault sampleConfig none) [.addWallet "g1" 8, .addWallet "g1" 8]
    manager.RemovalStops "g1" 7 ∧ manager.RemovalStops "g1" 8 := by
  have stops := removal_stops sampleConfig none [.addWallet "g1" 8, .addWallet "g1" 8]
  have clean : ∀ group ∈ loadedGroups (sampleConfig : AppConfig) none, group.wallets.Nodup := by decide +kernel
  have cleanOps : ∀ op ∈ [GroupOp.addWallet "g1" 8, .addWallet "g1" 8], CleanOp (F := ℚ) op := by
    simp [CleanOp]
  exact ⟨stops.2 clean cleanOps "g1" 7 (by decide +kernel), stops.2 clean cleanOps "g1" 8 (by decide +kernel)⟩

/-- A wallet that the settings list twice is still copied after it was removed. -/
theorem repeated_wallet_stays :
    let manager := loadOrDefault { sampleConfig with targetWallets := [7, 7] } none
    (manager.removeWallet "g1" 7).2 = .ok () ∧ ¬ manager.RemovalStops "g1" 7 := by
  intro manager
  refine ⟨by decide +kernel, fun stops => ?_⟩
  have copied : ∃ group ∈ (manager.removeWallet "g1" 7).1.groupsForWallet 7, group.id = "g1" := by decide +kernel
  obtain ⟨group, member, own⟩ := copied
  exact stops.stopped group member own

end CopyTrader.GroupManager
