import CopyTrader.Tasks.Alphabet

/-!
# Removals

A task takes a mint out of the tables of the subscriber after it has counted the open positions and
found none of the mint. The count says nothing about positions that are stored after it.
-/

namespace CopyTrader.Grpc
open Lib AutoSell Tasks Tx Program

/-- The world in which a task has counted the open positions, and the mint that it has begun to take out
of the tables since. -/
structure Removal where
  counted : Option World
  mint : Option Pubkey

namespace Removal

def start : Removal := ⟨none, none⟩

def next (r : Removal) (e : Moment) : Removal :=
  match e.op with
  | .openPositionCountForMint _ | .openPositionMints => ⟨some e.world, none⟩
  | .subscriber (.bondingCurvesOf mint) => { r with mint := some mint }
  | _ => r

/-- The position was open when the task counted, and yet its mint is taken out. -/
def sawOpen (r : Removal) (key : PositionKey) : Bool :=
  match r with
  | ⟨some w, some mint⟩ => key.tokenMint = mint && (w.autoSell.getPosition key).any (·.state.isOpen)
  | _ => false

/-- No position of the mint was open at the count. -/
def Checked (r : Removal) (mint : Pubkey) : Prop :=
  ∃ w, r.counted = some w ∧ w.autoSell.openPositionCountForMint mint = 0

end Removal

/-- A mint is only taken out after a count that has found none of it. -/
def removalMonitor : Monitor World Op Ans Removal where
  trusts e := ∃ choice w', e.world.respond e.op choice = some (e.answer, w')
  allows r op := ∀ mint, op = .subscriber (.bondingCurvesOf mint) → r.Checked mint
  next := Removal.next

def removal (past : List Moment) : Removal := removalMonitor.after .start past

def countsOrRemoves : Op → Bool
  | .openPositionCountForMint _ | .openPositionMints | .subscriber (.bondingCurvesOf _) => true
  | _ => false

variable {op : Op} {r : Removal} {w : World} {mint : Pubkey}

theorem removal_allows (other : countsOrRemoves op = false) : removalMonitor.allows r op := by
  rintro mint rfl
  cases other

theorem removal_quiet (other : countsOrRemoves op = false) : removalMonitor.Quiet op := by
  refine ⟨fun r => removal_allows other, fun r w answer => ?_⟩
  cases op
  case openPositionCountForMint | openPositionMints => cases other
  case subscriber op => cases op <;> first | rfl | cases other
  all_goals rfl

theorem quiet_of_sale (op : Op) (sale : op.ofSale = true) : removalMonitor.Quiet op := by
  cases op <;> first | exact removal_quiet rfl | cases sale

/-! ### The count -/

theorem closed_of_unlisted {manager : AutoSellManager} (unlisted : mint ∉ manager.openPositionMints) :
    manager.openPositionCountForMint mint = 0 := by
  unfold AutoSellManager.openPositionCountForMint
  rw [List.countP_eq_zero]
  intro e member isOpen
  rw [Bool.and_eq_true, decide_eq_true_eq] at isOpen
  refine unlisted (List.mem_map.mpr ⟨e, ?_, isOpen.1⟩)
  exact List.mem_filter.mpr ⟨member, isOpen.2⟩

theorem closed_of_counted {manager : AutoSellManager} {key : PositionKey} {p : Position}
    (counted : manager.openPositionCountForMint key.tokenMint = 0) (stored : manager.getPosition key = some p) :
    p.state.isOpen = false := by
  unfold AutoSellManager.openPositionCountForMint at counted
  rw [List.countP_eq_zero] at counted
  have closed := counted _ (DashMap.mem_of_get stored)
  simpa using closed

/-- What is being taken out was checked. -/
def Removal.Sound (r : Removal) : Prop := ∀ mint, r.mint = some mint → r.Checked mint

theorem Removal.Sound.unseen (sound : r.Sound) (key : PositionKey) : r.sawOpen key = false := by
  obtain ⟨counted, removed⟩ := r
  cases removed with
  | none => cases counted <;> rfl
  | some mint =>
    obtain ⟨w, rfl, closed⟩ := sound mint rfl
    rw [sawOpen, Bool.and_eq_false_iff]
    by_cases same : key.tokenMint = mint
    · subst same
      refine Or.inr ?_
      cases stored : w.autoSell.getPosition key with
      | none => rfl
      | some p => exact closed_of_counted closed stored
    · exact Or.inl (decide_eq_false same)

/-! ### What the tasks check -/

theorem untrackMint_checked (checked : r.counted = some w) (closed : w.autoSell.openPositionCountForMint mint = 0) :
    wp removalMonitor (fun _ r' => r'.counted = some w) (untrackMint mint) r := by
  have drops (account : Pubkey) : Uses removalMonitor.Quiet (dropBondingCurve account) ∧
      Uses removalMonitor.Quiet (dropAta account) :=
    ⟨uses_bind (uses_call.mpr (removal_quiet rfl)) fun _ => uses_call.mpr (removal_quiet rfl),
      uses_bind (uses_call.mpr (removal_quiet rfl)) fun _ => uses_call.mpr (removal_quiet rfl)⟩
  refine wp_perform ?_ fun _ curves _ => ?_
  · rintro mint ⟨⟩
    exact ⟨w, checked, closed⟩
  · refine wp_quiet_bind (forEach_uses fun account => (drops account).1) fun _ => ?_
    refine wp_quiet_bind (uses_call.mpr (removal_quiet rfl)) fun atas => ?_
    refine wp_quiet_bind (forEach_uses fun account => (drops account).2) fun _ => ?_
    refine wp_quiet_bind (uses_call.mpr (removal_quiet rfl)) fun _ => ?_
    refine wp_quiet_bind (uses_call.mpr (removal_quiet rfl)) fun _ => ?_
    exact wp_quiet (uses_call.mpr (removal_quiet rfl)) fun _ => checked

theorem untrackAll_checked {mints : List Pubkey} (checked : r.counted = some w)
    (closed : ∀ mint ∈ mints, w.autoSell.openPositionCountForMint mint = 0) :
    wp removalMonitor (fun _ _ => True) (forEach untrackMint mints) r := by
  induction mints generalizing r with
  | nil => trivial
  | cons mint rest ih =>
    refine wp_seq (untrackMint_checked checked (closed mint (List.mem_cons_self ..))) fun _ r' checked' => ?_
    exact ih checked' fun mint' later => closed mint' (List.mem_cons_of_mem _ later)

theorem candidateCleanup_checked : wp removalMonitor (fun _ _ => True) candidateCleanup r := by
  refine wp_perform (fun _ same => (by cases same)) fun w activeMints counted => ?_
  obtain ⟨choice, w', reply⟩ := counted
  dsimp only [World.respond] at reply
  cases reply
  refine wp_perform (removal_allows rfl) fun w' staleMints listed => ?_
  obtain ⟨choice, w'', reply⟩ := listed
  dsimp only [World.respond] at reply
  cases reply
  refine untrackAll_checked rfl fun mint stale => closed_of_unlisted fun active => ?_
  obtain ⟨⟨mint', touched⟩, member, passes⟩ := List.mem_filterMap.mp stale
  dsimp only at passes
  split at passes
  · cases passes
  · rename_i spared
    cases passes
    exact spared (by rw [List.contains_iff_mem.mpr active, Bool.true_or])

theorem cleanupMintIfUnused_checked : wp removalMonitor (fun _ _ => True) (cleanupMintIfUnused mint) r := by
  refine wp_perform (fun _ same => (by cases same)) fun w openCount counted => wp_ite (fun none => ?_) fun _ => trivial
  obtain ⟨choice, w', reply⟩ := counted
  dsimp only [World.respond] at reply
  cases reply
  refine wp_quiet_bind (uses_call.mpr (removal_quiet rfl)) fun _ => ?_
  refine wp_seq (untrackMint_checked rfl none) fun _ _ _ => ?_
  exact wp_quiet (uses_call.mpr (removal_quiet rfl)) fun _ => trivial

section
variable {setup : Setup} {signal : SellSignal} {position : Position} {snapshot : Option SellAccountSnapshot}

theorem finishSold_checked {lastSig : Signature} {expected : ℕ} :
    wp removalMonitor (fun _ _ => True) (finishSold signal position lastSig expected) r := by
  refine wp_quiet_bind (uses_call.mpr (removal_quiet rfl)) fun _ => ?_
  refine wp_seq cleanupMintIfUnused_checked fun _ _ _ => ?_
  refine wp_quiet_bind (uses_call.mpr (removal_quiet rfl)) fun t => ?_
  exact wp_quiet (uses_call.mpr (removal_quiet rfl)) fun _ => trivial

theorem sellMarked_checked {balance tokenAmount : ℕ} :
    wp removalMonitor (fun _ _ => True) (sellMarked setup signal position snapshot balance tokenAmount) r := by
  refine wp_quiet_bind (sellRoute_uses fun _ => removal_quiet rfl) fun routeViaJupiter => ?_
  refine wp_quiet_bind (uses_mono quiet_of_sale sellAttempts_within) fun outcome => ?_
  cases outcome with
  | sold lastSig => exact finishSold_checked
  | unsold failureReason =>
    exact wp_quiet (finishUnsold_uses (removal_quiet rfl) (fun _ _ => removal_quiet rfl) (fun _ => removal_quiet rfl)
      fun _ _ => removal_quiet rfl) fun _ => trivial

theorem sellPosition_checked : wp removalMonitor (fun _ _ => True) (sellPosition setup signal position snapshot) r := by
  unfold sellPosition
  refine wp_quiet_bind (currentBalance_uses (removal_quiet rfl) (removal_quiet rfl)) fun balance => ?_
  apply wp_ite
  · exact fun _ => wp_quiet (skipZeroBalance_uses (removal_quiet rfl) fun _ => removal_quiet rfl) fun _ => trivial
  · intro _
    refine wp_quiet_bind (uses_call.mpr (removal_quiet rfl)) fun marked => ?_
    exact wp_ite (fun _ => sellMarked_checked) fun _ => trivial

theorem handleSellSignal_checked : wp removalMonitor (fun _ _ => True) (handleSellSignal setup signal) r := by
  apply handleSellSignal_wp ((removal_quiet rfl).1 r)
  · exact fun _ => removal_quiet rfl
  · exact fun _ _ => trivial
  · exact fun _ position snapshot => sellPosition_checked

theorem handlePartialSell_checked {groupId : String} {percent : ℕ} :
    wp removalMonitor (fun _ _ => True) (handlePartialSell setup groupId mint percent) r := by
  apply handlePartialSell_wp ((removal_quiet rfl).1 r)
  · exact fun _ _ => trivial
  · exact fun _ _ position => handleSellSignal_checked
  · intro _ _ position
    refine wp_quiet_bind (uses_call.mpr (removal_quiet rfl)) fun marked => wp_ite (fun _ => ?_) fun _ => trivial
    refine wp_quiet (partialSellMarked_uses (fun _ => ?_) (fun _ => ?_) (fun _ => ?_) ?_ ?_ ?_ (fun _ => ?_) ?_)
      fun _ => trivial
    all_goals exact removal_quiet rfl

end

/-- The tasks that take mints out of the tables. -/
def removes : Role → Bool
  | .sell _ | .partialSell .. | .cleanup => true
  | _ => false

theorem code_checked {setup : Setup} {role : Role} (concerned : removes role = true) :
    wp removalMonitor (fun _ _ => True) (role.code setup) r := by
  cases role with
  | sell signal => exact handleSellSignal_checked
  | partialSell groupId mint percent => exact handlePartialSell_checked
  | cleanup => exact candidateCleanup_checked
  | _ => cases concerned

/-- A position that was open when a task counted keeps its mint from the removals of that task. -/
theorem counted_kept {setup : Setup} {s : State} {ok : State → Step → Prop}
    (reach : (process setup).Reachable World.Starts ok s) {i : ℕ} {t : TaskState} (here : s.tasks[i]? = some t)
    (concerned : removes t.role = true) (key : PositionKey) : (removal t.past).sawOpen key = false := by
  have sound : (removal t.past).Sound := by
    refine (reach.follows (fun _ => removalMonitor) (fun _ => .start) (fun role => removes role = true)
      (fun _ _ => True) (fun _ => Removal.Sound) (fun role concerned => code_checked concerned)
      (fun s _ _ choice _ _ _ world _ _ _ reply => ⟨choice, world, reply⟩) (fun _ _ => nofun) ?_ here concerned).2
    intro role r e trusted allowed sound mint removed
    by_cases other : countsOrRemoves e.op = true
    · obtain ⟨w, op, answer⟩ := e
      cases op
      case subscriber entry =>
        cases entry
        case bondingCurvesOf mint' =>
          obtain rfl : mint' = mint := Option.some.inj removed
          exact allowed mint' rfl
        all_goals cases other
      case openPositionCountForMint | openPositionMints => cases removed
      all_goals cases other
    · have same := (removal_quiet (Bool.eq_false_iff.mpr other)).2 r e.world e.answer
      have kept : removalMonitor.next r e = r := same
      rw [kept] at removed ⊢
      exact sound mint removed
  exact sound.unseen key

end CopyTrader.Grpc
