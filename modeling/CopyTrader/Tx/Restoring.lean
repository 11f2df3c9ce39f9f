import CopyTrader.Lib.Evidence
import CopyTrader.Tx.Activation
import CopyTrader.Tx.Selling

/-!
# Write-backs of failed sales

A handler copies the position before it marks it, and writes the state of its copy back when the
sale fails.
-/

namespace CopyTrader.Tx
open Lib AutoSell Tasks Program

/-- The state that an operation writes back after a sale that failed. -/
def writesBack : Op → Option (PositionKey × PositionState)
  | .restoreAfterSellAttempt key state | .suspendAutoSell key state _ => some (key, state)
  | _ => none

/-- The state that a moment finds stored. -/
def stateAt (key : PositionKey) (e : Moment) : Option PositionState :=
  (e.world.autoSell.getPosition key).map (·.state)

/-- The state of the position in the copy that a moment takes. -/
def copiesState (key : PositionKey) (e : Moment) : Option PositionState :=
  match e.op, e.answer with
  | .getPosition key', found => if key' = key then found.map (·.state) else none
  | _, _ => none

/-- The state of the position in the last copy. -/
def copiedState (key : PositionKey) (past : List Moment) : Option PositionState :=
  (past.filterMap (copiesState key)).getLast?

/-- A moment leaves the amount and the entry price of every position. -/
def LeavesDeals (e : Moment) : Prop :=
  ∀ key p, e.world.autoSell.getPosition key = some p → ∃ p', e.op.positionAfter e.world key = some p' ∧
    p'.tokenAmount = p.tokenAmount ∧ p'.entryPriceSol = p.entryPriceSol

/-! ### Following an attempt -/

inductive Attempt where
  | unread
  | copied (key : PositionKey) (state : PositionState)
  | marked (key : PositionKey) (state : PositionState)
  | restored
  | reduced

def Attempt.read (key : PositionKey) (state : PositionState) : Attempt → Attempt
  | .unread | .copied .. => .copied key state
  | q => q

def Attempt.mark : Attempt → Attempt
  | .copied key state => .marked key state
  | q => q

/-- Follows an attempt; only the state of the copy is written back. -/
def restoringMonitor : Monitor World Op Ans Attempt where
  trusts _ := True
  allows q
    | .markSelling key => ∃ state, q = .copied key state
    | .restoreAfterSellAttempt key state | .suspendAutoSell key state _ => q = .marked key state
    | .applyPartialSell key _ => ∃ state, q = .marked key state
    | _ => True
  next q e :=
    match e.op, e.answer with
    | .getPosition key, found => found.elim q fun p => q.read key p.state
    | .markSelling _, answer => if answer then q.mark else q
    | .restoreAfterSellAttempt .., _ | .suspendAutoSell .., _ => .restored
    | .applyPartialSell .., _ => .reduced
    | _, _ => q

def turnsAttempt : Op → Bool
  | .getPosition _ | .markSelling _ | .restoreAfterSellAttempt .. | .suspendAutoSell .. | .applyPartialSell .. => true
  | _ => false

theorem restoring_quiet {op : Op} (other : turnsAttempt op = false) : restoringMonitor.Quiet op := by
  cases op <;> first | exact ⟨fun _ => trivial, fun _ _ _ => rfl⟩ | cases other

theorem restoring_quiet_of_sale (op : Op) (sale : op.ofSale = true) : restoringMonitor.Quiet op := by
  cases op <;> first | exact restoring_quiet rfl | cases sale

variable {setup : Setup} {signal : SellSignal} {position : Position} {key : PositionKey} {state : PositionState}
  {q : Attempt} {past : List Moment} {e : Moment}

theorem finishSold_restores {lastSig : Signature} {expected : ℕ} :
    wp restoringMonitor (fun _ _ => True) (finishSold signal position lastSig expected) q := by
  refine wp_quiet (finishSold_uses ?_ ?_ ?_ (fun _ => ?_) ?_ ?_ ?_ fun _ => ?_) fun _ => trivial
  all_goals exact restoring_quiet rfl

theorem finishUnsold_restores {failureReason : String} :
    wp restoringMonitor (fun _ _ => True) (finishUnsold signal position failureReason)
      (.marked signal.positionKey position.state) := by
  unfold finishUnsold
  apply wp_perform trivial
  intro w current _
  have still : restoringMonitor.next (.marked signal.positionKey position.state)
      ⟨w, .getPosition signal.positionKey, current⟩ = .marked signal.positionKey position.state := by
    cases current with
    | none => rfl
    | some p => rfl
  rw [still]
  apply wp_ite
  · intro _
    refine wp_perform rfl fun _ _ _ => ?_
    exact wp_quiet (uses_call.mpr (restoring_quiet rfl)) fun _ => trivial
  · intro _
    refine wp_perform rfl fun _ _ _ => ?_
    exact wp_quiet (uses_call.mpr (restoring_quiet rfl)) fun _ => trivial

theorem sellMarked_restores {snapshot : Option SellAccountSnapshot} {balance tokenAmount : ℕ} :
    wp restoringMonitor (fun _ _ => True) (sellMarked setup signal position snapshot balance tokenAmount)
      (.marked signal.positionKey position.state) := by
  refine wp_quiet_bind (sellRoute_uses fun _ => restoring_quiet rfl) fun routeViaJupiter => ?_
  refine wp_quiet_bind (uses_mono restoring_quiet_of_sale sellAttempts_within) fun outcome => ?_
  cases outcome with
  | sold lastSig => exact finishSold_restores
  | unsold failureReason => exact finishUnsold_restores

theorem marking_restores {sale : Prog Unit}
    (restores : wp restoringMonitor (fun _ _ => True) sale (.marked key state)) :
    wp restoringMonitor (fun _ _ => True)
      (do
        let marked ← perform (.markSelling key)
        if marked then sale) (.copied key state) := by
  refine wp_perform ⟨state, rfl⟩ fun w marked _ => ?_
  cases marked with
  | true => exact restores
  | false => trivial

theorem sellPosition_restores {snapshot : Option SellAccountSnapshot} :
    wp restoringMonitor (fun _ _ => True) (sellPosition setup signal position snapshot)
      (.copied signal.positionKey position.state) := by
  refine wp_quiet_bind (currentBalance_uses (restoring_quiet rfl) (restoring_quiet rfl)) fun currentAtaBalance => ?_
  apply wp_ite
  · intro _
    exact wp_quiet (skipZeroBalance_uses (restoring_quiet rfl) fun _ => restoring_quiet rfl) fun _ => trivial
  · exact fun _ => marking_restores sellMarked_restores

/-- Nothing has been marked yet. -/
def Attempt.Idle (q : Attempt) : Prop := ∀ key state, q.read key state = .copied key state

theorem handleSellSignal_restores (idle : q.Idle) :
    wp restoringMonitor (fun _ _ => True) (handleSellSignal setup signal) q := by
  refine handleSellSignal_wp trivial (fun _ => restoring_quiet rfl) (fun _ _ => trivial) fun w position snapshot => ?_
  have copied : restoringMonitor.next q ⟨w, .getPosition signal.positionKey, some position⟩ =
      .copied signal.positionKey position.state := idle signal.positionKey position.state
  rw [copied]
  exact sellPosition_restores

theorem partialSellMarked_restores (signal : SellSignal) {mint : Pubkey} {sellAmount percent : ℕ} :
    wp restoringMonitor (fun _ _ => True) (partialSellMarked signal position mint sellAmount percent)
      (.marked signal.positionKey position.state) := by
  refine wp_quiet_bind (trySellPart_uses (fun _ => restoring_quiet rfl) (fun _ => restoring_quiet rfl)
    (fun _ => restoring_quiet rfl) (restoring_quiet rfl)) fun sent => ?_
  cases sent with
  | ok sig =>
    refine wp_perform ⟨_, rfl⟩ fun _ _ _ => ?_
    refine wp_quiet_bind (uses_call.mpr (restoring_quiet rfl)) fun _ => ?_
    exact wp_quiet (uses_call.mpr (restoring_quiet rfl)) fun _ => trivial
  | error err => exact wp_perform rfl fun _ _ _ => trivial

theorem handlePartialSell_restores {groupId : String} {mint : Pubkey} {percent : ℕ} :
    wp restoringMonitor (fun _ _ => True) (handlePartialSell setup groupId mint percent) .unread := by
  apply handlePartialSell_wp trivial
  · exact fun _ _ => trivial
  · exact fun _ w position => handleSellSignal_restores fun _ _ => rfl
  · exact fun _ w position => marking_restores (partialSellMarked_restores (manualSignal groupId mint position))

theorem code_restores (role : Role) : wp restoringMonitor (fun _ _ => True) (role.code setup) .unread := by
  have others (unsold : ∀ op, role.alphabet op = true → turnsSale op = false ∨ ∃ p, op = .addPosition p) :
      wp restoringMonitor (fun _ _ => True) (role.code setup) .unread := by
    refine wp_keeps (uses_mono (fun op member q _ => ⟨?_, fun _ _ _ => trivial⟩) (code_within setup role)) trivial
    obtain other | ⟨p, rfl⟩ := unsold op member
    · cases op <;> trivial
    · trivial
  cases role with
  | sell signal => exact handleSellSignal_restores fun _ _ => rfl
  | partialSell groupId mint percent => exact handlePartialSell_restores
  | _ =>
    apply others
    intro op member
    cases op <;> first | exact Or.inl rfl | exact Or.inr ⟨_, rfl⟩ | cases member

/-! ### What an attempt has replaced -/

/-- The position has been marked, always in the given state. -/
structure Replaced (key : PositionKey) (state : PositionState) (past : List Moment) : Prop where
  marked : ∃ mark ∈ past, marks key mark = true
  state : ∀ mark ∈ past, marks key mark = true → stateAt key mark = some state

/-- The position has been marked, always with a last copy in the given state. -/
structure MarkedFrom (key : PositionKey) (state : PositionState) (past : List Moment) : Prop where
  marked : ∃ mark ∈ past, marks key mark = true
  copied : ∀ before mark after, past = before ++ mark :: after → marks key mark = true →
    copiedState key before = some state

/-- Every mark finds the position in the state that it has in the last copy. -/
def marksAsCopied (key : PositionKey) (past : List Moment) : Bool :=
  past.zipIdx.all fun moment => !marks key moment.1 || stateAt key moment.1 = copiedState key (past.take moment.2)

theorem MarkedFrom.replaced_iff (marked : MarkedFrom key state past) :
    Replaced key state past ↔ marksAsCopied key past = true := by
  have copied {n : ℕ} {mark : Moment} (here : past[n]? = some mark) (marking : marks key mark = true) :
      copiedState key (past.take n) = some state := by
    obtain ⟨bound, rfl⟩ := List.getElem?_eq_some_iff.mp here
    refine marked.copied _ _ (past.drop (n + 1)) ?_ marking
    rw [List.cons_getElem_drop_succ, List.take_append_drop]
  constructor
  · intro replaced
    refine List.all_eq_true.mpr fun moment member => ?_
    have here := List.mem_zipIdx_iff_getElem?.mp member
    cases marking : marks key moment.1 with
    | false => rfl
    | true => simp [copied here marking, replaced.state _ (List.mem_of_getElem? here) marking]
  · intro fine
    refine ⟨marked.marked, fun mark member marking => ?_⟩
    obtain ⟨n, here⟩ := List.mem_iff_getElem?.mp member
    have found := List.all_eq_true.mp fine (mark, n) (List.mem_zipIdx_iff_getElem?.mpr here)
    simp only [marking, Bool.not_true, Bool.false_or, decide_eq_true_eq] at found
    exact found.trans (copied here marking)

def Unmarked (past : List Moment) : Prop := ∀ e ∈ past, ∀ key, marks key e = false

def Unrestored (past : List Moment) : Prop := ∀ e ∈ past, writesBack e.op = none

def Unreduced (past : List Moment) : Prop := ∀ e ∈ past, reduces e.op = false

/-- What the observer's state tells of the past of a task. -/
def Attempt.Tells (past : List Moment) : Attempt → Prop
  | .unread => Unmarked past ∧ Unrestored past ∧ Unreduced past
  | .copied key state => copiedState key past = some state ∧ Unmarked past ∧ Unrestored past ∧ Unreduced past
  | .marked key state => MarkedFrom key state past ∧ Unrestored past ∧ Unreduced past
  | .restored => Unreduced past
  | .reduced => Unrestored past

theorem copiedState_snoc : copiedState key (past ++ [e]) = (copiesState key e).or (copiedState key past) := by
  unfold copiedState
  rw [List.filterMap_append]
  cases copies : copiesState key e with
  | none => simp [copies]
  | some state => simp [copies]

theorem all_snoc {P : Moment → Prop} (all : ∀ e ∈ past, P e) (now : P e) : ∀ e' ∈ past ++ [e], P e' :=
  List.forall_mem_append.mpr ⟨all, List.forall_mem_singleton.mpr now⟩

theorem MarkedFrom.snoc (marked : MarkedFrom key state past) (silent : marks key e = false) :
    MarkedFrom key state (past ++ [e]) := by
  obtain ⟨mark, member, marking⟩ := marked.marked
  refine ⟨⟨mark, List.mem_append_left _ member, marking⟩, fun before mark' after split marking => ?_⟩
  obtain ⟨rfl, rfl, rfl⟩ | ⟨after', rfl, old⟩ := snoc_eq_append_cons split
  · rw [silent] at marking
    cases marking
  · exact marked.copied before mark' after' old marking

theorem MarkedFrom.copies (marked : MarkedFrom key state past) : ∃ e ∈ past, copiesState key e = some state := by
  obtain ⟨mark, member, marking⟩ := marked.marked
  obtain ⟨before, after, rfl⟩ := List.append_of_mem member
  have copied := List.mem_of_getLast? (marked.copied before mark after rfl marking)
  obtain ⟨e, earlier, copies⟩ := List.mem_filterMap.mp copied
  exact ⟨e, List.mem_append_left _ earlier, copies⟩

theorem MarkedFrom.first (unmarked : Unmarked past) (marked : marks key e = true)
    (copied : copiedState key past = some state) : MarkedFrom key state (past ++ [e]) := by
  refine ⟨⟨e, List.mem_append_right _ (List.mem_singleton_self e), marked⟩, fun before mark after split marking => ?_⟩
  obtain ⟨rfl, rfl, rfl⟩ | ⟨after', rfl, old⟩ := snoc_eq_append_cons split
  · exact copied
  · rw [unmarked mark (old ▸ List.mem_append_right _ List.mem_cons_self) key] at marking
    cases marking

/-- A moment that neither copies, marks, nor ends. -/
theorem Attempt.Tells.other (tells : q.Tells past) (other : turnsAttempt e.op = false) : q.Tells (past ++ [e]) := by
  obtain ⟨w, op, answer⟩ := e
  have silent : (∀ key, copiesState key ⟨w, op, answer⟩ = none) ∧ (∀ key, marks key ⟨w, op, answer⟩ = false) ∧
      writesBack op = none ∧ reduces op = false := by
    cases op <;> first | exact ⟨fun _ => rfl, fun _ => rfl, rfl, rfl⟩ | cases other
  obtain ⟨copies, marks, back, reduces⟩ := silent
  cases q with
  | unread => exact ⟨all_snoc tells.1 marks, all_snoc tells.2.1 back, all_snoc tells.2.2 reduces⟩
  | copied key state =>
    refine ⟨?_, all_snoc tells.2.1 marks, all_snoc tells.2.2.1 back, all_snoc tells.2.2.2 reduces⟩
    rw [copiedState_snoc, copies, Option.none_or]
    exact tells.1
  | marked key state => exact ⟨tells.1.snoc (marks key), all_snoc tells.2.1 back, all_snoc tells.2.2 reduces⟩
  | restored => exact all_snoc tells reduces
  | reduced => exact all_snoc tells back

/-- A copy is taken over unless the position has been marked. -/
theorem Attempt.Tells.get (tells : q.Tells past) {w : World} {found : Option Position} :
    (restoringMonitor.next q ⟨w, .getPosition key, found⟩).Tells (past ++ [⟨w, .getPosition key, found⟩]) := by
  have silent (key' : PositionKey) : marks key' ⟨w, .getPosition key, found⟩ = false := rfl
  cases found with
  | none =>
    have copies (key' : PositionKey) : copiesState key' ⟨w, .getPosition key, none⟩ = none := ite_self none
    cases q with
    | unread => exact ⟨all_snoc tells.1 silent, all_snoc tells.2.1 rfl, all_snoc tells.2.2 rfl⟩
    | copied key' state =>
      refine ⟨?_, all_snoc tells.2.1 silent, all_snoc tells.2.2.1 rfl, all_snoc tells.2.2.2 rfl⟩
      rw [copiedState_snoc, copies, Option.none_or]
      exact tells.1
    | marked key' state => exact ⟨tells.1.snoc rfl, all_snoc tells.2.1 rfl, all_snoc tells.2.2 rfl⟩
    | restored | reduced => exact all_snoc tells rfl
  | some p =>
    have copied : copiedState key (past ++ [⟨w, .getPosition key, some p⟩]) = some p.state := by
      rw [copiedState_snoc, show copiesState key ⟨w, .getPosition key, some p⟩ = some p.state from if_pos rfl,
        Option.some_or]
    cases q with
    | unread => exact ⟨copied, all_snoc tells.1 silent, all_snoc tells.2.1 rfl, all_snoc tells.2.2 rfl⟩
    | copied key' state =>
      exact ⟨copied, all_snoc tells.2.1 silent, all_snoc tells.2.2.1 rfl, all_snoc tells.2.2.2 rfl⟩
    | marked key' state => exact ⟨tells.1.snoc rfl, all_snoc tells.2.1 rfl, all_snoc tells.2.2 rfl⟩
    | restored | reduced => exact all_snoc tells rfl

theorem Attempt.Tells.next (tells : q.Tells past) (allowed : restoringMonitor.allows q e.op) :
    (restoringMonitor.next q e).Tells (past ++ [e]) := by
  obtain ⟨w, op, answer⟩ := e
  cases turns : turnsAttempt op with
  | false =>
    rw [(restoring_quiet turns).2]
    exact tells.other turns
  | true =>
    cases op
    case getPosition key => exact tells.get
    case markSelling key =>
      obtain ⟨state, rfl⟩ := allowed
      cases answer with
      | true =>
        have marked : marks key ⟨w, .markSelling key, true⟩ = true := by simp [marks]
        exact ⟨.first tells.2.1 marked tells.1, all_snoc tells.2.2.1 rfl, all_snoc tells.2.2.2 rfl⟩
      | false =>
        have silent (key' : PositionKey) : marks key' ⟨w, .markSelling key, false⟩ = false := Bool.and_false _
        refine ⟨?_, all_snoc tells.2.1 silent, all_snoc tells.2.2.1 rfl, all_snoc tells.2.2.2 rfl⟩
        rw [copiedState_snoc, show copiesState key ⟨w, .markSelling key, false⟩ = none from rfl, Option.none_or]
        exact tells.1
    case restoreAfterSellAttempt | suspendAutoSell =>
      cases allowed
      exact all_snoc tells.2.2 rfl
    case applyPartialSell =>
      obtain ⟨state, rfl⟩ := allowed
      exact all_snoc tells.2.1 rfl
    all_goals cases turns

/-! ### Runs -/

/-- What has been written back is the state of the copy that was marked, and no tokens were taken off. -/
def Restores (past : List Moment) : Prop :=
  ∀ before e after key state, past = before ++ e :: after → writesBack e.op = some (key, state) →
    MarkedFrom key state before ∧ Unreduced past

theorem Restores.snoc (restores : Restores past) (tells : q.Tells past) (allowed : restoringMonitor.allows q e.op) :
    Restores (past ++ [e]) := by
  intro before e' after key state split back
  obtain ⟨rfl, rfl, rfl⟩ | ⟨after', rfl, old⟩ := snoc_eq_append_cons split
  · -- the write-back is the last moment
    obtain ⟨w, op, answer⟩ := e'
    cases op
    case restoreAfterSellAttempt | suspendAutoSell =>
      obtain ⟨rfl, rfl⟩ := Prod.mk.inj (Option.some.inj back)
      cases allowed
      exact ⟨tells.1, all_snoc tells.2.2 rfl⟩
    all_goals cases back
  · obtain ⟨marked, unreduced⟩ := restores before e' after' key state old back
    refine ⟨marked, all_snoc unreduced ?_⟩
    obtain ⟨w, op, answer⟩ := e
    cases op
    case applyPartialSell =>
      obtain ⟨state', rfl⟩ := allowed
      rw [tells.2.1 e' (old ▸ List.mem_append_right _ List.mem_cons_self)] at back
      cases back
    all_goals rfl

theorem tells_of_reachable {s : State} {ok : State → Step → Prop} (reach : (process setup).Reachable World.Starts ok s)
    {i : ℕ} {t : TaskState} (here : s.tasks[i]? = some t) :
    (restoringMonitor.after .unread t.past).Tells t.past ∧ Restores t.past := by
  have none {P : Moment → Prop} : ∀ e ∈ ([] : List Moment), P e := fun e member => nomatch member
  refine reach.recorded restoringMonitor .unread (fun _ => True) (fun past q => q.Tells past ∧ Restores past)
    (fun _ => trivial) (fun role _ => code_restores role) ⟨⟨none, none, none⟩, ?_⟩ ?_ here trivial
  · intro before e after key state split
    exact absurd split (List.append_ne_nil_of_right_ne_nil _ (List.cons_ne_nil _ _)).symm
  · exact fun past q e allowed kept => ⟨kept.1.next allowed, kept.2.snoc kept.1 allowed⟩

/-- A state that is written back was copied before. -/
theorem copied_of_writesBack {s : State} {ok : State → Step → Prop} (reach : (process setup).Reachable World.Starts ok s)
    {i : ℕ} {t : TaskState} {op : Op} {next : Ans op → Prog Unit} (here : s.tasks[i]? = some t)
    (rest : t.rest = .perform op next) (back : writesBack op = some (key, state)) :
    ∃ e ∈ t.past, copiesState key e = some state := by
  have allowed := reach.allows_trusting restoringMonitor .unread (fun _ => True) (fun _ => trivial)
    (fun role _ => code_restores role) here trivial rest
  have tells := (tells_of_reachable reach here).1
  have marked : restoringMonitor.after .unread t.past = .marked key state := by
    cases op
    case restoreAfterSellAttempt | suspendAutoSell =>
      obtain ⟨rfl, rfl⟩ := Prod.mk.inj (Option.some.inj back)
      exact allowed
    all_goals cases back
  rw [marked] at tells
  exact tells.1.copies

/-! ### Amounts and prices -/

theorem leavesDeals_of_sell (sells : e.op.ofSell = true) (whole : reduces e.op = false) : LeavesDeals e := by
  intro key p stored
  have priced : e.op.reprices key = false := by
    obtain ⟨w, op, answer⟩ := e
    cases op <;> first | rfl | cases sells
  exact ⟨_, positionAfter_of_sell sells stored, rewrite_tokenAmount (resizes_of_sell sells whole), rewrite_entryPrice priced⟩

/-- A sale that fails writes back the state it has replaced exactly when its mark found the state it had copied, and
leaves the amount and the entry price. -/
theorem failed_sale_restores {s : State} (reach : (process setup).Reachable World.Starts anyStep s) {i : ℕ}
    {t : TaskState} (here : s.tasks[i]? = some t) {before after : List Moment} (split : t.past = before ++ e :: after)
    (back : writesBack e.op = some (key, state)) :
    (Replaced key state before ↔ marksAsCopied key before = true) ∧ ∀ e ∈ t.past, LeavesDeals e := by
  obtain ⟨marked, unreduced⟩ := (tells_of_reachable reach here).2 before e after key state split back
  refine ⟨marked.replaced_iff, fun e' member => leavesDeals_of_sell ?_ (unreduced e' member)⟩
  have within := past_within reach here
  have wrote : t.role.alphabet e.op = true := within e (split ▸ List.mem_append_right _ List.mem_cons_self)
  have sells : t.role.alphabet = Op.ofSell := by
    obtain ⟨w, op, answer⟩ := e
    cases op
    case restoreAfterSellAttempt | suspendAutoSell =>
      obtain ⟨role, past, rest⟩ := t
      cases role <;> first | rfl | cases wrote
    all_goals cases back
  rw [← sells]
  exact within e' member

/-! ### Samples -/

/-- A partial sale of the sample position that is refused; other steps come between its copy and its mark. -/
def sampleRefusedSale (between : List Step) : List Step :=
  sampleIntake 0 (sampleTrade "t1" false) ++ sampleBuy 1 50 "b1" ++
    .start (.partialSell "g1" 5 50) :: .run 3 .nothing :: between ++
    runs 3 [.nothing, .migrated none, .sent (.error "refused"), .nothing]

def endsConfirming (t : TaskState) : Bool :=
  t.past.getLast?.any fun e => writesBack e.op = some (⟨"g1", 5⟩, .confirming)

theorem endsConfirming_split {t : TaskState} (ends : endsConfirming t = true) :
    ∃ e, t.past = t.past.dropLast ++ e :: [] ∧ writesBack e.op = some (⟨"g1", 5⟩, .confirming) := by
  obtain ⟨e, last, back⟩ := (Option.any_eq_true ..).mp ends
  exact ⟨e, (List.dropLast_append_getLast? e last).symm, of_decide_eq_true back⟩

theorem failed_sale_restores_sample : ∃ s, (process sampleSetup).Reachable World.Starts anyStep s ∧
    ∃ t, s.tasks[3]? = some t ∧ Replaced ⟨"g1", 5⟩ .confirming t.past.dropLast ∧ ∀ e ∈ t.past, LeavesDeals e := by
  obtain ⟨s, reach, t, here, passes⟩ := reaches_task sampleSetup anyStep sampleGroups (sampleRefusedSale []) 3
    (fun t => endsConfirming t && marksAsCopied ⟨"g1", 5⟩ t.past.dropLast) (by decide +kernel)
  rw [Bool.and_eq_true] at passes
  obtain ⟨e, split, back⟩ := endsConfirming_split passes.1
  obtain ⟨restores, leaves⟩ := failed_sale_restores reach here split back
  exact ⟨s, reach, t, here, restores.mpr passes.2, leaves⟩

/-- The confirm task activates the position that a sale has copied and not yet marked. -/
def sampleActivated : List Step :=
  .run 2 .nothing :: sampleRound 2 (sampleAnswer 50) ++ runs 2 [.nothing, .nothing, .nothing]

theorem failed_sale_demotes : ¬ ∀ s, (process sampleSetup).Reachable World.Starts anyStep s →
    ∀ (i : ℕ) (t : TaskState) (before after : List Moment) (e : Moment) (key : PositionKey) (state : PositionState),
      s.tasks[i]? = some t → t.past = before ++ e :: after → writesBack e.op = some (key, state) →
        Replaced key state before ∧ ∀ e ∈ t.past, LeavesDeals e := by
  intro claim
  obtain ⟨s, reach, t, here, passes⟩ :=
    reaches_task sampleSetup anyStep sampleGroups (sampleRefusedSale sampleActivated) 3
      (fun t => endsConfirming t && t.past.dropLast.any fun e =>
        marks ⟨"g1", 5⟩ e && stateAt ⟨"g1", 5⟩ e = some .active) (by decide +kernel)
  rw [Bool.and_eq_true] at passes
  obtain ⟨e, split, back⟩ := endsConfirming_split passes.1
  obtain ⟨mark, member, found⟩ := List.any_eq_true.mp passes.2
  rw [Bool.and_eq_true, decide_eq_true_eq] at found
  have confirming := (claim s reach 3 t _ _ e _ _ here split back).1.state mark member found.1
  rw [found.2] at confirming
  cases confirming

end CopyTrader.Tx
