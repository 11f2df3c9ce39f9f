import CopyTrader.Tasks.Alphabet
import CopyTrader.Tasks.Positions

/-!
# The selling state

A handler that has marked a position writes it back before it is done. As long as no write-back
leaves the position in the selling state, a position in that state has a handler that will still
write it back.
-/

namespace CopyTrader.Tx
open Lib AutoSell Tasks Program

/-- The operations that begin or end a sale, or store a new position. -/
def turnsSale : Op → Bool
  | .markSelling _ | .markClosed .. | .restoreAfterSellAttempt .. | .suspendAutoSell ..
  | .applyPartialSell .. | .addPosition _ => true
  | _ => false

/-- The position an operation writes back at the end of its sale. -/
def endsSale : Op → Option PositionKey
  | .markClosed key _ | .restoreAfterSellAttempt key _ | .suspendAutoSell key _ _
  | .applyPartialSell key _ => some key
  | _ => none

/-- Follows the key that a task has marked and not yet written back. -/
def saleMonitor : Monitor World Op Ans (Option PositionKey) where
  trusts _ := True
  allows marked
    | .markSelling _ => marked = none
    | .markClosed key _ | .restoreAfterSellAttempt key _ | .suspendAutoSell key _ _
    | .applyPartialSell key _ => marked = some key
    | .addPosition p => p.state = .confirming
    | _ => True
  next marked e :=
    match e.op, e.answer with
    | .markSelling key, answer => if answer then some key else marked
    | .markClosed .., _ | .restoreAfterSellAttempt .., _ | .suspendAutoSell .., _
    | .applyPartialSell .., _ => none
    | _, _ => marked

def markedKey (t : TaskState) : Option PositionKey := saleMonitor.after none t.past

theorem quiet_of_other {op : Op} (other : turnsSale op = false) : saleMonitor.Quiet op := by
  cases op <;> first | exact ⟨fun _ => trivial, fun _ _ _ => rfl⟩ | cases other

theorem quiet_of_sale (op : Op) (sale : op.ofSale = true) : saleMonitor.Quiet op := by
  cases op <;> first | exact quiet_of_other rfl | cases sale

/-! ### Every handler writes back what it marked -/

variable {setup : Setup} {signal : SellSignal} {position : Position}

theorem finishSold_ends {lastSig : Signature} {expected : ℕ} :
    wp saleMonitor (fun _ marked => marked = none) (finishSold signal position lastSig expected)
      (some signal.positionKey) := by
  have cleanup : Uses saleMonitor.Quiet (cleanupMintIfUnused position.tokenMint) :=
    cleanupMintIfUnused_uses (quiet_of_other rfl) (quiet_of_other rfl) (fun _ => quiet_of_other rfl)
      (quiet_of_other rfl) (quiet_of_other rfl)
  refine wp_perform rfl fun _ _ _ => ?_
  refine wp_quiet_bind cleanup fun _ => ?_
  exact wp_perform trivial fun _ _ _ => ⟨trivial, fun _ _ _ => rfl⟩

theorem finishUnsold_ends {failureReason : String} :
    wp saleMonitor (fun _ marked => marked = none) (finishUnsold signal position failureReason)
      (some signal.positionKey) := by
  unfold finishUnsold
  refine wp_quiet_bind (uses_call.mpr (quiet_of_other rfl)) fun current => ?_
  apply wp_ite
  · intro _
    exact wp_perform rfl fun _ _ _ => ⟨trivial, fun _ _ _ => rfl⟩
  · intro _
    exact wp_perform rfl fun _ _ _ => ⟨trivial, fun _ _ _ => rfl⟩

theorem sellMarked_ends {snapshot : Option SellAccountSnapshot} {balance tokenAmount : ℕ} :
    wp saleMonitor (fun _ marked => marked = none)
      (sellMarked setup signal position snapshot balance tokenAmount) (some signal.positionKey) := by
  refine wp_quiet_bind (sellRoute_uses fun _ => quiet_of_other rfl) fun routeViaJupiter => ?_
  refine wp_quiet_bind (uses_mono quiet_of_sale sellAttempts_within) fun outcome => ?_
  cases outcome with
  | sold lastSig => exact finishSold_ends
  | unsold failureReason => exact finishUnsold_ends

theorem marking_ends {key : PositionKey} {sale : Prog Unit}
    (ends : wp saleMonitor (fun _ marked => marked = none) sale (some key)) :
    wp saleMonitor (fun _ marked => marked = none)
      (do
        let marked ← perform (.markSelling key)
        if marked then sale) none := by
  refine wp_perform rfl fun w marked _ => ?_
  cases marked with
  | true => exact ends
  | false => exact rfl

theorem sellPosition_ends {snapshot : Option SellAccountSnapshot} :
    wp saleMonitor (fun _ marked => marked = none) (sellPosition setup signal position snapshot) none := by
  refine wp_quiet_bind (currentBalance_uses (quiet_of_other rfl) (quiet_of_other rfl)) fun currentAtaBalance => ?_
  apply wp_ite
  · intro _
    exact wp_quiet (skipZeroBalance_uses (quiet_of_other rfl) fun _ => quiet_of_other rfl) fun _ => rfl
  · intro _
    exact marking_ends sellMarked_ends

theorem handleSellSignal_ends :
    wp saleMonitor (fun _ marked => marked = none) (handleSellSignal setup signal) none := by
  apply handleSellSignal_wp trivial
  · exact fun _ => quiet_of_other rfl
  · exact fun _ _ => rfl
  · exact fun _ position snapshot => sellPosition_ends

theorem partialSellMarked_ends (signal : SellSignal) {mint : Pubkey} {sellAmount percent : ℕ} :
    wp saleMonitor (fun _ marked => marked = none)
      (partialSellMarked signal position mint sellAmount percent) (some signal.positionKey) := by
  refine wp_quiet_bind (trySellPart_uses (fun _ => quiet_of_other rfl) (fun _ => quiet_of_other rfl)
    (fun _ => quiet_of_other rfl) (quiet_of_other rfl)) fun sent => ?_
  cases sent with
  | ok sig =>
    refine wp_perform rfl fun _ _ _ => ?_
    refine wp_perform trivial fun _ _ _ => ?_
    exact ⟨trivial, fun _ _ _ => rfl⟩
  | error err => exact ⟨rfl, fun _ _ _ => rfl⟩

theorem handlePartialSell_ends {groupId : String} {mint : Pubkey} {percent : ℕ} :
    wp saleMonitor (fun _ marked => marked = none) (handlePartialSell setup groupId mint percent) none := by
  apply handlePartialSell_wp trivial
  · exact fun _ _ => rfl
  · exact fun _ _ position => handleSellSignal_ends
  · exact fun _ _ position => marking_ends (partialSellMarked_ends (manualSignal groupId mint position))

/-- The tasks that sell nothing mark nothing. -/
theorem keeps_unmarked {op : Op} {key : PositionKey}
    (other : op.ofIntake || op.ofBuy key || op.ofConfirm || op.ofUpdate || op.ofMonitor || op.ofCleanup) :
    saleMonitor.Keeps (· = none) op := by
  rintro _ rfl
  cases op
  case addPosition p =>
    have confirming : p.state = .confirming := by
      simp only [Op.ofIntake, Op.ofBuy, Op.ofExecute, Op.ofConfirm, Op.ofUpdate, Op.ofMonitor, Op.ofCleanup,
        Bool.false_or, Bool.or_false, Bool.and_eq_true, decide_eq_true_eq] at other
      exact other.2
    exact ⟨confirming, fun _ _ _ => rfl⟩
  all_goals first | exact ⟨trivial, fun _ _ _ => rfl⟩ | cases other

theorem code_ends (role : Role) :
    wp saleMonitor (fun _ marked => marked = none) (role.code setup) none := by
  have keeps {alphabet : Op → Bool} (key : PositionKey) (within : Within alphabet (role.code setup))
      (other : ∀ op, alphabet op = true →
        op.ofIntake || op.ofBuy key || op.ofConfirm || op.ofUpdate || op.ofMonitor || op.ofCleanup) :
      wp saleMonitor (fun _ marked => marked = none) (role.code setup) none :=
    wp_keeps (uses_mono (fun op member => keeps_unmarked (other op member)) within) rfl
  have within := code_within setup role
  cases role with
  | sell signal => exact handleSellSignal_ends
  | partialSell groupId mint percent => exact handlePartialSell_ends
  | trade | trigger => exact keeps ⟨"", 0⟩ within fun op member => by simp [show op.ofIntake = true from member]
  | buy b | externalBuy b =>
    exact keeps ⟨b.group.id, b.mint⟩ within fun op member => by
      simp [show op.ofBuy ⟨b.group.id, b.mint⟩ = true from member]
  | confirm => exact keeps ⟨"", 0⟩ within fun op member => by simp [show op.ofConfirm = true from member]
  | tokenInfo | entryPrice =>
    exact keeps ⟨"", 0⟩ within fun op member => by simp [show op.ofUpdate = true from member]
  | fallback | grpc => exact keeps ⟨"", 0⟩ within fun op member => by simp [show op.ofMonitor = true from member]
  | cleanup => exact keeps ⟨"", 0⟩ within fun op member => by simp [show op.ofCleanup = true from member]

/-- The handlers neither store nor remove a position. -/
theorem positionAfter_of_sell {w : World} {op : Op} {key : PositionKey} {p : Position} (sells : op.ofSell = true)
    (stored : w.autoSell.getPosition key = some p) : op.positionAfter w key = some (op.rewrite w key p) := by
  cases op
  case addPosition | prunePositions => cases sells
  all_goals exact congrArg (Option.map _) stored

def reduces : Op → Bool
  | .applyPartialSell .. => true
  | _ => false

theorem resizes_of_sell {op : Op} {key : PositionKey} (sells : op.ofSell = true) (whole : reduces op = false) :
    op.resizes key = false := by
  cases op
  case applyPartialSell => cases show true = false from whole
  all_goals first | rfl | cases sells

/-! ### Positions in the selling state -/

/-- The write at the end of a sale does not leave the position in the selling state: the state it
restores is another one, the amount it takes off is positive and covered. -/
def leavesSelling (w : World) : Op → Bool
  | .restoreAfterSellAttempt _ state | .suspendAutoSell _ state _ => state ≠ .selling
  | .applyPartialSell key sold =>
    (w.autoSell.getPosition key).all fun p =>
      p.state ≠ .selling || (decide (0 < sold) && decide (sold ≤ p.tokenAmount))
  | _ => true

def othersSell (s : State) (i : ℕ) (key : PositionKey) : Bool :=
  s.tasks.zipIdx.any fun (t, j) => j ≠ i && markedKey t = some key

/-- A sale is ended out of the selling state, unless another sale of the position is under way. -/
def endsOrderly (s : State) : Step → Bool
  | .run i _ =>
    match s.tasks[i]? with
    | some ⟨_, _, .perform op _⟩ =>
      (endsSale op).all fun key => leavesSelling s.world op || othersSell s i key
    | _ => true
  | _ => true

theorem drives_of_ends {key : PositionKey} {op : Op} (ends : endsSale op = some key) : op.drives = some key := by
  cases op
  case markClosed | restoreAfterSellAttempt | suspendAutoSell | applyPartialSell => exact ends
  all_goals cases ends

theorem stateAfter_selling {w : World} {key : PositionKey} {p : Position} {op : Op}
    (stored : w.autoSell.getPosition key = some p) (selling : op.stateAfter key p = .selling) :
    (op = .markSelling key ∧ p.markSelling.2 = true) ∨
      (endsSale op = some key ∧ leavesSelling w op = false) ∨
      (endsSale op ≠ some key ∧ p.state = .selling) := by
  have driven := stateAfter_driven key p op
  generalize op.stateAfter key p = state at driven selling
  cases driven with
  | confirmed | arrived => exact Or.inr (Or.inr ⟨nofun, activated_eq nofun selling⟩)
  | missing | failed | closed | reduced => cases selling
  | marked accepts => exact Or.inl ⟨rfl, accepts⟩
  | refused refuses => exact Or.inr (Or.inr ⟨nofun, selling⟩)
  | unsold sig idle => exact absurd selling idle
  | restored | suspended => exact Or.inr (Or.inl ⟨rfl, by simpa [leavesSelling] using selling⟩)
  | uncovered sold refused =>
    refine Or.inr (Or.inl ⟨rfl, ?_⟩)
    simp only [leavesSelling, stored, Option.all_some, selling]
    simpa using refused
  | other _ elsewhere => exact Or.inr (Or.inr ⟨fun ends => elsewhere (drives_of_ends ends), selling⟩)

def Watched (s : State) : Prop :=
  ∀ key p, s.world.autoSell.getPosition key = some p → p.state = .selling →
    ∃ (i : ℕ) (t : TaskState), s.tasks[i]? = some t ∧ markedKey t = some key

/-- Steps that end sales orderly. -/
def Orderly (s : State) (step : Step) : Prop := endsOrderly s step = true

instance (s : State) (step : Step) : Decidable (Orderly s step) := inferInstanceAs (Decidable (_ = true))

theorem markedKey_snoc (role : Role) (past : List Moment) (e : Moment) (rest rest' : Prog Unit) :
    markedKey ⟨role, past ++ [e], rest⟩ = saleMonitor.next (markedKey ⟨role, past, rest'⟩) e :=
  Monitor.after_snoc ..

theorem next_marked {key : PositionKey} {e : Moment} (allowed : saleMonitor.allows (some key) e.op)
    (goesOn : endsSale e.op ≠ some key) : saleMonitor.next (some key) e = some key := by
  obtain ⟨w, op, answer⟩ := e
  cases op
  case markSelling => cases allowed
  case markClosed key' _ | restoreAfterSellAttempt key' _ | suspendAutoSell key' _ _ | applyPartialSell key' _ =>
    obtain rfl := Option.some.inj allowed
    exact absurd rfl goesOn
  all_goals rfl

theorem othersSell_cases {s : State} {i : ℕ} {key : PositionKey} (others : othersSell s i key = true) :
    ∃ (j : ℕ) (t : TaskState), j ≠ i ∧ s.tasks[j]? = some t ∧ markedKey t = some key := by
  obtain ⟨⟨t, j⟩, member, passes⟩ := List.any_eq_true.mp others
  simp only [Bool.and_eq_true, decide_eq_true_eq] at passes
  exact ⟨j, t, passes.1, List.mem_zipIdx_iff_getElem?.mp member, passes.2⟩

/-- At every moment a task does only what its sale allows, and its sale is over when it ends. -/
theorem sale_obeyed {starts : World → Prop} {ok : State → Step → Prop} {s : State}
    (reach : (process setup).Reachable starts ok s) {i : ℕ} {t : TaskState} (here : s.tasks[i]? = some t) :
    t.rest.wp saleMonitor (fun _ marked => marked = none) (markedKey t) :=
  reach.obeys_trusting saleMonitor none (fun _ => True) (fun _ => trivial) (fun role _ => code_ends role) here trivial

theorem watched_step {s s' : State} {step : Step} (reach : (process setup).Reachable World.Starts Orderly s)
    (watched : Watched s) (orderly : Orderly s step) (stepped : (process setup).Stepped s step s') :
    Watched s' := by
  intro key p' stored selling
  -- a task in a sale that is not the one that runs
  have elsewhere {j : ℕ} {t : TaskState} (here : s.tasks[j]? = some t) (marked : markedKey t = some key)
      (waits : ∀ choice, step ≠ .run j choice) :
      ∃ (i : ℕ) (t : TaskState), s'.tasks[i]? = some t ∧ markedKey t = some key := by
    obtain ⟨t', after, moved⟩ := stepped.moved here
    cases moved with
    | still => exact ⟨j, t, after, marked⟩
    | ran choice runs => exact absurd runs (waits choice)
  cases stepped with
  | started role opens =>
    obtain ⟨j, t, here, marked⟩ := watched key p' stored selling
    exact elsewhere here marked nofun
  | disturbed env world change =>
    rw [disturb_autoSell change] at stored
    obtain ⟨j, t, here, marked⟩ := watched key p' stored selling
    exact elsewhere here marked nofun
  | ran i choice role past op next here answer world reply =>
    have allowed : saleMonitor.allows (markedKey ⟨role, past, .perform op next⟩) op := (sale_obeyed reach here).1
    have ran (marks : saleMonitor.next (markedKey ⟨role, past, .perform op next⟩) ⟨s.world, op, answer⟩ =
        some key) : ∃ (j : ℕ) (t : TaskState),
        (s.tasks.set i ⟨role, past ++ [⟨s.world, op, answer⟩], next answer⟩ ++
          ((forks op).map (process setup).begin).toList)[j]? = some t ∧ markedKey t = some key := by
      exact ⟨i, _, System.getElem?_ran here _ _, (markedKey_snoc ..).trans marks⟩
    rw [getPosition_after reply] at stored
    rcases positionAfter_cases stored with ⟨rfl, _⟩ | ⟨p, before, rfl⟩
    · have confirming : p'.state = .confirming := allowed
      simp [confirming] at selling
    rw [rewrite_state] at selling
    rcases stateAfter_selling before selling with ⟨rfl, marked⟩ | ⟨ends, stays⟩ | ⟨goesOn, selling⟩
    · refine ran ?_
      cases reply
      have answer : (s.world.autoSell.markSelling key).2 = true := by
        simp [AutoSellManager.markSelling, before, marked]
      simp [saleMonitor, answer]
    · have others : othersSell s i key = true := by
        have fine : endsOrderly s (.run i choice) = true := orderly
        simpa [endsOrderly, here, ends, stays] using fine
      obtain ⟨j, t, differs, there, marked⟩ := othersSell_cases others
      exact elsewhere there marked fun choice runs => differs (Label.run.inj runs).1.symm
    · obtain ⟨j, t, there, marked⟩ := watched key p before selling
      by_cases same : i = j
      · subst same
        obtain rfl := Option.some.inj (here.symm.trans there)
        rw [marked] at allowed
        exact ran (by rw [marked]; exact next_marked allowed goesOn)
      · exact elsewhere there marked fun choice runs => same (Label.run.inj runs).1

def marks (key : PositionKey) (e : Moment) : Bool :=
  match e.op, e.answer with
  | .markSelling key', answer => decide (key' = key) && answer
  | _, _ => false

/-- A task between its successful `mark_selling` and its return. -/
def inSale (key : PositionKey) (t : TaskState) : Bool := t.past.any (marks key) && !t.rest.isDone

theorem marks_of_next {marked : Option PositionKey} {key : PositionKey} {e : Moment}
    (after : saleMonitor.next marked e = some key) : marked = some key ∨ marks key e = true := by
  obtain ⟨w, op, answer⟩ := e
  cases op
  case markSelling key' =>
    cases answer with
    | true => exact Or.inr (by simpa [saleMonitor, marks] using after)
    | false => exact Or.inl after
  case markClosed | restoreAfterSellAttempt | suspendAutoSell | applyPartialSell => cases after
  all_goals exact Or.inl after

theorem marks_of_markedKey {key : PositionKey} {past : List Moment}
    (marked : saleMonitor.after none past = some key) : past.any (marks key) = true := by
  induction past using List.reverseRecOn with
  | nil => cases marked
  | append_singleton past e ih =>
    rw [Monitor.after_snoc] at marked
    rw [List.any_append]
    rcases marks_of_next marked with before | now
    · simp [ih before]
    · simp [now]

theorem watched_of_reachable {s : State} (reach : (process setup).Reachable World.Starts Orderly s) :
    Watched s := by
  refine reach.invariant (I := Watched) ?_ fun s step s' reach watched orderly stepped =>
    watched_step reach watched orderly stepped
  intro w start key p stored
  simp [AutoSellManager.getPosition, start.positions] at stored

/-- When no handler is between its marking and its return, the position can be sold again or is
terminal. -/
theorem not_selling_of_idle {s : State} (reach : (process setup).Reachable World.Starts Orderly s)
    {key : PositionKey} {p : Position} (stored : s.world.autoSell.getPosition key = some p)
    (idle : ∀ t ∈ s.tasks, inSale key t = false) : p.state ≠ .selling := by
  intro selling
  obtain ⟨i, t, here, marked⟩ := watched_of_reachable reach key p stored selling
  have obeys := sale_obeyed reach here
  have working : t.rest.isDone = false := by
    cases rest : t.rest with
    | done a =>
      rw [rest, marked] at obeys
      cases obeys
    | perform op next => rfl
  have busy : inSale key t = true := by
    unfold inSale
    rw [marks_of_markedKey marked, working]
    rfl
  rw [idle t (List.mem_of_getElem? here)] at busy
  cases busy

/-- A partial sale of the sample position, which holds 50 tokens. -/
def samplePartialSale (percent : ℕ) : List Step :=
  sampleIntake 0 (sampleTrade "t1" false) ++ sampleBuy 1 50 "b1" ++
    .start (.partialSell "g1" 5 percent) ::
    runs 3 [.nothing, .nothing, .migrated none, .sent (.ok "s1"), .nothing, .nothing, .nothing]

theorem not_selling_of_idle_sample : ∃ s, (process sampleSetup).Reachable World.Starts Orderly s ∧
    ∃ p, s.world.autoSell.getPosition ⟨"g1", 5⟩ = some p ∧ p.tokenAmount = 25 ∧ p.state ≠ .selling := by
  obtain ⟨s, reach, passes⟩ := reaches sampleSetup Orderly sampleGroups (samplePartialSale 50)
    (fun s => (s.world.autoSell.getPosition ⟨"g1", 5⟩).any (·.tokenAmount = 25) &&
      s.tasks.all fun t => !inSale ⟨"g1", 5⟩ t) (by decide +kernel)
  rw [Bool.and_eq_true] at passes
  obtain ⟨p, stored, amount⟩ := (Option.any_eq_true ..).mp passes.1
  refine ⟨s, reach, p, stored, of_decide_eq_true amount, not_selling_of_idle reach stored fun t member => ?_⟩
  simpa using List.all_eq_true.mp passes.2 t member

/-- One percent of 50 tokens is none; taking off none is refused. -/
theorem selling_orphaned : ¬ ∀ s, (process sampleSetup).Reachable World.Starts anyStep s →
    ∀ key p, s.world.autoSell.getPosition key = some p → (∀ t ∈ s.tasks, inSale key t = false) →
      p.state ≠ .selling := by
  intro claim
  obtain ⟨s, reach, passes⟩ := reaches sampleSetup anyStep sampleGroups (samplePartialSale 1)
    (fun s => (s.world.autoSell.getPosition ⟨"g1", 5⟩).any (·.state = .selling) &&
      s.tasks.all fun t => !inSale ⟨"g1", 5⟩ t) (by decide +kernel)
  rw [Bool.and_eq_true] at passes
  obtain ⟨p, stored, selling⟩ := (Option.any_eq_true ..).mp passes.1
  refine claim s reach _ p stored (fun t member => ?_) (of_decide_eq_true selling)
  simpa using List.all_eq_true.mp passes.2 t member

end CopyTrader.Tx
