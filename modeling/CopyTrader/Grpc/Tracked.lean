import CopyTrader.Grpc.Removal
import CopyTrader.Grpc.Warming
import CopyTrader.Tx.Activation
import CopyTrader.Tx.Terminal

/-!
# Tracked mints

The accounts of a mint are relied on from the first entry that a report or a trigger makes, through
the buys it starts, until no position of the mint is open. The cleanup only counts open positions.
-/

namespace CopyTrader.Grpc
open Lib AutoSell Main Tasks Tx

/-! ### What is relied on -/

/-- The mint of a buy that has not ended. -/
def boughtMint (t : TaskState) : Option Pubkey :=
  match t.role with
  | .buy b _ => if t.rest.isDone then none else some b.mint
  | _ => none

/-- The mint of an open position on the curve. -/
def heldMint (p : Position) : Option Pubkey :=
  if p.route = .pumpfun && p.state.isOpen then some p.tokenMint else none

def mintsInUse (s : State) : List Pubkey :=
  s.tasks.filterMap boughtMint ++ s.world.autoSell.positions.values.filterMap heldMint

def startsBuys : Role → Bool
  | .trade _ | .trigger _ => true
  | _ => false

/-- The entries of a report or a trigger that may still start buys. -/
def warming (t : TaskState) : List SubscriberOp :=
  if startsBuys t.role && !t.rest.isDone then entered t.past else []

def neededEntries (s : State) : List SubscriberOp :=
  s.tasks.flatMap warming ++ (mintsInUse s).flatMap s.world.subscriber.serving

/-- The operation opens a closed or failed position of the curve again. -/
def reopens (p : Position) : Op → Bool
  | .restoreAfterSellAttempt _ state | .suspendAutoSell _ state _ =>
    p.route = .pumpfun && !p.state.isOpen && state.isOpen
  | .applyPartialSell _ sold => p.route = .pumpfun && !p.state.isOpen && 0 < sold && sold ≤ p.tokenAmount
  | _ => false

/-- No entry that is relied on is taken away or replaced. -/
def sparesNeeded (s : State) (step : Step) : Bool :=
  (performed s step).all fun op =>
    (enters op).all fun change => (neededEntries s).all fun entry => !change.undoes entry

/-- No position is opened again whose mint is not in use. -/
def reopensInUse (s : State) (step : Step) : Bool :=
  (performed s step).all fun op =>
    op.drives.all fun key =>
      (s.world.autoSell.getPosition key).all fun p => !reopens p op || (mintsInUse s).contains p.tokenMint

def SparesUsed (s : State) (step : Step) : Prop := (sparesNeeded s step && reopensInUse s step) = true

instance (s : State) (step : Step) : Decidable (SparesUsed s step) := inferInstanceAs (Decidable (_ = true))

variable {setup : Setup} {s s' : State} {step : Step} {mint : Pubkey}

theorem heldMint_eq {p : Position} :
    heldMint p = some mint ↔ p.route = .pumpfun ∧ p.state.isOpen = true ∧ p.tokenMint = mint := by
  simp [heldMint, and_assoc]

theorem bought_inUse {i : ℕ} {t : TaskState} {b : BuyTask} {cause : Option Processor.DetectedTrade}
    (here : s.tasks[i]? = some t) (buys : t.role = .buy b cause) (runs : t.rest.isDone = false) :
    b.mint ∈ mintsInUse s := by
  refine List.mem_append_left _ (List.mem_filterMap.mpr ⟨t, List.mem_of_getElem? here, ?_⟩)
  simp [boughtMint, buys, runs]

theorem held_inUse {key : PositionKey} {p : Position} (stored : s.world.autoSell.getPosition key = some p)
    (held : heldMint p = some mint) : mint ∈ mintsInUse s :=
  List.mem_append_right _ (List.mem_filterMap.mpr ⟨p, DashMap.mem_values.mpr ⟨key, stored⟩, held⟩)

inductive InUse (s : State) (mint : Pubkey) : Prop where
  | bought (i : ℕ) (t : TaskState) (b : BuyTask) (cause : Option Processor.DetectedTrade)
      (here : s.tasks[i]? = some t) (buys : t.role = .buy b cause) (runs : t.rest.isDone = false)
      (same : b.mint = mint)
  | held (key : PositionKey) (p : Position) (stored : s.world.autoSell.getPosition key = some p)
      (held : heldMint p = some mint)

theorem mintsInUse_cases (used : mint ∈ mintsInUse s) : InUse s mint := by
  rcases List.mem_append.mp used with bought | held
  · obtain ⟨t, member, same⟩ := List.mem_filterMap.mp bought
    obtain ⟨i, here⟩ := List.mem_iff_getElem?.mp member
    unfold boughtMint at same
    split at same
    · rename_i b cause buys
      split at same
      · cases same
      · rename_i runs
        exact .bought i t b cause here buys (Bool.eq_false_iff.mpr runs) (Option.some.inj same)
    · cases same
  · obtain ⟨p, member, same⟩ := List.mem_filterMap.mp held
    obtain ⟨key, stored⟩ := DashMap.mem_values.mp member
    exact .held key p stored same

/-! ### What a step takes away -/

/-- The tables stay, or the step spares the entries that are needed. -/
theorem tables_after (spares : SparesUsed s step) (stepped : (process setup).Stepped s step s') :
    s'.world.subscriber = s.world.subscriber ∨
      ∃ op now, s'.world.subscriber = (s.world.subscriber.respond now op).2 ∧
        ∀ entry ∈ neededEntries s, op.undoes entry = false := by
  cases stepped with
  | started role opens => exact Or.inl rfl
  | disturbed env world change => exact Or.inl (World.disturb_drift change).accounts
  | ran i choice role past op next here answer world reply =>
    have performs : performed s (.run i choice) = some op := by simp [performed, here]
    have frame : s.world.Frame world (World.writes op) := World.respond_frame reply
    cases op
    case subscriber op =>
      cases reply
      refine Or.inr ⟨op, s.world.clock, rfl, fun entry needed => ?_⟩
      simp only [SparesUsed, sparesNeeded, performs, enters, Option.all_some, Bool.and_eq_true] at spares
      simpa using List.all_eq_true.mp spares.1 entry needed
    all_goals exact Or.inl (frame.accounts (by intro same; cases same))

theorem needed_stands {entry : SubscriberOp} (spares : SparesUsed s step)
    (stepped : (process setup).Stepped s step s') (needed : entry ∈ neededEntries s)
    (stands : s.world.subscriber.Stands entry) : s'.world.subscriber.Stands entry := by
  rcases tables_after spares stepped with same | ⟨op, now, after, keeps⟩
  · exact same ▸ stands
  · exact after ▸ stands.kept (keeps entry needed)

theorem used_tracked (spares : SparesUsed s step) (stepped : (process setup).Stepped s step s')
    (used : mint ∈ mintsInUse s) (tracks : s.world.subscriber.Tracks mint) : s'.world.subscriber.Tracks mint := by
  rcases tables_after spares stepped with same | ⟨op, now, after, keeps⟩
  · exact same ▸ tracks
  · refine after ▸ tracks.kept fun entry serves => keeps entry (List.mem_append_right _ ?_)
    exact List.mem_flatMap.mpr ⟨mint, used, serves⟩

/-! ### The invariant -/

structure Upheld (s : State) : Prop where
  warming : ∀ (i : ℕ) t, s.tasks[i]? = some t → ∀ entry ∈ Grpc.warming t, s.world.subscriber.Stands entry
  inUse : ∀ mint ∈ mintsInUse s, s.world.subscriber.Tracks mint

theorem mem_warming {t : TaskState} {entry : SubscriberOp} :
    entry ∈ warming t ↔ (startsBuys t.role = true ∧ t.rest.isDone = false) ∧ entry ∈ entered t.past := by
  unfold warming
  split
  · rename_i runs
    simpa using fun _ => (by simpa using runs)
  · rename_i ended
    simp only [List.not_mem_nil, false_iff, not_and]
    exact fun runs => absurd (by simpa using runs) ended

theorem needed_of_warming {i : ℕ} {t : TaskState} {entry : SubscriberOp} (here : s.tasks[i]? = some t)
    (warms : entry ∈ warming t) : entry ∈ neededEntries s :=
  List.mem_append_left _ (List.mem_flatMap.mpr ⟨t, List.mem_of_getElem? here, warms⟩)

theorem entered_snoc (past : List Moment) (e : Moment) :
    entered (past ++ [e]) = entered past ++ (enters e.op).toList := by
  unfold entered
  rw [List.filterMap_append, List.filterMap_cons, List.filterMap_nil]
  cases enters e.op <;> rfl

/-- What a task has just entered stands. -/
theorem entered_stands {op : Op} {choice : Choice} {answer : Ans op} {w w' : World}
    (reply : w.respond op choice = some (answer, w')) :
    ∀ entry ∈ (enters op).toList, w'.subscriber.Stands entry := by
  intro entry member
  cases op
  case subscriber change =>
    cases reply
    obtain rfl : entry = change := by simpa [enters] using member
    exact AccountSubscriber.respond_stands _
  all_goals cases member

theorem warming_after (spares : SparesUsed s step) (stepped : (process setup).Stepped s step s')
    (upheld : Upheld s) {i : ℕ} {t' : TaskState} (here : s'.tasks[i]? = some t') {entry : SubscriberOp}
    (warms : entry ∈ warming t') : s'.world.subscriber.Stands entry := by
  rcases stepped.task here with ⟨role, rfl, _⟩ | ⟨t, before, moved⟩
  · exact absurd (mem_warming.mp warms).2 List.not_mem_nil
  · cases moved with
    | still => exact needed_stands spares stepped (needed_of_warming before warms) (upheld.warming i t' before entry warms)
    | ran choice runs op next rest answer reply =>
      obtain ⟨⟨starts, _⟩, member⟩ := mem_warming.mp warms
      rw [entered_snoc] at member
      rcases List.mem_append.mp member with old | new
      · have warmed : entry ∈ warming t := mem_warming.mpr ⟨⟨starts, by rw [rest]; rfl⟩, old⟩
        exact needed_stands spares stepped (needed_of_warming before warmed) (upheld.warming i t before entry warmed)
      · exact entered_stands reply entry new

/-- A buy is started by a task that has entered the accounts of its mint. -/
theorem forked_tracked {ok : State → Step → Prop} (reach : (process setup).Reachable World.Starts ok s)
    (upheld : Upheld s) {i : ℕ} {t : TaskState} {b : BuyTask} {cause : Option Processor.DetectedTrade}
    {next : Unit → Prog Unit} (here : s.tasks[i]? = some t) (rest : t.rest = .perform (.spawnBuy b cause) next) :
    s.world.subscriber.Tracks b.mint := by
  have starts : startsBuys t.role = true := by
    have member := performs_within reach here rest
    generalize t.role = role at member
    cases role <;> first | rfl | cases member
  have warmed : Warmed (entered t.past) b.mint := by
    have allowed := reach.allows_trusting warmMonitor [] (fun _ => True) (fun _ => trivial)
      (fun role _ => code_warms role) here trivial rest
    rw [after_entered] at allowed
    exact allowed b cause rfl
  obtain ⟨curve, ata, maps, subscribes, mapsAta, subscribesAta⟩ := warmed
  have stands (entry : SubscriberOp) (member : entry ∈ entered t.past) : s.world.subscriber.Stands entry :=
    upheld.warming i t here entry (mem_warming.mpr ⟨⟨starts, by rw [rest]; rfl⟩, member⟩)
  exact AccountSubscriber.tracks_of_standing (stands _ maps) (stands _ subscribes) (stands _ mapsAta)
    (stands _ subscribesAta)

/-! ### Positions -/

/-- Sees to it that what is stored was bought elsewhere. -/
def externalMonitor : Monitor World Op Ans Unit where
  trusts _ := True
  allows _ op := ∀ q, op = .addPosition q → q.route = .externalJupiter
  next _ _ := ()

theorem sentPosition_route (p : Position) (sig : Signature) : (sentPosition p sig).route = p.route := by
  unfold sentPosition Position.markSubmitted Position.markConfirming
  split
  · split <;> rfl
  · dsimp only
    split <;> rfl

theorem externalBuyExecution_external {b : ExternalBuyTask} :
    Program.wp externalMonitor (fun _ _ => True) (externalBuyExecution setup b) () := by
  have quiet {op : Op} (other : ∀ q, op ≠ .addPosition q) : externalMonitor.Quiet op :=
    ⟨fun _ q same => absurd same (other q), fun _ _ _ => rfl⟩
  have submits (p : Position) (userAta : Pubkey) (sol : ℚ) (estimatedTokensRaw : ℕ)
      (route : p.route = .externalJupiter) :
      Program.Uses externalMonitor.Quiet (submitBuy setup p userAta sol estimatedTokensRaw) := by
    have stores (sig : Signature) : externalMonitor.Quiet (.addPosition (sentPosition p sig)) := by
      refine ⟨?_, fun _ _ _ => rfl⟩
      rintro _ q ⟨⟩
      exact (sentPosition_route p sig).trans route
    refine Program.uses_bind (Program.uses_call.mpr (quiet fun _ => nofun)) fun sent => ?_
    cases sent with
    | ok sig =>
      refine Program.uses_bind (Program.uses_call.mpr (quiet fun _ => nofun)) fun _ => Program.uses_ite ?_ trivial
      refine Program.uses_bind (Program.uses_bind (Program.uses_call.mpr (stores sig)) fun _ => ?_) fun _ => trivial
      exact Program.uses_call.mpr (quiet fun _ => nofun)
    | error err => exact Program.uses_bind (Program.uses_call.mpr (quiet fun _ => nofun)) fun _ => trivial
  have buys : Program.wp externalMonitor (fun _ _ => True) (executeExternalBuy setup b) () := by
    refine executeExternalBuy_wp (fun op quotes => quiet ?_) trivial fun p sol estimatedTokensRaw _ _ route =>
      Program.wp_quiet (submits p _ sol estimatedTokensRaw route) fun _ => trivial
    rintro q rfl
    cases quotes
  refine Program.wp_quiet_bind (Program.uses_call.mpr (quiet fun _ => nofun)) fun permit => ?_
  refine Program.wp_ite (fun _ => ?_) fun _ => trivial
  refine Program.wp_quiet_bind (Program.uses_call.mpr (quiet fun _ => nofun)) fun started => ?_
  refine Program.wp_ite (fun _ => ?_) fun _ => trivial
  refine Program.wp_seq buys fun _ _ _ => Program.wp_quiet (Program.uses_call.mpr (quiet fun _ => nofun)) fun _ => trivial

/-- A position of the curve is stored by a buy of its mint. -/
theorem added_by_buy {ok : State → Step → Prop} (reach : (process setup).Reachable World.Starts ok s) {i : ℕ}
    {t : TaskState} {p : Position} {next : Unit → Prog Unit} (here : s.tasks[i]? = some t)
    (rest : t.rest = .perform (.addPosition p) next) (route : p.route = .pumpfun) :
    ∃ b cause, t.role = .buy b cause ∧ b.mint = p.tokenMint := by
  have member := performs_within reach here rest
  cases role : t.role
  case buy b cause =>
    have stores : p.key = ⟨b.group.id, b.mint⟩ ∧ p.state = .confirming := by
      simpa [role, Role.alphabet, Op.ofBuy, Op.ofExecute] using member
    exact ⟨b, cause, rfl, (congrArg PositionKey.tokenMint stores.1).symm⟩
  case externalBuy b cause =>
    have executes : ∀ role : Role, (∃ b cause, role = .externalBuy b cause) →
        (role.code setup).wp externalMonitor (fun _ _ => True) () := by
      rintro _ ⟨b, cause, rfl⟩
      exact externalBuyExecution_external
    have external : p.route = .externalJupiter :=
      reach.allows_trusting externalMonitor () (fun role => ∃ b cause, role = .externalBuy b cause)
        (fun _ => trivial) executes here ⟨b, cause, role⟩ rest p rfl
    rw [route] at external
    cases external
  all_goals
    rw [role] at member
    cases member

/-- Only a write that forces a state opens a finished position. -/
theorem stateAfter_reopens {key : PositionKey} {p : Position} {op : Op} (route : p.route = .pumpfun)
    (finished : p.state.isOpen = false) (opens : (op.stateAfter key p).isOpen = true) :
    op.drives = some key ∧ reopens p op = true := by
  have settled : ¬ (p.state = .confirming ∨ p.state = .submitted) := by
    rintro (confirming | submitted)
    · simp [confirming, PositionState.isOpen] at finished
    · simp [submitted, PositionState.isOpen] at finished
  have idle : p.state ≠ .active := by
    intro active
    simp [active, PositionState.isOpen] at finished
  have same {state : PositionState} (stays : state = p.state) (opens : state.isOpen = true) : False := by
    rw [stays, finished] at opens
    cases opens
  have driven := stateAfter_driven key p op
  generalize op.stateAfter key p = after at driven opens
  cases driven with
  | confirmed | arrived => exact (same (activated_of_settled settled) opens).elim
  | missing | failed | closed => cases opens
  | marked accepts =>
    unfold Position.markSelling at accepts
    split at accepts
    · cases accepts
    · rename_i sellable
      exact absurd ⟨idle, fun confirming => settled (Or.inl confirming), fun submitted => settled (Or.inr submitted)⟩
        sellable
  | restored state => exact ⟨rfl, by simp [reopens, route, finished, opens]⟩
  | suspended state max => exact ⟨rfl, by simp [reopens, route, finished, opens]⟩
  | reduced sold covered => exact ⟨rfl, by simp [reopens, route, finished, covered]⟩
  | refused | unsold | uncovered | other => exact (same rfl opens).elim

theorem held_after {ok : State → Step → Prop} (reach : (process setup).Reachable World.Starts ok s)
    (spares : SparesUsed s step) (stepped : (process setup).Stepped s step s') {key : PositionKey} {p' : Position}
    (stored : s'.world.autoSell.getPosition key = some p') (held : heldMint p' = some mint) : mint ∈ mintsInUse s := by
  cases stepped with
  | started role opens => exact held_inUse stored held
  | disturbed env world change =>
    rw [disturb_autoSell change] at stored
    exact held_inUse stored held
  | ran i choice role past op next here answer world reply =>
    obtain ⟨route, isOpen, same⟩ := heldMint_eq.mp held
    rw [getPosition_after reply] at stored
    rcases positionAfter_cases stored with ⟨rfl, _⟩ | ⟨p, before, rfl⟩
    · obtain ⟨b, cause, buys, mine⟩ := added_by_buy reach here rfl route
      exact same ▸ mine ▸ bought_inUse here buys rfl
    · have deal := rewrite_deal s.world key p op
      rw [deal.route] at route
      rw [deal.tokenMint] at same
      by_cases before_open : p.state.isOpen = true
      · exact held_inUse before (heldMint_eq.mpr ⟨route, before_open, same⟩)
      · rw [rewrite_state] at isOpen
        obtain ⟨drives, again⟩ := stateAfter_reopens route (Bool.eq_false_iff.mpr before_open) isOpen
        have performs : performed s (.run i choice) = some op := by simp [performed, here]
        simp only [SparesUsed, reopensInUse, performs, drives, before, again, Option.all_some, Bool.and_eq_true,
          Bool.not_true, Bool.false_or, List.contains_iff_mem] at spares
        exact same ▸ spares.2

/-! ### Runs -/

theorem upheld_step {ok : State → Step → Prop} (reach : (process setup).Reachable World.Starts ok s)
    (upheld : Upheld s) (spares : SparesUsed s step) (stepped : (process setup).Stepped s step s') : Upheld s' := by
  refine ⟨fun i t' here entry warms => warming_after spares stepped upheld here warms, fun mint used => ?_⟩
  cases mintsInUse_cases used with
  | bought i t' b cause here buys runs same =>
    subst same
    rcases stepped.task here with ⟨role, rfl, _, begun⟩ | ⟨t, before, moved⟩
    · obtain rfl : role = .buy b cause := buys
      cases begun with
      | opened _ opens => cases opens
      | forked j choice u op next there rest _ forks =>
        have starts : op = .spawnBuy b cause := by
          cases op <;> first | cases forks
          rfl
        subst starts
        have tracked := forked_tracked reach upheld there rest
        obtain ⟨answer, reply, _⟩ := stepped.performs there rest
        have answered : s.world.respond (.spawnBuy b cause) choice = some (answer, s'.world) := reply
        rw [(World.respond_frame answered).accounts nofun]
        exact tracked
    · have running : t.rest.isDone = false ∧ t.role = .buy b cause := by
        cases moved with
        | still => exact ⟨runs, buys⟩
        | ran choice runs op next rest answer reply => exact ⟨by rw [rest]; rfl, buys⟩
      have inUse := bought_inUse before running.2 running.1
      exact used_tracked spares stepped inUse (upheld.inUse _ inUse)
  | held key p' stored held =>
    have inUse := held_after reach spares stepped stored held
    exact used_tracked spares stepped inUse (upheld.inUse mint inUse)

theorem upheld_reachable (reach : (process setup).Reachable World.Starts SparesUsed s) : Upheld s := by
  refine reach.invariant (I := Upheld) ?_ ?_
  · intro world starts
    refine ⟨fun i t here => (nomatch here), fun mint used => ?_⟩
    cases mintsInUse_cases used with
    | bought i t b cause here => cases here
    | held key p stored =>
      rw [AutoSellManager.getPosition, starts.positions] at stored
      cases stored
  · intro s step s' reach upheld spares stepped
    exact upheld_step reach upheld spares stepped

/-- In every run that takes nothing away from a mint in use, the mint of an open position of the curve
is tracked; and no task takes the mint out that has counted the position as open. -/
theorem open_position_tracked (reach : (process setup).Reachable World.Starts SparesUsed s) {key : PositionKey}
    {p : Position} (stored : s.world.autoSell.getPosition key = some p) (route : p.route = .pumpfun)
    (isOpen : p.state.isOpen = true) :
    s.world.subscriber.Tracks p.tokenMint ∧
      ∀ (i : ℕ) t, s.tasks[i]? = some t → removes t.role = true → (removal t.past).sawOpen key = false :=
  ⟨(upheld_reachable reach).inUse p.tokenMint (held_inUse stored (heldMint_eq.mpr ⟨route, isOpen, rfl⟩)),
    fun _ _ here concerned => counted_kept reach here concerned key⟩

/-- Two groups hold the mint, and the first one sells. -/
theorem open_position_tracked_sample : ∃ s, (process sampleSetup).Reachable World.Starts SparesUsed s ∧
    (∃ q, s.world.autoSell.getPosition ⟨"g1", 5⟩ = some q ∧ q.state = .closed) ∧
    ∃ p, s.world.autoSell.getPosition ⟨"g2", 5⟩ = some p ∧ s.world.subscriber.Tracks p.tokenMint := by
  obtain ⟨s, reach, passes⟩ := reaches sampleSetup SparesUsed pairGroups
    (sampleIntake 0 (sampleTrade "t1" false) ++ [.run 0 .nothing] ++ sampleBuy 1 1000 "b1" ++ sampleBuy 2 700 "b2" ++
      sampleClosing 5 ++ runs 5 [.nothing])
    (fun s => (s.world.autoSell.getPosition ⟨"g1", 5⟩).any (·.state = .closed) &&
      (s.world.autoSell.getPosition ⟨"g2", 5⟩).any fun p => p.route = .pumpfun && p.state.isOpen) (by decide +kernel)
  simp only [Bool.and_eq_true, decide_eq_true_eq, Option.any_eq_true] at passes
  obtain ⟨closed, p, stored, route, isOpen⟩ := passes
  exact ⟨s, reach, closed, p, stored, (open_position_tracked reach stored route isOpen).1⟩

/-- The first group sells while the buy of the second one is on its way: no open position is counted,
the mint is dropped, and the second position is stored without its accounts. -/
theorem open_position_dropped : ¬ ∀ s, (process sampleSetup).Reachable World.Starts anyStep s →
    ∀ key p, s.world.autoSell.getPosition key = some p → p.route = .pumpfun → p.state.isOpen = true →
      s.world.subscriber.Tracks p.tokenMint := by
  intro claim
  obtain ⟨s, reach, passes⟩ := reaches sampleSetup anyStep pairGroups
    (sampleIntake 0 (sampleTrade "t1" false) ++ [.run 0 .nothing] ++ sampleBuy 1 1000 "b1" ++
      (sampleBuy 2 700 "b2").take 11 ++ sampleClosing 4 ++ runs 4 (List.replicate 12 .nothing) ++ [.run 2 .nothing])
    (fun s => s.world.subscriber.subscribedAccounts.entries.isEmpty &&
      (s.world.autoSell.getPosition ⟨"g2", 5⟩).any fun p => p.route = .pumpfun && p.state.isOpen) (by decide +kernel)
  simp only [Bool.and_eq_true, decide_eq_true_eq, Option.any_eq_true, List.isEmpty_iff] at passes
  obtain ⟨nothing, p, stored, route, isOpen⟩ := passes
  obtain ⟨⟨curve, _, subscribed⟩, _⟩ := claim s reach _ p stored route isOpen
  exact absurd (DashMap.mem_of_get subscribed) (by simp [nothing])

end CopyTrader.Grpc
