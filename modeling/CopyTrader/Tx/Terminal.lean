import CopyTrader.Tasks.Positions
import CopyTrader.Tx.Activation

/-!
# Terminal states

Marking, confirming and closing refuse a closed or failed position. Four writes do not ask for the
state: marking failed, the two that restore a remembered state, and a partial sale. Each comes from
a task that has looked at the position before. A task is overtaken when the position has been closed
or failed since that look; a terminal position stays as it is in every run in which no overtaken task
writes another state.
-/

namespace CopyTrader.Tx
open Lib AutoSell Main Tasks Program

/-- The position an operation writes without asking for its state. -/
def forcesState : Op → Option PositionKey
  | .confirmFailed key _ | .fallbackConfirm key _ | .restoreAfterSellAttempt key _
  | .suspendAutoSell key _ _ | .applyPartialSell key _ => some key
  | _ => none

/-- The write comes to a position that it would leave as it is. -/
def harmless (p : Position) : Op → Bool
  | .confirmFailed .. => p.state = .failed
  | .fallbackConfirm _ balance => p.state = .failed || p.preBuyAtaBalance < balance
  | .restoreAfterSellAttempt _ state | .suspendAutoSell _ state _ => p.state = state
  | .applyPartialSell _ sold => sold = 0 || p.tokenAmount < sold
  | _ => true

theorem terminal_cases {state : PositionState} (terminal : state.isOpen = false) :
    state = .closed ∨ state = .failed := by
  cases state <;> simp_all [PositionState.isOpen]

theorem drives_of_forces {key : PositionKey} {op : Op} (forces : forcesState op = some key) :
    op.drives = some key := by
  cases op
  case confirmFailed | fallbackConfirm | restoreAfterSellAttempt | suspendAutoSell | applyPartialSell => exact forces
  all_goals cases forces

/-- One operation leaves a terminal position in its state exactly when it does not force another one. -/
theorem stateAfter_terminal {key : PositionKey} {p : Position} {op : Op}
    (terminal : p.state.isOpen = false) :
    op.stateAfter key p = p.state ↔ (forcesState op = some key → harmless p op = true) := by
  have state := terminal_cases terminal
  have refuses : p.markSelling.2 = false := by
    unfold Position.markSelling
    rcases state with closed | failed
    · simp [closed]
    · simp [failed]
  have settled : ¬ (p.state = .confirming ∨ p.state = .submitted) := by
    rcases state with closed | failed
    · simp [closed]
    · simp [failed]
  have idle : p.state ≠ .selling ∧ p.state ≠ .active := by
    rcases state with closed | failed
    · simp [closed]
    · simp [failed]
  have driven := stateAfter_driven key p op
  generalize op.stateAfter key p = after at driven
  cases driven with
  | confirmed => simp [activated_of_settled settled, forcesState]
  | arrived balance above => simp [activated_of_settled settled, forcesState, harmless, above]
  | missing balance below =>
    have unmoved : ¬ p.preBuyAtaBalance < balance := Nat.not_lt.mpr below
    simp [forcesState, harmless, unmoved, eq_comm]
  | failed reason => simp [forcesState, harmless, eq_comm]
  | marked accepts =>
    rw [refuses] at accepts
    cases accepts
  | closed sig selling => exact absurd selling idle.1
  | restored | suspended => simp [forcesState, harmless, eq_comm]
  | reduced sold covered =>
    have refused : ¬ (sold = 0 ∨ p.tokenAmount < sold) := by omega
    simp [forcesState, harmless, Ne.symm idle.2]
    omega
  | uncovered sold refused =>
    have spared : sold = 0 ∨ p.tokenAmount < sold := by omega
    simp [forcesState, harmless, spared]
  | refused | unsold => simp [forcesState]
  | other op elsewhere =>
    have unforced : forcesState op ≠ some key := fun forces => elsewhere (drives_of_forces forces)
    simp [unforced]

/-! ### Looks -/

/-- The position that a task has looked at, and whether it has marked it for a sale. -/
inductive Look where
  | away
  | on (key : PositionKey)
  | marked (key : PositionKey)

def Look.at (q : Look) (key : PositionKey) : Look :=
  match q with
  | .marked key' => .marked key'
  | _ => .on key

def Look.key : Look → Option PositionKey
  | .away => none
  | .on key | .marked key => some key

/-- Follows the look of a task: a buy looks at what it stores, a sale at what it marks. Only a task
that has looked writes a state by force, and its look ends with a write. -/
def lookMonitor : Monitor World Op Ans Look where
  trusts _ := True
  allows q
    | .confirmFailed key _ | .fallbackConfirm key _ => q = .on key
    | .restoreAfterSellAttempt key _ | .suspendAutoSell key _ _ | .applyPartialSell key _ => q = .marked key
    | .spawnConfirm c => q = .on c.positionKey
    | _ => True
  next q e :=
    match e.op, e.answer with
    | .getPosition key, _ => q.at key
    | .addPosition p, _ => .on p.key
    | .markSelling key, answer => if answer then .marked key else q
    | .confirmSuccess .., _ | .confirmFailed .., _ | .fallbackConfirm .., _ | .markClosed .., _
    | .restoreAfterSellAttempt .., _ | .suspendAutoSell .., _ | .applyPartialSell .., _ => .away
    | _, _ => q

/-- A confirm task has looked at its position through the buy that started it. -/
def initialLook : Role → Look
  | .confirm c => .on c.positionKey
  | _ => .away

def lookOf (t : TaskState) : Look := lookMonitor.after (initialLook t.role) t.past

def turnsLook : Op → Bool
  | .getPosition _ | .addPosition _ | .markSelling _ | .confirmSuccess .. | .confirmFailed .. | .fallbackConfirm ..
  | .markClosed .. | .restoreAfterSellAttempt .. | .suspendAutoSell .. | .applyPartialSell .. | .spawnConfirm _ => true
  | _ => false

theorem look_quiet {op : Op} (other : turnsLook op = false) : lookMonitor.Quiet op := by
  cases op <;> first | exact ⟨fun _ => trivial, fun _ _ _ => rfl⟩ | cases other

variable {setup : Setup} {signal : SellSignal} {position : Position} {key : PositionKey} {q : Look}

theorem look_quiet_of_sale (op : Op) (sale : op.ofSale = true) : lookMonitor.Quiet op := by
  cases op <;> first | exact look_quiet rfl | cases sale

theorem finishSold_looks {lastSig : Signature} {expected : ℕ} :
    wp lookMonitor (fun _ _ => True) (finishSold signal position lastSig expected) q := by
  have cleanup : Uses lookMonitor.Quiet (cleanupMintIfUnused position.tokenMint) :=
    cleanupMintIfUnused_uses (look_quiet rfl) (look_quiet rfl) (fun _ => look_quiet rfl) (look_quiet rfl) (look_quiet rfl)
  refine wp_perform trivial fun _ _ _ => ?_
  refine wp_quiet_bind cleanup fun _ => ?_
  exact wp_perform trivial fun _ _ _ => wp_quiet (uses_call.mpr (look_quiet rfl)) fun _ => trivial

theorem finishUnsold_looks {failureReason : String} :
    wp lookMonitor (fun _ _ => True) (finishUnsold signal position failureReason) (.marked signal.positionKey) := by
  refine wp_perform trivial fun _ current _ => ?_
  apply wp_ite
  · exact fun _ => wp_perform rfl fun _ _ _ => wp_quiet (uses_call.mpr (look_quiet rfl)) fun _ => trivial
  · exact fun _ => wp_perform rfl fun _ _ _ => wp_quiet (uses_call.mpr (look_quiet rfl)) fun _ => trivial

theorem sellMarked_looks {snapshot : Option SellAccountSnapshot} {balance tokenAmount : ℕ} :
    wp lookMonitor (fun _ _ => True) (sellMarked setup signal position snapshot balance tokenAmount)
      (.marked signal.positionKey) := by
  refine wp_quiet_bind (sellRoute_uses fun _ => look_quiet rfl) fun routeViaJupiter => ?_
  refine wp_quiet_bind (uses_mono look_quiet_of_sale sellAttempts_within) fun outcome => ?_
  cases outcome with
  | sold lastSig => exact finishSold_looks
  | unsold failureReason => exact finishUnsold_looks

theorem marking_looks {sale : Prog Unit} (looks : wp lookMonitor (fun _ _ => True) sale (.marked key)) :
    wp lookMonitor (fun _ _ => True)
      (do
        let marked ← perform (.markSelling key)
        if marked then sale) q := by
  refine wp_perform trivial fun _ marked _ => ?_
  cases marked with
  | true => exact looks
  | false => trivial

theorem sellPosition_looks {snapshot : Option SellAccountSnapshot} :
    wp lookMonitor (fun _ _ => True) (sellPosition setup signal position snapshot) (.on signal.positionKey) := by
  refine wp_quiet_bind (currentBalance_uses (look_quiet rfl) (look_quiet rfl)) fun currentAtaBalance => ?_
  apply wp_ite
  · intro _
    refine wp_quiet_bind (uses_call.mpr (look_quiet rfl)) fun skips => ?_
    exact wp_ite (fun _ => ⟨rfl, fun _ _ _ => trivial⟩) fun _ => trivial
  · exact fun _ => marking_looks sellMarked_looks

/-- Nothing has been marked yet. -/
def Look.Idle (q : Look) : Prop := ∀ key, q.at key = .on key

theorem handleSellSignal_looks (idle : q.Idle) :
    wp lookMonitor (fun _ _ => True) (handleSellSignal setup signal) q := by
  refine handleSellSignal_wp trivial (fun _ => look_quiet rfl) (fun _ _ => trivial) fun w position snapshot => ?_
  have looks : lookMonitor.next q ⟨w, .getPosition signal.positionKey, some position⟩ = .on signal.positionKey :=
    idle signal.positionKey
  rw [looks]
  exact sellPosition_looks

theorem partialSellMarked_looks (signal : SellSignal) {mint : Pubkey} {sellAmount percent : ℕ} :
    wp lookMonitor (fun _ _ => True) (partialSellMarked signal position mint sellAmount percent)
      (.marked signal.positionKey) := by
  refine wp_quiet_bind (trySellPart_uses (fun _ => look_quiet rfl) (fun _ => look_quiet rfl)
    (fun _ => look_quiet rfl) (look_quiet rfl)) fun sent => ?_
  cases sent with
  | ok sig =>
    refine wp_perform rfl fun _ _ _ => ?_
    refine wp_quiet_bind (uses_call.mpr (look_quiet rfl)) fun _ => ?_
    exact wp_quiet (uses_call.mpr (look_quiet rfl)) fun _ => trivial
  | error err => exact wp_perform rfl fun _ _ _ => trivial

theorem handlePartialSell_looks {groupId : String} {mint : Pubkey} {percent : ℕ} :
    wp lookMonitor (fun _ _ => True) (handlePartialSell setup groupId mint percent) .away := by
  apply handlePartialSell_wp trivial
  · exact fun _ _ => trivial
  · exact fun _ w position => handleSellSignal_looks fun _ => rfl
  · exact fun _ w position => marking_looks (partialSellMarked_looks (manualSignal groupId mint position))

theorem fallbackCheck_looks (idle : q.Idle) :
    wp lookMonitor (fun _ q => q.Idle) (fallbackCheck setup key) q := by
  refine wp_perform trivial fun w found _ => ?_
  have looks : lookMonitor.next q ⟨w, .getPosition key, found⟩ = .on key := idle key
  rw [looks]
  have on : (Look.on key).Idle := fun _ => rfl
  cases found with
  | none => exact on
  | some snapshot =>
    refine wp_quiet_bind (uses_call.mpr (look_quiet rfl)) fun t => ?_
    apply wp_ite
    · intro _
      refine wp_quiet_bind (uses_call.mpr (look_quiet rfl)) fun answer => ?_
      exact ⟨rfl, fun _ _ _ _ => rfl⟩
    · intro _
      have quotes : Uses lookMonitor.Quiet (fallbackQuote snapshot) :=
        uses_bind (uses_call.mpr (look_quiet rfl)) fun curve => uses_ite (uses_call.mpr (look_quiet rfl)) trivial
      refine wp_quiet_bind quotes fun quote => wp_quiet_bind (uses_call.mpr (look_quiet rfl)) fun signal => ?_
      cases signal with
      | none => exact on
      | some signal => exact wp_quiet (uses_call.mpr (look_quiet rfl)) fun _ => on

theorem fallbackPass_looks : wp lookMonitor (fun _ _ => True) (fallbackPass setup) .away := by
  have checks (keys : List PositionKey) (q : Look) (idle : q.Idle) :
      wp lookMonitor (fun _ q => q.Idle) (fallbackChecks setup keys) q := by
    induction keys generalizing q with
    | nil => exact idle
    | cons key rest ih => exact wp_seq (fallbackCheck_looks idle) fun _ q idle => ih q idle
  refine wp_quiet_bind (uses_call.mpr (look_quiet rfl)) fun keys => ?_
  apply wp_ite
  · exact fun _ => trivial
  · exact fun _ => wp_seq (checks keys .away fun _ => rfl) fun _ _ _ =>
      wp_quiet (uses_call.mpr (look_quiet rfl)) fun _ => trivial

theorem bondingCurveUpdate_looks {mint : Pubkey} {state : Processor.BondingCurveState} :
    wp lookMonitor (fun _ _ => True) (bondingCurveUpdate mint state) q := by
  have quiet (keys : List PositionKey) : Uses lookMonitor.Quiet (grpcChecks state keys) := by
    induction keys with
    | nil => trivial
    | cons key rest ih =>
      refine uses_bind (uses_call.mpr (look_quiet rfl)) fun signal => uses_bind ?_ fun _ => ih
      cases signal with
      | none => trivial
      | some signal => exact uses_call.mpr (look_quiet rfl)
  exact wp_quiet_bind (uses_call.mpr (look_quiet rfl)) fun keys => wp_quiet (quiet keys) fun _ => trivial

theorem buyConfirm_looks {c : ConfirmTask} :
    wp lookMonitor (fun _ _ => True) (buyConfirm c) (.on c.positionKey) := by
  have lost {reason tgReason : String} :
      wp lookMonitor (fun _ _ => True) (confirmLost c reason tgReason) (.on c.positionKey) :=
    wp_perform rfl fun _ _ _ => wp_quiet (uses_call.mpr (look_quiet rfl)) fun _ => trivial
  have bought {tokenBalance : ℕ} : wp lookMonitor (fun _ _ => True) (confirmBought c tokenBalance) (.on c.positionKey) := by
    refine wp_quiet_bind (uses_call.mpr (look_quiet rfl)) fun curve => ?_
    refine wp_quiet_bind (uses_call.mpr (look_quiet rfl)) fun openPositions => wp_perform trivial fun _ _ _ => ?_
    refine wp_quiet (uses_bind (uses_call.mpr (look_quiet rfl)) fun _ => ?_) fun _ => trivial
    exact uses_bind (uses_call.mpr (look_quiet rfl)) fun _ => uses_call.mpr (look_quiet rfl)
  refine wp_quiet_bind (uses_call.mpr (look_quiet rfl)) fun start => ?_
  have round (seen : Bool) (tokenBalance : ℕ) : Uses lookMonitor.Quiet (buyConfirmRound c seen tokenBalance) :=
    buyConfirmRound_uses (look_quiet rfl) (look_quiet rfl) (look_quiet rfl) (look_quiet rfl)
  refine wp_quiet_bind (buyConfirmLoop_uses (look_quiet rfl) (fun _ => look_quiet rfl) round) fun known => ?_
  cases known with
  | error err => exact lost
  | ok known =>
    refine wp_quiet_bind (pollTransaction_uses (look_quiet rfl)) fun tokenBalance => ?_
    exact wp_ite (fun _ => bought) fun _ => wp_ite (fun _ => lost) fun _ => lost

theorem submitBuy_looks {p : Position} {userAta : Pubkey} {sol : ℚ} {estimatedTokensRaw : ℕ} :
    wp lookMonitor (fun _ _ => True) (submitBuy setup p userAta sol estimatedTokensRaw) q := by
  refine wp_quiet_bind (uses_call.mpr (look_quiet rfl)) fun sent => ?_
  cases sent with
  | error err => exact wp_quiet_bind (uses_call.mpr (look_quiet rfl)) fun _ => trivial
  | ok sig =>
    refine wp_quiet_bind (uses_call.mpr (look_quiet rfl)) fun _ => ?_
    apply wp_ite
    · intro _
      refine wp_perform trivial fun _ _ _ => ?_
      exact wp_perform (congrArg Look.on (sentPosition_key p sig)) fun _ _ _ => trivial
    · exact fun _ => trivial

theorem claimedBuy_looks {claim : GroupMintKey} {wrapper : Bool} {buy : Prog Bool}
    (looks : wp lookMonitor (fun _ _ => True) buy .away) :
    wp lookMonitor (fun _ _ => True) (claimedBuy claim wrapper buy) .away := by
  refine wp_quiet_bind (uses_call.mpr (look_quiet rfl)) fun permit => wp_ite (fun _ => ?_) fun _ => trivial
  refine wp_quiet_bind (uses_call.mpr (look_quiet rfl)) fun started => wp_ite (fun _ => ?_) fun _ => trivial
  exact wp_seq looks fun _ _ _ => wp_quiet (uses_call.mpr (look_quiet rfl)) fun _ => trivial

theorem look_quiet_of_quoting (op : Op) (quotes : op.ofQuoting = true) : lookMonitor.Quiet op := by
  cases op <;> first | exact look_quiet rfl | cases quotes

theorem code_looks (role : Role) : wp lookMonitor (fun _ _ => True) (role.code setup) (initialLook role) := by
  have others (free : ∀ op, role.alphabet op = true → turnsLook op = false ∨ ∃ key, op = .getPosition key) :
      wp lookMonitor (fun _ _ => True) (role.code setup) (initialLook role) := by
    refine wp_keeps (uses_mono (fun op member q _ => ⟨?_, fun _ _ _ => trivial⟩) (code_within setup role)) trivial
    obtain other | ⟨key, rfl⟩ := free op member
    · exact (look_quiet other).1 q
    · trivial
  cases role with
  | sell signal => exact handleSellSignal_looks fun _ => rfl
  | partialSell groupId mint percent => exact handlePartialSell_looks
  | fallback => exact fallbackPass_looks
  | confirm c => exact buyConfirm_looks
  | buy b cause =>
    exact claimedBuy_looks (executeBuy_wp look_quiet_of_quoting trivial fun p sol estimatedTokensRaw _ _ => submitBuy_looks)
  | externalBuy b cause =>
    exact claimedBuy_looks
      (executeExternalBuy_wp look_quiet_of_quoting trivial fun p sol estimatedTokensRaw _ _ _ => submitBuy_looks)
  | grpc mint state => exact bondingCurveUpdate_looks
  | _ =>
    apply others
    intro op member
    cases op <;> first | exact Or.inl rfl | exact Or.inr ⟨_, rfl⟩ | cases member

theorem looks_obeyed {starts : World → Prop} {ok : State → Step → Prop} {s : State}
    (reach : (process setup).Reachable starts ok s) {i : ℕ} {t : TaskState} (here : s.tasks[i]? = some t) :
    t.rest.wp lookMonitor (fun _ _ => True) (lookOf t) :=
  reach.obeys (fun _ => lookMonitor) initialLook (fun _ => True) (fun _ _ => True) (fun role _ => code_looks role)
    (fun _ _ _ _ _ _ _ _ _ _ _ _ => trivial) here trivial

theorem lookOf_snoc (role : Role) (past : List Moment) (e : Moment) (rest rest' : Prog Unit) :
    lookOf ⟨role, past ++ [e], rest⟩ = lookMonitor.next (lookOf ⟨role, past, rest'⟩) e :=
  Monitor.after_snoc ..

/-! ### Overtaken tasks -/

/-- The position is stored, closed or failed. -/
def hasEnded (key : PositionKey) (w : World) : Bool := (w.autoSell.getPosition key).any fun p => !p.state.isOpen

/-- The operation closes or fails the stored position. -/
def endsPosition (key : PositionKey) (w : World) (op : Op) : Bool :=
  (w.autoSell.getPosition key).any fun p => p.state.isOpen && !(op.stateAfter key p).isOpen

/-- Who is overtaken after an operation of task `i`: when it ends the position, every other task;
when it looks at the position, the task itself if the position has ended. A confirm task is
overtaken as the buy that starts it, and a new buy has been overtaken by nobody. -/
def overtakeBy (key : PositionKey) (s : State) (i : ℕ) (flags : ℕ → Bool) : Op → ℕ → Bool
  | .addPosition p => if p.key = key then fun _ => false else flags
  | .getPosition key' => if key' = key then Function.update flags i (hasEnded key s.world) else flags
  | .spawnConfirm c => if c.positionKey = key then Function.update flags s.tasks.length (flags i) else flags
  | op => if endsPosition key s.world op then fun j => flags j || decide (j ≠ i) else flags

/-- The operations that say more of who is overtaken than what they do to the position. -/
def regards : Op → Bool
  | .addPosition _ | .getPosition _ | .spawnConfirm _ => true
  | _ => false

def overtake (key : PositionKey) (flags : ℕ → Bool) (m : State × Step) : ℕ → Bool :=
  match m.2, performed m.1 m.2 with
  | .run i _, some op => overtakeBy key m.1 i flags op
  | _, _ => flags

/-- The tasks that have been overtaken in a history. -/
def overtaken (key : PositionKey) (h : History) : ℕ → Bool := h.foldl (overtake key) fun _ => false

/-- A task that has been overtaken forces no other state on the position. -/
def inTime (key : PositionKey) (flags : ℕ → Bool) (m : State × Step) : Bool :=
  match m.2, performed m.1 m.2 with
  | .run i _, some op =>
    !flags i || decide (forcesState op ≠ some key) || (m.1.world.autoSell.getPosition key).all (harmless · op)
  | _, _ => true

def timelyFrom (key : PositionKey) (flags : ℕ → Bool) : History → Bool
  | [] => true
  | m :: rest => inTime key flags m && timelyFrom key (overtake key flags m) rest

/-- No task forces another state on the position after it has been overtaken. -/
def Timely (key : PositionKey) (h : History) : Prop := timelyFrom key (fun _ => false) h = true

variable {h later : History} {s s' : State} {step : Step}

theorem overtaken_snoc (m : State × Step) : overtaken key (h ++ [m]) = overtake key (overtaken key h) m :=
  List.foldl_append ..

theorem timelyFrom_append (flags : ℕ → Bool) : timelyFrom key flags (h ++ later) =
    (timelyFrom key flags h && timelyFrom key (h.foldl (overtake key) flags) later) := by
  induction h generalizing flags with
  | nil => rfl
  | cons m rest ih => rw [List.cons_append, timelyFrom, timelyFrom, ih, List.foldl_cons, Bool.and_assoc]

theorem timely_append : Timely key (h ++ later) ↔ Timely key h ∧ timelyFrom key (overtaken key h) later = true := by
  rw [Timely, timelyFrom_append, Bool.and_eq_true]
  rfl

/-- Every task that has looked at an ended position, and not written it since, has been overtaken. -/
def LookersOvertaken (key : PositionKey) (h : History) (s : State) : Prop :=
  hasEnded key s.world = true →
    ∀ (i : ℕ) (t : TaskState), s.tasks[i]? = some t → (lookOf t).key = some key → overtaken key h i = true

/-- An ended position keeps its state over a step that is in time. -/
theorem state_of_inTime {op : Op} {i : ℕ} {t : TaskState} {next : Ans op → Prog Unit} {choice : Choice} {p : Position}
    (reach : (process setup).Reachable World.Starts anyStep s) (lookers : LookersOvertaken key h s)
    (here : s.tasks[i]? = some t) (rest : t.rest = .perform op next)
    (timely : inTime key (overtaken key h) (s, .run i choice) = true)
    (stored : s.world.autoSell.getPosition key = some p) (terminal : p.state.isOpen = false) :
    op.stateAfter key p = p.state := by
  refine (stateAfter_terminal terminal).mpr fun forces => ?_
  have allowed : lookMonitor.allows (lookOf t) op := by
    have obeyed := looks_obeyed reach here
    rw [rest] at obeyed
    exact obeyed.1
  have looks : (lookOf t).key = some key := by
    cases op
    case confirmFailed | fallbackConfirm | restoreAfterSellAttempt | suspendAutoSell | applyPartialSell =>
      rw [show lookOf t = _ from allowed]
      exact forces
    all_goals cases forces
  have late := lookers (by simp [hasEnded, stored, terminal]) i t here looks
  have performs : performed s (.run i choice) = some op := by
    obtain ⟨role, past, rest'⟩ := t
    obtain rfl : rest' = _ := rest
    simp [performed, here]
  simpa [inTime, performs, late, forces, stored] using timely

/-- A task that ends a position has no look at it any more. -/
theorem next_of_ends {w : World} {op : Op} {answer : Ans op} {p : Position} (opened : p.state.isOpen = true)
    (ends : (op.stateAfter key p).isOpen = false) : lookMonitor.next q ⟨w, op, answer⟩ = .away := by
  cases op
  case confirmSuccess | confirmFailed | fallbackConfirm | markClosed | restoreAfterSellAttempt | suspendAutoSell |
      applyPartialSell => rfl
  case markSelling key' =>
    dsimp only [Op.stateAfter] at ends
    split at ends
    · split at ends
      · cases ends
      · rw [opened] at ends
        cases ends
    · rw [opened] at ends
      cases ends
  all_goals
    rw [stateAfter_other p (fun drives => by cases drives), opened] at ends
    cases ends

theorem overtake_ran {i : ℕ} {choice : Choice} {t : TaskState} {op : Op} {next : Ans op → Prog Unit} {flags : ℕ → Bool}
    (here : s.tasks[i]? = some t) (rest : t.rest = .perform op next) :
    overtake key flags (s, .run i choice) = overtakeBy key s i flags op := by
  obtain ⟨role, past, rest'⟩ := t
  obtain rfl : rest' = _ := rest
  simp [overtake, performed, here]

theorem overtakeBy_other {flags : ℕ → Bool} {i : ℕ} {op : Op} (other : regards op = false) :
    overtakeBy key s i flags op = if endsPosition key s.world op then fun j => flags j || decide (j ≠ i) else flags := by
  cases op <;> first | rfl | cases other

/-- The operation that ends a position overtakes all other tasks. -/
theorem overtakeBy_ends {flags : ℕ → Bool} {i j : ℕ} {op : Op} (ends : endsPosition key s.world op = true)
    (other : j ≠ i) : overtakeBy key s i flags op j = true := by
  cases regarding : regards op with
  | false => simp [overtakeBy_other regarding, ends, other]
  | true =>
    obtain ⟨p, stored, moves⟩ := (Option.any_eq_true ..).mp ends
    have still : op.stateAfter key p = p.state := by
      cases op
      case addPosition | getPosition | spawnConfirm => rfl
      all_goals cases regarding
    rw [still] at moves
    simp at moves

/-- While the position has ended, only a new buy frees a task. -/
theorem overtakeBy_keeps {flags : ℕ → Bool} {i j : ℕ} {op : Op} (ended : hasEnded key s.world = true)
    (replaces : ∀ p, op = .addPosition p → p.key ≠ key) (old : j < s.tasks.length) (late : flags j = true) :
    overtakeBy key s i flags op j = true := by
  cases regarding : regards op with
  | false =>
    rw [overtakeBy_other regarding]
    split
    · simp [late]
    · exact late
  | true =>
    cases op
    case addPosition p =>
      rw [overtakeBy, if_neg (replaces p rfl)]
      exact late
    case getPosition key' =>
      rw [overtakeBy]
      split
      · by_cases same : j = i
        · rw [same, Function.update_self, ended]
        · rw [Function.update_of_ne same, late]
      · exact late
    case spawnConfirm c =>
      rw [overtakeBy]
      split
      · rw [Function.update_of_ne (Nat.ne_of_lt old), late]
      · exact late
    all_goals cases regarding

/-- A task that runs over an ended position and still looks at it has looked before, or looks now. -/
theorem looked_before {w w' : World} {op : Op} {choice : Choice} {answer : Ans op}
    (ended : hasEnded key w = true) (reply : w.respond op choice = some (answer, w'))
    (replaces : ∀ p, op = .addPosition p → p.key ≠ key)
    (looks : (lookMonitor.next q ⟨w, op, answer⟩).key = some key) : q.key = some key ∨ op = .getPosition key := by
  cases turns : turnsLook op with
  | false =>
    rw [(look_quiet turns).2] at looks
    exact Or.inl looks
  | true =>
    cases op
    case getPosition key' =>
      cases q with
      | marked => exact Or.inl looks
      | away | on =>
        obtain rfl := Option.some.inj looks
        exact Or.inr rfl
    case addPosition p => exact absurd (Option.some.inj looks) (replaces p rfl)
    case markSelling key' =>
      cases answer with
      | false => exact Or.inl looks
      | true =>
        obtain rfl := Option.some.inj looks
        have accepts : (w.autoSell.markSelling key').2 = true := congrArg Prod.fst (Option.some.inj reply)
        obtain ⟨p, stored, closed⟩ := (Option.any_eq_true ..).mp ended
        unfold AutoSellManager.markSelling at accepts
        rw [stored] at accepts
        have state := terminal_cases (by simpa using closed)
        unfold Position.markSelling at accepts
        rcases state with closed | failed
        · simp [closed] at accepts
        · simp [failed] at accepts
    case spawnConfirm => exact Or.inl looks
    case confirmSuccess | confirmFailed | fallbackConfirm | markClosed | restoreAfterSellAttempt | suspendAutoSell |
        applyPartialSell => cases looks
    all_goals cases turns

theorem lookers_step (reach : (process setup).Reachable World.Starts anyStep s) (lookers : LookersOvertaken key h s)
    (stepped : (process setup).Stepped s step s') : LookersOvertaken key (h ++ [(s, step)]) s' := by
  intro ended i t' here' looks
  rw [overtaken_snoc]
  have task := stepped.task here'
  cases stepped with
  | disturbed env world change =>
    have same : hasEnded key s.world = true := by
      rw [hasEnded, disturb_autoSell change] at ended
      exact ended
    exact lookers same i t' here' looks
  | started role opens =>
    rcases task with ⟨role', rfl, place, begun⟩ | ⟨t, here, moved⟩
    · cases begun with
      | opened =>
        cases role with
        | confirm c => cases opens
        | _ => cases looks
    · cases moved with
      | still => exact lookers ended i t' here looks
      | ran choice runs => cases runs
  | ran j choice role past op next here answer world reply =>
    rw [overtake_ran here rfl]
    obtain ⟨p', stored', closed⟩ := (Option.any_eq_true ..).mp ended
    rw [Bool.not_eq_true'] at closed
    rw [getPosition_after reply] at stored'
    have replaces : ∀ q, op = .addPosition q → q.key ≠ key := by
      rintro q rfl same
      obtain rfl : q = p' := by simpa [Op.positionAfter, same] using stored'
      have member : role.alphabet (.addPosition q) = true := performs_within reach here rfl
      have confirming : q.state = .confirming := by
        cases role
        case buy | externalBuy =>
          simp only [Role.alphabet, Op.ofBuy, Op.ofExecute, Bool.and_eq_true, decide_eq_true_eq] at member
          exact member.2
        all_goals cases member
      rw [confirming] at closed
      cases closed
    obtain ⟨rfl, same⟩ | ⟨p, stored, rfl⟩ := positionAfter_cases stored'
    · exact absurd same (replaces p' rfl)
    rw [rewrite_state] at closed
    cases opened : p.state.isOpen with
    | true =>
      -- the step ends the position
      have ends : endsPosition key s.world op = true := by simp [endsPosition, stored, opened, closed]
      refine overtakeBy_ends ends ?_
      rintro rfl
      rw [System.getElem?_ran here] at here'
      obtain rfl := Option.some.inj here'
      rw [lookOf_snoc _ _ _ _ (.perform op next), next_of_ends opened closed] at looks
      cases looks
    | false =>
      have before : hasEnded key s.world = true := by simp [hasEnded, stored, opened]
      rcases task with ⟨role', rfl, rfl, begun⟩ | ⟨t, there, moved⟩
      · cases begun with
        | forked _ _ t op' next' there rest _ forks =>
          obtain rfl := Option.some.inj (here.symm.trans there)
          cases rest
          obtain ⟨c, rfl, own⟩ : ∃ c, op = .spawnConfirm c ∧ c.positionKey = key := by
            cases op
            case spawnConfirm c =>
              cases forks
              exact ⟨c, rfl, Option.some.inj looks⟩
            all_goals
              cases forks
              try cases looks
          have allowed : lookOf _ = .on c.positionKey := (looks_obeyed reach here).1
          have late := lookers before j _ here (by rw [allowed, ← own]; rfl)
          simp [overtakeBy, own, late]
      · have old : i < s.tasks.length := (List.getElem?_eq_some_iff.mp there).1
        cases moved with
        | still => exact overtakeBy_keeps before replaces old (lookers before i t' there looks)
        | ran choice' runs op' next' rest answer' reply' =>
          obtain ⟨rfl, rfl⟩ := Label.run.inj runs
          obtain rfl := Option.some.inj (here.symm.trans there)
          cases rest
          rw [lookOf_snoc _ _ _ _ (.perform op next)] at looks
          rcases looked_before before reply' replaces looks with earlier | rfl
          · exact overtakeBy_keeps before replaces old (lookers before _ _ here earlier)
          · simp [overtakeBy, before]

/-! ### Runs -/

theorem lookers_of_traced (traced : (process setup).Traced World.Starts anyStep h s) : LookersOvertaken key h s := by
  refine traced.invariant (I := fun h s => LookersOvertaken key h s) ?_ ?_
  · intro w start _ i t here
    cases here
  · exact fun h s step s' traced lookers _ stepped => lookers_step traced.reachable lookers stepped

/-- The steps that store no new position under the key. -/
def keepsStored (key : PositionKey) (m : State × Step) : Bool :=
  (performed m.1 m.2).all fun
    | .addPosition p => p.key ≠ key
    | _ => true

/-- One step that is in time keeps the state of an ended position. -/
theorem terminal_step {state : PositionState} (traced : (process setup).Traced World.Starts anyStep h s)
    (timely : inTime key (overtaken key h) (s, step) = true) (keeps : keepsStored key (s, step) = true)
    (terminal : state.isOpen = false) (before : ∀ p, s.world.autoSell.getPosition key = some p → p.state = state)
    (stepped : (process setup).Stepped s step s') :
    ∀ p, s'.world.autoSell.getPosition key = some p → p.state = state := by
  intro p' stored'
  cases stepped with
  | started role opens => exact before p' stored'
  | disturbed env world change =>
    rw [disturb_autoSell change] at stored'
    exact before p' stored'
  | ran i choice role past op next here answer world reply =>
    rw [getPosition_after reply] at stored'
    rcases positionAfter_cases stored' with ⟨rfl, same⟩ | ⟨p, stored, rfl⟩
    · simp [keepsStored, performed, here, same] at keeps
    · have old := before p stored
      rw [rewrite_state, ← old]
      exact state_of_inTime traced.reachable (lookers_of_traced traced) here rfl timely stored (old ▸ terminal)

theorem terminal_run {state : PositionState} {steps : List Step}
    (traced : (process setup).Traced World.Starts anyStep h s) (ran : (process setup).trace s steps = some (later, s'))
    (timely : timelyFrom key (overtaken key h) later = true) (keeps : ∀ m ∈ later, keepsStored key m = true)
    (terminal : state.isOpen = false) (before : ∀ p, s.world.autoSell.getPosition key = some p → p.state = state) :
    ∀ p, s'.world.autoSell.getPosition key = some p → p.state = state := by
  induction steps generalizing h s later with
  | nil =>
    obtain ⟨-, rfl⟩ := Prod.mk.inj (Option.some.inj ran)
    exact before
  | cons step steps ih =>
    obtain ⟨mid, later', taken, rest, rfl⟩ := System.trace_cons ran
    rw [timelyFrom, Bool.and_eq_true, ← overtaken_snoc] at timely
    obtain ⟨now, timely⟩ := timely
    obtain ⟨kept, keeps⟩ := List.forall_mem_cons.mp keeps
    exact ih (.step h s mid step traced trivial taken) rest timely keeps
      (terminal_step traced now kept terminal before (System.step_cases taken))

/-- A closed or failed position stays so until it is dropped or replaced by a new buy, in every run
in which no overtaken task forces another state on it. -/
theorem terminal_stays {steps : List Step} {p p' : Position}
    (traced : (process setup).Traced World.Starts anyStep h s) (ran : (process setup).trace s steps = some (later, s'))
    (timely : Timely key (h ++ later)) (keeps : ∀ m ∈ later, keepsStored key m = true)
    (stored : s.world.autoSell.getPosition key = some p) (terminal : p.state.isOpen = false)
    (stored' : s'.world.autoSell.getPosition key = some p') : p'.state = p.state := by
  refine terminal_run traced ran (timely_append.mp timely).2 keeps terminal ?_ p' stored'
  intro q found
  rw [stored, Option.some.injEq] at found
  rw [found]

/-! ### Samples -/

/-- A sale of the sample position by task `i`, sized by a balance and confirmed by what it leaves. -/
def sampleSold (i : ℕ) (balance left : ℕ) : List Step :=
  .start (.sell ⟨⟨"g1", 5⟩, "first", .manual, 0, 0⟩) ::
    runs i [.nothing, .nothing, .balance (sampleAnswer balance), .nothing, .migrated none, .sent (.ok "s1"),
      .nothing, .nothing, .nothing, .nothing] ++
    .disturb (.tick (Duration.fromMillis SELL_POLL_MS)) ::
    runs i [.nothing, .status .rpcError, .balance (sampleAnswer left), .nothing]

def sampleClosing (i : ℕ) : List Step := sampleSold i 1000 0

/-- The position is sold and closed while its confirm task waits. -/
def sampleClosed : List Step :=
  sampleIntake 0 (sampleTrade "t1" false) ++ sampleBuy 1 1000 "b1" ++ sampleClosing 3

/-- A second signal finds the closed position and no tokens; the confirm task goes on. -/
def sampleAfterwards : List Step :=
  .start (.sell ⟨⟨"g1", 5⟩, "first", .manual, 0, 0⟩) ::
    runs 4 [.nothing, .nothing, .balance (sampleAnswer 0), .nothing] ++ runs 2 [.nothing, .nothing]

theorem terminal_stays_sample : ∃ h s later s' p p', (process sampleSetup).Traced World.Starts anyStep h s ∧
    (process sampleSetup).trace s sampleAfterwards = some (later, s') ∧
    s.world.autoSell.getPosition ⟨"g1", 5⟩ = some p ∧ p.state = .closed ∧
    s'.world.autoSell.getPosition ⟨"g1", 5⟩ = some p' ∧ p'.state = p.state := by
  have start : (process sampleSetup).Traced World.Starts anyStep [] ⟨World.new sampleGroups, []⟩ :=
    .init _ (World.new_starts sampleGroups)
  have passes : ((process sampleSetup).trace ⟨World.new sampleGroups, []⟩ sampleClosed).any (fun ran =>
      (ran.2.world.autoSell.getPosition ⟨"g1", 5⟩).any (·.state = .closed) &&
        ((process sampleSetup).trace ran.2 sampleAfterwards).any fun more =>
          timelyFrom ⟨"g1", 5⟩ (fun _ => false) (ran.1 ++ more.1) && more.1.all (keepsStored ⟨"g1", 5⟩) &&
            (more.2.world.autoSell.getPosition ⟨"g1", 5⟩).isSome) = true := by decide +kernel
  simp only [Option.any_eq_true, Bool.and_eq_true, decide_eq_true_eq, Option.isSome_iff_exists, List.all_eq_true]
    at passes
  obtain ⟨⟨h, s⟩, ran, ⟨p, stored, closed⟩, ⟨later, s'⟩, more, ⟨timely, keeps⟩, p', stored'⟩ := passes
  have traced : (process sampleSetup).Traced World.Starts anyStep h s := start.of_trace (fun _ _ => trivial) ran
  refine ⟨h, s, later, s', p, p', traced, more, stored, closed, stored', ?_⟩
  exact terminal_stays traced more timely keeps stored (by rw [closed]; rfl) stored'

/-- The confirm task learns that the buy has failed while a partial sale is under way. -/
def sampleOvertakenSale : List Step :=
  sampleIntake 0 (sampleTrade "t1" false) ++ sampleBuy 1 50 "b1" ++
    .start (.partialSell "g1" 5 50) :: runs 3 [.nothing, .nothing] ++
    runs 2 [.nothing, .nothing, .nothing, .flag false, .status (.ok (some ⟨some "custom program error"⟩)), .nothing]

/-- The sale is refused, and gives the failed position the state back that it had copied. -/
theorem failed_revives : ¬ ∀ s, (process sampleSetup).Reachable World.Starts anyStep s →
    ∀ key p, s.world.autoSell.getPosition key = some p → p.state.isOpen = false →
    ∀ steps later s', (process sampleSetup).trace s steps = some (later, s') →
    (∀ m ∈ later, keepsStored key m = true) →
    ∀ p', s'.world.autoSell.getPosition key = some p' → p'.state = p.state := by
  intro claim
  obtain ⟨s, reach, passes⟩ := reaches sampleSetup anyStep sampleGroups sampleOvertakenSale
    (fun s => (s.world.autoSell.getPosition ⟨"g1", 5⟩).any (·.state = .failed) &&
      ((process sampleSetup).trace s (runs 3 [.migrated none, .sent (.error "refused"), .nothing])).any
        fun more => more.1.all (keepsStored ⟨"g1", 5⟩) &&
          (more.2.world.autoSell.getPosition ⟨"g1", 5⟩).any (·.state = .confirming)) (by decide +kernel)
  simp only [Option.any_eq_true, Bool.and_eq_true, decide_eq_true_eq, List.all_eq_true] at passes
  obtain ⟨⟨p, stored, failed⟩, ⟨later, s'⟩, ran, keeps, p', stored', revived⟩ := passes
  have still := claim s reach _ p stored (by rw [failed]; rfl) _ later s' ran keeps p' stored'
  rw [failed, revived] at still
  cases still

end CopyTrader.Tx
