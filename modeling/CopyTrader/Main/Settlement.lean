import CopyTrader.Lib.Evidence
import CopyTrader.Tasks.Alphabet

/-!
# Buys that were sent

A buy that was sent is handed over to a confirm task of its own, and the confirm task concludes it:
it confirms the position or gives it up, once. So at every moment the buys that were sent are those
still open, those that were confirmed and those that were given up.
-/

namespace CopyTrader.Main
open Lib AutoSell Tasks Program

/-- A buy transaction: what it is for, what it spends, and its signature. -/
structure SentBuy where
  key : PositionKey
  lamports : ℕ
  signature : Signature
  deriving DecidableEq

def sends (x : SentBuy) (e : Moment) : Bool :=
  match e.op, e.answer with
  | .sendBuy groupId mint lamports, .ok signature => (⟨⟨groupId, mint⟩, lamports, signature⟩ : SentBuy) = x
  | _, _ => false

def sentBuy (c : ConfirmTask) : SentBuy := ⟨c.positionKey, c.entrySolAmount, c.signature⟩

/-- The tasks that confirm the buy. -/
def confirms (x : SentBuy) : Role → Bool
  | .confirm c => sentBuy c = x
  | _ => false

def handsOver (x : SentBuy) (op : Op) : Bool := (Tasks.forks op).any (confirms x)

/-! ### From the sending to the confirm task -/

/-- How far a buy task is: its buy was sent, its position was stored, or it has nothing to do. -/
inductive BuyStage where
  | fresh
  | sent (x : SentBuy)
  | stored (x : SentBuy)
  | over
  deriving DecidableEq

def BuyStage.owes (x : SentBuy) : BuyStage → Bool
  | .sent y | .stored y => y = x
  | _ => false

/-- A buy task sends once, stores the position of what it sent, and hands that over. -/
def stageMonitor : Monitor World Op Ans BuyStage where
  trusts _ := True
  allows stage
    | .sendBuy .. => stage = .fresh
    | .addPosition p => stage = .sent ⟨p.key, p.entrySolAmount, p.buySignature⟩
    | .spawnConfirm c => stage = .stored (sentBuy c)
    | _ => True
  next stage e :=
    match e.op, e.answer with
    | .sendBuy groupId mint lamports, .ok signature => .sent ⟨⟨groupId, mint⟩, lamports, signature⟩
    | .sendBuy .., .error _ => .over
    | .addPosition p, _ => .stored ⟨p.key, p.entrySolAmount, p.buySignature⟩
    | .spawnConfirm _, _ => .over
    | _, _ => stage

def turnsStage : Op → Bool
  | .sendBuy .. | .addPosition _ | .spawnConfirm _ => true
  | _ => false

variable {setup : Setup}

theorem quiet_of_unstaged {op : Op} (other : turnsStage op = false) : stageMonitor.Quiet op := by
  cases op <;> first | exact ⟨fun _ => trivial, fun _ _ _ => rfl⟩ | cases other

theorem unstaged_of_quoting (op : Op) (quotes : op.ofQuoting = true) : stageMonitor.Quiet op := by
  cases op <;> first | exact quiet_of_unstaged rfl | cases quotes

theorem sentPosition_bought {p : Position} (sig : Signature) (pending : p.state = .pending) :
    (⟨(sentPosition p sig).key, (sentPosition p sig).entrySolAmount, (sentPosition p sig).buySignature⟩ : SentBuy) =
      ⟨p.key, p.entrySolAmount, sig⟩ := by
  simp [sentPosition, Position.markSubmitted, Position.markConfirming, Position.key, pending]

/-- What a task has done at its end: where positions are sold automatically, every buy that it sent
was handed over. -/
def Handed (setup : Setup) (stage : BuyStage) : Prop :=
  setup.config.autoSellEnabled = true → ∀ x, stage.owes x = false

theorem submitBuy_staged {p : Position} {userAta : Pubkey} {sol : ℚ} {estimatedTokensRaw : ℕ}
    (pending : p.state = .pending) :
    wp stageMonitor (fun _ => Handed setup) (submitBuy setup p userAta sol estimatedTokensRaw) .fresh := by
  refine wp_perform rfl fun w sent _ => ?_
  cases sent with
  | error err => exact wp_quiet_bind (uses_call.mpr (quiet_of_unstaged rfl)) fun _ _ _ => rfl
  | ok sig =>
    refine wp_quiet_bind (uses_call.mpr (quiet_of_unstaged rfl)) fun _ => ?_
    apply wp_ite
    · intro _
      have same := sentPosition_bought sig pending
      refine wp_perform (congrArg BuyStage.sent same.symm) fun _ _ _ => ?_
      exact wp_perform (congrArg BuyStage.stored same) fun _ _ _ _ _ => rfl
    · intro manual automatic
      exact absurd automatic manual

theorem claimedBuy_staged {key : GroupMintKey} {wrapper : Bool} {buy : Prog Bool}
    (staged : wp stageMonitor (fun _ => Handed setup) buy .fresh) :
    wp stageMonitor (fun _ => Handed setup) (claimedBuy key wrapper buy) .fresh := by
  refine wp_quiet_bind (uses_call.mpr (quiet_of_unstaged rfl)) fun permit => wp_ite (fun _ => ?_) fun _ _ _ => rfl
  refine wp_quiet_bind (uses_call.mpr (quiet_of_unstaged rfl)) fun started => wp_ite (fun _ => ?_) fun _ _ _ => rfl
  exact wp_seq staged fun _ _ handed => wp_quiet (uses_call.mpr (quiet_of_unstaged rfl)) fun _ => handed

theorem code_staged (setup : Setup) (role : Role) :
    wp stageMonitor (fun _ => Handed setup) (role.code setup) .fresh := by
  have other (unstaged : ∀ op, role.alphabet op = true → turnsStage op = false) :
      wp stageMonitor (fun _ => Handed setup) (role.code setup) .fresh :=
    wp_quiet (uses_mono (fun op member => quiet_of_unstaged (unstaged op member)) (code_within setup role))
      fun _ _ _ => rfl
  cases role with
  | buy b cause =>
    apply claimedBuy_staged
    exact executeBuy_wp unstaged_of_quoting (fun _ _ => rfl) fun p sol estimatedTokensRaw pending _ =>
      submitBuy_staged pending
  | externalBuy b cause =>
    apply claimedBuy_staged
    exact executeExternalBuy_wp unstaged_of_quoting (fun _ _ => rfl) fun p sol estimatedTokensRaw pending _ _ =>
      submitBuy_staged pending
  | _ => exact other fun op member => by cases op <;> first | rfl | cases member

def stageOf (t : TaskState) : BuyStage := stageMonitor.after .fresh t.past

/-- What a task has sent, it has handed over or owes. -/
theorem sends_next {x : SentBuy} {past : List Moment} {stage : BuyStage} {e : Moment}
    (allowed : stageMonitor.allows stage e.op)
    (before : past.countP (sends x) = past.countP (fun e => handsOver x e.op) + if stage.owes x then 1 else 0) :
    (past ++ [e]).countP (sends x) =
      (past ++ [e]).countP (fun e => handsOver x e.op) + if (stageMonitor.next stage e).owes x then 1 else 0 := by
  rw [List.countP_append, List.countP_append, List.countP_singleton, List.countP_singleton, before]
  obtain ⟨w, op, answer⟩ := e
  have other (unsent : sends x ⟨w, op, answer⟩ = false) (kept : handsOver x op = false)
      (same : stageMonitor.next stage ⟨w, op, answer⟩ = stage) :
      past.countP (fun e => handsOver x e.op) + (if stage.owes x then 1 else 0) +
          (if sends x ⟨w, op, answer⟩ then 1 else 0) =
        past.countP (fun e => handsOver x e.op) + (if handsOver x op then 1 else 0) +
          if (stageMonitor.next stage ⟨w, op, answer⟩).owes x then 1 else 0 := by
    rw [unsent, kept, same]
    simp
  cases op
  case sendBuy groupId mint lamports =>
    obtain rfl : stage = .fresh := allowed
    cases answer with
    | error err => rfl
    | ok signature => simp [sends, handsOver, Tasks.forks, stageMonitor, BuyStage.owes]
  case addPosition p =>
    obtain rfl : stage = .sent ⟨p.key, p.entrySolAmount, p.buySignature⟩ := allowed
    simp [sends, handsOver, Tasks.forks, stageMonitor, BuyStage.owes]
  case spawnConfirm c =>
    obtain rfl : stage = .stored (sentBuy c) := allowed
    simp [sends, handsOver, Tasks.forks, confirms, stageMonitor, BuyStage.owes]
  all_goals exact other rfl rfl rfl

/-! ### From the confirm task to its verdict -/

inductive Verdict where
  | pending | bought | lost
  deriving DecidableEq

/-- A confirm task decides once. -/
def verdictMonitor : Monitor World Op Ans Verdict where
  trusts _ := True
  allows v
    | .confirmSuccess .. | .confirmFailed .. => v = .pending
    | _ => True
  next v e :=
    match e.op with
    | .confirmSuccess .. => .bought
    | .confirmFailed .. => .lost
    | _ => v

def decides : Op → Bool
  | .confirmSuccess .. | .confirmFailed .. => true
  | _ => false

theorem quiet_of_undecided {op : Op} (other : decides op = false) : verdictMonitor.Quiet op := by
  cases op <;> first | exact ⟨fun _ => trivial, fun _ _ _ => rfl⟩ | cases other

variable {c : ConfirmTask}

theorem confirmLost_decides {reason tgReason : String} :
    wp verdictMonitor (fun _ v => v ≠ .pending) (Tx.confirmLost c reason tgReason) .pending :=
  wp_perform rfl fun _ _ _ => wp_quiet (uses_call.mpr (quiet_of_undecided rfl)) fun _ => nofun

theorem confirmBought_decides {tokenBalance : ℕ} :
    wp verdictMonitor (fun _ v => v ≠ .pending) (Tx.confirmBought c tokenBalance) .pending := by
  refine wp_quiet_bind (uses_call.mpr (quiet_of_undecided rfl)) fun curve => ?_
  refine wp_quiet_bind (uses_call.mpr (quiet_of_undecided rfl)) fun openPositions => wp_perform rfl fun _ _ _ => ?_
  refine wp_quiet (uses_bind (uses_call.mpr (quiet_of_undecided rfl)) fun _ => ?_) fun _ => nofun
  exact uses_bind (uses_call.mpr (quiet_of_undecided rfl)) fun _ => uses_call.mpr (quiet_of_undecided rfl)

theorem buyConfirm_decides : wp verdictMonitor (fun _ v => v ≠ .pending) (Tx.buyConfirm c) .pending := by
  have quiet {op : Op} (other : decides op = false) := quiet_of_undecided other
  refine wp_quiet_bind (uses_call.mpr (quiet rfl)) fun start => ?_
  have round (seen : Bool) (tokenBalance : ℕ) : Uses verdictMonitor.Quiet (Tx.buyConfirmRound c seen tokenBalance) :=
    Tx.buyConfirmRound_uses (quiet rfl) (quiet rfl) (quiet rfl) (quiet rfl)
  refine wp_quiet_bind (Tx.buyConfirmLoop_uses (quiet rfl) (fun _ => quiet rfl) round) fun known => ?_
  cases known with
  | error err => exact confirmLost_decides
  | ok known =>
    refine wp_quiet_bind (Tx.pollTransaction_uses (quiet rfl)) fun tokenBalance => ?_
    refine wp_ite (fun _ => confirmBought_decides) fun _ => ?_
    exact wp_ite (fun _ => confirmLost_decides) fun _ => confirmLost_decides

def isConfirm : Role → Bool
  | .confirm _ => true
  | _ => false

theorem code_decides {role : Role} (confirms : isConfirm role = true) :
    wp verdictMonitor (fun _ v => v ≠ .pending) (role.code setup) .pending := by
  cases role with
  | confirm c => exact buyConfirm_decides
  | _ => cases confirms

def activates (e : Moment) : Bool :=
  match e.op with
  | .confirmSuccess .. => true
  | _ => false

def givesUp (e : Moment) : Bool :=
  match e.op with
  | .confirmFailed .. => true
  | _ => false

def verdictOf (t : TaskState) : Verdict :=
  if t.past.any activates then .bought else if t.past.any givesUp then .lost else .pending

/-- The verdict that a past shows, once at most. -/
def Shows (past : List Moment) (v : Verdict) : Prop :=
  (past.any activates = true ↔ v = .bought) ∧ (past.any givesUp = true ↔ v = .lost)

theorem Shows.next {past : List Moment} {v : Verdict} {e : Moment} (allowed : verdictMonitor.allows v e.op)
    (shown : Shows past v) : Shows (past ++ [e]) (verdictMonitor.next v e) := by
  obtain ⟨w, op, answer⟩ := e
  have other (inert : activates ⟨w, op, answer⟩ = false) (keeps : givesUp ⟨w, op, answer⟩ = false)
      (same : verdictMonitor.next v ⟨w, op, answer⟩ = v) :
      Shows (past ++ [⟨w, op, answer⟩]) (verdictMonitor.next v ⟨w, op, answer⟩) := by
    simpa [Shows, List.any_append, inert, keeps, same] using shown
  cases op
  case confirmSuccess =>
    obtain rfl : v = .pending := allowed
    simpa [Shows, List.any_append, activates, givesUp, verdictMonitor] using shown.2
  case confirmFailed =>
    obtain rfl : v = .pending := allowed
    simpa [Shows, List.any_append, activates, givesUp, verdictMonitor] using shown.1
  all_goals exact other rfl rfl rfl

theorem Shows.verdict {t : TaskState} {v : Verdict} (shown : Shows t.past v) : verdictOf t = v := by
  unfold verdictOf
  cases v with
  | pending =>
    rw [if_neg (fun bought => nomatch shown.1.mp bought), if_neg (fun lost => nomatch shown.2.mp lost)]
  | bought => rw [if_pos (shown.1.mpr rfl)]
  | lost =>
    rw [if_neg (fun bought => nomatch shown.1.mp bought), if_pos (shown.2.mpr rfl)]

/-! ### The account of one buy -/

/-- The buy tasks that have sent the buy and not handed it over. -/
def owing (x : SentBuy) (s : State) : ℕ := s.tasks.countP fun t => (stageOf t).owes x

def verdicts (v : Verdict) (x : SentBuy) (s : State) : ℕ :=
  s.tasks.countP fun t => confirms x t.role && verdictOf t = v

variable {starts : World → Prop} {ok : State → Step → Prop} {s : State}

theorem sends_task (reach : (process setup).Reachable starts ok s) (x : SentBuy) {i : ℕ} {t : TaskState} (here : s.tasks[i]? = some t) :
    t.past.countP (sends x) = t.past.countP (fun e => handsOver x e.op) + if (stageOf t).owes x then 1 else 0 :=
  reach.recorded stageMonitor .fresh (fun _ => True)
    (fun past stage => past.countP (sends x) = past.countP (fun e => handsOver x e.op) + if stage.owes x then 1 else 0)
    (fun _ => trivial) (fun role _ => code_staged setup role) rfl (fun _ _ _ => sends_next) here trivial

theorem confirm_shows (reach : (process setup).Reachable starts ok s) {i : ℕ} {t : TaskState}
    (here : s.tasks[i]? = some t) (confirms : isConfirm t.role = true) :
    Shows t.past (verdictMonitor.after .pending t.past) :=
  reach.recorded verdictMonitor .pending (isConfirm · = true) Shows (fun _ => trivial)
    (fun _ => code_decides) ⟨⟨nofun, nofun⟩, ⟨nofun, nofun⟩⟩ (fun _ _ _ => Shows.next) here confirms

/-- A confirm task that has ended has decided. -/
theorem decided_of_ended (reach : (process setup).Reachable starts ok s) {i : ℕ} {t : TaskState}
    (here : s.tasks[i]? = some t) (confirms : isConfirm t.role = true) (ended : t.rest.isDone = true) :
    verdictOf t ≠ .pending := by
  have obeyed := reach.obeys_trusting verdictMonitor .pending (isConfirm · = true) (fun _ => trivial)
    (fun _ => code_decides) here confirms
  rw [(confirm_shows reach here confirms).verdict]
  cases rest : t.rest with
  | done _ =>
    rw [rest] at obeyed
    exact obeyed
  | perform op next =>
    rw [rest] at ended
    cases ended

/-- A task that has ended has handed over what it sent. -/
theorem handed_of_ended (automatic : setup.config.autoSellEnabled = true) (reach : (process setup).Reachable starts ok s)
    (x : SentBuy) {i : ℕ} {t : TaskState} (here : s.tasks[i]? = some t) (ended : t.rest.isDone = true) :
    (stageOf t).owes x = false := by
  have obeyed := reach.obeys_trusting stageMonitor .fresh (fun _ => True) (fun _ => trivial)
    (fun role _ => code_staged setup role) here trivial
  cases rest : t.rest with
  | done _ =>
    rw [rest] at obeyed
    exact obeyed automatic x
  | perform op next =>
    rw [rest] at ended
    cases ended

theorem confirms_split (x : SentBuy) (tasks : List TaskState) :
    tasks.countP (confirms x ·.role) =
      tasks.countP (fun t => confirms x t.role && verdictOf t = .pending) +
        tasks.countP (fun t => confirms x t.role && verdictOf t = .bought) +
        tasks.countP (fun t => confirms x t.role && verdictOf t = .lost) := by
  induction tasks with
  | nil => rfl
  | cons t rest ih =>
    simp only [List.countP_cons]
    cases confirms x t.role <;> cases verdictOf t <;> simp [ih] <;> omega

theorem isConfirm_of_confirms {x : SentBuy} {role : Role} (watches : confirms x role = true) : isConfirm role = true := by
  cases role <;> first | rfl | cases watches

/-- Every buy that was sent is yet to be handed over, or watched by one confirm task of its own: still
open, confirmed or given up. Once all tasks have ended, each was confirmed or given up if positions
are sold automatically. -/
theorem sent_buys_settled (reach : (process setup).Reachable starts ok s) (x : SentBuy) :
    System.count (sends x) s = owing x s + verdicts .pending x s + verdicts .bought x s + verdicts .lost x s ∧
    (setup.config.autoSellEnabled = true → (∀ t ∈ s.tasks, t.rest.isDone = true) →
      System.count (sends x) s = verdicts .bought x s + verdicts .lost x s) := by
  have handed : System.count (sends x) s = System.count (fun e => handsOver x e.op) s + owing x s := by
    refine sum_map_eq_add_countP fun t member => ?_
    obtain ⟨i, here⟩ := List.mem_iff_getElem?.mp member
    exact sends_task reach x here
  have watched : s.tasks.countP (confirms x ·.role) = System.count (fun e => handsOver x e.op) s :=
    reach.forks_counted fun role watches => by cases role <;> first | rfl | cases watches
  have account : System.count (sends x) s =
      owing x s + verdicts .pending x s + verdicts .bought x s + verdicts .lost x s := by
    rw [handed, ← watched, confirms_split]
    unfold verdicts
    omega
  refine ⟨account, fun automatic ended => ?_⟩
  have none_owed : owing x s = 0 := by
    refine List.countP_eq_zero.mpr fun t member => ?_
    obtain ⟨i, here⟩ := List.mem_iff_getElem?.mp member
    rw [handed_of_ended automatic reach x here (ended t member)]
    exact Bool.false_ne_true
  have none_open : verdicts .pending x s = 0 := by
    refine List.countP_eq_zero.mpr fun t member watching => ?_
    obtain ⟨i, here⟩ := List.mem_iff_getElem?.mp member
    rw [Bool.and_eq_true, decide_eq_true_eq] at watching
    exact decided_of_ended reach here (isConfirm_of_confirms watching.1) (ended t member) watching.2
  rw [account, none_owed, none_open, Nat.zero_add]

/-- The sample buy, which fails on chain. -/
def sampleLost : List Step :=
  sampleIntake 0 (sampleTrade "t1" false) ++ sampleBuy 1 1000 "b1" ++
    runs 2 [.nothing, .nothing, .nothing, .flag false, .status (.ok (some ⟨some "slippage"⟩)), .nothing, .nothing]

theorem sent_buy_given_up : ∃ s, (process sampleSetup).Reachable World.Starts anyStep s ∧
    verdicts .bought ⟨⟨"g1", 5⟩, 1000000000, "b1"⟩ s + verdicts .lost ⟨⟨"g1", 5⟩, 1000000000, "b1"⟩ s = 1 := by
  obtain ⟨s, reach, passes⟩ := reaches sampleSetup anyStep sampleGroups sampleLost
    (fun s => System.count (sends ⟨⟨"g1", 5⟩, 1000000000, "b1"⟩) s = 1 && s.tasks.all (·.rest.isDone))
    (by decide +kernel)
  rw [Bool.and_eq_true, decide_eq_true_eq, List.all_eq_true] at passes
  obtain ⟨sent, ended⟩ := passes
  exact ⟨s, reach, ((sent_buys_settled reach _).2 rfl ended).symm.trans sent⟩

end CopyTrader.Main
