import CopyTrader.Tasks.Alphabet
import CopyTrader.Tasks.Positions

/-!
# Automatic sell signals

Three looks at a stored position can end in a sell signal that nobody asked for: the push monitor,
the fallback monitor and a follow sale. What each of them sends is a function of the position it
looks at, and no task sends a signal without such a look.
-/

namespace CopyTrader.AutoSell
open Lib Processor

inductive Look where
  | grpc (state : BondingCurveState) (now : Instant)
  | fallback (curve : Option BondingCurveState) (quote : Option ℕ) (now : Instant)
  | followSell (groupName : String)

namespace Position

/-- What a follow sale sends for the position it has read. -/
def followSignal (p : Position) (groupName : String) : Option SellSignal :=
  if p.canSell && !p.maxSellAttemptsReached MAX_AUTO_SELL_SIGNAL_ATTEMPTS then
    some
      { positionKey := p.key
        groupName := groupName
        reason := .followSell
        currentPrice := p.currentPrice
        pnlPercent := p.pnlPercent }
  else none

def look (p : Position) : Look → Option SellSignal
  | .grpc state now => (p.grpcExit state now).2
  | .fallback curve quote now => (p.fallbackExit curve quote now).2
  | .followSell groupName => p.followSignal groupName

/-- The position at the price that the look observes, if it compares prices at all. -/
def priced (p : Position) : Look → Option Position
  | .grpc state _ => if 0 < state.priceSol then some (p.observePrice state.priceSol) else none
  | .fallback (some state) _ _ => some (p.observePrice state.priceSol)
  | .fallback none (some outLamports) _ =>
    some (if 0 < p.tokenAmount then
      p.observePrice (lamportsToSol outLamports / displayTokens p.tokenAmount) else p)
  | .fallback none none _ => none
  | .followSell _ => none

/-- Stop loss, take profit or trailing stop. -/
structure PriceExit (p : Position) : Prop where
  active : p.state = .active
  watched : p.group.followSellMode = false
  reached : p.pnlPercent ≤ -p.group.stopLossPercent ∨ p.group.takeProfitPercent ≤ p.pnlPercent ∨
    0 < p.group.trailingStopPercent ∧ 0 < p.highestPrice ∧ 0 < p.pnlPercent ∧
      p.group.trailingStopPercent ≤ p.drawdownPercent

def Suspended (p : Position) : Prop := MAX_AUTO_SELL_SIGNAL_ATTEMPTS ≤ p.sellAttempts

variable {p : Position}

theorem Suspended.attempts (suspended : p.Suspended) :
    p.maxSellAttemptsReached MAX_AUTO_SELL_SIGNAL_ATTEMPTS = true := decide_eq_true suspended

theorem Suspended.lifetime (suspended : p.Suspended) (now : Instant) : p.lifetimeReached now = false := by
  simp [lifetimeReached, suspended.attempts]

theorem Suspended.observe (suspended : p.Suspended) (price : ℚ) : (p.observePrice price).Suspended := by
  obtain ⟨highest, current, same⟩ := p.observePrice_prices price
  rw [same]
  exact suspended

theorem Suspended.checkExitConditions (suspended : p.Suspended) (now : Instant) :
    p.checkExitConditions now = none ↔ ¬ p.PriceExit := by
  have exits : p.PriceExit ↔ p.state = .active ∧ p.group.followSellMode = false ∧
      (p.pnlPercent ≤ -p.group.stopLossPercent ∨ p.group.takeProfitPercent ≤ p.pnlPercent ∨
        0 < p.group.trailingStopPercent ∧ 0 < p.highestPrice ∧ 0 < p.pnlPercent ∧
          p.group.trailingStopPercent ≤ p.drawdownPercent) :=
    ⟨fun h => ⟨h.active, h.watched, h.reached⟩, fun h => ⟨h.1, h.2.1, h.2.2⟩⟩
  rw [exits]
  unfold Position.checkExitConditions
  rw [suspended.lifetime now]
  by_cases active : p.state = .active
  · cases follows : p.group.followSellMode with
    | true => simp
    | false =>
      simp only [canCheckStopLoss, canCheckTakeProfit, active, decide_true, Bool.true_and,
        Bool.false_eq_true, if_false, true_and, not_or]
      by_cases stop : p.pnlPercent ≤ -p.group.stopLossPercent
      · simp [stop]
      by_cases take : p.group.takeProfitPercent ≤ p.pnlPercent
      · simp [stop, take]
      simp [stop, take, and_assoc]
  · simp [canCheckStopLoss, canCheckTakeProfit, active]

theorem Suspended.followSignal (suspended : p.Suspended) (groupName : String) :
    p.followSignal groupName = none := by
  simp [Position.followSignal, suspended.attempts]

/-- A look at a suspended position sends nothing, if and only if it finds no price exit. -/
theorem suspended_look_iff (p : Position) (look : Look) (suspended : p.Suspended) :
    p.look look = none ↔ ∀ q, p.priced look = some q → ¬ q.PriceExit := by
  cases look with
  | grpc state now =>
    unfold Position.look priced grpcExit
    by_cases positive : 0 < state.priceSol
    · simp [positive, (suspended.observe state.priceSol).checkExitConditions now]
    · simp [positive]
  | fallback curve quote now =>
    show (p.fallbackExit curve quote now).2 = none ↔ _
    unfold fallbackExit
    rw [suspended.lifetime now]
    cases curve with
    | some state => simp [priced, (suspended.observe state.priceSol).checkExitConditions now]
    | none =>
      cases quote with
      | some outLamports =>
        have observed : (if 0 < p.tokenAmount then
            p.observePrice (lamportsToSol outLamports / displayTokens p.tokenAmount) else p).Suspended := by
          split
          · exact suspended.observe _
          · exact suspended
        simp [priced, observed.checkExitConditions now]
      | none => simp [priced]
  | followSell groupName => simp [Position.look, priced, suspended.followSignal groupName]

/-- A position whose sale was suspended after five attempts and is active again. -/
def sampleSuspended : Position :=
  { new Tasks.sampleGroup 5 1 1 7 0 0 with state := .active, sellAttempts := 5 }

theorem suspended_look_iff_sample :
    (sampleSuspended.look (.followSell "first") = none ↔
      ∀ q, sampleSuspended.priced (.followSell "first") = some q → ¬ q.PriceExit) ∧
    (sampleSuspended.look (.grpc ⟨1, 500, 0, false, none, false, false⟩ 1) = none ↔
      ∀ q, sampleSuspended.priced (.grpc ⟨1, 500, 0, false, none, false, false⟩ 1) = some q → ¬ q.PriceExit) ∧
    (sampleSuspended.look (.fallback none (some 500) 1) = none ↔
      ∀ q, sampleSuspended.priced (.fallback none (some 500) 1) = some q → ¬ q.PriceExit) :=
  ⟨suspended_look_iff sampleSuspended (.followSell "first") (by decide : 5 ≤ 5),
    suspended_look_iff sampleSuspended (.grpc ⟨1, 500, 0, false, none, false, false⟩ 1) (by decide : 5 ≤ 5),
    suspended_look_iff sampleSuspended (.fallback none (some 500) 1) (by decide : 5 ≤ 5)⟩

/-- Its price falls to half of the entry price: the push monitor and the fallback monitor both
send another stop loss. -/
theorem suspended_stop_loss :
    sampleSuspended.Suspended ∧
      ((sampleSuspended.look (.grpc ⟨1, 500, 0, false, none, false, false⟩ 1)).map (·.reason) = some .stopLoss) ∧
      ((sampleSuspended.look (.fallback (some ⟨1, 500, 0, false, none, false, false⟩) none 1)).map (·.reason) = some .stopLoss) := by
  exact ⟨(by decide : 5 ≤ 5), by decide +kernel, by decide +kernel⟩

end Position

end CopyTrader.AutoSell

namespace CopyTrader.Tasks
open Lib AutoSell Main Processor Tx Program

theorem followSell_eq (group : CopyGroup) (mint : Pubkey) (trade : DetectedTrade) :
    followSell group mint trade =
      if !trade.executionFailed && !trade.isBuy && group.followSellMode then do
        let found ← perform (.getPosition ⟨group.id, mint⟩)
        sendExit (found.bind (·.followSignal group.name))
      else return () := by
  unfold followSell
  congr 1
  refine congrArg (perform (.getPosition ⟨group.id, mint⟩) >>= ·) ?_
  funext found
  cases found with
  | none => rfl
  | some position =>
    show (if _ then _ else _) = sendExit (if _ then _ else _)
    split <;> rfl

/-! ### Every signal is looked up -/

/-- What an operation that looks at a stored position shows to the task. -/
inductive Shows : Moment → SellSignal → Prop where
  | grpc (w : World) (key : PositionKey) (state : BondingCurveState) (answer : Option SellSignal)
      (p : Position) (signal : SellSignal) (stored : w.autoSell.getPosition key = some p)
      (sent : p.look (.grpc state w.clock) = some signal) : Shows ⟨w, .grpcExit key state, answer⟩ signal
  | fallback (w : World) (key : PositionKey) (quote : Option ℕ) (answer : Option SellSignal)
      (p : Position) (signal : SellSignal) (stored : w.autoSell.getPosition key = some p)
      (sent : p.look (.fallback (w.bcCache.get key.tokenMint) quote w.clock) = some signal) :
      Shows ⟨w, .fallbackExit key quote, answer⟩ signal
  | followSell (w : World) (key : PositionKey) (groupName : String) (answer : Option Position)
      (p : Position) (signal : SellSignal) (stored : w.autoSell.getPosition key = some p)
      (sent : p.look (.followSell groupName) = some signal) : Shows ⟨w, .getPosition key, answer⟩ signal

/-- Follows the signals that a task has been shown, which are those it may send. -/
def signalMonitor : Monitor World Op Ans (SellSignal → Prop) where
  trusts e := ∃ choice w', e.world.respond e.op choice = some (e.answer, w')
  allows shown
    | .sendSellSignal signal => shown signal
    | _ => True
  next shown e signal := shown signal ∨ Shows e signal

def sendsSignal : Op → Bool
  | .sendSellSignal _ => true
  | _ => false

/-- The task keeps to the signals it is shown, from any point on. -/
def Shown {α : Type} (x : Prog α) : Prop := ∀ shown, wp signalMonitor (fun _ _ => True) x shown

section
variable {w w' : World} {key : PositionKey} {choice : Choice}

theorem grpcExit_answer {state : BondingCurveState} {found : Option SellSignal}
    (reply : w.respond (.grpcExit key state) choice = some (found, w')) :
    found = (w.autoSell.grpcExit key state w.clock).2 := by
  cases reply
  rfl

theorem fallbackExit_answer {quote : Option ℕ} {found : Option SellSignal}
    (reply : w.respond (.fallbackExit key quote) choice = some (found, w')) :
    found = (w.autoSell.fallbackExit key (w.bcCache.get key.tokenMint) quote w.clock).2 := by
  cases reply
  rfl

end

variable {setup : Setup} {α β : Type}

theorem shown_of_uses {x : Prog α} (uses : Uses (sendsSignal · = false) x) : Shown x := by
  intro shown
  refine wp_keeps (I := fun _ => True) (uses_mono (fun op other _ _ => ?_) uses) trivial
  constructor
  · cases op <;> trivial
  · exact fun _ _ _ => trivial

theorem shown_bind {x : Prog α} {f : α → Prog β} (first : Shown x) (rest : ∀ a, Shown (f a)) :
    Shown (x >>= f) :=
  fun shown => wp_seq (first shown) fun a shown' _ => rest a shown'

theorem shown_perform {op : Op} {f : Ans op → Prog β} (other : sendsSignal op = false)
    (rest : ∀ a, Shown (f a)) : Shown (perform op >>= f) :=
  shown_bind (shown_of_uses (uses_call.mpr other)) rest

theorem shown_ite {c : Prop} [Decidable c] {x y : Prog α} (yes : Shown x) (no : Shown y) :
    Shown (if c then x else y) :=
  fun shown => wp_ite (fun _ => yes shown) fun _ => no shown

theorem shown_pure (a : α) : Shown (pure a) := fun _ => trivial

theorem sendExit_shown {found : Option SellSignal} {shown : SellSignal → Prop}
    (looked : ∀ signal, found = some signal → shown signal) :
    wp signalMonitor (fun _ _ => True) (sendExit found) shown := by
  cases found with
  | none => trivial
  | some signal => exact ⟨looked signal rfl, fun _ _ _ => trivial⟩

theorem followSell_shown {group : CopyGroup} {mint : Pubkey} {trade : DetectedTrade} :
    Shown (followSell group mint trade) := by
  rw [followSell_eq]
  apply shown_ite
  · intro shown
    refine wp_perform trivial fun w found trusted => sendExit_shown fun signal sent => Or.inr ?_
    obtain ⟨choice, w', reply⟩ := trusted
    have looked : found = w.autoSell.getPosition _ := (getPosition_reply reply).1
    rw [looked] at sent
    obtain ⟨p, stored, sent⟩ := Option.bind_eq_some_iff.mp sent
    exact .followSell w ⟨group.id, mint⟩ group.name _ p signal stored sent
  · exact shown_pure ()

theorem fallbackExitCheck_shown {key : PositionKey} {snapshot : Position} :
    Shown (fallbackExitCheck key snapshot) := by
  have quotes : Uses (sendsSignal · = false) (fallbackQuote snapshot) :=
    uses_bind (uses_call.mpr rfl) fun curve => uses_ite (uses_call.mpr rfl) trivial
  refine shown_bind (shown_of_uses quotes) fun quote shown => ?_
  refine wp_perform trivial fun w found trusted => sendExit_shown fun signal sent => Or.inr ?_
  obtain ⟨choice, w', reply⟩ := trusted
  have looked : found = (w.autoSell.fallbackExit key _ quote w.clock).2 := fallbackExit_answer reply
  rw [looked] at sent
  obtain ⟨p, stored, sent⟩ := Option.bind_eq_some_iff.mp sent
  exact .fallback w key quote _ p signal stored sent

theorem fallbackPass_shown : Shown (fallbackPass setup) := by
  have check : ∀ key, Shown (fallbackCheck setup key) := by
    intro key
    refine shown_perform rfl fun found => ?_
    cases found with
    | none => exact shown_pure ()
    | some snapshot =>
      refine shown_perform rfl fun t => shown_ite ?_ fallbackExitCheck_shown
      exact shown_of_uses (uses_bind (uses_call.mpr rfl) fun answer => uses_call.mpr rfl)
  have checks : ∀ keys, Shown (fallbackChecks setup keys) := by
    intro keys
    induction keys with
    | nil => exact shown_pure ()
    | cons key rest ih => exact shown_bind (check key) fun _ => ih
  refine shown_perform rfl fun keys => shown_ite (shown_pure ()) ?_
  exact shown_bind (checks keys) fun _ => shown_of_uses (uses_call.mpr rfl)

theorem grpcChecks_shown {state : BondingCurveState} {keys : List PositionKey} :
    Shown (grpcChecks state keys) := by
  induction keys with
  | nil => exact shown_pure ()
  | cons key rest ih =>
    intro shown
    refine wp_perform trivial fun w found trusted => ?_
    refine wp_seq (sendExit_shown fun signal sent => Or.inr ?_) fun _ shown' (_ : True) => ih shown'
    obtain ⟨choice, w', reply⟩ := trusted
    have looked : found = (w.autoSell.grpcExit key state w.clock).2 := grpcExit_answer reply
    rw [looked] at sent
    obtain ⟨p, stored, sent⟩ := Option.bind_eq_some_iff.mp sent
    exact .grpc w key state _ p signal stored sent

theorem externalGroup_shown {mint tokenProgram : Pubkey} {trade : DetectedTrade} {group : CopyGroup} :
    Shown (externalGroup mint tokenProgram trade group) := by
  apply shown_ite (shown_pure ())
  refine shown_bind followSell_shown fun _ => ?_
  exact shown_of_uses (uses_ite trivial (uses_call.mpr rfl))

theorem forEach_shown {f : CopyGroup → Prog Unit} {groups : List CopyGroup} (each : ∀ group, Shown (f group)) :
    Shown (forEach f groups) := by
  induction groups with
  | nil => exact shown_pure ()
  | cons group rest ih => exact shown_bind (each group) fun _ => ih

theorem entryGroups_shown {mint : Pubkey} {trade : DetectedTrade} {effectiveMirror : List Pubkey}
    {groups : List CopyGroup} : Shown (entryGroups mint trade effectiveMirror groups) := by
  induction groups with
  | nil => exact shown_pure []
  | cons group rest ih =>
    refine shown_bind ?_ fun enters => shown_bind ih fun others => shown_pure _
    apply shown_ite (shown_pure false)
    exact shown_bind followSell_shown fun _ => shown_pure _

theorem curveTrade_shown {mint tokenProgram : Pubkey} {trade : DetectedTrade} {groups : List CopyGroup} :
    Shown (curveTrade setup trade mint tokenProgram groups) := by
  refine shown_bind (shown_of_uses (reuseMirror_uses rfl)) fun cachedMirror => ?_
  refine shown_bind (shown_of_uses (warmForEntry_uses rfl rfl (fun _ => rfl) fun _ => rfl)) fun _ => ?_
  refine shown_bind entryGroups_shown fun entries => forEach_shown fun group => ?_
  exact shown_of_uses (uses_ite trivial (uses_ite (uses_ite trivial (uses_call.mpr rfl))
    (uses_ite (uses_bind (uses_call.mpr rfl) fun _ => trivial) (uses_call.mpr rfl))))

theorem handleTrade_shown {trade : DetectedTrade} : Shown (handleTrade setup trade) := by
  refine shown_perform rfl fun running => shown_ite (shown_pure ()) ?_
  refine shown_perform rfl fun skip => shown_ite (shown_pure ()) ?_
  refine shown_bind (shown_of_uses (cacheMirror_uses fun _ _ => rfl)) fun _ => ?_
  refine shown_perform rfl fun groups => shown_ite (shown_pure ()) ?_
  cases extractTokenInfo trade with
  | none => exact shown_pure ()
  | some found =>
    refine shown_perform rfl fun blocked => shown_ite (shown_pure ()) ?_
    exact shown_ite (forEach_shown fun group => externalGroup_shown) curveTrade_shown

theorem handleTrigger_shown {trigger : Consensus.ConsensusTrigger} : Shown (handleTrigger setup trigger) := by
  refine shown_perform rfl fun _ => shown_perform rfl fun found => ?_
  cases found with
  | none => exact shown_pure ()
  | some group =>
    refine shown_bind (shown_of_uses (warmBuyCaches_uses rfl rfl (fun _ => rfl) fun _ => rfl)) fun _ => ?_
    exact shown_of_uses (uses_call.mpr rfl)

theorem code_shown (role : Role) : Shown (role.code setup) := by
  have other {alphabet : Op → Bool} (within : Within alphabet (role.code setup))
      (silent : ∀ op, alphabet op = true → sendsSignal op = false) : Shown (role.code setup) :=
    shown_of_uses (uses_mono silent within)
  have within := code_within setup role
  cases role with
  | trade trade => exact handleTrade_shown
  | trigger trigger => exact handleTrigger_shown
  | fallback => exact fallbackPass_shown
  | grpc mint state => exact shown_perform rfl fun keys => grpcChecks_shown
  | buy | externalBuy | confirm | tokenInfo | entryPrice | sell | partialSell | cleanup =>
    apply other within
    intro op member
    cases op <;> first | rfl | cases member

/-- In every run, a task that sends a signal has looked at a stored position that called for it. -/
theorem signal_shown {s : State} {ok : State → Step → Prop}
    (reach : (process setup).Reachable World.Starts ok s) {i : ℕ} {t : TaskState} {signal : SellSignal}
    {next : Unit → Prog Unit} (here : s.tasks[i]? = some t)
    (rest : t.rest = .perform (.sendSellSignal signal) next) : ∃ e ∈ t.past, Shows e signal := by
  have allowed : signalMonitor.after (fun _ => False) t.past signal :=
    reach.allows (fun _ => signalMonitor) (fun _ _ => False) (fun _ => True) (fun _ _ => True)
      (fun role _ => code_shown role _)
      (fun s _ _ choice _ _ _ world _ _ _ reply => ⟨choice, world, reply⟩) here trivial rest
  generalize t.past = past at allowed ⊢
  induction past using List.reverseRecOn with
  | nil => cases allowed
  | append_singleton past e ih =>
    rw [Monitor.after_snoc] at allowed
    rcases allowed with before | shown
    · obtain ⟨e', member, shows⟩ := ih before
      exact ⟨e', List.mem_append_left _ member, shows⟩
    · exact ⟨e, by simp, shown⟩

end CopyTrader.Tasks
