import CopyTrader.Tasks.World

/-!
# Stored positions over one step

What one operation makes of the position under a key. The operations on the store are the only
steps that touch it.
-/

namespace CopyTrader.Tasks
open Lib AutoSell

/-- What an operation makes of the position stored under `key`. -/
def Op.rewrite (w : World) (key : PositionKey) (p : Position) : Op → Position
  | .confirmSuccess key' amount price => if key' = key then (p.markActive amount price w.clock).1 else p
  | .confirmFailed key' _ => if key' = key then p.markFailed else p
  | .markSelling key' => if key' = key then p.markSelling.1 else p
  | .markClosed key' sig => if key' = key then (p.markClosed sig).1 else p
  | .restoreAfterSellAttempt key' state => if key' = key then p.restoreAfterSellAttempt state else p
  | .suspendAutoSell key' state max' =>
    if key' = key then { p with state, sellAttempts := max p.sellAttempts max' } else p
  | .applyPartialSell key' sold => if key' = key then (p.applyPartialSell sold w.clock).1 else p
  | .recordZeroBalanceSellSkip key' => if key' = key then p.recordZeroBalanceSellSkip.1 else p
  | .updateEntryPrice key' price =>
    if key' = key then { p with entryPriceSol := price, highestPrice := max p.highestPrice price } else p
  | .updateTokenInfo key' tokenName entryMcapSol => if key' = key then { p with tokenName, entryMcapSol } else p
  | .grpcExit key' state => if key' = key then (p.grpcExit state w.clock).1 else p
  | .fallbackExit key' quote =>
    if key' = key then (p.fallbackExit (w.bcCache.get key'.tokenMint) quote w.clock).1 else p
  | .fallbackConfirm key' balance =>
    if key' = key then
      p.fallbackConfirm balance (w.autoSell.openPositionCountForMint p.tokenMint)
        (w.bcCache.get key'.tokenMint) w.clock
    else p
  | _ => p

def keptByPrune (now : Instant) (p : Position) : Bool := p.state.isOpen || decide (p.heldSeconds now < 60)

def Op.positionAfter (w : World) (key : PositionKey) (op : Op) : Option Position :=
  match op with
  | .addPosition p => if p.key = key then some p else w.autoSell.getPosition key
  | .prunePositions => (w.autoSell.getPosition key).filter (keptByPrune w.clock)
  | op => (w.autoSell.getPosition key).map fun p => op.rewrite w key p

theorem get_update (m : AutoSellManager) (key key' : PositionKey) (f : Position → Position) :
    (m.update key' f).getPosition key = (m.getPosition key).map fun p => if key' = key then f p else p := by
  unfold AutoSellManager.getPosition
  rw [AutoSellManager.update_positions]
  by_cases same : key' = key
  · subst same
    simp
  · rw [DashMap.get_modify_other _ _ (Ne.symm same)]
    simp [same]

theorem getPosition_after {w w' : World} {op : Op} {choice : Choice} {answer : Ans op} {key : PositionKey}
    (reply : w.respond op choice = some (answer, w')) :
    w'.autoSell.getPosition key = op.positionAfter w key := by
  have frame := World.respond_frame reply
  cases op
  case addPosition p =>
    cases reply
    change (w.autoSell.positions.insert p.key p).get key = _
    rw [DashMap.get_insert]
    simp only [Op.positionAfter, AutoSellManager.getPosition, eq_comm]
  case prunePositions =>
    cases reply
    exact DashMap.get_retain ..
  case markSelling key' =>
    cases reply
    exact (congrArg (·.get key) (AutoSellManager.markSelling_positions ..)).trans (get_update ..)
  case recordZeroBalanceSellSkip key' =>
    cases reply
    exact (congrArg (·.get key) (AutoSellManager.recordZeroBalanceSellSkip_positions ..)).trans
      (get_update ..)
  case fallbackConfirm key' balance =>
    dsimp only [World.respond] at reply
    split at reply <;> cases reply
    exact get_update ..
  case confirmSuccess | confirmFailed | markClosed | restoreAfterSellAttempt | suspendAutoSell |
      applyPartialSell | updateEntryPrice | updateTokenInfo | grpcExit | fallbackExit =>
    cases reply
    exact get_update ..
  all_goals
    rw [frame.positions (by intro positions; cases positions)]
    exact Option.map_id'.symm

theorem getPosition_reply {w w' : World} {key : PositionKey} {choice : Choice} {found : Option Position}
    (reply : w.respond (.getPosition key) choice = some (found, w')) : found = w.autoSell.getPosition key ∧ w' = w := by
  cases reply
  exact ⟨rfl, rfl⟩

theorem positionAfter_cases {w : World} {op : Op} {key : PositionKey} {p' : Position}
    (stored : op.positionAfter w key = some p') :
    (op = .addPosition p' ∧ p'.key = key) ∨
      ∃ p, w.autoSell.getPosition key = some p ∧ p' = op.rewrite w key p := by
  cases op
  case addPosition q =>
    dsimp only [Op.positionAfter] at stored
    split at stored
    · rename_i here
      obtain rfl := Option.some.inj stored
      exact Or.inl ⟨rfl, here⟩
    · exact Or.inr ⟨p', stored, rfl⟩
  case prunePositions =>
    obtain ⟨before, _⟩ := Option.filter_eq_some_iff.mp stored
    exact Or.inr ⟨p', before, rfl⟩
  all_goals
    obtain ⟨p, before, after⟩ := Option.map_eq_some_iff.mp stored
    exact Or.inr ⟨p, before, after.symm⟩

theorem disturb_autoSell {w w' : World} {env : World.Disturbance} (change : w.disturb env = some w') :
    w'.autoSell = w.autoSell := (World.disturb_drift change).positions

/-! ### States -/

def Op.stateAfter (key : PositionKey) (p : Position) (op : Op) : PositionState :=
  match op with
  | .confirmSuccess key' .. => if key' = key then activated else p.state
  | .fallbackConfirm key' balance =>
    if key' = key then (if p.preBuyAtaBalance < balance then activated else .failed) else p.state
  | .confirmFailed key' _ => if key' = key then .failed else p.state
  | .markSelling key' => if key' = key then (if p.markSelling.2 then .selling else p.state) else p.state
  | .markClosed key' _ => if key' = key then (if p.state = .selling then .closed else p.state) else p.state
  | .restoreAfterSellAttempt key' state | .suspendAutoSell key' state _ =>
    if key' = key then state else p.state
  | .applyPartialSell key' sold =>
    if key' = key then (if 0 < sold ∧ sold ≤ p.tokenAmount then .active else p.state) else p.state
  | _ => p.state
where
  activated : PositionState := if p.state = .confirming ∨ p.state = .submitted then .active else p.state

theorem rewrite_state (w : World) (key : PositionKey) (p : Position) (op : Op) :
    (op.rewrite w key p).state = op.stateAfter key p := by
  have under (key' : PositionKey) (q : Position) (state : PositionState) (here : key' = key → q.state = state) :
      (if key' = key then q else p).state = if key' = key then state else p.state := by
    split
    · rename_i same
      exact here same
    · rfl
  cases op
  case confirmSuccess => exact under _ _ _ fun _ => Position.markActive_state ..
  case fallbackConfirm key' balance =>
    refine under _ _ _ fun _ => ?_
    unfold Position.fallbackConfirm
    split
    · exact Position.markActive_state ..
    · rfl
  case markSelling => exact under _ _ _ fun _ => Position.markSelling_state ..
  case markClosed => exact under _ _ _ fun _ => Position.markClosed_state ..
  case applyPartialSell => exact under _ _ _ fun _ => Position.applyPartialSell_state ..
  case confirmFailed | restoreAfterSellAttempt | suspendAutoSell => exact under _ _ _ fun _ => rfl
  case recordZeroBalanceSellSkip | updateEntryPrice | updateTokenInfo =>
    exact (under _ _ _ fun _ => rfl).trans (ite_self _)
  case grpcExit key' state =>
    obtain ⟨highest, current, same⟩ := p.grpcExit_prices state w.clock
    exact (under _ _ _ fun _ => by rw [same]).trans (ite_self _)
  case fallbackExit key' quote =>
    obtain ⟨highest, current, same⟩ := p.fallbackExit_prices (w.bcCache.get key'.tokenMint) quote w.clock
    exact (under _ _ _ fun _ => by rw [same]).trans (ite_self _)
  all_goals rfl

/-- The position whose state an operation may change. -/
def Op.drives : Op → Option PositionKey
  | .confirmSuccess key .. | .fallbackConfirm key _ | .confirmFailed key _ | .markSelling key | .markClosed key _
  | .restoreAfterSellAttempt key _ | .suspendAutoSell key .. | .applyPartialSell key _ => some key
  | _ => none

/-- Everything an operation can do to the state of the position under the key. -/
inductive Driven (key : PositionKey) (p : Position) : Op → PositionState → Prop where
  | confirmed (amount : ℕ) (price : Option ℚ) : Driven key p (.confirmSuccess key amount price) (Op.stateAfter.activated p)
  | arrived (balance : ℕ) (above : p.preBuyAtaBalance < balance) :
      Driven key p (.fallbackConfirm key balance) (Op.stateAfter.activated p)
  | missing (balance : ℕ) (below : balance ≤ p.preBuyAtaBalance) : Driven key p (.fallbackConfirm key balance) .failed
  | failed (reason : String) : Driven key p (.confirmFailed key reason) .failed
  | marked (accepts : p.markSelling.2 = true) : Driven key p (.markSelling key) .selling
  | refused (refuses : p.markSelling.2 = false) : Driven key p (.markSelling key) p.state
  | closed (sig : Signature) (selling : p.state = .selling) : Driven key p (.markClosed key sig) .closed
  | unsold (sig : Signature) (idle : p.state ≠ .selling) : Driven key p (.markClosed key sig) p.state
  | restored (state : PositionState) : Driven key p (.restoreAfterSellAttempt key state) state
  | suspended (state : PositionState) (max : ℕ) : Driven key p (.suspendAutoSell key state max) state
  | reduced (sold : ℕ) (covered : 0 < sold ∧ sold ≤ p.tokenAmount) : Driven key p (.applyPartialSell key sold) .active
  | uncovered (sold : ℕ) (refused : ¬ (0 < sold ∧ sold ≤ p.tokenAmount)) :
      Driven key p (.applyPartialSell key sold) p.state
  | other (op : Op) (elsewhere : op.drives ≠ some key) : Driven key p op p.state

theorem stateAfter_other {key : PositionKey} {op : Op} (p : Position) (elsewhere : op.drives ≠ some key) :
    op.stateAfter key p = p.state := by
  have apart {key' : PositionKey} {state : PositionState} (differs : some key' ≠ some key) :
      (if key' = key then state else p.state) = p.state := if_neg fun same => differs (congrArg some same)
  cases op
  case confirmSuccess | fallbackConfirm | confirmFailed | markSelling | markClosed | restoreAfterSellAttempt |
      suspendAutoSell | applyPartialSell => exact apart elsewhere
  all_goals rfl

theorem stateAfter_driven (key : PositionKey) (p : Position) (op : Op) : Driven key p op (op.stateAfter key p) := by
  by_cases drives : op.drives = some key
  · cases op
    case confirmSuccess key' amount price =>
      obtain rfl := Option.some.inj drives
      rw [Op.stateAfter, if_pos rfl]
      exact .confirmed amount price
    case fallbackConfirm key' balance =>
      obtain rfl := Option.some.inj drives
      rw [Op.stateAfter, if_pos rfl]
      split
      · rename_i above
        exact .arrived balance above
      · rename_i below
        exact .missing balance (Nat.not_lt.mp below)
    case confirmFailed key' reason =>
      obtain rfl := Option.some.inj drives
      rw [Op.stateAfter, if_pos rfl]
      exact .failed reason
    case markSelling key' =>
      obtain rfl := Option.some.inj drives
      rw [Op.stateAfter, if_pos rfl]
      split
      · rename_i accepts
        exact .marked accepts
      · rename_i refuses
        exact .refused (Bool.eq_false_iff.mpr refuses)
    case markClosed key' sig =>
      obtain rfl := Option.some.inj drives
      rw [Op.stateAfter, if_pos rfl]
      split
      · rename_i selling
        exact .closed sig selling
      · rename_i idle
        exact .unsold sig idle
    case restoreAfterSellAttempt key' state =>
      obtain rfl := Option.some.inj drives
      rw [Op.stateAfter, if_pos rfl]
      exact .restored state
    case suspendAutoSell key' state max =>
      obtain rfl := Option.some.inj drives
      rw [Op.stateAfter, if_pos rfl]
      exact .suspended state max
    case applyPartialSell key' sold =>
      obtain rfl := Option.some.inj drives
      rw [Op.stateAfter, if_pos rfl]
      split
      · rename_i covered
        exact .reduced sold covered
      · rename_i refused
        exact .uncovered sold refused
    all_goals cases drives
  · rw [stateAfter_other p drives]
    exact .other op drives

/-- Only a position that waits for its confirmation becomes active by it. -/
theorem activated_eq {p : Position} {state : PositionState} (other : state ≠ .active)
    (active : Op.stateAfter.activated p = state) : p.state = state := by
  unfold Op.stateAfter.activated at active
  split at active
  · exact absurd active.symm other
  · exact active

theorem activated_of_settled {p : Position} (settled : ¬ (p.state = .confirming ∨ p.state = .submitted)) :
    Op.stateAfter.activated p = p.state := if_neg settled

/-! ### Deals and amounts -/

theorem rewrite_deal (w : World) (key : PositionKey) (p : Position) (op : Op) :
    (op.rewrite w key p).SameDeal p := by
  have under (key' : PositionKey) (q : Position) (same : q.SameDeal p) :
      (if key' = key then q else p).SameDeal p := by
    split
    · exact same
    · exact .refl p
  cases op
  case confirmSuccess => exact under _ _ (Position.markActive_deal ..)
  case fallbackConfirm => exact under _ _ (Position.fallbackConfirm_deal ..)
  case markSelling => exact under _ _ (Position.markSelling_deal _)
  case markClosed => exact under _ _ (Position.markClosed_deal ..)
  case applyPartialSell => exact under _ _ (Position.applyPartialSell_deal ..)
  case grpcExit key' state =>
    obtain ⟨highest, current, same⟩ := p.grpcExit_prices state w.clock
    exact under _ _ (same ▸ ⟨rfl, rfl, rfl, rfl, rfl, rfl, rfl⟩)
  case fallbackExit key' quote =>
    obtain ⟨highest, current, same⟩ := p.fallbackExit_prices (w.bcCache.get key'.tokenMint) quote w.clock
    exact under _ _ (same ▸ ⟨rfl, rfl, rfl, rfl, rfl, rfl, rfl⟩)
  case confirmFailed | restoreAfterSellAttempt | suspendAutoSell | recordZeroBalanceSellSkip |
      updateEntryPrice | updateTokenInfo => exact under _ _ ⟨rfl, rfl, rfl, rfl, rfl, rfl, rfl⟩
  all_goals exact .refl p

/-- What an operation on one position leaves of another, or of the same one. -/
theorem keyed_keeps {α : Type} (f : Position → α) {key key' : PositionKey} {p q : Position}
    (same : key' = key → f q = f p) : f (if key' = key then q else p) = f p := by
  split
  · rename_i here
    exact same here
  · rfl

def Op.resizes (key : PositionKey) : Op → Bool
  | .confirmSuccess key' .. | .fallbackConfirm key' _ | .applyPartialSell key' _ => key' = key
  | _ => false

theorem rewrite_tokenAmount {w : World} {key : PositionKey} {p : Position} {op : Op}
    (other : op.resizes key = false) : (op.rewrite w key p).tokenAmount = p.tokenAmount := by
  have keeps {key' : PositionKey} {q : Position} (same : key' = key → q.tokenAmount = p.tokenAmount) :
      (if key' = key then q else p).tokenAmount = p.tokenAmount := keyed_keeps (·.tokenAmount) same
  cases op
  case confirmSuccess | fallbackConfirm | applyPartialSell =>
    exact keeps fun here => absurd here (of_decide_eq_false other)
  case markSelling => exact keeps fun _ => Position.markSelling_tokenAmount _
  case markClosed => exact keeps fun _ => Position.markClosed_tokenAmount ..
  case grpcExit key' state =>
    obtain ⟨highest, current, same⟩ := p.grpcExit_prices state w.clock
    exact keeps fun _ => by rw [same]
  case fallbackExit key' quote =>
    obtain ⟨highest, current, same⟩ := p.fallbackExit_prices (w.bcCache.get key'.tokenMint) quote w.clock
    exact keeps fun _ => by rw [same]
  case confirmFailed | restoreAfterSellAttempt | suspendAutoSell | recordZeroBalanceSellSkip |
      updateEntryPrice | updateTokenInfo => exact keeps fun _ => rfl
  all_goals rfl

def Op.reprices (key : PositionKey) : Op → Bool
  | .confirmSuccess key' .. | .fallbackConfirm key' _ | .updateEntryPrice key' _ => key' = key
  | _ => false

theorem rewrite_entryPrice {w : World} {key : PositionKey} {p : Position} {op : Op}
    (other : op.reprices key = false) : (op.rewrite w key p).entryPriceSol = p.entryPriceSol := by
  have keeps {key' : PositionKey} {q : Position} (same : key' = key → q.entryPriceSol = p.entryPriceSol) :
      (if key' = key then q else p).entryPriceSol = p.entryPriceSol := keyed_keeps (·.entryPriceSol) same
  cases op
  case confirmSuccess | fallbackConfirm | updateEntryPrice =>
    exact keeps fun here => absurd here (of_decide_eq_false other)
  case markSelling => exact keeps fun _ => by unfold Position.markSelling; split <;> rfl
  case markClosed => exact keeps fun _ => by unfold Position.markClosed; split <;> rfl
  case applyPartialSell => exact keeps fun _ => by unfold Position.applyPartialSell; split <;> rfl
  case grpcExit key' state =>
    obtain ⟨highest, current, same⟩ := p.grpcExit_prices state w.clock
    exact keeps fun _ => by rw [same]
  case fallbackExit key' quote =>
    obtain ⟨highest, current, same⟩ := p.fallbackExit_prices (w.bcCache.get key'.tokenMint) quote w.clock
    exact keeps fun _ => by rw [same]
  case confirmFailed | restoreAfterSellAttempt | suspendAutoSell | recordZeroBalanceSellSkip | updateTokenInfo =>
    exact keeps fun _ => rfl
  all_goals rfl

end CopyTrader.Tasks
