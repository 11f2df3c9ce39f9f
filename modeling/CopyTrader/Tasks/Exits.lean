import CopyTrader.Lib.Answers
import CopyTrader.Tasks.World

/-!
# The two exit monitors

The push monitor and the fallback monitor on one position, with the same curve and at the same time.
The fallback monitor tests the lifetime before it takes the price, the push monitor after.
-/

namespace CopyTrader.AutoSell
open Lib Processor

/-- What a signal decides: which position to sell, and why. -/
def SellSignal.decision (signal : SellSignal) : PositionKey × SellReason := (signal.positionKey, signal.reason)

namespace Position

variable (p : Position) (now : Instant)

theorem lifetimeReached_observePrice (price : ℚ) :
    (p.observePrice price).lifetimeReached now = p.lifetimeReached now := by
  obtain ⟨highest, current, same⟩ := p.observePrice_prices price
  rw [same]
  rfl

theorem key_observePrice (price : ℚ) : (p.observePrice price).key = p.key := by
  obtain ⟨highest, current, same⟩ := p.observePrice_prices price
  rw [same]
  rfl

/-- The lifetime comes first among the exits, whatever the price. -/
theorem checkExitConditions_of_lifetime (reached : p.lifetimeReached now = true) :
    p.checkExitConditions now = some (p.signalFor .maxLifetime) := if_pos reached

theorem exits_agree {state : BondingCurveState} (positive : 0 < state.priceSol) (quote : Option ℕ) :
    (p.grpcExit state now).2.map (·.decision) = (p.fallbackExit (some state) quote now).2.map (·.decision) := by
  unfold grpcExit fallbackExit
  dsimp only
  rw [if_pos positive]
  by_cases reached : p.lifetimeReached now = true
  · have still : (p.observePrice state.priceSol).lifetimeReached now = true :=
      (p.lifetimeReached_observePrice now state.priceSol).trans reached
    rw [if_pos reached, checkExitConditions_of_lifetime _ _ still]
    exact congrArg (fun key => some (key, SellReason.maxLifetime)) (p.key_observePrice state.priceSol)
  · rw [if_neg reached]

end Position

end CopyTrader.AutoSell

namespace CopyTrader.Tasks
open Lib AutoSell Processor Program

/-- A world that is left alone and asks nothing of the network. -/
def World.alone (w : World) (op : Op) : Option (Ans op × World) := w.respond op .nothing

variable {w : World}

theorem sendExit_exec (signal : Option SellSignal) :
    (sendExit signal).exec World.alone w = some ((), { w with sellSignals := w.sellSignals ++ signal.toList }) := by
  cases signal with
  | none => simp [sendExit, exec, pure]
  | some signal => rfl

theorem grpcChecks_exec (key : PositionKey) (state : BondingCurveState) :
    (grpcChecks state [key]).exec World.alone w = some ((), { w with
      autoSell := (w.autoSell.grpcExit key state w.clock).1
      sellSignals := w.sellSignals ++ (w.autoSell.grpcExit key state w.clock).2.toList }) := by
  refine (exec_call rfl _).trans ?_
  rw [exec_bind, sendExit_exec]
  rfl

theorem fallbackQuote_exec {snapshot : Position} (cached : (w.bcCache.get snapshot.tokenMint).isSome = true) :
    (fallbackQuote snapshot).exec World.alone w = some (none, w) := by
  refine (exec_call rfl _).trans ?_
  rw [if_neg (by simp [Option.isSome_iff_ne_none.mp cached])]
  rfl

theorem fallbackCheck_exec {setup : Setup} {key : PositionKey} {p : Position}
    (stored : w.autoSell.getPosition key = some p)
    (confirmed : p.needsConfirmCheck setup.config.confirmTimeoutSecs w.clock = false)
    (cached : (w.bcCache.get p.tokenMint).isSome = true) :
    (fallbackCheck setup key).exec World.alone w = some ((), { w with
      autoSell := (w.autoSell.fallbackExit key (w.bcCache.get key.tokenMint) none w.clock).1
      sellSignals := w.sellSignals ++
        (w.autoSell.fallbackExit key (w.bcCache.get key.tokenMint) none w.clock).2.toList }) := by
  have read : World.alone w (.getPosition key) = some (some p, w) := congrArg (fun found => some (found, w)) stored
  unfold fallbackCheck
  rw [exec_call read]
  refine (exec_call rfl _).trans ?_
  rw [if_neg (by simp [confirmed])]
  unfold fallbackExitCheck
  rw [exec_bind, fallbackQuote_exec cached, Option.bind_some]
  refine (exec_call rfl _).trans ?_
  rw [sendExit_exec]
  rfl

/-- Each monitor, run on a position that waits for no confirmation, sends at most one signal, and both
decide the same. -/
theorem monitors_agree (setup : Setup) (w : World) (p : Position) (state : BondingCurveState)
    (stored : w.autoSell.getPosition p.key = some p)
    (confirmed : p.needsConfirmCheck setup.config.confirmTimeoutSecs w.clock = false)
    (cached : w.bcCache.get p.tokenMint = some state) (positive : 0 < state.priceSol) :
    ∃ pushed polled : Option SellSignal, ∃ w₁ w₂ : World,
      (grpcChecks state [p.key]).exec World.alone w = some ((), w₁) ∧
      (fallbackCheck setup p.key).exec World.alone w = some ((), w₂) ∧
      w₁.sellSignals = w.sellSignals ++ pushed.toList ∧ w₂.sellSignals = w.sellSignals ++ polled.toList ∧
      pushed.map (·.decision) = polled.map (·.decision) := by
  have polls := fallbackCheck_exec stored confirmed (by rw [cached]; rfl)
  refine ⟨_, _, _, _, grpcChecks_exec p.key state, polls, rfl, rfl, ?_⟩
  have sameMint : p.key.tokenMint = p.tokenMint := rfl
  have push : (w.autoSell.grpcExit p.key state w.clock).2 = (p.grpcExit state w.clock).2 := by
    unfold AutoSellManager.grpcExit
    rw [stored]
    rfl
  have poll : (w.autoSell.fallbackExit p.key (w.bcCache.get p.key.tokenMint) none w.clock).2 =
      (p.fallbackExit (some state) none w.clock).2 := by
    unfold AutoSellManager.fallbackExit
    rw [stored, sameMint, cached]
    rfl
  rw [push, poll]
  exact p.exits_agree w.clock positive none

/-- A position bought at a price of 1. -/
def sampleRisen : Position := { Position.new sampleGroup 5 1 1 7 0 0 with state := .active }

/-- A curve at a price of 2. -/
def sampleDoubled : BondingCurveState where
  virtualTokenReserves := 1000
  virtualSolReserves := 2000000
  realTokenReserves := 1000
  complete := false
  creator := none
  isMayhemMode := false
  isCashback := false

def sampleWatched : World :=
  { World.new sampleGroups with
    autoSell := (AutoSellManager.new []).addPosition sampleRisen
    bcCache := DashMap.empty.insert 5 sampleDoubled }

theorem monitors_agree_sample : ∃ w₁ w₂ : World,
    (grpcChecks sampleDoubled [sampleRisen.key]).exec World.alone sampleWatched = some ((), w₁) ∧
    (fallbackCheck sampleSetup sampleRisen.key).exec World.alone sampleWatched = some ((), w₂) ∧
    w₁.sellSignals.map (·.decision) = w₂.sellSignals.map (·.decision) := by
  obtain ⟨pushed, polled, w₁, w₂, push, poll, sent₁, sent₂, same⟩ :=
    monitors_agree sampleSetup sampleWatched sampleRisen sampleDoubled (by decide +kernel) (by decide +kernel)
      (by decide +kernel) (by decide +kernel)
  refine ⟨w₁, w₂, push, poll, ?_⟩
  rw [sent₁, sent₂, List.map_append, List.map_append, ← Option.toList_map, ← Option.toList_map, same]

end CopyTrader.Tasks
