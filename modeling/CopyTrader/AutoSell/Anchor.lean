import CopyTrader.AutoSell.Monitor
import CopyTrader.Lib.Machine
import CopyTrader.Lib.Peak
import Mathlib.Tactic.Positivity

/-!
# The trailing anchor

The operations on one position, and what its highest price stands for. An activation and a partial
sale reset it; prices and corrected entry prices raise it.
-/

namespace CopyTrader.AutoSell
open Lib Processor

/-- What is done to a position under its guard, with the clock reading where one is taken. -/
inductive PositionOp where
  | setTokenAmountEstimate (tokenAmount : ℕ)
  | markSubmitted (signature : Signature)
  | markConfirming
  | markActive (actualTokenAmount : ℕ) (bcPriceSol : Option ℚ) (now : Instant)
  | markSelling
  | markClosed (sellSignature : Signature)
  | markFailed
  | revertToActive
  | restoreAfterSellAttempt (previousState : PositionState)
  | suspendAutoSell (previousState : PositionState) (maxAttempts : ℕ)
  | recordZeroBalanceSellSkip
  | applyPartialSell (soldAmount : ℕ) (now : Instant)
  | updatePrice (price : ℚ)
  | updateEntryPrice (realPrice : ℚ)
  | updateTokenInfo (tokenName : String) (entryMcapSol : ℚ)

def PositionOp.apply : PositionOp → Position → Position
  | setTokenAmountEstimate tokenAmount, p => p.setTokenAmountEstimate tokenAmount
  | markSubmitted signature, p => (p.markSubmitted signature).1
  | markConfirming, p => p.markConfirming.1
  | markActive actualTokenAmount bcPriceSol now, p => (p.markActive actualTokenAmount bcPriceSol now).1
  | markSelling, p => p.markSelling.1
  | markClosed sellSignature, p => (p.markClosed sellSignature).1
  | markFailed, p => p.markFailed
  | revertToActive, p => p.revertToActive.1
  | restoreAfterSellAttempt previousState, p => p.restoreAfterSellAttempt previousState
  | suspendAutoSell previousState maxAttempts, p =>
    { p with state := previousState, sellAttempts := max p.sellAttempts maxAttempts }
  | recordZeroBalanceSellSkip, p => p.recordZeroBalanceSellSkip.1
  | applyPartialSell soldAmount now, p => (p.applyPartialSell soldAmount now).1
  | updatePrice price, p => (p.updatePrice price).1
  | updateEntryPrice realPrice, p =>
    { p with entryPriceSol := realPrice, highestPrice := max p.highestPrice realPrice }
  | updateTokenInfo tokenName entryMcapSol, p => { p with tokenName, entryMcapSol }

namespace Position

/-- The anchor after an operation on `p`, and what was seen since: the entry price of an activation with a positive
amount or the current price at a partial sale, then prices and corrected entry prices. -/
def follow (p : Position) (trail : Trail ℚ) : PositionOp → Trail ℚ
  | .markActive amount price now =>
    if (p.markActive amount price now).2 = true ∧ 0 < amount then .reset (p.markActive amount price now).1.entryPriceSol
    else trail
  | .applyPartialSell sold now => if (p.applyPartialSell sold now).2 = true then .reset p.currentPrice else trail
  | .updatePrice price => trail.see price
  | .updateEntryPrice price => trail.see price
  | _ => trail

/-- A position with its trail. -/
def tracked : Machine (Position × Trail ℚ) PositionOp Unit := fun (p, trail) op => ((op.apply p, p.follow trail op), ())

def operated : Machine Position PositionOp Unit := fun p op => (op.apply p, ())

/-- The trailing stop is what the exit tests decide on. -/
def FiresTrailing (p : Position) (now : Instant) : Prop := (p.checkExitConditions now).map (·.reason) = some .trailingStop

/-- The highest price is the peak of the trail, and the current price is not above it. -/
structure Anchored (p : Position) (trail : Trail ℚ) : Prop where
  peak : IsGreatest trail.marks p.highestPrice
  current : p.currentPrice ≤ p.highestPrice

variable {p q : Position} {trail : Trail ℚ}

/-! ### One operation -/

theorem anchored_of_prices (anchored : p.Anchored trail) (highest : q.highestPrice = p.highestPrice)
    (current : q.currentPrice = p.currentPrice) : q.Anchored trail := by
  constructor
  case peak => rw [highest]; exact anchored.peak
  case current => rw [highest, current]; exact anchored.current

theorem anchored_reset (price : ℚ) (highest : q.highestPrice = price) (current : q.currentPrice = price) :
    q.Anchored (.reset price) := by
  constructor
  case peak => rw [highest]; exact Trail.isGreatest_reset price
  case current => rw [highest, current]

theorem updatePrice_highest (p : Position) (price : ℚ) :
    (p.updatePrice price).1.highestPrice = max p.highestPrice price := by
  unfold updatePrice
  split
  · rename_i higher
    exact (max_eq_right (le_of_lt higher)).symm
  · rename_i lower
    exact (max_eq_left (not_lt.mp lower)).symm

theorem updatePrice_current (p : Position) (price : ℚ) : (p.updatePrice price).1.currentPrice = price := by
  unfold updatePrice
  split <;> rfl

theorem markActive_anchored (anchored : p.Anchored trail) (amount : ℕ) (price : Option ℚ) (now : Instant) :
    (p.markActive amount price now).1.Anchored (p.follow trail (.markActive amount price now)) := by
  unfold follow markActive
  by_cases refused : p.state ≠ .confirming ∧ p.state ≠ .submitted
  · simp only [if_pos refused, Bool.false_eq_true, false_and, if_false]
    exact anchored
  · by_cases positive : 0 < amount
    · simp only [if_neg refused, if_pos positive, true_and]
      exact anchored_reset _ rfl rfl
    · simp only [if_neg refused, positive, and_false, if_false]
      exact anchored_of_prices anchored rfl rfl

theorem applyPartialSell_anchored (anchored : p.Anchored trail) (sold : ℕ) (now : Instant) :
    (p.applyPartialSell sold now).1.Anchored (p.follow trail (.applyPartialSell sold now)) := by
  unfold follow applyPartialSell
  by_cases refused : sold = 0 ∨ p.tokenAmount < sold
  · simp only [if_pos refused, Bool.false_eq_true, if_false]
    exact anchored
  · simp only [if_neg refused, if_true]
    exact anchored_reset _ rfl rfl

theorem tracked_anchored (anchored : p.Anchored trail) (op : PositionOp) : (op.apply p).Anchored (p.follow trail op) := by
  cases op with
  | markActive amount price now => exact markActive_anchored anchored amount price now
  | applyPartialSell sold now => exact applyPartialSell_anchored anchored sold now
  | updatePrice price =>
    constructor
    case peak =>
      rw [PositionOp.apply, updatePrice_highest]
      exact Trail.isGreatest_see anchored.peak price
    case current =>
      rw [PositionOp.apply, updatePrice_highest, updatePrice_current]
      exact le_max_right p.highestPrice price
  | updateEntryPrice price =>
    constructor
    case peak => exact Trail.isGreatest_see anchored.peak price
    case current => exact anchored.current.trans (le_max_left p.highestPrice price)
  | setTokenAmountEstimate | markSubmitted | markConfirming | markSelling | markClosed | revertToActive =>
    refine anchored_of_prices anchored ?_ ?_
    all_goals
      simp only [PositionOp.apply, setTokenAmountEstimate, markSubmitted, markConfirming, markSelling, markClosed,
        revertToActive]
      split <;> rfl
  | markFailed | restoreAfterSellAttempt | suspendAutoSell | recordZeroBalanceSellSkip | updateTokenInfo =>
    exact anchored_of_prices anchored rfl rfl

theorem drawdownPercent_nonneg (current : p.currentPrice ≤ p.highestPrice) : 0 ≤ p.drawdownPercent := by
  unfold drawdownPercent
  split
  · rename_i positive
    have fall : 0 ≤ p.highestPrice - p.currentPrice := sub_nonneg.mpr current
    positivity
  · exact le_refl 0

/-! ### When the trailing stop fires -/

/-- It takes a price above the entry and below the highest. -/
theorem FiresTrailing.prices {now : Instant} (fires : p.FiresTrailing now) :
    p.entryPriceSol < p.currentPrice ∧ p.currentPrice < p.highestPrice := by
  unfold FiresTrailing checkExitConditions at fires
  split_ifs at fires with _ _ _ _ trailing
  all_goals try cases fires
  simp only [Bool.and_eq_true, decide_eq_true_eq] at trailing
  obtain ⟨⟨⟨⟨-, threshold⟩, positive⟩, gain⟩, drawdown⟩ := trailing
  constructor
  · unfold pnlPercent at gain
    split_ifs at gain with entered
    · by_contra above
      have lower : p.currentPrice - p.entryPriceSol ≤ 0 := sub_nonpos.mpr (not_lt.mp above)
      have loss : (p.currentPrice - p.entryPriceSol) / p.entryPriceSol * 100 ≤ 0 :=
        mul_nonpos_of_nonpos_of_nonneg (div_nonpos_of_nonpos_of_nonneg lower (le_of_lt entered)) (by norm_num)
      exact absurd gain (not_lt.mpr loss)
    · exact absurd gain (lt_irrefl 0)
  · have fallen : 0 < p.drawdownPercent := lt_of_lt_of_le threshold drawdown
    unfold drawdownPercent at fallen
    rw [if_pos positive] at fallen
    by_contra level
    have none : (p.highestPrice - p.currentPrice) / p.highestPrice * 100 ≤ 0 :=
      mul_nonpos_of_nonpos_of_nonneg
        (div_nonpos_of_nonpos_of_nonneg (sub_nonpos.mpr (not_lt.mp level)) (le_of_lt positive)) (by norm_num)
    exact absurd fallen (not_lt.mpr none)

/-! ### After a partial sale -/

/-- The corrected entry prices, in order. -/
def corrections (ops : List PositionOp) : List ℚ :=
  ops.filterMap fun
    | .updateEntryPrice price => some price
    | _ => none

/-- No update lowers the price. -/
def PriceRises (p : Position) (ops : List PositionOp) : Prop :=
  ∀ before price, before ++ [.updatePrice price] <+: ops → (Machine.after operated p before).currentPrice ≤ price

/-- The price is at its highest, or a corrected entry price is at least as high and so is the entry price. -/
def Unfired (p : Position) (corrected : List ℚ) : Prop :=
  p.highestPrice ≤ p.currentPrice ∨ ∃ price ∈ corrected, p.highestPrice ≤ price ∧ price ≤ p.entryPriceSol

theorem Unfired.silent {corrected : List ℚ} (unfired : p.Unfired corrected) (now : Instant) : ¬ p.FiresTrailing now := by
  intro fires
  obtain ⟨gain, fall⟩ := fires.prices
  rcases unfired with level | ⟨price, -, high, low⟩
  · exact absurd fall (not_lt.mpr level)
  · exact absurd (gain.trans fall) (not_lt.mpr (high.trans low))

theorem Unfired.of_prices {corrected corrected' : List ℚ} (unfired : p.Unfired corrected)
    (highest : q.highestPrice = p.highestPrice) (current : q.currentPrice = p.currentPrice)
    (entry : q.entryPriceSol = p.entryPriceSol) (more : corrected ⊆ corrected') : q.Unfired corrected' := by
  unfold Unfired
  rw [highest, current, entry]
  exact unfired.imp_right fun ⟨price, member, bounds⟩ => ⟨price, more member, bounds⟩

theorem updatePrice_unfired {corrected : List ℚ} {price : ℚ} (unfired : p.Unfired corrected)
    (rises : p.currentPrice ≤ price) : (p.updatePrice price).1.Unfired corrected := by
  have entry : (p.updatePrice price).1.entryPriceSol = p.entryPriceSol := by
    unfold updatePrice
    split <;> rfl
  unfold Unfired
  rw [updatePrice_highest, updatePrice_current, entry]
  rcases le_total p.highestPrice price with higher | lower
  · exact Or.inl (max_le higher (le_refl price))
  · rw [max_eq_left lower]
    rcases unfired with level | corrected
    · exact Or.inl (level.trans rises)
    · exact Or.inr corrected

theorem updateEntryPrice_unfired {corrected : List ℚ} {price : ℚ} (unfired : p.Unfired corrected)
    (above : ∀ before ∈ corrected, before ≤ price) :
    ((PositionOp.updateEntryPrice price).apply p).Unfired (corrected ++ [price]) := by
  rcases le_or_gt p.highestPrice price with higher | lower
  · exact Or.inr ⟨price, List.mem_append_right _ (List.mem_singleton_self price), max_le higher (le_refl price),
      le_refl price⟩
  · rcases unfired with level | ⟨before, member, high, -⟩
    · exact Or.inl (max_le level (lower.le.trans level))
    · exact absurd (high.trans (above before member)) (not_le.mpr lower)

theorem apply_unfired {corrected : List ℚ} (unfired : p.Unfired corrected) (op : PositionOp)
    (rises : ∀ price, op = .updatePrice price → p.currentPrice ≤ price)
    (above : ∀ price ∈ corrections [op], ∀ before ∈ corrected, before ≤ price) :
    (op.apply p).Unfired (corrected ++ corrections [op]) := by
  have same (q : Position) (highest : q.highestPrice = p.highestPrice) (current : q.currentPrice = p.currentPrice)
      (entry : q.entryPriceSol = p.entryPriceSol) (none : corrections [op] = []) :
      q.Unfired (corrected ++ corrections [op]) := by
    rw [none, List.append_nil]
    exact unfired.of_prices highest current entry (List.Subset.refl corrected)
  cases op with
  | updatePrice price =>
    rw [show corrections [.updatePrice price] = [] from rfl, List.append_nil]
    exact updatePrice_unfired unfired (rises price rfl)
  | updateEntryPrice price => exact updateEntryPrice_unfired unfired (above price (List.mem_singleton_self price))
  | markActive amount price now =>
    simp only [PositionOp.apply, markActive]
    split
    · exact same p rfl rfl rfl rfl
    · split
      · exact Or.inl (le_refl _)
      · exact same _ rfl rfl rfl rfl
  | applyPartialSell sold now =>
    simp only [PositionOp.apply, applyPartialSell]
    split
    · exact same p rfl rfl rfl rfl
    · exact Or.inl (le_refl _)
  | setTokenAmountEstimate | markSubmitted | markConfirming | markSelling | markClosed | revertToActive =>
    simp only [PositionOp.apply, setTokenAmountEstimate, markSubmitted, markConfirming, markSelling, markClosed,
      revertToActive]
    split <;> exact same _ rfl rfl rfl rfl
  | markFailed | restoreAfterSellAttempt | suspendAutoSell | recordZeroBalanceSellSkip | updateTokenInfo =>
    exact same _ rfl rfl rfl rfl

theorem unfired_after (ops : List PositionOp) (unfired : p.Unfired []) (rises : p.PriceRises ops)
    (increasing : (corrections ops).Pairwise (· ≤ ·)) : (Machine.after operated p ops).Unfired (corrections ops) := by
  induction ops using List.reverseRecOn with
  | nil => exact unfired
  | append_singleton before op ih =>
    have parts : corrections (before ++ [op]) = corrections before ++ corrections [op] := List.filterMap_append
    rw [parts] at increasing ⊢
    obtain ⟨earlier, -, ordered⟩ := List.pairwise_append.mp increasing
    have risesBefore : p.PriceRises before := fun g price short => rises g price (short.trans (List.prefix_append _ _))
    rw [Machine.after_snoc]
    refine apply_unfired (ih risesBefore earlier) op ?_ ?_
    · rintro price rfl
      exact rises before price List.prefix_rfl
    · exact fun price new old member => ordered old member price new

/-! ### Runs -/

theorem anchored_after (start : p.Anchored trail) (ops : List PositionOp) :
    (Machine.after tracked (p, trail) ops).1.Anchored (Machine.after tracked (p, trail) ops).2 :=
  Machine.invariant (P := fun s => s.1.Anchored s.2) tracked (fun _ op _ anchored => tracked_anchored anchored op) start

/-- The highest price is the peak since the last anchor; after a partial sale the trailing stop is silent until the
price falls or the entry price is corrected to less than before. -/
theorem trailing_anchor (group : CopyGroup) (tokenMint : Pubkey) (entrySolAmount : ℕ) (entryPriceSol : ℚ)
    (sourceWallet : Pubkey) (preBuyAtaBalance : ℕ) (created : Instant) (ops : List PositionOp) :
    let start := Position.new group tokenMint entrySolAmount entryPriceSol sourceWallet preBuyAtaBalance created
    let p := (Machine.after tracked (start, .reset entryPriceSol) ops).1
    let trail := (Machine.after tracked (start, .reset entryPriceSol) ops).2
    IsGreatest { x | x = trail.anchor ∨ x ∈ trail.seen } p.highestPrice ∧
    p.currentPrice ≤ p.highestPrice ∧ 0 ≤ p.drawdownPercent ∧
    ∀ sold now, (p.applyPartialSell sold now).2 = true →
      let left := (p.applyPartialSell sold now).1
      left.drawdownPercent = 0 ∧
      ∀ later, left.PriceRises later → (corrections later).Pairwise (· ≤ ·) →
        ∀ now, ¬ (Machine.after operated left later).FiresTrailing now := by
  intro start p trail
  have anchored : p.Anchored trail := anchored_after (anchored_reset entryPriceSol rfl rfl) ops
  refine ⟨anchored.peak, anchored.current, drawdownPercent_nonneg anchored.current, ?_⟩
  intro sold now accepted left
  have level : left.highestPrice = left.currentPrice := by
    unfold left applyPartialSell
    unfold applyPartialSell at accepted
    split
    · rename_i refused
      rw [if_pos refused] at accepted
      cases accepted
    · rfl
  constructor
  · unfold drawdownPercent
    rw [level, sub_self, zero_div, zero_mul, ite_self]
  · intro later rises increasing now
    exact (unfired_after later (Or.inl (le_of_eq level)) rises increasing).silent now

def sampleTrailing : CopyGroup :=
  { CopyGroup.fromAppConfig sampleConfig with
    takeProfitPercent := 1000
    trailingStopPercent := 20 }

/-- A position of 1000 tokens bought at a price of 5. -/
def sampleBuying : List PositionOp := [.markSubmitted "b1", .markConfirming, .markActive 1000 (some 5) 0]

theorem trailing_anchor_sample :
    let p := (Machine.after tracked (Position.new sampleTrailing 5 1 1 7 0 0, .reset 1)
      (sampleBuying ++ [.updatePrice 8, .updatePrice 6])).1
    p.highestPrice ∈ ({5, 8, 6} : Set ℚ) ∧
      ¬ (Machine.after operated (p.applyPartialSell 500 0).1 [.updatePrice 7]).FiresTrailing 0 := by
  intro p
  obtain ⟨peak, -, -, sold⟩ :=
    trailing_anchor sampleTrailing 5 1 1 7 0 0 (sampleBuying ++ [.updatePrice 8, .updatePrice 6])
  have seen : (Machine.after tracked (Position.new sampleTrailing 5 1 1 7 0 0, Trail.reset 1)
      (sampleBuying ++ [.updatePrice 8, .updatePrice 6])).2 = ⟨5, [8, 6]⟩ := by decide +kernel
  constructor
  · have member := peak.1
    rw [seen] at member
    simpa [p] using member
  · refine (sold 500 0 (by decide +kernel)).2 [.updatePrice 7] ?_ List.Pairwise.nil 0
    intro before price short
    obtain ⟨rfl, same⟩ : before = [] ∧ price = 7 := by
      rcases List.prefix_cons_iff.mp short with absurdity | ⟨rest, parts, nothing⟩
      · simp at absurdity
      · rw [List.prefix_nil.mp nothing] at parts
        cases before with
        | nil => simpa using parts
        | cons op before => simp at parts
    rw [same]
    decide +kernel

/-- After a partial sale at the highest price the entry price is corrected to 10 and then to 1: the trailing stop fires
without any price. -/
theorem fires_without_fall :
    let p := Machine.after operated (Position.new sampleTrailing 5 1 1 7 0 0) sampleBuying
    let left := (p.applyPartialSell 500 0).1
    (p.applyPartialSell 500 0).2 = true ∧ left.PriceRises [.updateEntryPrice 10, .updateEntryPrice 1] ∧
      (Machine.after operated left [.updateEntryPrice 10, .updateEntryPrice 1]).FiresTrailing 0 := by
  intro p left
  refine ⟨by decide +kernel, fun before price short => ?_, ?_⟩
  · have member : PositionOp.updatePrice price ∈ [PositionOp.updateEntryPrice 10, .updateEntryPrice 1] :=
      short.subset (by simp)
    simp at member
  · unfold FiresTrailing
    decide +kernel

end Position

end CopyTrader.AutoSell
