import CopyTrader.Tasks.Alphabet
import CopyTrader.Tasks.Positions

/-!
# Open positions stay

A step keeps every open position under its key, except when a buy of the same mint for the same
group stores its own position there.
-/

namespace CopyTrader.Tasks
open Lib AutoSell Main

theorem positionAfter_open {w : World} {key : PositionKey} {p : Position} {op : Op}
    (stored : w.autoSell.getPosition key = some p) (isOpen : p.state.isOpen = true)
    (notAdded : ∀ q, op = .addPosition q → q.key ≠ key) :
    op.positionAfter w key = some (op.rewrite w key p) := by
  cases op
  case addPosition q => simpa [Op.positionAfter, Op.rewrite, notAdded q rfl] using stored
  case prunePositions => simp [Op.positionAfter, Op.rewrite, stored, keptByPrune, isOpen]
  all_goals exact congrArg (Option.map fun p => Op.rewrite w key p _) stored

/-- The position is still there after a step with its buy signature, and with its amount unless the
step confirms or partly sells it. -/
def Kept (s s' : State) (step : Step) (key : PositionKey) (p : Position) : Prop :=
  ∃ p', s'.world.autoSell.getPosition key = some p' ∧ p'.buySignature = p.buySignature ∧
    (p'.tokenAmount = p.tokenAmount ∨ ∃ op, performed s step = some op ∧ op.resizes key = true)

/-- The step is one of a buy for the key that stores its own position there. -/
def Replaced (s s' : State) (step : Step) (key : PositionKey) : Prop :=
  ∃ i choice t q next, step = .run i choice ∧ s.tasks[i]? = some t ∧ t.role.buysFor = some key ∧
    t.rest = .perform (.addPosition q) next ∧ q.key = key ∧ s'.world.autoSell.getPosition key = some q

/-- Every step keeps an open position, unless another buy for its key replaces it. -/
theorem open_position_kept {setup : Setup} {s s' : State} {step : Step}
    (reach : (process setup).Reachable World.Starts anyStep s) (taken : (process setup).step s step = some s')
    {key : PositionKey} {p : Position} (stored : s.world.autoSell.getPosition key = some p)
    (isOpen : p.state.isOpen = true) : Kept s s' step key p ∨ Replaced s s' step key := by
  cases System.step_cases taken with
  | started role opens => exact Or.inl ⟨p, stored, rfl, Or.inl rfl⟩
  | disturbed env world change =>
    have same := disturb_autoSell change
    exact Or.inl ⟨p, by rw [same]; exact stored, rfl, Or.inl rfl⟩
  | ran i choice role past op next here answer world reply =>
    have after : world.autoSell.getPosition key = op.positionAfter s.world key := getPosition_after reply
    by_cases added : ∃ q, op = .addPosition q ∧ q.key = key
    · obtain ⟨q, rfl, mine⟩ := added
      refine Or.inr ⟨i, choice, _, q, next, rfl, here, ?_, rfl, mine, ?_⟩
      · have member : role.alphabet (.addPosition q) = true := performs_within reach here rfl
        cases role
        case buy b cause | externalBuy b cause =>
          have stores : q.key = ⟨b.group.id, b.mint⟩ ∧ q.state = .confirming := by
            simpa [Role.alphabet, Op.ofBuy, Op.ofExecute] using member
          exact congrArg some (stores.1.symm.trans mine)
        all_goals cases member
      · rw [after, Op.positionAfter, if_pos mine]
    · have kept : op.positionAfter s.world key = some (op.rewrite s.world key p) :=
        positionAfter_open stored isOpen fun q adds mine => added ⟨q, adds, mine⟩
      refine Or.inl ⟨_, after.trans kept, (rewrite_deal ..).buySignature, ?_⟩
      cases sets : op.resizes key with
      | false => exact Or.inl (rewrite_tokenAmount sets)
      | true => exact Or.inr ⟨op, by simp [performed, here], sets⟩

def sampleRebuy : List Step :=
  sampleIntake 0 (sampleTrade "t1" false) ++ sampleBuy 1 1000 "b1" ++
    .disturb (.tick (Duration.fromMillis GROUP_MINT_DEDUP_SUCCESS_MS)) ::
    sampleIntake 3 (sampleTrade "t2" false) ++ (sampleBuy 4 700 "b2").take 11

/-- The confirm task of the first buy leaves its position there; the second buy may store its own. -/
theorem open_position_kept_sample : ∃ s s₁ s₂ p, (process sampleSetup).Reachable World.Starts anyStep s ∧
    (process sampleSetup).step s (.run 2 .nothing) = some s₁ ∧
    (process sampleSetup).step s (.run 4 .nothing) = some s₂ ∧ p.buySignature = "b1" ∧
    Kept s s₁ (.run 2 .nothing) ⟨"g1", 5⟩ p ∧
    (Kept s s₂ (.run 4 .nothing) ⟨"g1", 5⟩ p ∨ Replaced s s₂ (.run 4 .nothing) ⟨"g1", 5⟩) := by
  obtain ⟨s, reach, passes⟩ := reaches sampleSetup anyStep sampleGroups sampleRebuy
    (fun s => (s.world.autoSell.getPosition ⟨"g1", 5⟩).any (fun p => p.buySignature = "b1" && p.state.isOpen) &&
      s.tasks[2]?.all (·.role.buysFor = none) && ((process sampleSetup).step s (.run 2 .nothing)).isSome &&
      ((process sampleSetup).step s (.run 4 .nothing)).isSome) (by decide +kernel)
  simp only [Bool.and_eq_true] at passes
  obtain ⟨⟨⟨found, other⟩, first⟩, second⟩ := passes
  obtain ⟨p, stored, passes'⟩ := (Option.any_eq_true ..).mp found
  obtain ⟨s₁, taken₁⟩ := Option.isSome_iff_exists.mp first
  obtain ⟨s₂, taken₂⟩ := Option.isSome_iff_exists.mp second
  simp only [Bool.and_eq_true, decide_eq_true_eq] at passes'
  have confirms : ¬ Replaced s s₁ (.run 2 .nothing) ⟨"g1", 5⟩ := by
    rintro ⟨i, choice, t, q, next, run, here, buys, -⟩
    cases run
    rw [here, Option.all_some, decide_eq_true_eq, buys] at other
    cases other
  exact ⟨s, s₁, s₂, p, reach, taken₁, taken₂, passes'.1,
    (open_position_kept reach taken₁ stored passes'.2).resolve_right confirms,
    open_position_kept reach taken₂ stored passes'.2⟩

/-- The second buy replaces the open position of the first one. -/
theorem open_position_replaced : ¬ ∀ s s' step, (process sampleSetup).Reachable World.Starts anyStep s →
    (process sampleSetup).step s step = some s' → ∀ key p, s.world.autoSell.getPosition key = some p →
      p.state.isOpen = true →
        ∃ p', s'.world.autoSell.getPosition key = some p' ∧ p'.buySignature = p.buySignature := by
  intro claim
  obtain ⟨s, reach, passes⟩ := reaches sampleSetup anyStep sampleGroups sampleRebuy
    (fun s => (s.world.autoSell.getPosition ⟨"g1", 5⟩).any (fun p => p.buySignature = "b1" && p.state.isOpen) &&
      ((process sampleSetup).step s (.run 4 .nothing)).any fun s' =>
        (s'.world.autoSell.getPosition ⟨"g1", 5⟩).any (·.buySignature = "b2")) (by decide +kernel)
  rw [Bool.and_eq_true] at passes
  obtain ⟨p, stored, passes₁⟩ := (Option.any_eq_true ..).mp passes.1
  obtain ⟨s', taken, passes₂⟩ := (Option.any_eq_true ..).mp passes.2
  obtain ⟨q, after, second⟩ := (Option.any_eq_true ..).mp passes₂
  simp only [Bool.and_eq_true, decide_eq_true_eq] at passes₁ second
  obtain ⟨p', after', same⟩ := claim s s' _ reach taken _ p stored passes₁.2
  obtain rfl := Option.some.inj (after.symm.trans after')
  rw [second, passes₁.1] at same
  exact absurd same (by decide)

end CopyTrader.Tasks
