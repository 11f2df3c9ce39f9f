import CopyTrader.Tx.Selling

/-!
# One sale at a time

The state of a position is its lock: a handler takes it by marking the position, and a position
that cannot be marked stays so, whoever writes it, until the handler writes it back.
-/

namespace CopyTrader.Tx
open Lib AutoSell Tasks Program

/-- The states in which `mark_selling` refuses. -/
def refusesSale (state : PositionState) : Bool :=
  state ≠ .active && state ≠ .confirming && state ≠ .submitted

theorem markSelling_of_refuses {p : Position} (refuses : refusesSale p.state = true) :
    p.markSelling.2 = false := by
  simp only [refusesSale, ne_eq, Bool.and_eq_true, decide_eq_true_eq] at refuses
  unfold Position.markSelling
  rw [if_pos ⟨refuses.1.1, refuses.1.2, refuses.2⟩]

/-- Only the write at the end of a sale makes a position sellable that was not. -/
theorem stateAfter_refuses {key : PositionKey} {p : Position} {op : Op}
    (refuses : refusesSale p.state = true) (other : endsSale op ≠ some key) :
    refusesSale (op.stateAfter key p) = true := by
  have inactive : Op.stateAfter.activated p = p.state := by
    simp only [refusesSale, ne_eq, Bool.and_eq_true, decide_eq_true_eq] at refuses
    exact activated_of_settled (by simp [refuses])
  have driven := stateAfter_driven key p op
  generalize op.stateAfter key p = state at driven
  cases driven with
  | confirmed | arrived =>
    rw [inactive]
    exact refuses
  | missing | failed => rfl
  | marked accepts =>
    rw [markSelling_of_refuses refuses] at accepts
    cases accepts
  | closed | restored | suspended | reduced => exact absurd rfl other
  | refused | unsold | uncovered | other => exact refuses

/-! ### Runs -/

/-- No new position is stored under the key while a sale of the one there is in flight. -/
def keepsSold (key : PositionKey) (s : State) (step : Step) : Bool :=
  (performed s step).all fun
    | .addPosition p => p.key ≠ key || s.tasks.all fun t => markedKey t ≠ some key
    | _ => true

def KeepsSold (key : PositionKey) (s : State) (step : Step) : Prop := keepsSold key s step = true

instance (key : PositionKey) (s : State) (step : Step) : Decidable (KeepsSold key s step) :=
  inferInstanceAs (Decidable (_ = true))

/-- The handlers in a sale of the key: at most one, and its position cannot be marked again. -/
structure Exclusive (key : PositionKey) (s : State) : Prop where
  alone : ∀ (i j : ℕ) (t u : TaskState), s.tasks[i]? = some t → s.tasks[j]? = some u →
    markedKey t = some key → markedKey u = some key → i = j
  locked : ∀ (i : ℕ) (t : TaskState), s.tasks[i]? = some t → markedKey t = some key →
    ∀ p, s.world.autoSell.getPosition key = some p → refusesSale p.state = true

variable {setup : Setup} {key : PositionKey}

/-- How a task comes to be in a sale of the key: it was in it before and did not end it, or it has
just marked the stored position. -/
inductive Enters (key : PositionKey) (s : State) (step : Step) (i : ℕ) : Prop where
  | before (t : TaskState) (here : s.tasks[i]? = some t) (marked : markedKey t = some key)
      (goesOn : ∀ op choice, step = .run i choice → performed s step = some op → endsSale op ≠ some key)
  | marks (choice : Choice) (runs : step = .run i choice)
      (marking : performed s step = some (.markSelling key)) (p : Position)
      (stored : s.world.autoSell.getPosition key = some p) (accepts : p.markSelling.2 = true)

theorem next_ended {marked : Option PositionKey} {e : Moment} (ends : endsSale e.op = some key) :
    saleMonitor.next marked e = none := by
  obtain ⟨w, op, answer⟩ := e
  cases op
  case markClosed | restoreAfterSellAttempt | suspendAutoSell | applyPartialSell => rfl
  all_goals cases ends

theorem marked_of_ends {marked : Option PositionKey} {op : Op} (allowed : saleMonitor.allows marked op)
    (ends : endsSale op = some key) : marked = some key := by
  cases op
  case markClosed key' _ | restoreAfterSellAttempt key' _ | suspendAutoSell key' _ _ | applyPartialSell key' _ =>
    obtain rfl := Option.some.inj ends
    exact allowed
  all_goals cases ends

theorem marking_of_marks {w : World} {op : Op} {choice : Choice} {answer : Ans op} {w' : World}
    (reply : w.respond op choice = some (answer, w')) (marking : marks key ⟨w, op, answer⟩ = true) :
    op = .markSelling key ∧ ∃ p, w.autoSell.getPosition key = some p ∧ p.markSelling.2 = true := by
  cases op
  case markSelling key' =>
    simp only [marks, Bool.and_eq_true, decide_eq_true_eq] at marking
    obtain ⟨rfl, accepted⟩ := marking
    cases reply
    refine ⟨rfl, ?_⟩
    unfold AutoSellManager.markSelling at accepted
    cases found : w.autoSell.getPosition key' with
    | none => simp [found] at accepted
    | some p => exact ⟨p, rfl, by simpa [found] using accepted⟩
  all_goals cases marking

theorem enters_of_marked {s s' : State} {step : Step} (stepped : (process setup).Stepped s step s') {i : ℕ}
    {t' : TaskState} (here' : s'.tasks[i]? = some t') (marked : markedKey t' = some key) :
    Enters key s step i := by
  by_cases runs : ∃ choice, step = .run i choice
  · obtain ⟨choice, rfl⟩ := runs
    cases stepped with
    | ran _ _ role past op next here answer world reply =>
      have performs : performed s (.run i choice) = some op := by simp [performed, here]
      have after := System.getElem?_ran here ⟨role, past ++ [⟨s.world, op, answer⟩], next answer⟩
        ((forks op).map (process setup).begin).toList
      obtain rfl := Option.some.inj (after.symm.trans here')
      rw [markedKey_snoc role past _ _ (.perform op next)] at marked
      rcases marks_of_next marked with before | now
      · refine .before _ here before ?_
        intro op' choice' _ performs' ends
        obtain rfl := Option.some.inj (performs.symm.trans performs')
        rw [next_ended ends] at marked
        cases marked
      · obtain ⟨rfl, p, stored, accepts⟩ := marking_of_marks reply now
        exact .marks choice rfl performs p stored accepts
  · rcases stepped.task here' with ⟨role, rfl, _⟩ | ⟨t, before, moved⟩
    · cases marked
    · cases moved with
      | still => exact .before t' before marked fun _ choice same => absurd ⟨choice, same⟩ runs
      | ran choice same => exact absurd ⟨choice, same⟩ runs

/-- A task that is in a sale keeps every other one from marking the position. -/
theorem Exclusive.refuses {s : State} (exclusive : Exclusive key s) {i : ℕ} {t : TaskState} (here : s.tasks[i]? = some t)
    (marked : markedKey t = some key) {p : Position} (stored : s.world.autoSell.getPosition key = some p) :
    p.markSelling.2 ≠ true := by
  rw [markSelling_of_refuses (exclusive.locked i t here marked p stored)]
  exact Bool.false_ne_true

theorem alone_step {s s' : State} {step : Step} (exclusive : Exclusive key s)
    (stepped : (process setup).Stepped s step s') {i j : ℕ} {t u : TaskState} (here : s'.tasks[i]? = some t)
    (there : s'.tasks[j]? = some u) (first : markedKey t = some key) (second : markedKey u = some key) : i = j := by
  cases enters_of_marked stepped here first with
  | before t before marked goesOn =>
    cases enters_of_marked stepped there second with
    | before u before' marked' _ => exact exclusive.alone i j t u before before' marked marked'
    | marks choice runs marking p stored accepts => exact absurd accepts (exclusive.refuses before marked stored)
  | marks choice runs marking p stored accepts =>
    cases enters_of_marked stepped there second with
    | before u before' marked' _ => exact absurd accepts (exclusive.refuses before' marked' stored)
    | marks choice' runs' =>
      rw [runs] at runs'
      exact (Label.run.inj runs').1

/-- A position that is in a sale refuses another one after every operation but those that end the sale. -/
theorem locked_ran {s : State} {k : ℕ} {choice : Choice} {role : Role} {past : List Moment} {op : Op}
    {next : Ans op → Prog Unit}
    (reach : (process setup).Reachable World.Starts (KeepsSold key) s) (exclusive : Exclusive key s)
    (keeps : KeepsSold key s (.run k choice)) (there : s.tasks[k]? = some ⟨role, past, .perform op next⟩) {i : ℕ}
    (entered : Enters key s (.run k choice) i) {p' : Position}
    (stored' : op.positionAfter s.world key = some p') : refusesSale p'.state = true := by
  have performs : performed s (.run k choice) = some op := by simp [performed, there]
  cases entered with
  | before t before marked goesOn =>
    rcases positionAfter_cases stored' with ⟨rfl, same⟩ | ⟨p, found, rfl⟩
    · have unmarked : markedKey t ≠ some key := by
        simp only [KeepsSold, keepsSold, performs, Option.all_some, same, ne_eq, not_true, decide_false,
          Bool.false_or] at keeps
        exact of_decide_eq_true (List.all_eq_true.mp keeps t (List.mem_of_getElem? before))
      exact absurd marked unmarked
    · rw [rewrite_state]
      apply stateAfter_refuses (exclusive.locked i t before marked p found)
      intro ends
      have allowed : saleMonitor.allows (markedKey ⟨role, past, .perform op next⟩) op := (sale_obeyed reach there).1
      have own := exclusive.alone k i _ t there before (marked_of_ends allowed ends) marked
      exact goesOn op choice (by rw [own]) performs ends
  | marks _ runs marking p stored accepts =>
    obtain rfl := Option.some.inj (performs.symm.trans marking)
    rcases positionAfter_cases stored' with ⟨added, _⟩ | ⟨q, found, rfl⟩
    · cases added
    · obtain rfl := Option.some.inj (stored.symm.trans found)
      rw [rewrite_state]
      simp [Op.stateAfter, accepts, refusesSale]

theorem exclusive_step {s s' : State} {step : Step}
    (reach : (process setup).Reachable World.Starts (KeepsSold key) s) (exclusive : Exclusive key s)
    (keeps : KeepsSold key s step) (stepped : (process setup).Stepped s step s') : Exclusive key s' := by
  constructor
  case alone =>
    intro i j t u here there first second
    exact alone_step exclusive stepped here there first second
  case locked =>
    intro i t' here first p' stored'
    have entered := enters_of_marked stepped here first
    cases stepped with
    | started role opens =>
      cases entered with
      | before t before marked goesOn => exact exclusive.locked i t before marked p' stored'
      | marks choice runs => cases runs
    | disturbed env world change =>
      rw [disturb_autoSell change] at stored'
      cases entered with
      | before t before marked goesOn => exact exclusive.locked i t before marked p' stored'
      | marks choice runs => cases runs
    | ran k choice role past op next there answer world reply =>
      rw [getPosition_after reply] at stored'
      exact locked_ran reach exclusive keeps there entered stored'

/-- At most one handler is between marking the position and writing it back. -/
theorem one_sale_in_flight {s : State} (reach : (process setup).Reachable World.Starts (KeepsSold key) s)
    {i j : ℕ} {t u : TaskState} (here : s.tasks[i]? = some t) (there : s.tasks[j]? = some u)
    (first : markedKey t = some key) (second : markedKey u = some key) : i = j := by
  have exclusive : Exclusive key s := by
    refine reach.invariant ?_ fun s step s' reach exclusive keeps stepped =>
      exclusive_step reach exclusive keeps stepped
    intro w start
    constructor
    case alone =>
      intro i j t u here
      cases here
    case locked =>
      intro i t here
      cases here
  exact exclusive.alone i j t u here there first second

/-- Two sell signals for the sample position: both handlers have read it as being confirmed, and
the second one comes to mark it while the first is selling. -/
def sampleTwoSales : List Step :=
  let reading (i : ℕ) := Label.start (Role.sell ⟨⟨"g1", 5⟩, "first", .manual, 0, 0⟩) ::
    runs i [.nothing, .nothing, .balance (sampleAnswer 1000)]
  sampleIntake 0 (sampleTrade "t1" false) ++ sampleBuy 1 1000 "b1" ++ reading 3 ++ reading 4 ++
    runs 3 [.nothing] ++ runs 4 [.nothing]

theorem one_sale_in_flight_sample : ∃ s, (process sampleSetup).Reachable World.Starts (KeepsSold ⟨"g1", 5⟩) s ∧
    ∃ t, s.tasks[3]? = some t ∧ markedKey t = some ⟨"g1", 5⟩ ∧
      ∀ (j : ℕ) (u : TaskState), s.tasks[j]? = some u → markedKey u = some ⟨"g1", 5⟩ → 3 = j := by
  obtain ⟨s, reach, t, here, marked⟩ := reaches_task sampleSetup (KeepsSold ⟨"g1", 5⟩) sampleGroups
    sampleTwoSales 3 (fun t => markedKey t = some ⟨"g1", 5⟩) (by decide +kernel)
  have marked := of_decide_eq_true marked
  exact ⟨s, reach, t, here, marked, fun j u there second => one_sale_in_flight reach here there marked second⟩

end CopyTrader.Tx
