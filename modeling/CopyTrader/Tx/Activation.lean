import CopyTrader.Tasks.Positions
import CopyTrader.Tx.BuyEvidence

/-!
# Activating on one's own buy

A position is confirmed when its account holds more than was remembered at its buy. When nothing
but that buy credits the account, the buy has landed.
-/

namespace CopyTrader.Tx
open Lib AutoSell Tasks

def confirms : Op → Bool
  | .confirmSuccess .. | .fallbackConfirm .. => true
  | _ => false

/-- The confirm task that the buy of a position started. -/
structure Follows (c : ConfirmTask) (p : Position) : Prop where
  signature : c.signature = p.buySignature
  preBuyAtaBalance : c.preBuyAtaBalance = p.preBuyAtaBalance

/-- What a task has seen of a position's account since `base`: its deciding reads show what the account
held, the status of the buy is true, and nothing but the buy credits the account. A confirm task is
the one of the position. -/
structure SeesOwnBuy (t : TaskState) (p : Position) (base now : Ledger) (account : Pubkey) : Prop where
  own : ∀ c, t.role = .confirm c → Follows c p
  remembered : Ledger.balance base account ≤ p.preBuyAtaBalance
  shows : ∀ e ∈ decidingReads t, ∀ amount, shown e = some amount →
    Ledger.BalanceBetween base e.world.ledger account amount
  reported : ∀ e ∈ t.past, saysLanded p.buySignature e = true → Ledger.Landed e.world.ledger p.buySignature
  sole : ∀ later, now = base ++ later → ∀ l ∈ later, 0 < l.credit account → l.signature = p.buySignature

variable {setup : Setup} {s s' : State} {i : ℕ} {choice : Choice} {t : TaskState} {op : Op}
  {next : Ans op → Prog Unit} {key : PositionKey} {p p' : Position} {base : Ledger} {account : Pubkey}

theorem landed_of_read (reach : (process setup).Reachable World.Starts anyStep s) (here : s.tasks[i]? = some t)
    (sees : SeesOwnBuy t p base s.world.ledger account) {e : Moment} (decides : e ∈ decidingReads t)
    {amount : ℕ} (shows : shown e = some amount) (risen : p.preBuyAtaBalance < amount) :
    Ledger.Landed s.world.ledger p.buySignature :=
  Ledger.landed_of_risen sees.remembered risen
    ((sees.shows e decides amount shows).mono (ledger_grows reach here (decidingReads_past decides))) sees.sole

/-- The position a step of a task leaves under a key, unless it stores a new one. -/
theorem rewritten (taken : (process setup).step s (.run i choice) = some s') (here : s.tasks[i]? = some t)
    (rest : t.rest = .perform op next) (stored : s.world.autoSell.getPosition key = some p)
    (stored' : s'.world.autoSell.getPosition key = some p') :
    op = .addPosition p' ∨ p' = op.rewrite s.world key p := by
  obtain ⟨answer, reply, _⟩ := (System.step_cases taken).performs here rest
  rw [getPosition_after reply] at stored'
  rcases positionAfter_cases stored' with ⟨added, _⟩ | ⟨q, before, same⟩
  · exact Or.inl added
  · obtain rfl := Option.some.inj (stored.symm.trans before)
    exact Or.inr same

/-- A position that its confirm task or the fallback monitor makes active has its buy landed, when
nothing else credits the account and what they read was true. -/
theorem landed_of_activated (reach : (process setup).Reachable World.Starts anyStep s)
    (taken : (process setup).step s (.run i choice) = some s') (here : s.tasks[i]? = some t)
    (rest : t.rest = .perform op next) (confirmation : confirms op = true)
    (stored : s.world.autoSell.getPosition key = some p) (stored' : s'.world.autoSell.getPosition key = some p')
    (inactive : p.state ≠ .active) (active : p'.state = .active)
    (sees : SeesOwnBuy t p base s.world.ledger account) : Ledger.Landed s.world.ledger p.buySignature := by
  have member := performs_within reach here rest
  have after : op.stateAfter key p = .active := by
    rcases rewritten taken here rest stored stored' with rfl | rfl
    · cases confirmation
    · exact (rewrite_state ..).symm.trans active
  cases op
  case confirmSuccess key' amount price =>
    obtain ⟨c, confirming⟩ : ∃ c, t.role = .confirm c := by
      cases role : t.role
      case confirm c => exact ⟨c, rfl⟩
      all_goals
        rw [role] at member
        cases member
    have own := sees.own c confirming
    rcases confirms_by_past reach here rest confirming with risen | landed
    · obtain ⟨e, seen, rises⟩ := List.any_eq_true.mp risen
      obtain ⟨amount, shows, higher⟩ := (Option.any_eq_true ..).mp rises
      rw [own.preBuyAtaBalance, decide_eq_true_eq] at higher
      exact landed_of_read reach here sees (decidingReads_confirm confirming ▸ seen) shows higher
    · obtain ⟨e, seen, tells⟩ := List.any_eq_true.mp landed
      rw [own.signature] at tells
      exact (sees.reported e seen tells).mono (ledger_grows reach here seen)
  case fallbackConfirm key' balance =>
    have other : ∀ c, t.role ≠ .confirm c := by
      intro c confirming
      rw [confirming] at member
      cases member
    obtain ⟨e, last, rfl⟩ := judges_by_last reach here rest other
    have higher : p.preBuyAtaBalance < (shown e).getD 0 := by
      dsimp only [Op.stateAfter] at after
      split at after
      · by_contra lower
        rw [if_neg lower] at after
        cases after
      · exact absurd after inactive
    cases shows : shown e with
    | none => simp [shows] at higher
    | some amount =>
      rw [shows] at higher
      exact landed_of_read reach here sees ((mem_decidingReads other).mpr last) shows higher
  all_goals cases confirmation

/-! ### Samples -/

def sampleLanding (signature : Signature) (tokens : ℕ) : Landing := ⟨signature, false, [⟨105, tokens, 0⟩]⟩

def sampleRound (i : ℕ) (answer : BalanceAnswer) : List Step :=
  runs i [.nothing, .nothing, .flag false, .status .rpcError, .nothing, .balance answer]

/-- A sample buy that lands, and its confirm task up to the confirmation. -/
def sampleConfirmation : List Step :=
  sampleIntake 0 (sampleTrade "t1" false) ++ sampleBuy 1 1000 "b1" ++
    .disturb (.land (sampleLanding "b1" 1000)) :: .run 2 .nothing ::
    sampleRound 2 (sampleAnswer 1000) ++ runs 2 [.nothing, .nothing]

/-- The confirm task of the sample buy, all of whose reads showed the balance of the sample account. -/
def confirmsSample (t : TaskState) : Bool :=
  match t.role with
  | .confirm c =>
    c.signature = "b1" && c.preBuyAtaBalance = 0 && t.past.all fun e =>
      !saysLanded "b1" e && !saysFailed "b1" e && (shown e).all (· = Ledger.balance e.world.ledger 105)
  | _ => false

theorem confirmsSample_sees {t : TaskState} {p : Position} {now : Ledger} (confirms : confirmsSample t = true)
    (signature : p.buySignature = "b1") (before : p.preBuyAtaBalance = 0)
    (landed : now = [sampleLanding "b1" 1000]) : SeesOwnBuy t p [] now 105 := by
  unfold confirmsSample at confirms
  split at confirms
  · rename_i c role
    simp only [Bool.and_eq_true, decide_eq_true_eq, List.all_eq_true, Bool.not_eq_true'] at confirms
    obtain ⟨⟨mine, remembered⟩, reads⟩ := confirms
    constructor
    case own =>
      intro c' role'
      obtain rfl : c = c' := by injection role.symm.trans role'
      exact ⟨mine.trans signature.symm, remembered.trans before.symm⟩
    case remembered => exact Nat.zero_le _
    case shows =>
      intro e decides amount shows
      have correct := (reads e (decidingReads_past decides)).2
      rw [shows, Option.all_some, decide_eq_true_eq] at correct
      exact correct ▸ Ledger.balanceBetween_now 105 List.nil_prefix
    case reported =>
      intro e seen tells
      rw [signature] at tells
      cases tells.symm.trans (reads e seen).1.1
    case sole =>
      rintro later rfl l member _
      rw [landed, List.mem_singleton] at member
      rw [member, signature]
      rfl
  · cases confirms

theorem landed_of_activated_sample : ∃ s s' p p', (process sampleSetup).Reachable World.Starts anyStep s ∧
    (process sampleSetup).step s (.run 2 .nothing) = some s' ∧
    s.world.autoSell.getPosition ⟨"g1", 5⟩ = some p ∧ s'.world.autoSell.getPosition ⟨"g1", 5⟩ = some p' ∧
    p.state = .confirming ∧ p'.state = .active ∧ Ledger.Landed s.world.ledger p.buySignature := by
  obtain ⟨s, reach, passes⟩ := reaches sampleSetup anyStep sampleGroups sampleConfirmation
    (fun s => (s.world.autoSell.getPosition ⟨"g1", 5⟩).any (fun p =>
        p.state = .confirming && p.buySignature = "b1" && p.preBuyAtaBalance = 0) &&
      s.tasks[2]?.any confirmsSample && (performed s (.run 2 .nothing)).any confirms &&
      s.world.ledger = [sampleLanding "b1" 1000] &&
      ((process sampleSetup).step s (.run 2 .nothing)).any fun s' =>
        (s'.world.autoSell.getPosition ⟨"g1", 5⟩).any (·.state = .active)) (by decide +kernel)
  simp only [Bool.and_eq_true, decide_eq_true_eq, Option.any_eq_true] at passes
  obtain ⟨⟨⟨⟨⟨p, stored, ⟨confirming, signature⟩, before⟩, t, here, sees⟩, op, performs, confirmation⟩, landed⟩,
    s', taken, p', stored', active⟩ := passes
  obtain ⟨t', next, here', rest⟩ := performed_cases performs
  obtain rfl := Option.some.inj (here.symm.trans here')
  refine ⟨s, s', p, p', reach, taken, stored, stored', confirming, active, ?_⟩
  exact landed_of_activated reach taken here rest confirmation stored stored' (by simp [confirming]) active
    (confirmsSample_sees sees signature before landed)

def pairGroups : GroupManager where
  groups := (DashMap.empty.insert "g1" sampleGroup).insert "g2" { sampleGroup with id := "g2", name := "second" }
  keyed := by decide
  selectedGroupId := some "g1"
  blocklist := []
  zeroSlotBuyEnabled := false

/-- Both groups buy, the first buy lands, and the confirm task of the second reads the balance. -/
def samplePair : List Step :=
  sampleIntake 0 (sampleTrade "t1" false) ++ [.run 0 .nothing] ++ sampleBuy 1 1000 "b1" ++ sampleBuy 2 1000 "b2" ++
    .disturb (.land (sampleLanding "b1" 1000)) :: .run 4 .nothing ::
    sampleRound 4 (sampleAnswer 1000) ++ runs 4 [.nothing, .nothing]

/-- The tokens of another group's buy make a position active whose own buy has not landed. -/
theorem activated_by_other : ¬ ∀ s s' step, (process sampleSetup).Reachable World.Starts Truthful s →
    (process sampleSetup).step s step = some s' → ∀ op, performed s step = some op → confirms op = true →
      ∀ key p p', s.world.autoSell.getPosition key = some p → s'.world.autoSell.getPosition key = some p' →
        p.state ≠ .active → p'.state = .active → Ledger.Landed s.world.ledger p.buySignature := by
  intro claim
  obtain ⟨s, reach, passes⟩ := reaches sampleSetup Truthful pairGroups samplePair
    (fun s => (s.world.autoSell.getPosition ⟨"g2", 5⟩).any (fun p =>
        p.state = .confirming && !decide (Ledger.Landed s.world.ledger p.buySignature)) &&
      (performed s (.run 4 .nothing)).any confirms &&
      ((process sampleSetup).step s (.run 4 .nothing)).any fun s' =>
        (s'.world.autoSell.getPosition ⟨"g2", 5⟩).any (·.state = .active)) (by decide +kernel)
  simp only [Bool.and_eq_true, decide_eq_true_eq, Option.any_eq_true, Bool.not_eq_true', decide_eq_false_iff_not]
    at passes
  obtain ⟨⟨⟨p, stored, confirming, missing⟩, op, performs, confirmation⟩, s', taken, p', stored', active⟩ := passes
  exact missing (claim s s' _ reach taken op performs confirmation _ p p' stored stored' (by simp [confirming])
    active)

end CopyTrader.Tx
