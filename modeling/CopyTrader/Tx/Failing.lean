import CopyTrader.Tx.Activation
import CopyTrader.Tx.Restoring

/-!
# Failing with tokens in the wallet

While a position's account holds more than was remembered, no component that has read it since the
landing marks the position failed.
-/

namespace CopyTrader.Tx
open Lib AutoSell Tasks

/-- The position's buy landed at the end of `landing`, and the account has held more than was
remembered at the buy ever since. -/
structure Holds (p : Position) (landing now : Ledger) (account : Pubkey) : Prop where
  since : landing <+: now
  landed : ∃ early l, landing = early ++ [l] ∧ l.signature = p.buySignature ∧ l.failed = false
  above : ∀ mid, landing <+: mid → mid <+: now → p.preBuyAtaBalance < Ledger.balance mid account

/-- A task that judges the position has a deciding read of the account after the landing, and was told
the status of the buy truly. A confirm task is the one of the position. -/
structure Informed (t : TaskState) (p : Position) (landing : Ledger) (account : Pubkey) : Prop where
  own : ∀ c, t.role = .confirm c → Follows c p
  read : ∃ e ∈ decidingReads t, ∃ amount, shown e = some amount ∧
    Ledger.BalanceBetween landing e.world.ledger account amount
  reported : ∀ e ∈ t.past, saysFailed p.buySignature e = true →
    ∃ l ∈ e.world.ledger, l.signature = p.buySignature ∧ l.failed = true

/-- A sale gives back the failed state that its handler has read before. -/
def GivesBackFailed (key : PositionKey) (s : State) (step : Step) : Prop :=
  ∃ (i : ℕ) (choice : Choice) (t : TaskState) (op : Op) (next : Ans op → Prog Unit),
    step = .run i choice ∧ s.tasks[i]? = some t ∧ t.rest = .perform op next ∧
      writesBack op = some (key, .failed) ∧ ∃ e ∈ t.past, copiesState key e = some .failed

theorem stateAfter_failed {key : PositionKey} {p : Position} {op : Op} (alive : p.state ≠ .failed)
    (failed : op.stateAfter key p = .failed) : writesBack op = some (key, .failed) ∨ judges op = true ∧
      op.drives = some key ∧ ∀ key' balance, op = .fallbackConfirm key' balance → balance ≤ p.preBuyAtaBalance := by
  have driven := stateAfter_driven key p op
  generalize op.stateAfter key p = state at driven failed
  cases driven with
  | confirmed | arrived => exact (alive (activated_eq nofun failed)).elim
  | missing balance below =>
    refine Or.inr ⟨rfl, rfl, fun _ _ same => ?_⟩
    cases same
    exact below
  | failed => exact Or.inr ⟨rfl, rfl, nofun⟩
  | marked | closed | reduced => cases failed
  | restored | suspended => exact Or.inl (by rw [← failed]; rfl)
  | refused | unsold | uncovered | other => exact absurd failed alive

variable {setup : Setup} {s s' : State} {i : ℕ} {choice : Choice} {t : TaskState} {op : Op}
  {next : Ans op → Prog Unit} {key : PositionKey} {p p' : Position} {landing : Ledger} {account : Pubkey}

theorem read_above (reach : (process setup).Reachable World.Starts anyStep s) (here : s.tasks[i]? = some t)
    (holds : Holds p landing s.world.ledger account) (informed : Informed t p landing account) :
    ∃ e ∈ decidingReads t, ∃ amount, shown e = some amount ∧ p.preBuyAtaBalance < amount := by
  obtain ⟨e, decides, amount, shows, mid, since, before, rfl⟩ := informed.read
  exact ⟨e, decides, _, shows,
    holds.above mid since (before.trans (ledger_grows reach here (decidingReads_past decides)))⟩

/-- The buy that has landed did not fail, by its one landing. -/
theorem not_saysFailed (reach : (process setup).Reachable World.Starts anyStep s) (here : s.tasks[i]? = some t)
    (distinct : (s.world.ledger.map (·.signature)).Nodup) (holds : Holds p landing s.world.ledger account)
    (informed : Informed t p landing account) {e : Moment} (seen : e ∈ t.past) :
    saysFailed p.buySignature e = false := by
  by_contra tells
  obtain ⟨l, member, mine, failed⟩ := informed.reported e seen (by simpa using tells)
  obtain ⟨early, l', rfl, mine', succeeded⟩ := holds.landed
  have same : l = l' := List.inj_on_of_nodup_map distinct ((ledger_grows reach here seen).subset member)
    (holds.since.subset (by simp)) (mine.trans mine'.symm)
  rw [same, succeeded] at failed
  cases failed

theorem not_judged_failed (reach : (process setup).Reachable World.Starts anyStep s)
    (here : s.tasks[i]? = some t) (rest : t.rest = .perform op next)
    (distinct : (s.world.ledger.map (·.signature)).Nodup) (holds : Holds p landing s.world.ledger account)
    (informed : Informed t p landing account) (judging : judges op = true) :
    ∃ key' balance, op = .fallbackConfirm key' balance ∧ p.preBuyAtaBalance < balance := by
  obtain ⟨e, decides, amount, shows, above⟩ := read_above reach here holds informed
  by_cases confirming : ∃ c, t.role = .confirm c
  · obtain ⟨c, confirming⟩ := confirming
    have own := informed.own c confirming
    have member := performs_within reach here rest
    have allowed := confirms_by_past reach here rest confirming
    rw [confirming] at member
    have risen : t.past.any (rises c.preBuyAtaBalance) = true := by
      refine List.any_eq_true.mpr ⟨e, decidingReads_past decides, ?_⟩
      simp [rises, shows, own.preBuyAtaBalance, above]
    cases op
    case confirmFailed key' reason =>
      rcases allowed with failed | unrisen
      · obtain ⟨e', seen, tells⟩ := List.any_eq_true.mp failed
        rw [own.signature, not_saysFailed reach here distinct holds informed seen] at tells
        cases tells
      · cases risen.symm.trans unrisen
    case fallbackConfirm => cases member
    all_goals cases judging
  · have other : ∀ c, t.role ≠ .confirm c := fun c same => confirming ⟨c, same⟩
    have allowed := judges_by_last reach here rest other
    have last := (mem_decidingReads other).mp decides
    cases op
    case confirmFailed key' reason =>
      obtain ⟨e', last', zero⟩ := allowed
      obtain rfl := Option.some.inj (last.symm.trans last')
      simp [shows] at zero
      omega
    case fallbackConfirm key' balance =>
      obtain ⟨e', last', rfl⟩ := allowed
      obtain rfl := Option.some.inj (last.symm.trans last')
      exact ⟨key', _, rfl, by simpa [shows] using above⟩
    all_goals cases judging

/-- No step marks a position failed whose own buy has landed and whose account has held more than was
remembered ever since, when the component that judges it has read the account since; at most a sale
gives back the failed state that its handler had read. -/
theorem not_failed_of_held {step : Step} (reach : (process setup).Reachable World.Starts anyStep s)
    (taken : (process setup).step s step = some s') (stored : s.world.autoSell.getPosition key = some p)
    (stored' : s'.world.autoSell.getPosition key = some p') (alive : p.state ≠ .failed)
    (distinct : (s.world.ledger.map (·.signature)).Nodup) (holds : Holds p landing s.world.ledger account)
    (informed : ∀ i choice t op next, step = .run i choice → s.tasks[i]? = some t →
      t.rest = .perform op next → judges op = true → op.drives = some key → Informed t p landing account) :
    p'.state ≠ .failed ∨ GivesBackFailed key s step := by
  have still (same : s'.world.autoSell = s.world.autoSell) : p'.state ≠ .failed := by
    rw [same] at stored'
    exact Option.some.inj (stored.symm.trans stored') ▸ alive
  cases System.step_cases taken with
  | started role opens => exact Or.inl (still rfl)
  | disturbed env world change => exact Or.inl (still (disturb_autoSell change))
  | ran i choice role past op next here answer world reply =>
    rcases rewritten taken here rfl stored stored' with rfl | rfl
    · have confirming : p'.state = .confirming := by
        have member : role.alphabet (.addPosition p') = true := performs_within reach here rfl
        cases role
        case buy | externalBuy =>
          simp only [Role.alphabet, Op.ofBuy, Op.ofExecute, Bool.and_eq_true, decide_eq_true_eq] at member
          exact member.2
        all_goals cases member
      exact Or.inl (by simp [confirming])
    · by_cases failed : (op.rewrite s.world key p).state = .failed
      · rw [rewrite_state] at failed
        rcases stateAfter_failed alive failed with back | ⟨judging, own, lower⟩
        · exact Or.inr ⟨i, choice, _, op, next, rfl, here, rfl, back, copied_of_writesBack reach here rfl back⟩
        · obtain ⟨key', balance, same, above⟩ := not_judged_failed reach here rfl distinct holds
            (informed i choice _ op next rfl here rfl judging own) judging
          exact absurd (lower key' balance same) (Nat.not_le.mpr above)
      · exact Or.inl failed

/-! ### Samples -/

/-- Two groups buy, the first buy lands, and the confirm task of the second learns that its buy has failed. -/
def sampleOtherFails : List Step :=
  sampleIntake 0 (sampleTrade "t1" false) ++ [.run 0 .nothing] ++ sampleBuy 1 1000 "b1" ++ sampleBuy 2 1000 "b2" ++
    .disturb (.land (sampleLanding "b1" 1000)) ::
    runs 4 [.nothing, .nothing, .nothing, .flag false, .status (.ok (some ⟨some "custom program error"⟩))]

theorem not_failed_of_held_sample : ∃ s s' p p', (process sampleSetup).Reachable World.Starts anyStep s ∧
    (process sampleSetup).step s (.run 4 .nothing) = some s' ∧ (performed s (.run 4 .nothing)).any judges = true ∧
    s.world.autoSell.getPosition ⟨"g1", 5⟩ = some p ∧ s'.world.autoSell.getPosition ⟨"g1", 5⟩ = some p' ∧
    (p'.state ≠ .failed ∨ GivesBackFailed ⟨"g1", 5⟩ s (.run 4 .nothing)) := by
  obtain ⟨s, reach, passes⟩ := reaches sampleSetup anyStep pairGroups sampleOtherFails
    (fun s => (s.world.autoSell.getPosition ⟨"g1", 5⟩).any (fun p =>
        p.state = .confirming && p.buySignature = "b1" && p.preBuyAtaBalance = 0) &&
      (performed s (.run 4 .nothing)).any (fun op => judges op && op.drives = some ⟨"g2", 5⟩) &&
      s.world.ledger = [sampleLanding "b1" 1000] &&
      ((process sampleSetup).step s (.run 4 .nothing)).any fun s' =>
        (s'.world.autoSell.getPosition ⟨"g1", 5⟩).isSome) (by decide +kernel)
  simp only [Bool.and_eq_true, decide_eq_true_eq, Option.any_eq_true, Option.isSome_iff_exists] at passes
  obtain ⟨⟨⟨⟨p, stored, ⟨confirming, signature⟩, before⟩, op, performs, judging, other⟩, landed⟩,
    s', taken, p', stored'⟩ := passes
  have holds : Holds p [sampleLanding "b1" 1000] s.world.ledger 105 := by
    refine ⟨landed ▸ List.prefix_rfl, ⟨[], _, rfl, signature.symm, rfl⟩, fun mid since within => ?_⟩
    rw [landed] at within
    rw [← since.eq_of_length_le within.length_le, before]
    decide
  refine ⟨s, s', p, p', reach, taken, by simp [performs, judging], stored, stored', ?_⟩
  refine not_failed_of_held reach taken stored stored' (by simp [confirming]) (landed ▸ by decide) holds ?_
  -- the judgement is about the other group's position
  intro i choice t op' next same here rest _ own
  cases same
  obtain ⟨t', next', here', rest'⟩ := performed_cases performs
  obtain rfl := Option.some.inj (here.symm.trans here')
  rw [rest] at rest'
  cases rest'
  exact absurd (own.symm.trans other) (by decide)

/-- The buy lands once its confirm task has read the balance for the last time. -/
def sampleLate : List Step :=
  sampleIntake 0 (sampleTrade "t1" false) ++ sampleBuy 1 1000 "b1" ++
    .run 2 .nothing :: sampleRound 2 (sampleAnswer 0) ++ runs 2 [.nothing, .nothing] ++
    .disturb (.tick (Duration.fromMillis BUY_CONFIRM_MAX_WAIT_MS)) :: runs 2 [.nothing, .nothing] ++
    [.disturb (.land (sampleLanding "b1" 1000))]

/-- A position is marked failed whose buy has just landed. -/
theorem failed_with_tokens : ¬ ∀ s s' step, (process sampleSetup).Reachable World.Starts Truthful s →
    (process sampleSetup).step s step = some s' → ∀ key p p' account,
      s.world.autoSell.getPosition key = some p → s'.world.autoSell.getPosition key = some p' →
      p.state ≠ .failed → (∃ l ∈ s.world.ledger, l.signature = p.buySignature ∧ 0 < l.credit account) →
      (∀ l ∈ s.world.ledger, l.debit account = 0) → p'.state ≠ .failed := by
  intro claim
  obtain ⟨s, reach, passes⟩ := reaches sampleSetup Truthful sampleGroups sampleLate
    (fun s => (s.world.autoSell.getPosition ⟨"g1", 5⟩).any (fun p =>
        p.state = .confirming && p.buySignature = "b1") &&
      s.world.ledger = [sampleLanding "b1" 1000] &&
      ((process sampleSetup).step s (.run 2 .nothing)).any fun s' =>
        (s'.world.autoSell.getPosition ⟨"g1", 5⟩).any (·.state = .failed)) (by decide +kernel)
  simp only [Bool.and_eq_true, decide_eq_true_eq, Option.any_eq_true] at passes
  obtain ⟨⟨⟨p, stored, confirming, signature⟩, landed⟩, s', taken, p', stored', failed⟩ := passes
  refine claim s s' _ reach taken _ p p' 105 stored stored' (by simp [confirming]) ?_ ?_ failed
  · exact ⟨sampleLanding "b1" 1000, by simp [landed], signature.symm, by decide⟩
  · intro l member
    rw [landed, List.mem_singleton] at member
    exact member ▸ by decide

end CopyTrader.Tx
