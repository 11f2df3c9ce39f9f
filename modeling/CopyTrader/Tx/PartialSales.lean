import CopyTrader.Tx.Routing
import CopyTrader.Tx.Selling
import CopyTrader.Tx.Sizing

/-!
# Partial sales

What a partial sale takes off the position when it has been sent, against what lands.
-/

namespace CopyTrader.Tx
open Lib AutoSell Main Tasks Program

/-- The amount of a transaction that was sent. -/
def sentAmount (e : Moment) : ℕ := ((sentSale e).map Prod.snd).getD 0

/-- The amount that a moment takes off the position. -/
def takenAmount (key : PositionKey) (e : Moment) : ℕ :=
  match e.op with
  | .applyPartialSell key' sold => if key' = key then sold else 0
  | _ => 0

/-- The sales that the tasks have sent. -/
def allSales (s : State) : List (Signature × ℕ) := s.tasks.flatMap sentSales

/-- The amounts of the sales that have landed. -/
def landedAmount (s : State) : ℕ :=
  (((allSales s).filter fun sale => Ledger.Landed s.world.ledger sale.1).map Prod.snd).sum

/-- Only `handle_partial_sell` is called, with 1 to 99 percent of the position. -/
def sellsParts (key : PositionKey) : Step → Bool
  | .start (.partialSell groupId mint percent) => (⟨groupId, mint⟩ : PositionKey) = key && 1 ≤ percent && percent < 100
  | .start _ => false
  | _ => true

/-- No more is taken off than the position has left. -/
def takesCovered (s : State) : Step → Bool
  | .run i _ =>
    match s.tasks[i]? with
    | some ⟨_, _, .perform (.applyPartialSell key sold) _⟩ =>
      (s.world.autoSell.getPosition key).all fun p => decide (sold ≤ p.tokenAmount)
    | _ => true
  | _ => true

def SellsParts (key : PositionKey) (_ : State) (step : Step) : Prop := sellsParts key step = true

instance (key : PositionKey) (s : State) (step : Step) : Decidable (SellsParts key s step) :=
  inferInstanceAs (Decidable (_ = true))

def SellsCoveredParts (key : PositionKey) (s : State) (step : Step) : Prop :=
  SellsParts key s step ∧ takesCovered s step = true

instance (key : PositionKey) (s : State) (step : Step) : Decidable (SellsCoveredParts key s step) :=
  inferInstanceAs (Decidable (_ ∧ _))

def allReturned (s : State) : Bool := s.tasks.all (·.rest.isDone)

/-- The process with a stored position and no tasks. -/
def Stores (key : PositionKey) (p : Position) (w : World) : Prop := w.autoSell.getPosition key = some p

/-! ### One sale -/

/-- Follows what a task has sent and what it has taken off. -/
def partsMonitor (key : PositionKey) : Monitor World Op Ans (ℕ × ℕ) where
  trusts _ := True
  allows _ _ := True
  next q e := (q.1 + sentAmount e, q.2 + takenAmount key e)

variable {setup : Setup} {signal : SellSignal} {position : Position} {key : PositionKey} {q : ℕ × ℕ}

theorem parts_after (past : List Moment) : (partsMonitor key).after (0, 0) past =
    ((past.map sentAmount).sum, (past.map (takenAmount key)).sum) := by
  induction past using List.reverseRecOn with
  | nil => rfl
  | append_singleton past e ih =>
    rw [Monitor.after_snoc, ih]
    simp [partsMonitor]

def movesParts : Op → Bool
  | .sendPumpfunSell .. | .sendJupiterSell .. | .applyPartialSell .. => true
  | _ => false

theorem parts_quiet {op : Op} (other : movesParts op = false) : (partsMonitor key).Quiet op := by
  cases op <;> first | exact ⟨fun _ => trivial, fun _ _ _ => rfl⟩ | cases other

/-- So much has been sent and not yet taken off. -/
def Owes (amount : ℕ) (q : ℕ × ℕ) : Prop := q.1 = q.2 + amount

def amountOf (sellAmount : ℕ) : Except String Signature → ℕ
  | .ok _ => sellAmount
  | .error _ => 0

theorem tryJupiterSell_owes {sellAmount : ℕ} (even : Owes 0 q) :
    wp (partsMonitor key) (fun sent => Owes (amountOf sellAmount sent)) (tryJupiterSell position sellAmount) q := by
  refine ⟨trivial, fun w sent _ => ?_⟩
  cases sent with
  | ok sig => exact congrArg (· + sellAmount) even
  | error err => exact even

theorem tryPumpfunSell_owes {sellAmount : ℕ} (even : Owes 0 q) :
    wp (partsMonitor key) (fun sent => Owes (amountOf sellAmount sent)) (tryPumpfunSell position sellAmount) q := by
  refine wp_quiet_bind (resolveSellSnapshot_uses fun _ => parts_quiet rfl) fun snapshot => ?_
  cases snapshot with
  | none => exact even
  | some snapshot =>
    refine ⟨trivial, fun w sent _ => ?_⟩
    cases sent with
    | ok sig => exact congrArg (· + sellAmount) even
    | error err => exact even

theorem trySellPart_owes {sellAmount : ℕ} (even : Owes 0 q) :
    wp (partsMonitor key) (fun sent => Owes (amountOf sellAmount sent)) (trySellPart position sellAmount) q := by
  refine wp_quiet_bind (partialSellRoute_uses (fun _ => parts_quiet rfl) fun _ => parts_quiet rfl) fun route => ?_
  exact wp_ite (fun _ => tryJupiterSell_owes even) fun _ => tryPumpfunSell_owes even

/-- What has been sent is taken off, and nothing else is. -/
theorem partialSellMarked_even (signal : SellSignal) {mint : Pubkey} {sellAmount percent : ℕ} (even : Owes 0 q) :
    wp (partsMonitor signal.positionKey) (fun _ => Owes 0)
      (partialSellMarked signal position mint sellAmount percent) q := by
  refine wp_seq (trySellPart_owes even) fun sent q' owes => ?_
  cases sent with
  | ok sig =>
    refine wp_perform trivial fun w _ _ => ?_
    have taken : takenAmount signal.positionKey ⟨w, .applyPartialSell signal.positionKey sellAmount, ()⟩ = sellAmount :=
      if_pos rfl
    have paid : Owes 0 ((partsMonitor signal.positionKey).next q'
        ⟨w, .applyPartialSell signal.positionKey sellAmount, ()⟩) := by
      show q'.1 + 0 = q'.2 + takenAmount _ _ + 0
      rw [taken]
      exact owes
    refine wp_quiet_bind (uses_call.mpr (parts_quiet rfl)) fun _ => ?_
    exact wp_quiet (uses_call.mpr (parts_quiet rfl)) fun _ => paid
  | error err => exact wp_quiet (uses_call.mpr (parts_quiet rfl)) fun _ => owes

theorem handlePartialSell_even {groupId : String} {mint : Pubkey} {percent : ℕ} (part : percent < 100) :
    wp (partsMonitor ⟨groupId, mint⟩) (fun _ => Owes 0) (handlePartialSell setup groupId mint percent) (0, 0) := by
  have even : Owes 0 (0, 0) := rfl
  apply handlePartialSell_wp trivial
  · exact fun _ _ => even
  · exact fun whole => absurd part (Nat.not_lt.mpr whole)
  · intro _ w position
    refine wp_quiet_bind (uses_call.mpr (parts_quiet rfl)) fun marked => ?_
    exact wp_ite (fun _ => partialSellMarked_even (manualSignal groupId mint position) even) fun _ => even

/-! ### Runs -/

/-- A partial sale of the position. -/
def PartOf (key : PositionKey) (role : Role) : Prop :=
  ∃ percent, role = .partialSell key.groupId key.tokenMint percent ∧ percent < 100

theorem PartOf.even {role : Role} (part : PartOf key role) :
    wp (partsMonitor key) (fun _ => Owes 0) (role.code setup) (0, 0) := by
  obtain ⟨percent, rfl, part⟩ := part
  exact handlePartialSell_even part

theorem forks_of_sell {op : Op} (sells : op.ofSell = true) : forks op = none := by
  cases op <;> first | rfl | cases sells

theorem only_parts {starts : World → Prop} {s : State} (reach : (process setup).Reachable starts (SellsParts key) s) :
    ∀ (i : ℕ) (t : TaskState), s.tasks[i]? = some t → PartOf key t.role := by
  refine reach.invariant (I := fun s => ∀ (i : ℕ) (t : TaskState), s.tasks[i]? = some t → PartOf key t.role) ?_ ?_
  · intro w _ i t here
    cases here
  · intro s step s' reach ih parts stepped i t' here
    rcases stepped.task here with ⟨role, rfl, _, begun⟩ | ⟨t, before, moved⟩
    · cases begun with
      | opened role opens =>
        cases role
        case partialSell groupId mint percent =>
          simp only [SellsParts, sellsParts, Bool.and_eq_true, decide_eq_true_eq] at parts
          obtain ⟨⟨rfl, -⟩, part⟩ := parts
          exact ⟨percent, rfl, part⟩
        all_goals cases parts
      | forked j choice t op next there rest role forked =>
        obtain ⟨percent, same, -⟩ := ih j t there
        have uses : Within t.role.alphabet t.rest := reach.uses (code_within setup) there
        rw [rest, same] at uses
        have sells : op.ofSell = true := uses.1
        cases (forks_of_sell sells).symm.trans forked
    · have same : t'.role = t.role := by cases moved <;> rfl
      exact same ▸ ih i t before

theorem performs_sell {starts : World → Prop} {s : State} (reach : (process setup).Reachable starts (SellsParts key) s)
    {i : ℕ} {t : TaskState} {op : Op} {next : Ans op → Prog Unit} (here : s.tasks[i]? = some t)
    (rest : t.rest = .perform op next) : op.ofSell = true := by
  obtain ⟨percent, same, -⟩ := only_parts reach i t here
  have uses : Within t.role.alphabet t.rest := reach.uses (code_within setup) here
  rw [rest, same] at uses
  exact uses.1

theorem applyPartialSell_taken {p : Position} {sold : ℕ} {now : Instant} (covered : sold ≤ p.tokenAmount) :
    (p.applyPartialSell sold now).1.tokenAmount + sold = p.tokenAmount := by
  unfold Position.applyPartialSell
  split
  · rename_i refused
    dsimp only
    omega
  · dsimp only
    omega

/-- What a sale makes of the tokens. -/
theorem taken_step {w w' : World} {op : Op} {choice : Choice} {answer : Ans op} {p : Position}
    (reply : w.respond op choice = some (answer, w')) (sells : op.ofSell = true)
    (covered : ∀ sold, op = .applyPartialSell key sold → sold ≤ p.tokenAmount)
    (stored : w.autoSell.getPosition key = some p) :
    ∃ p', w'.autoSell.getPosition key = some p' ∧
      p'.tokenAmount + takenAmount key ⟨w, op, answer⟩ = p.tokenAmount := by
  refine ⟨_, (getPosition_after reply).trans (positionAfter_of_sell sells stored), ?_⟩
  cases resizes : op.resizes key with
  | false =>
    rw [rewrite_tokenAmount resizes]
    cases op
    case applyPartialSell key' sold =>
      show p.tokenAmount + (if key' = key then sold else 0) = p.tokenAmount
      rw [if_neg (of_decide_eq_false resizes), Nat.add_zero]
    all_goals rfl
  | true =>
    cases op
    case applyPartialSell key' sold =>
      obtain rfl := of_decide_eq_true resizes
      show (if key' = key' then (p.applyPartialSell sold w.clock).1 else p).tokenAmount + (if key' = key' then sold else 0) = _
      rw [if_pos rfl, if_pos rfl]
      exact applyPartialSell_taken (covered sold rfl)
    case confirmSuccess | fallbackConfirm => cases sells
    all_goals cases resizes

theorem SellsCoveredParts.covers {s : State} {i : ℕ} {choice : Choice} {role : Role} {past : List Moment} {op : Op}
    {next : Ans op → Prog Unit} {p : Position} (fine : SellsCoveredParts key s (.run i choice))
    (here : s.tasks[i]? = some ⟨role, past, .perform op next⟩) (stored : s.world.autoSell.getPosition key = some p) :
    ∀ sold, op = .applyPartialSell key sold → sold ≤ p.tokenAmount := by
  rintro sold rfl
  have covered := fine.2
  simp only [takesCovered, here, stored, Option.all_some, decide_eq_true_eq] at covered
  exact covered

/-- What is taken off is accounted for. -/
theorem tokens_taken {s : State} {p₀ : Position}
    (reach : (process setup).Reachable (Stores key p₀) (SellsCoveredParts key) s) :
    ∃ p, s.world.autoSell.getPosition key = some p ∧
      p.tokenAmount + System.total (takenAmount key) s = p₀.tokenAmount := by
  refine reach.invariant (I := fun s => ∃ p, s.world.autoSell.getPosition key = some p ∧
    p.tokenAmount + System.total (takenAmount key) s = p₀.tokenAmount) ?_ ?_
  · intro w start
    exact ⟨p₀, start, rfl⟩
  rintro s step s' reach ⟨p, stored, accounted⟩ fine stepped
  cases stepped with
  | ran i choice role past op next here answer world reply =>
    have sells := performs_sell (reach.mono fun _ _ fine => fine.1) here rfl
    obtain ⟨p', stored', taken⟩ := taken_step reply sells (fine.covers here stored) stored
    refine ⟨p', stored', ?_⟩
    rw [System.total_begin, System.total_set here world rfl]
    omega
  | started role opens =>
    have same : System.total (takenAmount key) ⟨s.world, s.tasks ++ [(process setup).begin role]⟩ =
        System.total (takenAmount key) s := System.total_begin _ s.world s.tasks (some role)
    exact ⟨p, stored, same.symm ▸ accounted⟩
  | disturbed env world change => exact ⟨p, (disturb_autoSell change).symm ▸ stored, accounted⟩

/-- Once all calls have returned, all that was sent has been taken off. -/
theorem sent_taken {starts : World → Prop} {s : State} (reach : (process setup).Reachable starts (SellsParts key) s)
    (done : ∀ t ∈ s.tasks, t.rest.isDone = true) : System.total (takenAmount key) s = ((allSales s).map Prod.snd).sum := by
  unfold allSales System.total
  rw [sum_map_flatMap]
  refine congrArg List.sum (List.map_congr_left fun t member => ?_)
  obtain ⟨i, here⟩ := List.getElem?_of_mem member
  have obeys := reach.obeys_trusting (partsMonitor key) (0, 0) (PartOf key) (fun _ => trivial)
    (fun _ part => part.even) here (only_parts reach i t here)
  have ended : Owes 0 ((partsMonitor key).after (0, 0) t.past) := by
    cases rest : t.rest with
    | done a =>
      rw [rest] at obeys
      exact obeys
    | perform op next =>
      have done := done t member
      rw [rest] at done
      cases done
  rw [parts_after] at ended
  calc (t.past.map (takenAmount key)).sum
      = (t.past.map sentAmount).sum := ended.symm
    _ = ((sentSales t).map Prod.snd).sum := (sum_map_filterMap t.past).symm

/-- After partial sales that take off no more than is left, the tokens are those from before less what has landed,
exactly if all that was sent has landed. -/
theorem parts_accounted_iff {s : State} {p₀ : Position}
    (reach : (process setup).Reachable (Stores key p₀) (SellsCoveredParts key) s)
    (done : ∀ t ∈ s.tasks, t.rest.isDone = true) :
    ∃ p, s.world.autoSell.getPosition key = some p ∧
      (p.tokenAmount + landedAmount s = p₀.tokenAmount ↔
        ∀ sale ∈ allSales s, sale.2 ≠ 0 → Ledger.Landed s.world.ledger sale.1) := by
  obtain ⟨p, stored, accounted⟩ := tokens_taken reach
  rw [sent_taken (reach.mono fun _ _ fine => fine.1) done] at accounted
  refine ⟨p, stored, ?_⟩
  have landed := sum_map_filter_eq_iff (f := Prod.snd) (l := allSales s)
    (p := fun sale => decide (Ledger.Landed s.world.ledger sale.1))
  simp only [decide_eq_true_eq] at landed
  rw [← landed]
  unfold landedAmount
  omega

/-! ### One call after the other -/

/-- A call is made when the others have returned. -/
def startsAlone (s : State) : Step → Bool
  | .start _ => allReturned s
  | _ => true

def SellsPartsInTurn (key : PositionKey) (s : State) (step : Step) : Prop :=
  SellsParts key s step ∧ startsAlone s step = true

inductive Copy where
  | unread
  | read (tokenAmount : ℕ)
  | used

/-- Follows the amount that a task has read; it takes off no more, once. -/
def copyMonitor (key : PositionKey) : Monitor World Op Ans Copy where
  trusts _ := True
  allows q
    | .getPosition key' => key' = key
    | .applyPartialSell key' sold => key' = key ∧ ∃ tokenAmount, q = .read tokenAmount ∧ sold ≤ tokenAmount
    | _ => True
  next q e :=
    match e.op, e.answer with
    | .getPosition _, found => found.elim q fun p => .read p.tokenAmount
    | .applyPartialSell .., _ => .used
    | _, _ => q

def turnsCopy : Op → Bool
  | .getPosition _ | .applyPartialSell .. => true
  | _ => false

theorem copy_quiet {op : Op} (other : turnsCopy op = false) : (copyMonitor key).Quiet op := by
  cases op <;> first | exact ⟨fun _ => trivial, fun _ _ _ => rfl⟩ | cases other

theorem partialSellMarked_covered (signal : SellSignal) {mint : Pubkey} {tokenAmount sellAmount percent : ℕ}
    (fits : sellAmount ≤ tokenAmount) :
    wp (copyMonitor signal.positionKey) (fun _ _ => True) (partialSellMarked signal position mint sellAmount percent)
      (.read tokenAmount) := by
  refine wp_quiet_bind (trySellPart_uses (fun _ => copy_quiet rfl) (fun _ => copy_quiet rfl) (fun _ => copy_quiet rfl)
    (copy_quiet rfl)) fun sent => ?_
  cases sent with
  | ok sig =>
    refine wp_perform ⟨rfl, tokenAmount, rfl, fits⟩ fun _ _ _ => ?_
    refine wp_quiet_bind (uses_call.mpr (copy_quiet rfl)) fun _ => ?_
    exact wp_quiet (uses_call.mpr (copy_quiet rfl)) fun _ => trivial
  | error err => exact wp_quiet (uses_call.mpr (copy_quiet rfl)) fun _ => trivial

theorem handlePartialSell_covered {groupId : String} {mint : Pubkey} {percent : ℕ} (part : percent < 100) :
    wp (copyMonitor ⟨groupId, mint⟩) (fun _ _ => True) (handlePartialSell setup groupId mint percent) .unread := by
  apply handlePartialSell_wp rfl
  · exact fun _ _ => trivial
  · exact fun whole => absurd part (Nat.not_lt.mpr whole)
  · intro _ w position
    refine wp_quiet_bind (uses_call.mpr (copy_quiet rfl)) fun marked => wp_ite (fun _ => ?_) fun _ => trivial
    refine partialSellMarked_covered (manualSignal groupId mint position) ?_
    calc position.tokenAmount * percent / 100
        ≤ position.tokenAmount * 100 / 100 := Nat.div_le_div_right (Nat.mul_le_mul_left _ part.le)
      _ = position.tokenAmount := Nat.mul_div_cancel _ (by decide)

theorem PartOf.covered {role : Role} (part : PartOf key role) :
    wp (copyMonitor key) (fun _ _ => True) (role.code setup) .unread := by
  obtain ⟨percent, rfl, part⟩ := part
  exact handlePartialSell_covered part

/-- Only the last call may not have returned, and what it has read is still stored. -/
structure InTurn (key : PositionKey) (s : State) : Prop where
  returned : ∀ (i : ℕ) (t : TaskState), s.tasks[i]? = some t → i + 1 < s.tasks.length → t.rest.isDone = true
  current : ∀ (i : ℕ) (t : TaskState) tokenAmount, s.tasks[i]? = some t → t.rest.isDone = false →
    (copyMonitor key).after .unread t.past = .read tokenAmount →
      ∃ p, s.world.autoSell.getPosition key = some p ∧ p.tokenAmount = tokenAmount

theorem performs_covered {starts : World → Prop} {s : State} (reach : (process setup).Reachable starts (SellsParts key) s)
    {i : ℕ} {t : TaskState} {op : Op} {next : Ans op → Prog Unit} (here : s.tasks[i]? = some t)
    (rest : t.rest = .perform op next) : (copyMonitor key).allows ((copyMonitor key).after .unread t.past) op :=
  reach.allows_trusting (copyMonitor key) .unread (PartOf key) (fun _ => trivial) (fun _ part => part.covered) here
    (only_parts reach i t here) rest

/-- What has been read is still stored after the next operation. -/
theorem read_kept {w w' : World} {op : Op} {choice : Choice} {answer : Ans op} {q : Copy} {tokenAmount : ℕ}
    (reply : w.respond op choice = some (answer, w')) (sells : op.ofSell = true) (allowed : (copyMonitor key).allows q op)
    (current : ∀ tokenAmount, q = .read tokenAmount →
      ∃ p, w.autoSell.getPosition key = some p ∧ p.tokenAmount = tokenAmount)
    (after : (copyMonitor key).next q ⟨w, op, answer⟩ = .read tokenAmount) :
    ∃ p, w'.autoSell.getPosition key = some p ∧ p.tokenAmount = tokenAmount := by
  have kept (whole : reduces op = false) (before : q = .read tokenAmount) :
      ∃ p, w'.autoSell.getPosition key = some p ∧ p.tokenAmount = tokenAmount := by
    obtain ⟨p, stored, amount⟩ := current tokenAmount before
    exact ⟨_, (getPosition_after reply).trans (positionAfter_of_sell sells stored),
      (rewrite_tokenAmount (resizes_of_sell sells whole)).trans amount⟩
  cases turns : turnsCopy op with
  | false =>
    rw [(copy_quiet turns).2] at after
    refine kept ?_ after
    cases op <;> first | rfl | cases turns
  | true =>
    cases op
    case getPosition key' =>
      obtain rfl : key' = key := allowed
      obtain ⟨found, same⟩ := getPosition_reply reply
      cases answer with
      | none => exact kept rfl after
      | some p =>
        refine ⟨p, ?_, Copy.read.inj after⟩
        rw [same]
        exact found.symm
    case applyPartialSell => cases after
    all_goals cases turns

/-- A call that is made when the others have returned. -/
theorem InTurn.started {s : State} (done : ∀ t ∈ s.tasks, t.rest.isDone = true) (role : Role) :
    InTurn key ⟨s.world, s.tasks ++ [(process setup).begin role]⟩ := by
  constructor
  · intro i t here earlier
    rw [List.getElem?_append_left (by simpa using earlier)] at here
    exact done t (List.mem_of_getElem? here)
  · intro i t tokenAmount here working read
    rcases List.mem_append.mp (List.mem_of_getElem? here) with old | new
    · rw [done t old] at working
      cases working
    · rw [List.mem_singleton.mp new] at read
      cases read

/-- An operation of the last call. -/
theorem InTurn.ran {s : State} {i : ℕ} {choice : Choice} {role : Role} {past : List Moment} {op : Op}
    {next : Ans op → Prog Unit} {answer : Ans op} {world : World} (inTurn : InTurn key s)
    (here : s.tasks[i]? = some ⟨role, past, .perform op next⟩) (reply : s.world.respond op choice = some (answer, world))
    (sells : op.ofSell = true) (allowed : (copyMonitor key).allows ((copyMonitor key).after .unread past) op) :
    InTurn key ⟨world, s.tasks.set i ⟨role, past ++ [⟨s.world, op, answer⟩], next answer⟩⟩ := by
  have place : i < s.tasks.length := (List.getElem?_eq_some_iff.mp here).1
  have last : ¬ i + 1 < s.tasks.length := fun earlier => nomatch inTurn.returned i _ here earlier
  have elsewhere {j : ℕ} {t : TaskState} (other : i ≠ j) (there : (s.tasks.set i
      ⟨role, past ++ [⟨s.world, op, answer⟩], next answer⟩)[j]? = some t) : t.rest.isDone = true := by
    rw [List.getElem?_set_ne other] at there
    have inside : j < s.tasks.length := (List.getElem?_eq_some_iff.mp there).1
    exact inTurn.returned j t there (by omega)
  constructor
  · intro j t there earlier
    rw [List.length_set] at earlier
    exact elsewhere (fun same => last (same ▸ earlier)) there
  · intro j t tokenAmount there working read
    by_cases same : i = j
    · subst same
      rw [List.getElem?_set_self place] at there
      obtain rfl := Option.some.inj there
      rw [Monitor.after_snoc] at read
      exact read_kept reply sells allowed (fun tokenAmount before => inTurn.current i _ tokenAmount here rfl before) read
    · rw [elsewhere same there] at working
      cases working

theorem inTurn_of_reachable {starts : World → Prop} {s : State}
    (reach : (process setup).Reachable starts (SellsPartsInTurn key) s) : InTurn key s := by
  refine reach.invariant (I := InTurn key) ?_ fun s step s' reach inTurn fine stepped => ?_
  · intro w _
    constructor
    · intro i t here
      cases here
    · intro i t tokenAmount here
      cases here
  cases stepped with
  | started role opens => exact .started (List.all_eq_true.mp fine.2) role
  | disturbed env world change =>
    refine ⟨inTurn.returned, fun i t tokenAmount here working read => ?_⟩
    rw [disturb_autoSell change]
    exact inTurn.current i t tokenAmount here working read
  | ran i choice role past op next here answer world reply =>
    have sells := performs_sell (reach.mono fun _ _ fine => fine.1) here rfl
    have allowed := performs_covered (reach.mono fun _ _ fine => fine.1) here rfl
    have kept := inTurn.ran here reply sells allowed
    rwa [show (process setup).forks op = none from forks_of_sell sells, Option.map_none, Option.toList_none,
      List.append_nil]

/-- Calls that follow one another take off no more than is left. -/
theorem covered_of_inTurn {starts : World → Prop} {s : State}
    (reach : (process setup).Reachable starts (SellsPartsInTurn key) s) :
    (process setup).Reachable starts (SellsCoveredParts key) s := by
  induction reach with
  | init w start => exact .init w start
  | step s s' step reach fine taken ih =>
    refine .step s s' step ih ⟨fine.1, ?_⟩ taken
    cases step with
    | start | disturb => rfl
    | run i choice =>
      unfold takesCovered
      dsimp only
      split
      · rename_i role past key' sold next here
        obtain ⟨rfl, tokenAmount, read, fits⟩ := performs_covered (reach.mono fun _ _ fine => fine.1) here rfl
        obtain ⟨p, stored, rfl⟩ := (inTurn_of_reachable reach).current i _ tokenAmount here rfl read
        rw [stored]
        exact decide_eq_true fits
      · rfl

/-! ### Samples -/

/-- A position of 1000 tokens. -/
def sampleHeld : Position :=
  { Position.new sampleGroup 5 1 1 7 0 0 with
    state := .active
    tokenAmount := 1000
    sellSnapshot := some (snapshotOf sampleTracked) }

def sampleHolding : World :=
  (World.new sampleGroups).withAutoSell ((World.new sampleGroups).autoSell.addPosition sampleHeld)

theorem sampleHolding_stores : Stores ⟨"g1", 5⟩ sampleHeld sampleHolding := rfl

/-- The task `i` sells half of what is left. -/
def sampleHalf (i : ℕ) (signature : Signature) : List Step :=
  .start (.partialSell "g1" 5 50) ::
    runs i [.nothing, .nothing, .migrated none, .sent (.ok signature), .nothing, .nothing, .nothing]

def sampleParts : List Step :=
  sampleHalf 0 "s1" ++ .disturb (.land ⟨"s1", false, [⟨105, 0, 500⟩]⟩) :: sampleHalf 1 "s2" ++
    [.disturb (.land ⟨"s2", false, [⟨105, 0, 250⟩]⟩)]

theorem parts_accounted_sample : ∃ s, (process sampleSetup).Reachable (Stores ⟨"g1", 5⟩ sampleHeld)
    (SellsCoveredParts ⟨"g1", 5⟩) s ∧ ∃ p, s.world.autoSell.getPosition ⟨"g1", 5⟩ = some p ∧
      p.tokenAmount = 250 ∧ p.tokenAmount + landedAmount s = 1000 := by
  obtain ⟨s, reach, passes⟩ := reaches_from sampleSetup (SellsCoveredParts ⟨"g1", 5⟩) sampleHolding_stores sampleParts
    (fun s => allReturned s && decide (∀ sale ∈ allSales s, Ledger.Landed s.world.ledger sale.1) &&
      (s.world.autoSell.getPosition ⟨"g1", 5⟩).any (·.tokenAmount = 250)) (by decide +kernel)
  simp only [Bool.and_eq_true, decide_eq_true_eq] at passes
  obtain ⟨⟨done, landed⟩, left⟩ := passes
  obtain ⟨p, stored, accounted⟩ := parts_accounted_iff reach (List.all_eq_true.mp done)
  rw [stored] at left
  exact ⟨s, reach, p, stored, of_decide_eq_true left, accounted.mpr fun sale member _ => landed sale member⟩

/-- Half of the position is sent for sale and never lands. -/
theorem parts_lost : ¬ ∀ s, (process sampleSetup).Reachable (Stores ⟨"g1", 5⟩ sampleHeld) (SellsParts ⟨"g1", 5⟩) s →
    (∀ t ∈ s.tasks, t.rest.isDone = true) → ∀ p, s.world.autoSell.getPosition ⟨"g1", 5⟩ = some p →
      p.tokenAmount + landedAmount s = 1000 := by
  intro claim
  obtain ⟨s, reach, passes⟩ := reaches_from sampleSetup (SellsParts ⟨"g1", 5⟩) sampleHolding_stores (sampleHalf 0 "s1")
    (fun s => allReturned s && decide (landedAmount s = 0) &&
      (s.world.autoSell.getPosition ⟨"g1", 5⟩).any (·.tokenAmount = 500)) (by decide +kernel)
  simp only [Bool.and_eq_true, decide_eq_true_eq] at passes
  obtain ⟨⟨done, landed⟩, left⟩ := passes
  obtain ⟨p, stored, amount⟩ := (Option.any_eq_true ..).mp left
  have total := claim s reach (List.all_eq_true.mp done) p stored
  rw [landed, of_decide_eq_true amount] at total
  cases total

end CopyTrader.Tx
