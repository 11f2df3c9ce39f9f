import CopyTrader.Lib.AnyOrder
import CopyTrader.Tx.BuyEvidence

/-!
# Crediting a buy from its transaction

When a buy has landed and no balance has risen, the balances after the transaction decide. The first
one of the wallet that lies above the remembered balance is taken, whatever its mint.
-/

namespace CopyTrader.Tx
open Lib AutoSell Tasks Program

variable {c : ConfirmTask} {balances balances' : List TokenBalance} {tb : TokenBalance} {amount : ℕ}

/-- The wallet holds the amount, more than was remembered. -/
def OwnRise (c : ConfirmTask) (tb : TokenBalance) (amount : ℕ) : Prop :=
  tb.owner = some c.userPubkey ∧ (∃ shown, tb.amount = some shown ∧ shown.val = amount) ∧ c.preBuyAtaBalance < amount

/-- The wallet holds the amount of the bought mint. -/
def BoughtAmount (c : ConfirmTask) (balances : List TokenBalance) (amount : ℕ) : Prop :=
  ∃ tb ∈ balances, tb.owner = some c.userPubkey ∧ tb.mint = c.mint ∧ ∃ shown, tb.amount = some shown ∧ shown.val = amount

def shownTransaction (e : Moment) : Option (List TokenBalance) :=
  match e.op, e.answer with
  | .rpcTransaction _, .ok balances => balances
  | _, _ => none

def countedOpen (e : Moment) : Option ℕ :=
  match e.op, e.answer with
  | .openPositionCountForMint _, count => some count
  | _, _ => none

/-- The amount is that of an entry of the wallet for the bought mint, less what was there before, as
far as the count of open positions lets the task use it. -/
def AssignsBought (c : ConfirmTask) (balances : List TokenBalance) (counts : List ℕ) (assigned : ℕ) : Prop :=
  ∃ amount, BoughtAmount c balances amount ∧ c.preBuyAtaBalance < amount ∧ ∃ count ∈ counts,
    assigned = max (assignedAmount count (amount - c.preBuyAtaBalance) c.estimatedTokensRaw) 1

/-- Only the bought mint is credited: by the choice of the balance, and by every confirm task that was shown these
balances, in any run. -/
structure CreditsBought (c : ConfirmTask) (balances : List TokenBalance) : Prop where
  selects : ∀ amount, detailBalance c balances = some amount → BoughtAmount c balances amount
  passes : (∀ amount, BoughtAmount c balances amount → amount ≤ c.preBuyAtaBalance) → detailBalance c balances = none
  assigns : ∀ (setup : Setup) (s : State) (ok : State → Step → Prop) (i : ℕ) (t : TaskState) (key : PositionKey)
    (assigned : ℕ) (price : Option ℚ) (next : Unit → Prog Unit),
    (process setup).Reachable World.Starts ok s → s.tasks[i]? = some t → t.role = .confirm c →
    t.rest = .perform (.confirmSuccess key assigned price) next →
    (∃ e ∈ t.past, shownTransaction e = some balances) → AssignsBought c balances (t.past.filterMap countedOpen) assigned

/-! ### The choice -/

/-- What one entry offers to the choice. -/
def offered (c : ConfirmTask) (tb : TokenBalance) : Option ℕ :=
  if tb.owner = some c.userPubkey then
    match tb.amount with
    | some amount => if c.preBuyAtaBalance < amount.val then some amount.val else none
    | none => none
  else none

theorem detailBalance_eq : detailBalance c balances = balances.findSome? (offered c) := rfl

theorem offered_iff : offered c tb = some amount ↔ OwnRise c tb amount := by
  unfold OwnRise offered
  cases tb.amount with
  | none => simp
  | some shown =>
    by_cases own : tb.owner = some c.userPubkey
    · by_cases higher : c.preBuyAtaBalance < shown.val
      · simp only [own, higher, if_true, Option.some.injEq, true_and, exists_eq_left']
        exact ⟨fun same => ⟨same, same ▸ higher⟩, And.left⟩
      · simp only [own, higher, if_true, if_false, Option.some.injEq, true_and, exists_eq_left', reduceCtorEq, false_iff]
        rintro ⟨rfl, above⟩
        exact higher above
    · simp [own]

/-- The first entry of the wallet above the remembered balance. -/
theorem detailBalance_some_iff : detailBalance c balances = some amount ↔
    ∃ before tb after, balances = before ++ tb :: after ∧ OwnRise c tb amount ∧
      ∀ tb' ∈ before, ∀ amount', ¬ OwnRise c tb' amount' := by
  rw [detailBalance_eq, List.findSome?_eq_some_iff]
  refine exists_congr fun before => exists_congr fun tb => exists_congr fun after => ?_
  rw [offered_iff]
  refine and_congr_right fun _ => and_congr_right fun _ => forall_congr' fun tb' => imp_congr_right fun _ => ?_
  rw [Option.eq_none_iff_forall_ne_some]
  exact forall_congr' fun amount' => not_congr offered_iff

theorem detailBalance_higher (found : detailBalance c balances = some amount) : c.preBuyAtaBalance < amount := by
  obtain ⟨_, _, _, _, rise, _⟩ := detailBalance_some_iff.mp found
  exact rise.2.2

theorem boughtAmount_perm (perm : balances'.Perm balances) :
    BoughtAmount c balances' amount ↔ BoughtAmount c balances amount := by
  unfold BoughtAmount
  simp only [perm.mem_iff]

/-! ### What is assigned -/

structure CreditRecord where
  credited : Bool
  counts : List ℕ

/-- Follows whether these balances were shown, and the counts of open positions. -/
def creditMonitor (c : ConfirmTask) (balances : List TokenBalance) : Monitor World Op Ans CreditRecord where
  trusts _ := True
  allows r
    | .confirmSuccess _ assigned _ => r.credited = true → AssignsBought c balances r.counts assigned
    | _ => True
  next r e :=
    { credited := r.credited || decide (shownTransaction e = some balances)
      counts := r.counts ++ (countedOpen e).toList }

theorem creditMonitor_after (past : List Moment) : (creditMonitor c balances).after ⟨false, []⟩ past =
    ⟨past.any (shownTransaction · = some balances), past.filterMap countedOpen⟩ := by
  induction past using List.reverseRecOn with
  | nil => rfl
  | append_singleton past e ih =>
    rw [Monitor.after_snoc, ih]
    cases counted : countedOpen e <;> simp [creditMonitor, counted]

def turnsCredit : Op → Bool
  | .rpcTransaction _ | .openPositionCountForMint _ | .confirmSuccess .. => true
  | _ => false

theorem quiet_of_uncredited {op : Op} (other : turnsCredit op = false) : (creditMonitor c balances).Quiet op := by
  have same (r : CreditRecord) : (⟨r.credited || false, r.counts ++ []⟩ : CreditRecord) = r := by simp
  cases op <;> first | exact ⟨fun _ => trivial, fun r _ _ => same r⟩ | cases other

theorem confirmLost_credits {r : CreditRecord} {reason tgReason : String} :
    wp (creditMonitor c balances) (fun _ _ => True) (confirmLost c reason tgReason) r :=
  wp_perform trivial fun _ _ _ => ⟨trivial, fun _ _ _ => trivial⟩

theorem finishConfirm_credits {r : CreditRecord} {seen : Bool} {tokenBalance : ℕ}
    (bought : c.preBuyAtaBalance < tokenBalance → r.credited = true → BoughtAmount c balances tokenBalance) :
    wp (creditMonitor c balances) (fun _ _ => True) (finishConfirm c seen tokenBalance) r := by
  refine wp_ite (fun higher => ?_) fun _ => wp_ite (fun _ => confirmLost_credits) fun _ => confirmLost_credits
  refine wp_quiet_bind (uses_call.mpr (quiet_of_uncredited rfl)) fun curve => ?_
  refine wp_perform trivial fun w count _ => ?_
  refine wp_perform ?_ fun _ _ _ => ?_
  · intro credited
    have before : r.credited = true := by simpa [creditMonitor, shownTransaction] using credited
    refine ⟨tokenBalance, bought higher before, higher, count, ?_, rfl⟩
    exact List.mem_append_right _ (by simp [countedOpen])
  · exact wp_perform trivial fun _ _ _ => wp_perform trivial fun _ _ _ => ⟨trivial, fun _ _ _ => trivial⟩

theorem buyConfirm_credits (selects : ∀ amount, detailBalance c balances = some amount → BoughtAmount c balances amount) :
    wp (creditMonitor c balances) (fun _ _ => True) (buyConfirm c) ⟨false, []⟩ := by
  have quiet {op : Op} (other : turnsCredit op = false) : (creditMonitor c balances).Quiet op := quiet_of_uncredited other
  refine wp_quiet_bind (uses_call.mpr (quiet rfl)) fun start => ?_
  refine wp_quiet_bind (buyConfirmLoop_uses (quiet rfl) (fun _ => quiet rfl) fun _ _ =>
    buyConfirmRound_uses (quiet rfl) (quiet rfl) (quiet rfl) (quiet rfl)) fun result => ?_
  cases result with
  | error err => exact confirmLost_credits
  | ok result =>
    obtain ⟨seen, tokenBalance⟩ := result
    rw [wp_bind]
    unfold pollTransaction
    refine wp_ite (fun asks => ?_) fun _ => finishConfirm_credits fun _ credited => by cases credited
    have lower : tokenBalance ≤ c.preBuyAtaBalance := by
      simp only [Bool.and_eq_true, decide_eq_true_eq] at asks
      exact asks.2
    refine wp_perform trivial fun w answer _ => ?_
    -- the balances that were shown are these, or other ones
    cases answer with
    | joinError | rpcError => exact finishConfirm_credits fun higher => absurd lower (Nat.not_le.mpr higher)
    | ok answer =>
      cases answer with
      | none => exact finishConfirm_credits fun higher => absurd lower (Nat.not_le.mpr higher)
      | some answer =>
        refine finishConfirm_credits fun higher credited => ?_
        obtain rfl : answer = balances := by simpa [creditMonitor, shownTransaction] using credited
        cases found : detailBalance c answer with
        | none =>
          rw [found] at higher
          exact absurd lower (Nat.not_le.mpr higher)
        | some amount => exact selects amount found

theorem creditsBought_of_selects
    (selects : ∀ amount, detailBalance c balances = some amount → BoughtAmount c balances amount) :
    CreditsBought c balances := by
  constructor
  case selects => exact selects
  case passes =>
    intro none
    rw [Option.eq_none_iff_forall_ne_some]
    intro amount found
    exact absurd (detailBalance_higher found) (Nat.not_lt.mpr (none amount (selects amount found)))
  case assigns =>
    intro setup s ok i t key assigned price next reach here confirms rest ⟨e, member, shown⟩
    have allowed := reach.allows_trusting (creditMonitor c balances) ⟨false, []⟩ (· = .confirm c) (fun _ => trivial)
      (by rintro _ rfl; exact buyConfirm_credits selects) here confirms rest
    rw [creditMonitor_after] at allowed
    exact allowed (List.any_eq_true.mpr ⟨e, member, decide_eq_true shown⟩)

/-! ### When the bought mint is credited -/

/-- Only the bought mint is credited exactly if the first entry of the wallet above the remembered balance shows an
amount that the wallet has of the bought mint; and in every order of the entries exactly if they all do. -/
theorem creditsBought_iff (c : ConfirmTask) (balances : List TokenBalance) :
    (CreditsBought c balances ↔
      ∀ before tb after amount, balances = before ++ tb :: after → OwnRise c tb amount →
        (∀ tb' ∈ before, ∀ amount', ¬ OwnRise c tb' amount') → BoughtAmount c balances amount) ∧
    ((∀ balances' : List TokenBalance, balances'.Perm balances → CreditsBought c balances') ↔
      ∀ tb ∈ balances, ∀ amount, OwnRise c tb amount → BoughtAmount c balances amount) := by
  constructor
  · constructor
    · intro credits before tb after amount parts rise first
      exact credits.selects amount (detailBalance_some_iff.mpr ⟨before, tb, after, parts, rise, first⟩)
    · intro first
      refine creditsBought_of_selects fun amount found => ?_
      obtain ⟨before, tb, after, parts, rise, none⟩ := detailBalance_some_iff.mp found
      exact first before tb after amount parts rise none
  · constructor
    · intro credits tb member amount rise
      obtain ⟨balances', perm, found⟩ := exists_perm_findSome? member (offered_iff.mpr rise)
      exact (boughtAmount_perm perm).mp ((credits balances' perm).selects amount found)
    · intro all balances' perm
      refine creditsBought_of_selects fun amount found => ?_
      obtain ⟨before, tb, after, rfl, rise, -⟩ := detailBalance_some_iff.mp found
      have member : tb ∈ balances := perm.mem_iff.mp (by simp)
      exact (boughtAmount_perm perm).mpr (all tb member amount rise)

/-- A buy of mint 11 by wallet 7, which held nothing of it. -/
def sampleConfirm : ConfirmTask where
  positionKey := ⟨"g1", 11⟩
  groupName := "main"
  mint := 11
  signature := "b1"
  userPubkey := 7
  entrySolAmount := 1000000000
  userAta := 105
  estimatedTokensRaw := 1000
  preBuyAtaBalance := 0

/-- The wallet's wrapped SOL stands before the bought token and is credited. -/
theorem wrapped_sol_credited :
    ¬ CreditsBought sampleConfirm [⟨some 7, WSOL_MINT, some 2000000⟩, ⟨some 7, 11, some 1000⟩] := by
  intro credits
  obtain ⟨tb, member, own, mint, shown, read, amount⟩ := credits.selects 2000000 (by decide)
  simp only [List.mem_cons, List.not_mem_nil, or_false] at member
  rcases member with rfl | rfl
  · revert mint
    decide +kernel
  · cases read
    revert amount
    decide

end CopyTrader.Tx
