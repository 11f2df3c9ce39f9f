import CopyTrader.Basic
import Mathlib.Data.List.Induction

/-!
# The ledger

The landed transactions, oldest first, as far as they change balances of the wallet's token
accounts. A balance is what the landings make of it.
-/

namespace CopyTrader.Tasks

structure BalanceChange where
  account : Pubkey
  credit : ℕ
  debit : ℕ
  deriving DecidableEq, Repr

structure Landing where
  signature : Signature
  failed : Bool
  changes : List BalanceChange
  deriving DecidableEq, Repr

abbrev Ledger := List Landing

namespace Landing

/-- What a landing adds to an account; a failed transaction moves nothing. -/
def credit (l : Landing) (account : Pubkey) : ℕ :=
  if l.failed then 0 else (l.changes.filter (·.account = account)).foldl (fun total c => total + c.credit) 0

def debit (l : Landing) (account : Pubkey) : ℕ :=
  if l.failed then 0 else (l.changes.filter (·.account = account)).foldl (fun total c => total + c.debit) 0

theorem not_failed_of_credit {l : Landing} {account : Pubkey} (credited : 0 < l.credit account) :
    l.failed = false := by
  unfold credit at credited
  cases failed : l.failed with
  | false => rfl
  | true => simp [failed] at credited

end Landing

namespace Ledger

def balance (ledger : Ledger) (account : Pubkey) : ℕ :=
  ledger.foldl (fun b l => b + l.credit account - l.debit account) 0

theorem balance_snoc (ledger : Ledger) (l : Landing) (account : Pubkey) :
    balance (ledger ++ [l]) account = balance ledger account + l.credit account - l.debit account := by
  simp [balance]

def Landed (ledger : Ledger) (signature : Signature) : Prop :=
  ∃ l ∈ ledger, l.signature = signature ∧ l.failed = false

instance (ledger : Ledger) (signature : Signature) : Decidable (Landed ledger signature) :=
  inferInstanceAs (Decidable (∃ l ∈ ledger, l.signature = signature ∧ l.failed = false))

theorem Landed.mono {ledger now : Ledger} {signature : Signature} (landed : Landed ledger signature)
    (grows : ledger <+: now) : Landed now signature := by
  obtain ⟨l, member, mine, succeeded⟩ := landed
  exact ⟨l, grows.subset member, mine, succeeded⟩

/-- A balance that has risen has been credited meanwhile. -/
theorem credited_of_risen {ledger later : Ledger} {account : Pubkey}
    (risen : balance ledger account < balance (ledger ++ later) account) :
    ∃ l ∈ later, 0 < l.credit account := by
  induction later using List.reverseRecOn with
  | nil => simp at risen
  | append_singleton later l ih =>
    rw [← List.append_assoc, balance_snoc] at risen
    by_cases credited : 0 < l.credit account
    · exact ⟨l, by simp, credited⟩
    · obtain ⟨l', member, credited'⟩ := ih (by omega)
      exact ⟨l', List.mem_append_left _ member, credited'⟩

/-- The account held the amount at some moment between two ledgers. -/
def BalanceBetween (base now : Ledger) (account : Pubkey) (amount : ℕ) : Prop :=
  ∃ mid, base <+: mid ∧ mid <+: now ∧ amount = balance mid account

theorem balanceBetween_now {base now : Ledger} (account : Pubkey) (grows : base <+: now) :
    BalanceBetween base now account (balance now account) := ⟨now, grows, List.prefix_rfl, rfl⟩

theorem BalanceBetween.mono {base now later : Ledger} {account : Pubkey} {amount : ℕ}
    (between : BalanceBetween base now account amount) (grows : now <+: later) :
    BalanceBetween base later account amount := by
  obtain ⟨mid, since, before, held⟩ := between
  exact ⟨mid, since, before.trans grows, held⟩

/-- An account that only one transaction credits, and that holds more than before: it has landed. -/
theorem landed_of_risen {base now : Ledger} {account : Pubkey} {signature : Signature} {before amount : ℕ}
    (remembered : balance base account ≤ before) (risen : before < amount)
    (between : BalanceBetween base now account amount)
    (sole : ∀ later, now = base ++ later → ∀ l ∈ later, 0 < l.credit account → l.signature = signature) :
    Landed now signature := by
  obtain ⟨mid, ⟨later, rfl⟩, ⟨rest, rfl⟩, rfl⟩ := between
  obtain ⟨l, member, credited⟩ := credited_of_risen (Nat.lt_of_le_of_lt remembered risen)
  have mine := sole (later ++ rest) (List.append_assoc ..) l (List.mem_append_left _ member) credited
  exact ⟨l, by simp [member], mine, Landing.not_failed_of_credit credited⟩

end Ledger

end CopyTrader.Tasks
