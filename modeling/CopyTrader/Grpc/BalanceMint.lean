import CopyTrader.Grpc.Transactions
import CopyTrader.Lib.AnyOrder

/-!
# The mint that the balances show

Where an instruction does not name its token, the token is looked for among the balances of the wallet. They are
collected in a hash map, whose order of iteration may be any.
-/

namespace CopyTrader.Grpc.GrpcSubscriber
open Lib

variable {status : TransactionStatusMeta} {sourceWallet mint : Pubkey} {isBuy : Bool}

/-- A balance of the wallet in another token than wrapped SOL. -/
def isCandidate (sourceWallet : Pubkey) (balance : TokenBalance) : Bool :=
  balance.owner = sourceWallet.toText && balance.mint ≠ WSOL_MINT.toText

/-- The amount of the last entry for a mint. -/
def lastAmount (balances : List TokenBalance) (mint : String) : ℕ :=
  ((balances.filter (·.mint = mint)).getLast?.map balanceAmount).getD 0

def balancesBefore (status : TransactionStatusMeta) (sourceWallet : Pubkey) : List TokenBalance :=
  status.preTokenBalances.filter (isCandidate sourceWallet)

def balancesAfter (status : TransactionStatusMeta) (sourceWallet : Pubkey) : List TokenBalance :=
  status.postTokenBalances.filter (isCandidate sourceWallet)

/-- The wallet has an entry for the mint, before or after. -/
def Listed (status : TransactionStatusMeta) (sourceWallet mint : Pubkey) : Prop :=
  ∃ balance ∈ balancesBefore status sourceWallet ++ balancesAfter status sourceWallet,
    Pubkey.fromStr balance.mint = some mint

/-- The last amounts of the mint before and after differ in the direction of the trade. -/
def Moved (status : TransactionStatusMeta) (sourceWallet : Pubkey) (isBuy : Bool) (mint : Pubkey) : Prop :=
  ∃ balance ∈ balancesBefore status sourceWallet ++ balancesAfter status sourceWallet,
    Pubkey.fromStr balance.mint = some mint ∧
      let pre := lastAmount (balancesBefore status sourceWallet) balance.mint
      let post := lastAmount (balancesAfter status sourceWallet) balance.mint
      if isBuy then pre < post else post < pre

/-- Two orders of iteration never lead to different mints. -/
def SameInAnyOrder (status : TransactionStatusMeta) (sourceWallet : Pubkey) (isBuy : Bool) : Prop :=
  ∀ hashOrder hashOrder' : HashOrder, (∀ entries, (hashOrder entries).Perm entries) →
    (∀ entries, (hashOrder' entries).Perm entries) →
    deriveTokenMintFromMeta hashOrder status sourceWallet isBuy =
      deriveTokenMintFromMeta hashOrder' status sourceWallet isBuy

/-! ### The candidates -/

theorem lastAmount_snoc (balances : List TokenBalance) (balance : TokenBalance) (mint : String) :
    lastAmount (balances ++ [balance]) mint =
      if balance.mint = mint then balanceAmount balance else lastAmount balances mint := by
  unfold lastAmount
  rw [List.filter_append]
  by_cases same : balance.mint = mint
  · simp [same]
  · simp [same]

theorem lastAmount_absent {balances : List TokenBalance} {mint : String} (absent : mint ∉ balances.map (·.mint)) :
    lastAmount balances mint = 0 := by
  have none : balances.filter (·.mint = mint) = [] := by
    rw [List.filter_eq_nil_iff]
    intro balance member
    simpa using fun same => absent (List.mem_map.mpr ⟨balance, member, same⟩)
  rw [lastAmount, none]
  rfl

/-- Writes of which the last one counts. -/
theorem get_collect (put : ℕ → ℕ × ℕ → ℕ × ℕ) (overwrites : ∀ a b p, put a (put b p) = put a p)
    (balances : List TokenBalance) (start : DashMap String (ℕ × ℕ)) (mint : String) :
    (balances.foldl (fun candidates balance => candidates.insert balance.mint
      (put (balanceAmount balance) ((candidates.get balance.mint).getD (0, 0)))) start).get mint =
      if mint ∈ balances.map (·.mint) then some (put (lastAmount balances mint) ((start.get mint).getD (0, 0)))
      else start.get mint := by
  induction balances using List.reverseRecOn with
  | nil => rfl
  | append_singleton balances balance ih =>
    rw [List.foldl_append, List.foldl_cons, List.foldl_nil, DashMap.get_insert, lastAmount_snoc, List.map_append,
      List.map_singleton]
    by_cases same : mint = balance.mint
    · subst same
      rw [if_pos rfl, if_pos rfl, if_pos (by simp), ih]
      split
      · rw [Option.getD_some, overwrites]
      · rfl
    · rw [if_neg same, if_neg (Ne.symm same), ih]
      simp [same]

theorem balanceCandidates_eq : balanceCandidates status sourceWallet =
    (balancesAfter status sourceWallet).foldl (fun candidates balance => candidates.insert balance.mint
      (((candidates.get balance.mint).getD (0, 0)).1, balanceAmount balance))
    ((balancesBefore status sourceWallet).foldl (fun candidates balance => candidates.insert balance.mint
      (balanceAmount balance, ((candidates.get balance.mint).getD (0, 0)).2)) .empty) := rfl

theorem get_balanceCandidates (status : TransactionStatusMeta) (sourceWallet : Pubkey) (mint : String) :
    (balanceCandidates status sourceWallet).get mint =
      if mint ∈ (balancesBefore status sourceWallet ++ balancesAfter status sourceWallet).map (·.mint) then
        some (lastAmount (balancesBefore status sourceWallet) mint, lastAmount (balancesAfter status sourceWallet) mint)
      else none := by
  have before := get_collect (fun amount p => (amount, p.2)) (fun _ _ _ => rfl)
    (balancesBefore status sourceWallet) .empty mint
  have after := get_collect (fun amount p => (p.1, amount)) (fun _ _ _ => rfl) (balancesAfter status sourceWallet)
  rw [balanceCandidates_eq, after, before, DashMap.get_empty, List.map_append]
  by_cases listed : mint ∈ (balancesBefore status sourceWallet).map (·.mint)
  · by_cases listed' : mint ∈ (balancesAfter status sourceWallet).map (·.mint)
    · simp [listed, listed']
    · simp [listed, listed', lastAmount_absent listed']
  · by_cases listed' : mint ∈ (balancesAfter status sourceWallet).map (·.mint)
    · simp [listed, listed', lastAmount_absent listed]
    · simp [listed, listed']

/-- The entries of the map are the mints of the wallet with their last amounts. -/
theorem mem_balanceCandidates {mint : String} {pre post : ℕ} :
    (mint, pre, post) ∈ (balanceCandidates status sourceWallet).entries ↔
      mint ∈ (balancesBefore status sourceWallet ++ balancesAfter status sourceWallet).map (·.mint) ∧
        lastAmount (balancesBefore status sourceWallet) mint = pre ∧
        lastAmount (balancesAfter status sourceWallet) mint = post := by
  have stored : (mint, pre, post) ∈ (balanceCandidates status sourceWallet).entries ↔
      (balanceCandidates status sourceWallet).get mint = some (pre, post) :=
    ⟨DashMap.get_of_mem, DashMap.mem_of_get⟩
  rw [stored, get_balanceCandidates]
  split
  next listed => rw [Option.some.injEq, Prod.mk.injEq, and_iff_right listed]
  next absent => exact iff_of_false (Option.some_ne_none _).symm fun found => absent found.1

/-- What the search for a balance that moved takes of an entry. -/
def movedMint (isBuy : Bool) : String × ℕ × ℕ → Option Pubkey := fun (mint, pre, post) =>
  if (if isBuy then pre < post else post < pre) then Pubkey.fromStr mint else none

def anyMint : String × ℕ × ℕ → Option Pubkey := fun (mint, _) => Pubkey.fromStr mint

theorem moved_iff : (∃ entry ∈ (balanceCandidates status sourceWallet).entries, movedMint isBuy entry = some mint) ↔
    Moved status sourceWallet isBuy mint := by
  constructor
  · rintro ⟨⟨text, pre, post⟩, member, hit⟩
    obtain ⟨listed, rfl, rfl⟩ := mem_balanceCandidates.mp member
    obtain ⟨balance, among, rfl⟩ := List.mem_map.mp listed
    obtain ⟨changed, read⟩ := Option.ite_none_right_eq_some.mp hit
    exact ⟨balance, among, read, changed⟩
  · rintro ⟨balance, among, read, changed⟩
    refine ⟨(balance.mint, _, _), mem_balanceCandidates.mpr ⟨List.mem_map_of_mem among, rfl, rfl⟩, ?_⟩
    exact (if_pos changed).trans read

theorem listed_iff : (∃ entry ∈ (balanceCandidates status sourceWallet).entries, anyMint entry = some mint) ↔
    Listed status sourceWallet mint := by
  constructor
  · rintro ⟨⟨text, pre, post⟩, member, hit⟩
    obtain ⟨balance, among, rfl⟩ := List.mem_map.mp (mem_balanceCandidates.mp member).1
    exact ⟨balance, among, hit⟩
  · rintro ⟨balance, among, read⟩
    exact ⟨(balance.mint, _, _), mem_balanceCandidates.mpr ⟨List.mem_map_of_mem among, rfl, rfl⟩, read⟩

/-! ### The choice -/

theorem sameInAnyOrder_iff_lists : SameInAnyOrder status sourceWallet isBuy ↔
    ∀ l₁ l₂ : List (String × ℕ × ℕ), l₁.Perm (balanceCandidates status sourceWallet).entries →
      l₂.Perm (balanceCandidates status sourceWallet).entries →
      (l₁.findSome? (movedMint isBuy)).or (l₁.findSome? anyMint) =
        (l₂.findSome? (movedMint isBuy)).or (l₂.findSome? anyMint) := by
  constructor
  · intro same l₁ l₂ perm₁ perm₂
    -- an order of iteration that is only special on these entries
    have order (l : List (String × ℕ × ℕ)) (perm : l.Perm (balanceCandidates status sourceWallet).entries) :
        ∃ hashOrder : HashOrder, (∀ entries, (hashOrder entries).Perm entries) ∧
          hashOrder (balanceCandidates status sourceWallet).entries = l := by
      refine ⟨fun entries => if entries = (balanceCandidates status sourceWallet).entries then l else entries, ?_, ?_⟩
      · intro entries
        dsimp only
        split
        next this => exact this ▸ perm
        · exact List.Perm.refl entries
      · exact if_pos rfl
    obtain ⟨order₁, keeps₁, rfl⟩ := order l₁ perm₁
    obtain ⟨order₂, keeps₂, rfl⟩ := order l₂ perm₂
    exact same order₁ order₂ keeps₁ keeps₂
  · intro same order₁ order₂ keeps₁ keeps₂
    exact same _ _ (keeps₁ _) (keeps₂ _)

/-- The mint does not depend on the order exactly if at most one mint of the wallet moved, and at most one is listed
where none did. -/
theorem sameInAnyOrder_iff (status : TransactionStatusMeta) (sourceWallet : Pubkey) (isBuy : Bool) :
    SameInAnyOrder status sourceWallet isBuy ↔
      (∀ mint mint', Moved status sourceWallet isBuy mint → Moved status sourceWallet isBuy mint' → mint = mint') ∧
      ((∀ mint, ¬ Moved status sourceWallet isBuy mint) →
        ∀ mint mint', Listed status sourceWallet mint → Listed status sourceWallet mint' → mint = mint') := by
  rw [sameInAnyOrder_iff_lists, findSome?_or_orders_iff, oneHit_iff, no_hit_iff, oneHit_iff]
  simp only [moved_iff, listed_iff]

/-- A purchase that leaves more of two tokens in the wallet. -/
def sampleHops : TransactionStatusMeta where
  failed := false
  fee := 5000
  preBalances := []
  postBalances := []
  innerInstructions := []
  preTokenBalances := []
  postTokenBalances := [9, 10].map fun mint : Pubkey => ⟨mint.toText, Pubkey.toText 7, "", some "500"⟩
  loadedWritableAddresses := []
  loadedReadonlyAddresses := []

theorem order_matters : ¬ SameInAnyOrder sampleHops 7 true := by
  intro same
  have orders := same id List.reverse (fun entries => List.Perm.refl entries) List.reverse_perm
  revert orders
  decide +kernel

end CopyTrader.Grpc.GrpcSubscriber
