import CopyTrader.Basic
import CopyTrader.Lib.DashMap
import Mathlib.Data.Finset.Card

/-!
# The account subscriber

The tables of the subscriber and the operations on one entry that its methods are made of. A
method is interleaved with others between two of them.
-/

namespace CopyTrader.Grpc
open Lib

inductive AccountType where
  | bondingCurve | ata
  deriving DecidableEq, Repr

structure AccountSubscriber where
  bondingCurveToMint : DashMap Pubkey Pubkey
  ataToMint : DashMap Pubkey Pubkey
  mintLastTouched : DashMap Pubkey Instant
  subscribedAccounts : DashMap Pubkey AccountType

inductive SubscriberOp where
  | mapBondingCurve (bondingCurve mint : Pubkey)
  | mapAta (ata mint : Pubkey)
  | touch (mint : Pubkey)
  | subscribe (account : Pubkey) (type : AccountType)
  | bondingCurvesOf (mint : Pubkey)
  | atasOf (mint : Pubkey)
  | unmapBondingCurve (bondingCurve : Pubkey)
  | unmapAta (ata : Pubkey)
  | unsubscribe (account : Pubkey)
  | forgetTouch (mint : Pubkey)
  | staleMints (activeMints : List Pubkey) (maxIdle : Duration)
  deriving DecidableEq, Repr

namespace SubscriberOp

abbrev Ans : SubscriberOp → Type
  | .bondingCurvesOf _ | .atasOf _ | .staleMints .. => List Pubkey
  | .mapBondingCurve .. | .mapAta .. | .touch _ | .subscribe .. | .unmapBondingCurve _ | .unmapAta _
  | .unsubscribe _ | .forgetTouch _ => Unit

/-- The operation takes the entry that `entry` makes away, or puts another in its place. -/
def undoes : (op entry : SubscriberOp) → Bool
  | .mapBondingCurve curve' mint', .mapBondingCurve curve mint => curve' = curve && mint' ≠ mint
  | .mapAta ata' mint', .mapAta ata mint => ata' = ata && mint' ≠ mint
  | .subscribe account' type', .subscribe account type => account' = account && type' ≠ type
  | .unmapBondingCurve curve', .mapBondingCurve curve _ => curve' = curve
  | .unmapAta ata', .mapAta ata _ => ata' = ata
  | .unsubscribe account', .subscribe account _ => account' = account
  | _, _ => false

end SubscriberOp

namespace AccountSubscriber

def new : AccountSubscriber := ⟨DashMap.empty, DashMap.empty, DashMap.empty, DashMap.empty⟩

def keysOf (table : DashMap Pubkey Pubkey) (mint : Pubkey) : List Pubkey :=
  (table.entries.filter (·.2 = mint)).map Prod.fst

def staleMints (s : AccountSubscriber) (activeMints : List Pubkey) (maxIdle : Duration) (now : Instant) :
    List Pubkey :=
  s.mintLastTouched.entries.filterMap fun (mint, touched) =>
    if activeMints.contains mint || now.durationSince touched < maxIdle then none else some mint

def respond (s : AccountSubscriber) (now : Instant) : (op : SubscriberOp) → op.Ans × AccountSubscriber
  | .mapBondingCurve curve mint => ((), { s with bondingCurveToMint := s.bondingCurveToMint.insert curve mint })
  | .mapAta ata mint => ((), { s with ataToMint := s.ataToMint.insert ata mint })
  | .touch mint => ((), { s with mintLastTouched := s.mintLastTouched.insert mint now })
  | .subscribe account type => ((), { s with subscribedAccounts := s.subscribedAccounts.insert account type })
  | .bondingCurvesOf mint => (keysOf s.bondingCurveToMint mint, s)
  | .atasOf mint => (keysOf s.ataToMint mint, s)
  | .unmapBondingCurve curve => ((), { s with bondingCurveToMint := s.bondingCurveToMint.remove curve })
  | .unmapAta ata => ((), { s with ataToMint := s.ataToMint.remove ata })
  | .unsubscribe account => ((), { s with subscribedAccounts := s.subscribedAccounts.remove account })
  | .forgetTouch mint => ((), { s with mintLastTouched := s.mintLastTouched.remove mint })
  | .staleMints activeMints maxIdle => (s.staleMints activeMints maxIdle now, s)

/-- `get_subscribed_addresses`, as a set. -/
def subscribedAddresses (s : AccountSubscriber) : Finset Pubkey :=
  ⟨↑s.subscribedAccounts.keys, s.subscribedAccounts.distinct⟩

/-! ### Entries that stand -/

/-- Price and balance updates of the mint arrive: a curve and a token account of it are subscribed. -/
def Tracks (s : AccountSubscriber) (mint : Pubkey) : Prop :=
  (∃ curve, s.bondingCurveToMint.get curve = some mint ∧ s.subscribedAccounts.get curve = some .bondingCurve) ∧
    ∃ ata, s.ataToMint.get ata = some mint ∧ s.subscribedAccounts.get ata = some .ata

/-- The entry that the operation makes is there. -/
def Stands (s : AccountSubscriber) : SubscriberOp → Prop
  | .mapBondingCurve curve mint => s.bondingCurveToMint.get curve = some mint
  | .mapAta ata mint => s.ataToMint.get ata = some mint
  | .subscribe account type => s.subscribedAccounts.get account = some type
  | _ => True

/-- The entries by which a mint is tracked. -/
def serving (s : AccountSubscriber) (mint : Pubkey) : List SubscriberOp :=
  ((keysOf s.bondingCurveToMint mint).flatMap fun curve =>
      [.mapBondingCurve curve mint, .subscribe curve .bondingCurve]) ++
    (keysOf s.ataToMint mint).flatMap fun ata => [.mapAta ata mint, .subscribe ata .ata]

variable {s : AccountSubscriber} {now : Instant} {mint : Pubkey}

theorem mem_keysOf {table : DashMap Pubkey Pubkey} {account : Pubkey} :
    account ∈ keysOf table mint ↔ table.get account = some mint := by
  unfold keysOf
  constructor
  · intro member
    obtain ⟨⟨account', mint'⟩, entry, rfl⟩ := List.mem_map.mp member
    obtain ⟨stored, same⟩ := List.mem_filter.mp entry
    obtain rfl : mint' = mint := of_decide_eq_true same
    exact DashMap.get_of_mem stored
  · intro stored
    exact List.mem_map.mpr ⟨(account, mint), List.mem_filter.mpr ⟨DashMap.mem_of_get stored, by simp⟩, rfl⟩

theorem respond_stands (op : SubscriberOp) : (s.respond now op).2.Stands op := by
  cases op
  case mapBondingCurve | mapAta | subscribe => exact DashMap.get_insert_same ..
  all_goals trivial

/-- Only what undoes an entry takes it away. -/
theorem Stands.kept {entry op : SubscriberOp} (stands : s.Stands entry) (keeps : op.undoes entry = false) :
    (s.respond now op).2.Stands entry := by
  have insert {V : Type} [DecidableEq V] {table : DashMap Pubkey V} {k k' : Pubkey} {v v' : V}
      (stored : table.get k = some v) (agrees : (k' = k && v' ≠ v) = false) :
      (table.insert k' v').get k = some v := by
    rw [DashMap.get_insert]
    split
    · rename_i same
      simp only [Bool.and_eq_false_iff, decide_eq_false_iff_not, not_not] at agrees
      rcases agrees with apart | same'
      · exact absurd same.symm apart
      · rw [same']
    · exact stored
  have remove {V : Type} {table : DashMap Pubkey V} {k k' : Pubkey} {v : V} (stored : table.get k = some v)
      (apart : decide (k' = k) = false) : (table.remove k').get k = some v := by
    rw [DashMap.get_remove, if_neg fun same => of_decide_eq_false apart same.symm]
    exact stored
  cases op <;> cases entry
  case mapBondingCurve.mapBondingCurve | mapAta.mapAta | subscribe.subscribe => exact insert stands keeps
  case unmapBondingCurve.mapBondingCurve | unmapAta.mapAta | unsubscribe.subscribe => exact remove stands keeps
  all_goals exact stands

theorem tracks_of_standing {curve ata : Pubkey} (maps : s.Stands (.mapBondingCurve curve mint))
    (subscribes : s.Stands (.subscribe curve .bondingCurve)) (mapsAta : s.Stands (.mapAta ata mint))
    (subscribesAta : s.Stands (.subscribe ata .ata)) : s.Tracks mint :=
  ⟨⟨curve, maps, subscribes⟩, ata, mapsAta, subscribesAta⟩

theorem Tracks.kept {op : SubscriberOp} (tracks : s.Tracks mint)
    (keeps : ∀ entry ∈ s.serving mint, op.undoes entry = false) : (s.respond now op).2.Tracks mint := by
  obtain ⟨⟨curve, maps, subscribes⟩, ata, mapsAta, subscribesAta⟩ := tracks
  have curves {entry : SubscriberOp}
      (listed : entry ∈ [SubscriberOp.mapBondingCurve curve mint, .subscribe curve .bondingCurve]) :
      op.undoes entry = false :=
    keeps entry (List.mem_append_left _ (List.mem_flatMap.mpr ⟨curve, mem_keysOf.mpr maps, listed⟩))
  have atas {entry : SubscriberOp} (listed : entry ∈ [SubscriberOp.mapAta ata mint, .subscribe ata .ata]) :
      op.undoes entry = false :=
    keeps entry (List.mem_append_right _ (List.mem_flatMap.mpr ⟨ata, mem_keysOf.mpr mapsAta, listed⟩))
  have maps' : s.Stands (.mapBondingCurve curve mint) := maps
  have subscribes' : s.Stands (.subscribe curve .bondingCurve) := subscribes
  have mapsAta' : s.Stands (.mapAta ata mint) := mapsAta
  have subscribesAta' : s.Stands (.subscribe ata .ata) := subscribesAta
  exact tracks_of_standing (maps'.kept (curves (by simp))) (subscribes'.kept (curves (by simp)))
    (mapsAta'.kept (atas (by simp))) (subscribesAta'.kept (atas (by simp)))

end AccountSubscriber

end CopyTrader.Grpc
