import CopyTrader.Grpc.Tracking
import CopyTrader.Lib.Machine
import CopyTrader.Tasks.Exits

/-!
# The tables of the account subscriber

The methods of the subscriber, each run to its end before the next one starts. An account is subscribed
as what the table that lists it says, and every mint that is listed has a time at which it was touched.
-/

namespace CopyTrader.Grpc
open Lib Tasks Program

namespace AccountSubscriber

def table (s : AccountSubscriber) : AccountType → DashMap Pubkey Pubkey
  | .bondingCurve => s.bondingCurveToMint
  | .ata => s.ataToMint

structure Consistent (s : AccountSubscriber) : Prop where
  subscribed : ∀ type account,
    s.subscribedAccounts.get account = some type ↔ ((s.table type).get account).isSome = true
  touched : ∀ type account mint, (s.table type).get account = some mint → (s.mintLastTouched.get mint).isSome = true

/-- The tables after the account was entered for the mint. -/
def tracked (s : AccountSubscriber) (type : AccountType) (account mint : Pubkey) (now : Instant) : AccountSubscriber where
  bondingCurveToMint := if type = .bondingCurve then s.bondingCurveToMint.insert account mint else s.bondingCurveToMint
  ataToMint := if type = .ata then s.ataToMint.insert account mint else s.ataToMint
  mintLastTouched := s.mintLastTouched.insert mint now
  subscribedAccounts := s.subscribedAccounts.insert account type

/-- The tables after the accounts of the mint were removed. -/
def untracked (s : AccountSubscriber) (mint : Pubkey) : AccountSubscriber where
  bondingCurveToMint := (keysOf s.bondingCurveToMint mint).foldl .remove s.bondingCurveToMint
  ataToMint := (keysOf s.ataToMint mint).foldl .remove s.ataToMint
  mintLastTouched := s.mintLastTouched.remove mint
  subscribedAccounts := (keysOf s.ataToMint mint).foldl .remove
    ((keysOf s.bondingCurveToMint mint).foldl .remove s.subscribedAccounts)

variable {s : AccountSubscriber} {type type' : AccountType} {account mint : Pubkey} {now : Instant}

/-! ### Reading back -/

theorem table_tracked (other : Pubkey) : ((s.tracked type account mint now).table type').get other =
    if type' = type ∧ other = account then some mint else (s.table type').get other := by
  cases type <;> cases type' <;> simp [table, tracked, DashMap.get_insert]

theorem table_untracked : ((s.untracked mint).table type).get account =
    if (s.table type).get account = some mint then none else (s.table type).get account := by
  cases type <;> exact (DashMap.get_foldl_remove ..).trans (if_congr mem_keysOf rfl rfl)

theorem unsubscribed_untracked (listed : (s.table type).get account = some mint) :
    (s.untracked mint).subscribedAccounts.get account = none := by
  unfold untracked
  rw [DashMap.get_foldl_remove]
  split
  · rfl
  · rename_i noAta
    rw [DashMap.get_foldl_remove, if_pos]
    cases type with
    | bondingCurve => exact mem_keysOf.mpr listed
    | ata => exact absurd (mem_keysOf.mpr listed) noAta

theorem subscribed_untracked (other : ∀ type, (s.table type).get account ≠ some mint) :
    (s.untracked mint).subscribedAccounts.get account = s.subscribedAccounts.get account := by
  have noCurve : account ∉ keysOf s.bondingCurveToMint mint := fun listed => other .bondingCurve (mem_keysOf.mp listed)
  have noAta : account ∉ keysOf s.ataToMint mint := fun listed => other .ata (mem_keysOf.mp listed)
  unfold untracked
  rw [DashMap.get_foldl_remove, if_neg noAta, DashMap.get_foldl_remove, if_neg noCurve]

/-! ### Consistency is kept -/

theorem consistent_new : new.Consistent := by
  constructor
  case subscribed =>
    intro type account
    cases type <;> simp [new, table]
  case touched =>
    intro type account mint listed
    cases type <;> cases listed

/-- An account stands in one table only. -/
theorem Consistent.type_unique (consistent : s.Consistent) (listed : ((s.table type).get account).isSome = true)
    (listed' : ((s.table type').get account).isSome = true) : type' = type := by
  have first := (consistent.subscribed type account).mpr listed
  have second := (consistent.subscribed type' account).mpr listed'
  exact Option.some.inj (second.symm.trans first)

theorem Consistent.tracked (consistent : s.Consistent)
    (free : ∀ type', type' ≠ type → (s.table type').get account = none) :
    (s.tracked type account mint now).Consistent := by
  constructor
  case subscribed =>
    intro type' other
    rw [table_tracked]
    show (s.subscribedAccounts.insert account type).get other = _ ↔ _
    rw [DashMap.get_insert]
    by_cases here : other = account
    · subst here
      by_cases same : type' = type
      · simp [same]
      · simp [same, free type' same, Ne.symm same]
    · simp [here, consistent.subscribed]
  case touched =>
    intro type' other mint' listed
    rw [table_tracked] at listed
    show ((s.mintLastTouched.insert mint now).get mint').isSome = true
    rw [DashMap.get_insert]
    split at listed
    · simp [Option.some.inj listed]
    · split
      · rfl
      · exact consistent.touched type' other mint' listed

theorem Consistent.untracked (consistent : s.Consistent) (mint : Pubkey) : (s.untracked mint).Consistent := by
  constructor
  case subscribed =>
    intro type account
    rw [table_untracked]
    by_cases listed : ∃ type', (s.table type').get account = some mint
    · obtain ⟨type', listed⟩ := listed
      rw [unsubscribed_untracked listed]
      by_cases same : type = type'
      · subst same
        simp [listed]
      · have absent : (s.table type).get account = none := by
          by_contra present
          exact same (consistent.type_unique (by rw [listed]; rfl) (Option.isSome_iff_ne_none.mpr present))
        simp [absent]
    · rw [subscribed_untracked fun type here => listed ⟨type, here⟩, if_neg fun here => listed ⟨type, here⟩]
      exact consistent.subscribed type account
  case touched =>
    intro type account mint' listed
    rw [table_untracked] at listed
    split at listed
    · cases listed
    · rename_i other
      have apart : mint' ≠ mint := by
        rintro rfl
        exact other listed
      show ((s.mintLastTouched.remove mint).get mint').isSome = true
      rw [DashMap.get_remove, if_neg apart]
      exact consistent.touched type account mint' listed

end AccountSubscriber

end CopyTrader.Grpc

namespace CopyTrader.Tasks
open Lib Grpc Program

/-! ### What the methods do -/

variable {w w' : World}

/-- The world after the accounts of the mint were removed from all tables and caches. -/
def World.untracked (w : World) (mint : Pubkey) : World :=
  { w with
    subscriber := w.subscriber.untracked mint
    bcCache := w.bcCache.remove mint
    ataCache := w.ataCache.remove mint }

theorem forEach_exec {α : Type} {f : α → Prog Unit} {g : World → α → World}
    (each : ∀ w a, (f a).exec World.alone w = some ((), g w a)) (l : List α) (w : World) :
    (forEach f l).exec World.alone w = some ((), l.foldl g w) := by
  induction l generalizing w with
  | nil => rfl
  | cons a rest ih =>
    show (f a >>= fun _ => forEach f rest).exec World.alone w = _
    rw [exec_bind, each w a]
    exact ih (g w a)

theorem trackBondingCurve_exec (w : World) (mint bondingCurve : Pubkey) :
    (trackBondingCurve mint bondingCurve).exec World.alone w = some ((), { w with
      subscriber := w.subscriber.tracked .bondingCurve bondingCurve mint w.clock }) := rfl

theorem trackAta_exec (w : World) (mint ataAddress : Pubkey) :
    (trackAta mint ataAddress).exec World.alone w = some ((), { w with
      subscriber := w.subscriber.tracked .ata ataAddress mint w.clock }) := rfl

theorem dropBondingCurves_exec (l : List Pubkey) (w : World) :
    (forEach dropBondingCurve l).exec World.alone w = some ((), { w with
      subscriber := { w.subscriber with
        bondingCurveToMint := l.foldl .remove w.subscriber.bondingCurveToMint
        subscribedAccounts := l.foldl .remove w.subscriber.subscribedAccounts } }) := by
  induction l generalizing w with
  | nil => rfl
  | cons account rest ih =>
    show (dropBondingCurve account >>= fun _ => forEach dropBondingCurve rest).exec World.alone w = _
    rw [exec_bind]
    exact ih _

theorem dropAtas_exec (l : List Pubkey) (w : World) :
    (forEach dropAta l).exec World.alone w = some ((), { w with
      subscriber := { w.subscriber with
        ataToMint := l.foldl .remove w.subscriber.ataToMint
        subscribedAccounts := l.foldl .remove w.subscriber.subscribedAccounts } }) := by
  induction l generalizing w with
  | nil => rfl
  | cons account rest ih =>
    show (dropAta account >>= fun _ => forEach dropAta rest).exec World.alone w = _
    rw [exec_bind]
    exact ih _

theorem untrackMint_exec (w : World) (mint : Pubkey) :
    (untrackMint mint).exec World.alone w = some ((), w.untracked mint) := by
  unfold untrackMint
  refine (exec_call rfl _).trans ?_
  rw [exec_bind, dropBondingCurves_exec, Option.bind_some]
  refine (exec_call rfl _).trans ?_
  rw [exec_bind, dropAtas_exec, Option.bind_some]
  rfl

theorem pruneStaleCandidateMints_exec (w : World) (activeMints : List Pubkey) (maxIdle : Duration) :
    (pruneStaleCandidateMints activeMints maxIdle).exec World.alone w =
      some ((), (w.subscriber.staleMints activeMints maxIdle w.clock).foldl World.untracked w) := by
  refine (exec_call rfl _).trans ?_
  exact forEach_exec untrackMint_exec _ w

/-! ### What is left of another mint -/

/-- Nothing about the mint was removed: its accounts are listed and subscribed, and its times and caches are
as they were. -/
structure Spared (w w' : World) (mint : Pubkey) : Prop where
  subscribed : ∀ type account, (w.subscriber.table type).get account = some mint →
    (w'.subscriber.table type).get account = some mint ∧ w'.subscriber.subscribedAccounts.get account = some type
  touched : w'.subscriber.mintLastTouched.get mint = w.subscriber.mintLastTouched.get mint
  bcCache : w'.bcCache.get mint = w.bcCache.get mint
  ataCache : w'.ataCache.get mint = w.ataCache.get mint

theorem Spared.refl (consistent : w.subscriber.Consistent) (mint : Pubkey) : Spared w w mint := by
  constructor
  case subscribed =>
    intro type account listed
    exact ⟨listed, (consistent.subscribed type account).mpr (by rw [listed]; rfl)⟩
  case touched | bcCache | ataCache => rfl

theorem Spared.trans {w₁ w₂ w₃ : World} {mint : Pubkey} (first : Spared w₁ w₂ mint) (second : Spared w₂ w₃ mint) :
    Spared w₁ w₃ mint where
  subscribed type account listed := second.subscribed type account (first.subscribed type account listed).1
  touched := second.touched.trans first.touched
  bcCache := second.bcCache.trans first.bcCache
  ataCache := second.ataCache.trans first.ataCache

theorem spared_untracked (consistent : w.subscriber.Consistent) {mint other : Pubkey} (apart : other ≠ mint) :
    Spared w (w.untracked mint) other := by
  constructor
  case subscribed =>
    intro type account listed
    have unlisted : ∀ type', (w.subscriber.table type').get account ≠ some mint := by
      intro type' here
      obtain rfl := consistent.type_unique (by rw [listed]; rfl) (by rw [here]; rfl : Option.isSome _ = true)
      exact apart (Option.some.inj (listed.symm.trans here))
    constructor
    · show ((w.subscriber.untracked mint).table type).get account = some other
      rw [AccountSubscriber.table_untracked, if_neg (unlisted type), listed]
    · show (w.subscriber.untracked mint).subscribedAccounts.get account = some type
      rw [AccountSubscriber.subscribed_untracked unlisted, consistent.subscribed, listed]
      rfl
  case touched | bcCache | ataCache => exact (DashMap.get_remove ..).trans (if_neg apart)

theorem untracked_all {P : World → Prop} (each : ∀ w mint, P w → P (w.untracked mint)) (mints : List Pubkey) :
    P w → P (mints.foldl World.untracked w) := by
  induction mints generalizing w with
  | nil => exact id
  | cons mint rest ih => exact fun before => ih (each w mint before)

theorem spared_all (consistent : w.subscriber.Consistent) {mints : List Pubkey} {other : Pubkey}
    (spared : other ∉ mints) : Spared w (mints.foldl World.untracked w) other := by
  induction mints generalizing w with
  | nil => exact .refl consistent other
  | cons mint rest ih =>
    rw [List.mem_cons, not_or] at spared
    exact (spared_untracked consistent spared.1).trans (ih (consistent.untracked mint) spared.2)

theorem listed_after_all {mints : List Pubkey} {type : AccountType} {account mint : Pubkey}
    (listed : ((mints.foldl World.untracked w).subscriber.table type).get account = some mint) :
    (w.subscriber.table type).get account = some mint ∧ mint ∉ mints := by
  induction mints generalizing w with
  | nil => exact ⟨listed, List.not_mem_nil⟩
  | cons gone rest ih =>
    obtain ⟨before, spared⟩ := ih listed
    change ((w.subscriber.untracked gone).table type).get account = some mint at before
    rw [AccountSubscriber.table_untracked] at before
    split at before
    · cases before
    · rename_i other
      refine ⟨before, fun member => ?_⟩
      rcases List.mem_cons.mp member with rfl | later
      · exact other before
      · exact spared later

theorem mem_staleMints {s : AccountSubscriber} {activeMints : List Pubkey} {maxIdle : Duration} {now : Instant}
    {mint : Pubkey} : mint ∈ s.staleMints activeMints maxIdle now ↔ ∃ touched,
      s.mintLastTouched.get mint = some touched ∧ mint ∉ activeMints ∧ maxIdle ≤ now.durationSince touched := by
  unfold AccountSubscriber.staleMints
  simp only [List.mem_filterMap, Option.ite_none_left_eq_some, Option.some.injEq, Bool.or_eq_true,
    List.contains_iff_mem, decide_eq_true_eq, not_or, not_lt]
  constructor
  · rintro ⟨⟨mint, touched⟩, entry, idle, rfl⟩
    exact ⟨touched, DashMap.get_of_mem entry, idle⟩
  · rintro ⟨touched, stored, idle⟩
    exact ⟨(mint, touched), DashMap.mem_of_get stored, idle, rfl⟩

/-- No account is listed for the mint, and nothing was removed from the others. -/
structure Untracks (w w' : World) (mint : Pubkey) : Prop where
  gone : ∀ type account, (w'.subscriber.table type).get account ≠ some mint
  others : ∀ other, other ≠ mint → Spared w w' other

/-- Nothing was removed from the active mints, and every other mint that is listed was touched lately. -/
structure Prunes (w w' : World) (activeMints : List Pubkey) (maxIdle : Duration) : Prop where
  active : ∀ mint ∈ activeMints, Spared w w' mint
  found : ∀ type account mint, (w'.subscriber.table type).get account = some mint → mint ∉ activeMints →
    ∃ touched, w.subscriber.mintLastTouched.get mint = some touched ∧ w.clock.durationSince touched < maxIdle

theorem untracks_untracked (consistent : w.subscriber.Consistent) (mint : Pubkey) : Untracks w (w.untracked mint) mint := by
  refine ⟨fun type account => ?_, fun other apart => spared_untracked consistent apart⟩
  show ((w.subscriber.untracked mint).table type).get account ≠ some mint
  rw [AccountSubscriber.table_untracked]
  split
  · exact Option.some_ne_none mint |>.symm
  · assumption

theorem prunes_stale (consistent : w.subscriber.Consistent) (activeMints : List Pubkey) (maxIdle : Duration) :
    Prunes w ((w.subscriber.staleMints activeMints maxIdle w.clock).foldl World.untracked w) activeMints maxIdle := by
  constructor
  case active =>
    intro mint active
    refine spared_all consistent fun stale => ?_
    obtain ⟨touched, stored, inactive, idle⟩ := mem_staleMints.mp stale
    exact inactive active
  case found =>
    intro type account mint listed inactive
    obtain ⟨before, spared⟩ := listed_after_all listed
    obtain ⟨touched, stored⟩ := Option.isSome_iff_exists.mp (consistent.touched type account mint before)
    refine ⟨touched, stored, ?_⟩
    by_contra idle
    exact spared (mem_staleMints.mpr ⟨touched, stored, inactive, Nat.not_lt.mp idle⟩)

/-! ### Runs -/

inductive TrackingStep where
  | trackBondingCurve (mint bondingCurve : Pubkey)
  | trackAta (mint ataAddress : Pubkey)
  | untrackMint (mint : Pubkey)
  | pruneStaleCandidateMints (activeMints : List Pubkey) (maxIdle : Duration)
  | disturb (env : World.Disturbance)

def TrackingStep.code : TrackingStep → Prog Unit
  | .trackBondingCurve mint bondingCurve => Grpc.trackBondingCurve mint bondingCurve
  | .trackAta mint ataAddress => Grpc.trackAta mint ataAddress
  | .untrackMint mint => Grpc.untrackMint mint
  | .pruneStaleCandidateMints activeMints maxIdle => Grpc.pruneStaleCandidateMints activeMints maxIdle
  | .disturb _ => return ()

/-- One call to its end, or what the environment does between two calls. -/
def tracking : Machine World TrackingStep Unit := fun w step =>
  match step with
  | .disturb env => ((w.disturb env).getD w, ())
  | step => ((step.code.exec World.alone w).elim w Prod.snd, ())

/-- The account occurs in the run as one of this type. -/
def Named (steps : List TrackingStep) (account : Pubkey) : AccountType → Prop
  | .bondingCurve => ∃ mint, .trackBondingCurve mint account ∈ steps
  | .ata => ∃ mint, .trackAta mint account ∈ steps

/-- No address occurs as a curve and as a token account. -/
def AddressesDisjoint (steps : List TrackingStep) : Prop :=
  ∀ mint bondingCurve mint' ataAddress, .trackBondingCurve mint bondingCurve ∈ steps →
    .trackAta mint' ataAddress ∈ steps → bondingCurve ≠ ataAddress

structure Tables (steps : List TrackingStep) (w : World) : Prop where
  consistent : w.subscriber.Consistent
  named : ∀ type account, ((w.subscriber.table type).get account).isSome = true → Named steps account type

variable {steps : List TrackingStep}

theorem AddressesDisjoint.type_unique (disjoint : AddressesDisjoint steps) {account : Pubkey} {type type' : AccountType}
    (named : Named steps account type) (named' : Named steps account type') : type' = type := by
  cases type <;> cases type'
  case bondingCurve.bondingCurve | ata.ata => rfl
  case bondingCurve.ata =>
    obtain ⟨⟨mint, curve⟩, mint', ata⟩ := named, named'
    exact absurd rfl (disjoint mint account mint' account curve ata)
  case ata.bondingCurve =>
    obtain ⟨⟨mint, ata⟩, mint', curve⟩ := named, named'
    exact absurd rfl (disjoint mint' account mint account curve ata)

theorem Tables.track (tables : Tables steps w) (disjoint : AddressesDisjoint steps) {type : AccountType}
    {account mint : Pubkey} (named : Named steps account type) :
    Tables steps { w with subscriber := w.subscriber.tracked type account mint w.clock } := by
  constructor
  case consistent =>
    refine tables.consistent.tracked fun type' other => ?_
    by_contra listed
    have named' := tables.named type' account (Option.isSome_iff_ne_none.mpr listed)
    exact other (disjoint.type_unique named named')
  case named =>
    intro type' other listed
    rw [AccountSubscriber.table_tracked] at listed
    split at listed
    · rename_i here
      obtain ⟨rfl, rfl⟩ := here
      exact named
    · exact tables.named type' other listed

theorem Tables.untrack (tables : Tables steps w) (mint : Pubkey) : Tables steps (w.untracked mint) := by
  refine ⟨tables.consistent.untracked mint, fun type account listed => ?_⟩
  apply tables.named type account
  change (((w.subscriber.untracked mint).table type).get account).isSome = true at listed
  rw [AccountSubscriber.table_untracked] at listed
  split at listed
  · cases listed
  · exact listed

theorem tracking_code (step : TrackingStep) (calm : ∀ env, step ≠ .disturb env)
    (ends : step.code.exec World.alone w = some ((), w')) : (tracking w step).1 = w' := by
  cases step with
  | disturb env => exact absurd rfl (calm env)
  | trackBondingCurve | trackAta | untrackMint | pruneStaleCandidateMints =>
    unfold tracking
    dsimp only
    rw [ends]
    rfl

theorem tracking_tables (disjoint : AddressesDisjoint steps) (tables : Tables steps w) {step : TrackingStep}
    (member : step ∈ steps) : Tables steps (tracking w step).1 := by
  cases step with
  | trackBondingCurve mint bondingCurve =>
    rw [tracking_code (.trackBondingCurve mint bondingCurve) nofun (trackBondingCurve_exec w mint bondingCurve)]
    have named : Named steps bondingCurve .bondingCurve := ⟨mint, member⟩
    exact tables.track disjoint named
  | trackAta mint ataAddress =>
    rw [tracking_code (.trackAta mint ataAddress) nofun (trackAta_exec w mint ataAddress)]
    have named : Named steps ataAddress .ata := ⟨mint, member⟩
    exact tables.track disjoint named
  | untrackMint mint =>
    rw [tracking_code (.untrackMint mint) nofun (untrackMint_exec w mint)]
    exact tables.untrack mint
  | pruneStaleCandidateMints activeMints maxIdle =>
    rw [tracking_code (.pruneStaleCandidateMints activeMints maxIdle) nofun
      (pruneStaleCandidateMints_exec w activeMints maxIdle)]
    exact untracked_all (fun w mint tables => tables.untrack mint) _ tables
  | disturb env =>
    show Tables steps ((w.disturb env).getD w)
    cases change : w.disturb env with
    | none => exact tables
    | some w' =>
      have same : w'.subscriber = w.subscriber := (World.disturb_drift change).accounts
      obtain ⟨consistent, named⟩ := tables
      rw [← same] at consistent named
      exact ⟨consistent, named⟩

theorem tables_after (disjoint : AddressesDisjoint steps) (fresh : w.subscriber = .new) :
    Tables steps (Machine.after tracking w steps) := by
  refine Machine.invariant (P := Tables steps) tracking
    (fun w step member tables => tracking_tables disjoint tables member) ?_
  constructor
  case consistent =>
    rw [fresh]
    exact AccountSubscriber.consistent_new
  case named =>
    intro type account listed
    rw [fresh] at listed
    cases type <;> cases listed

/-- After every run the tables agree, and removing or pruning from there on takes away what it should and no more. -/
theorem tables_consistent (w : World) (steps : List TrackingStep) (fresh : w.subscriber = .new)
    (disjoint : AddressesDisjoint steps) :
    let now := Machine.after tracking w steps
    now.subscriber.Consistent ∧
      (∀ mint, Untracks now (tracking now (.untrackMint mint)).1 mint) ∧
      ∀ activeMints maxIdle,
        Prunes now (tracking now (.pruneStaleCandidateMints activeMints maxIdle)).1 activeMints maxIdle := by
  intro now
  have consistent : now.subscriber.Consistent := (tables_after disjoint fresh).consistent
  refine ⟨consistent, fun mint => ?_, fun activeMints maxIdle => ?_⟩
  · rw [tracking_code (.untrackMint mint) nofun (untrackMint_exec now mint)]
    exact untracks_untracked consistent mint
  · rw [tracking_code (.pruneStaleCandidateMints activeMints maxIdle) nofun
      (pruneStaleCandidateMints_exec now activeMints maxIdle)]
    exact prunes_stale consistent activeMints maxIdle

/-- Two mints, the second one entered a minute after the first. -/
def sampleTracking : List TrackingStep :=
  [.trackBondingCurve 5 205, .trackAta 5 105, .disturb (.tick 60000000000), .trackBondingCurve 6 206, .trackAta 6 106,
    .disturb (.tick 90000000000)]

theorem tables_consistent_sample :
    let now := Machine.after tracking (World.new sampleGroups) sampleTracking
    Prunes now (tracking now (.pruneStaleCandidateMints [] 120000000000)).1 [] 120000000000 ∧
      now.subscriber.Consistent := by
  have disjoint : AddressesDisjoint sampleTracking := by
    intro mint bondingCurve mint' ataAddress curve ata
    simp only [sampleTracking, List.mem_cons, TrackingStep.trackBondingCurve.injEq, TrackingStep.trackAta.injEq,
      List.not_mem_nil, or_false, false_or, reduceCtorEq] at curve ata
    rintro rfl
    rcases curve with ⟨-, rfl⟩ | ⟨-, rfl⟩ <;> simp at ata
  obtain ⟨consistent, -, prunes⟩ := tables_consistent (World.new sampleGroups) sampleTracking rfl disjoint
  exact ⟨prunes [] 120000000000, consistent⟩

end CopyTrader.Tasks
