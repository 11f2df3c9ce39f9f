import CopyTrader.Grpc.TargetWallets
import CopyTrader.Groups.File
import CopyTrader.Groups.WellFormed
import CopyTrader.Lib.Windows

/-!
# From the groups to the stream

A task copies the wallets of the groups to the subscriber over and over. It reads the groups shard by shard while
they are edited. The trade stream asks for the wallets that the subscriber has at the time.
-/

namespace CopyTrader
open Lib

namespace GroupManager

def pushNew (wallets : List Pubkey) (wallet : Pubkey) : List Pubkey :=
  if wallets.contains wallet then wallets else wallets ++ [wallet]

/-- The wallets of the groups in turn, each where it comes first. -/
def targetWalletsOf (groups : List CopyGroup) : List Pubkey := (groups.flatMap (·.wallets)).foldl pushNew []

def allTargetWallets (manager : GroupManager) : List Pubkey := targetWalletsOf manager.allGroups

theorem mem_pushNew {wallets : List Pubkey} {first wallet : Pubkey} :
    wallet ∈ pushNew wallets first ↔ wallet ∈ wallets ∨ wallet = first := by
  unfold pushNew
  split
  next known =>
    constructor
    · exact Or.inl
    · rintro (old | rfl)
      · exact old
      · exact List.contains_iff_mem.mp known
  next => rw [List.mem_append, List.mem_singleton]

theorem mem_foldl_pushNew {wallet : Pubkey} (wallets read : List Pubkey) :
    wallet ∈ wallets.foldl pushNew read ↔ wallet ∈ read ∨ wallet ∈ wallets := by
  induction wallets generalizing read with
  | nil => simp
  | cons first wallets ih => rw [List.foldl_cons, ih, mem_pushNew, List.mem_cons, or_assoc]

theorem mem_targetWalletsOf {groups : List CopyGroup} {wallet : Pubkey} :
    wallet ∈ targetWalletsOf groups ↔ ∃ group ∈ groups, wallet ∈ group.wallets := by
  rw [targetWalletsOf, mem_foldl_pushNew, List.mem_flatMap]
  simp only [List.not_mem_nil, false_or]

/-- The group with this id has the wallet. -/
def Targets (manager : GroupManager) (id : String) (wallet : Pubkey) : Prop :=
  ∃ group, manager.getGroup id = some group ∧ wallet ∈ group.wallets

theorem targets_of_mem {manager : GroupManager} {group : CopyGroup} (member : group ∈ manager.allGroups)
    {wallet : Pubkey} (target : wallet ∈ group.wallets) : manager.Targets group.id wallet :=
  ⟨group, mem_allGroups.mp member, target⟩

theorem mem_of_targets {manager : GroupManager} {id : String} {wallet : Pubkey} (targets : manager.Targets id wallet) :
    ∃ group ∈ manager.allGroups, group.id = id ∧ wallet ∈ group.wallets := by
  obtain ⟨group, stored, target⟩ := targets
  obtain rfl : group.id = id := keyed_iff.mp manager.keyed id group stored
  exact ⟨group, mem_allGroups.mpr stored, rfl, target⟩

theorem mem_allTargetWallets {manager : GroupManager} {wallet : Pubkey} :
    wallet ∈ manager.allTargetWallets ↔ ∃ id, manager.Targets id wallet := by
  rw [allTargetWallets, mem_targetWalletsOf]
  constructor
  · rintro ⟨group, member, target⟩
    exact ⟨group.id, targets_of_mem member target⟩
  · rintro ⟨id, targets⟩
    obtain ⟨group, member, -, target⟩ := mem_of_targets targets
    exact ⟨group, member, target⟩

end GroupManager

namespace Grpc

/-- The trade stream: it finds no wallets and then waits for a notification, is about to connect, connects, or is
live with the wallets that it remembers and the request that it is sending. -/
inductive TradeStream where
  | closed
  | unregistered
  | waiting
  | ready
  | connecting (initialWallets : List Pubkey)
  | live (lastWallets : List Pubkey) (sending : Option (List Pubkey))
  deriving DecidableEq

inductive StreamMove where
  | checkWallets
  | register
  | readWallets
  | connectEnds (ok : Bool)
  | wake
  | sendEnds (ok : Bool)
  | ends
  deriving DecidableEq

namespace TradeStream

/-- One move, and the wallets of the request that is made by it. A move that the stream is not at is none. -/
def step (stream : TradeStream) (subscriber : GrpcSubscriber) (move : StreamMove) :
    TradeStream × Option (List Pubkey) :=
  match move, stream with
  | .checkWallets, .closed => (if subscriber.targetWallets.isEmpty then .unregistered else .ready, none)
  | .register, .unregistered => (.waiting, none)
  -- they are read again, and may be empty by now
  | .readWallets, .ready => (.connecting subscriber.targetWallets, some subscriber.targetWallets)
  | .connectEnds ok, .connecting initialWallets => (if ok then .live initialWallets none else .closed, none)
  | .wake, .live lastWallets none =>
    let request := (subscriber.resubscribe lastWallets false).2
    (.live lastWallets request, request)
  | .sendEnds ok, .live lastWallets (some currentWallets) =>
    (.live (if ok then currentWallets else lastWallets) none, none)
  | .ends, .live _ none => (.closed, none)
  | _, stream => (stream, none)

/-- A notification reaches only a stream that waits for it, which then checks the wallets again. -/
def notified : TradeStream → TradeStream
  | .waiting => .closed
  | stream => stream

/-- What the stream serves or sends. -/
def wallets : TradeStream → List (List Pubkey)
  | .connecting initialWallets => [initialWallets]
  | .live lastWallets sending => lastWallets :: sending.toList
  | _ => []

theorem step_request (stream : TradeStream) (subscriber : GrpcSubscriber) (move : StreamMove) :
    (stream.step subscriber move).2 = none ∨ (stream.step subscriber move).2 = some subscriber.targetWallets := by
  unfold step
  split
  case h_3 => exact Or.inr rfl
  case h_5 lastWallets =>
    dsimp only [GrpcSubscriber.resubscribe]
    split
    · exact Or.inr rfl
    · exact Or.inl rfl
  all_goals exact Or.inl rfl

/-- A stream turns to other wallets by a request only. -/
theorem step_wallets (stream : TradeStream) (subscriber : GrpcSubscriber) (move : StreamMove) :
    ∀ wallets ∈ (stream.step subscriber move).1.wallets,
      wallets ∈ stream.wallets ∨ (stream.step subscriber move).2 = some wallets := by
  unfold step
  split
  case h_1 =>
    intro wallets member
    split at member <;> cases member
  case h_2 =>
    intro wallets member
    cases member
  case h_3 =>
    intro wallets member
    exact Or.inr (congrArg some (List.mem_singleton.mp member).symm)
  case h_4 ok initialWallets =>
    intro wallets member
    cases ok with
    | true => exact Or.inl member
    | false => cases member
  case h_5 lastWallets =>
    intro wallets member
    rcases List.mem_cons.mp member with rfl | requested
    · exact Or.inl (List.mem_cons_self ..)
    · exact Or.inr (Option.mem_toList.mp requested)
  case h_6 ok lastWallets currentWallets =>
    intro wallets member
    have only := List.mem_singleton.mp member
    cases ok with
    | true => exact Or.inl (only ▸ List.mem_cons_of_mem _ (List.mem_singleton_self _))
    | false => exact Or.inl (only ▸ List.mem_cons_self ..)
  case h_7 =>
    intro wallets member
    cases member
  case h_8 => exact fun wallets member => Or.inl member

/-- It found no wallets when it checked them last. -/
def FoundNone (stream : TradeStream) : Prop := stream = .unregistered ∨ stream = .waiting

theorem foundNone_step {stream : TradeStream} {subscriber : GrpcSubscriber} {move : StreamMove}
    (found : (stream.step subscriber move).1.FoundNone) : stream.FoundNone ∨ subscriber.targetWallets = [] := by
  unfold step at found
  split at found
  case h_1 =>
    split at found
    next empty => exact Or.inr (List.isEmpty_iff.mp empty)
    next => rcases found with found | found <;> cases found
  case h_2 => exact Or.inl (Or.inl rfl)
  case h_4 ok initialWallets => cases ok <;> rcases found with found | found <;> cases found
  case h_8 => exact Or.inl found
  all_goals rcases found with found | found <;> cases found

theorem foundNone_notified {stream : TradeStream} : stream.notified.FoundNone ↔ stream = .unregistered := by
  constructor
  · intro found
    cases stream with
    | unregistered => rfl
    | _ => rcases found with found | found <;> cases found
  · rintro rfl
    exact Or.inl rfl

@[simp] theorem wallets_notified (stream : TradeStream) : stream.notified.wallets = stream.wallets := by
  cases stream <;> rfl

end TradeStream

/-- The groups, the copying task with the groups of the shards that it has read since its last update and whether it
is about to notify the stream, the subscriber and the stream. -/
structure Following where
  manager : GroupManager
  shardsRead : ℕ
  groupsRead : List CopyGroup
  notifying : Bool
  subscriber : GrpcSubscriber
  stream : TradeStream

inductive FollowEvent where
  | edit (op : GroupOp ℚ)
  | readShard
  | update
  | notify
  | stream (move : StreamMove)

namespace Following

variable {shards : ℕ}

def start (manager : GroupManager) : Following where
  manager := manager
  shardsRead := 0
  groupsRead := []
  notifying := false
  subscriber := GrpcSubscriber.new manager.allTargetWallets
  stream := .closed

def readShard (shardOf : String → Fin shards) (s : Following) : Following :=
  if s.shardsRead < shards ∧ s.notifying = false then
    { s with
      shardsRead := s.shardsRead + 1
      groupsRead := s.groupsRead ++ s.manager.allGroups.filter fun group => (shardOf group.id).val = s.shardsRead }
  else s

/-- Once all shards are read the groups are sorted, and their wallets are stored. A change is notified next. -/
def update (shards : ℕ) (s : Following) : Following :=
  if s.shardsRead = shards then
    let groups := s.groupsRead.mergeSort fun left right => left.id ≤ right.id
    let updated := s.subscriber.updateTargetWallets (GroupManager.targetWalletsOf groups)
    { s with
      shardsRead := 0
      groupsRead := []
      notifying := s.notifying || updated.2
      subscriber := updated.1 }
  else s

def notify (s : Following) : Following :=
  if s.notifying then { s with notifying := false, stream := s.stream.notified } else s

/-- One event, and the wallets of the request that the stream makes at it. The groups are edited, and their
shards read, one at a time. -/
def step (shardOf : String → Fin shards) : Machine Following FollowEvent (Option (List Pubkey)) := fun s event =>
  match event with
  | .edit op => ({ s with manager := (s.manager.perform op).1 }, none)
  | .readShard => (s.readShard shardOf, none)
  | .update => (s.update shards, none)
  | .notify => (s.notify, none)
  | .stream move =>
    ({ s with stream := (s.stream.step s.subscriber move).1 }, (s.stream.step s.subscriber move).2)

/-! ### Windows of a run -/

section

variable (shardOf : String → Fin shards) (manager : GroupManager)

def after (events : List FollowEvent) : Following := (step shardOf).after (start manager) events

/-- The group had the wallet at this point of the run. -/
def Held (point : List FollowEvent) (id : String) (wallet : Pubkey) : Prop :=
  (after shardOf manager point).manager.Targets id wallet

/-- The wallets were in a group at some point of the window; those that one group had all along are among them. -/
abbrev Shows (window : Window FollowEvent) (wallets : List Pubkey) : Prop :=
  window.Views (Held shardOf manager) (fun _ => True) (· ∈ wallets)

/-- A pass over all shards that began at the first point or later has been stored by the second one. -/
def Refreshed (began now : List FollowEvent) : Prop :=
  ∃ point, began <+: point ∧ point ++ [.update] <+: now ∧
    (after shardOf manager began).shardsRead = 0 ∧ (after shardOf manager point).shardsRead = shards

/-- The windows of the stored wallets and of the reading under way. A reading begins when no shard is read yet. -/
structure Copying (events : List FollowEvent) (stored reading : Window FollowEvent) : Prop where
  shows : Shows shardOf manager stored (after shardOf manager events).subscriber.targetWallets
  reads : reading.Views (Held shardOf manager)
    (fun id => (shardOf id).val < (after shardOf manager events).shardsRead)
    fun wallet => ∃ group ∈ (after shardOf manager events).groupsRead, wallet ∈ group.wallets
  later : stored.Precedes reading
  past : reading.stop <+: events
  fresh : (after shardOf manager events).shardsRead = 0 → (after shardOf manager events).groupsRead = []
  began : ∀ point, point <+: events → (after shardOf manager point).shardsRead = 0 → point <+: reading.start
  refreshed : ∀ point, Refreshed shardOf manager point events → point <+: stored.start

end

section

variable {shardOf : String → Fin shards} {manager : GroupManager} {events : List FollowEvent}
  {stored reading : Window FollowEvent}

theorem after_snoc (events : List FollowEvent) (event : FollowEvent) :
    after shardOf manager (events ++ [event]) = (step shardOf (after shardOf manager events) event).1 :=
  Machine.after_snoc _ _ events event

theorem refreshed_snoc {point : List FollowEvent} {event : FollowEvent}
    (refreshed : Refreshed shardOf manager point (events ++ [event])) :
    Refreshed shardOf manager point events ∨ event = .update ∧ (after shardOf manager events).shardsRead = shards ∧
      point <+: events ∧ (after shardOf manager point).shardsRead = 0 := by
  obtain ⟨between, first, second, none, all⟩ := refreshed
  rcases List.prefix_concat_iff.mp second with same | before
  · obtain ⟨rfl, last⟩ := List.append_inj' same rfl
    exact Or.inr ⟨(List.singleton_inj.mp last).symm, all, first, none⟩
  · exact Or.inl ⟨between, first, before, none, all⟩

/-! ### The copying task -/

theorem copying_start : Copying shardOf manager [] (.instant []) (.instant []) where
  shows := Window.Views.all_at [] fun wallet =>
    GrpcSubscriber.mem_normalizeWallets.trans GroupManager.mem_allTargetWallets
  reads := Window.Views.nothing _ (fun id => Nat.not_lt_zero _) (by rintro wallet ⟨group, member, -⟩; cases member)
  later := Window.Precedes.refl _
  past := List.prefix_rfl
  fresh _ := rfl
  began point before _ := before
  refreshed := by
    rintro point ⟨between, first, second, -⟩
    exact first.trans ((List.prefix_append _ _).trans second)

/-- An event at which the task does nothing. The reading of a task that has read nothing begins after it. -/
theorem Copying.skip (copying : Copying shardOf manager events stored reading) {event : FollowEvent}
    (shardsRead : (step shardOf (after shardOf manager events) event).1.shardsRead =
      (after shardOf manager events).shardsRead)
    (groupsRead : (step shardOf (after shardOf manager events) event).1.groupsRead =
      (after shardOf manager events).groupsRead)
    (subscriber : (step shardOf (after shardOf manager events) event).1.subscriber =
      (after shardOf manager events).subscriber)
    (noUpdate : event = .update → (after shardOf manager events).shardsRead ≠ shards) :
    ∃ reading', Copying shardOf manager (events ++ [event]) stored reading' := by
  have longer : events <+: events ++ [event] := List.prefix_append _ _
  have refreshed : ∀ point, Refreshed shardOf manager point (events ++ [event]) → point <+: stored.start := by
    intro point passed
    rcases refreshed_snoc passed with before | ⟨updates, all, -⟩
    · exact copying.refreshed point before
    · exact absurd all (noUpdate updates)
  have stays := copying.reads
  have fresh := copying.fresh
  have shows := copying.shows
  rw [← subscriber, ← after_snoc] at shows
  rw [← shardsRead, ← groupsRead, ← after_snoc] at stays fresh
  by_cases unread : (after shardOf manager (events ++ [event])).shardsRead = 0
  · refine ⟨.instant (events ++ [event]), shows, ?reads, ?later, List.prefix_rfl, fresh, ?began, refreshed⟩
    case reads =>
      refine Window.Views.nothing _ (fun id below => ?_) ?_
      · rw [unread] at below
        exact Nat.not_lt_zero _ below
      · rintro wallet ⟨group, member, -⟩
        rw [fresh unread] at member
        cases member
    case later => exact copying.later.trans (Window.precedes_instant (copying.past.trans longer))
    case began => exact fun point before _ => before
  · refine ⟨reading, shows, stays, copying.later, copying.past.trans longer, fresh, ?began, refreshed⟩
    case began =>
      intro point before none
      rcases List.prefix_concat_iff.mp before with rfl | earlier
      · exact absurd none unread
      · exact copying.began point earlier none

theorem Copying.readShard (copying : Copying shardOf manager events stored reading)
    (unread : (after shardOf manager events).shardsRead < shards ∧ (after shardOf manager events).notifying = false) :
    Copying shardOf manager (events ++ [.readShard]) stored (reading.extend events copying.past) := by
  have next : after shardOf manager (events ++ [.readShard]) = (after shardOf manager events).readShard shardOf :=
    after_snoc events .readShard
  have longer : events <+: events ++ [.readShard] := List.prefix_append _ _
  rw [Following.readShard, if_pos unread] at next
  refine ⟨?shows, ?reads, copying.later.trans (Window.precedes_extend _ _), longer, ?fresh, ?began, ?refreshed⟩
  case shows =>
    rw [next]
    exact copying.shows
  case reads =>
    rw [next]
    refine copying.reads.read copying.past ?more ?kept ?only
    case more =>
      intro id below notYet wallet held
      have here : (shardOf id).val = (after shardOf manager events).shardsRead :=
        Nat.le_antisymm (Nat.lt_succ_iff.mp below) (Nat.not_lt.mp notYet)
      obtain ⟨group, member, rfl, target⟩ := GroupManager.mem_of_targets held
      refine ⟨group, List.mem_append_right _ ?_, target⟩
      exact List.mem_filter.mpr ⟨member, decide_eq_true here⟩
    case kept =>
      rintro wallet ⟨group, member, target⟩
      exact ⟨group, List.mem_append_left _ member, target⟩
    case only =>
      rintro wallet ⟨group, member, target⟩
      rcases List.mem_append.mp member with before | read
      · exact Or.inl ⟨group, before, target⟩
      · exact Or.inr ⟨group.id, GroupManager.targets_of_mem (List.mem_filter.mp read).1 target⟩
  case fresh =>
    intro none
    rw [next] at none
    exact absurd none (Nat.succ_ne_zero _)
  case began =>
    intro point before none
    rcases List.prefix_concat_iff.mp before with rfl | earlier
    · rw [next] at none
      exact absurd none (Nat.succ_ne_zero _)
    · exact copying.began point earlier none
  case refreshed =>
    intro point passed
    rcases refreshed_snoc passed with before | ⟨updates, -⟩
    · exact copying.refreshed point before
    · cases updates

/-- What was read is stored, and a new reading begins. -/
theorem Copying.update (copying : Copying shardOf manager events stored reading)
    (all : (after shardOf manager events).shardsRead = shards) :
    Copying shardOf manager (events ++ [.update]) reading (.instant (events ++ [.update])) := by
  have next : after shardOf manager (events ++ [.update]) = (after shardOf manager events).update shards :=
    after_snoc events .update
  have longer : events <+: events ++ [.update] := List.prefix_append _ _
  rw [Following.update, if_pos all] at next
  refine ⟨?shows, ?reads, Window.precedes_instant (copying.past.trans longer), List.prefix_rfl, ?fresh,
    fun point before _ => before, ?refreshed⟩
  case shows =>
    rw [next]
    refine copying.reads.congr (fun id _ => (shardOf id).isLt.trans_eq all.symm) fun wallet => ?_
    rw [GrpcSubscriber.update_targetWallets, GrpcSubscriber.mem_normalizeWallets, GroupManager.mem_targetWalletsOf]
    simp only [List.mem_mergeSort]
  case reads =>
    rw [next]
    refine Window.Views.nothing _ (fun id => Nat.not_lt_zero _) ?_
    rintro wallet ⟨group, member, -⟩
    cases member
  case fresh =>
    intro _
    rw [next]
  case refreshed =>
    intro point passed
    rcases refreshed_snoc passed with before | ⟨-, -, before, none⟩
    · exact (copying.refreshed point before).trans copying.later.start
    · exact copying.began point before none

/-- The windows never go back. -/
theorem Copying.next (copying : Copying shardOf manager events stored reading) (event : FollowEvent) :
    ∃ stored' reading', Copying shardOf manager (events ++ [event]) stored' reading' ∧ stored.Precedes stored' := by
  have skips (keeps : ∃ reading', Copying shardOf manager (events ++ [event]) stored reading') :
      ∃ stored' reading',
        Copying shardOf manager (events ++ [event]) stored' reading' ∧ stored.Precedes stored' := by
    obtain ⟨reading', next⟩ := keeps
    exact ⟨stored, reading', next, Window.Precedes.refl stored⟩
  cases event with
  | edit op => exact skips (copying.skip rfl rfl rfl (fun updates => by cases updates))
  | stream move => exact skips (copying.skip rfl rfl rfl (fun updates => by cases updates))
  | notify =>
    refine skips (copying.skip ?_ ?_ ?_ (fun updates => by cases updates))
    all_goals
      dsimp only [step, Following.notify]
      split <;> rfl
  | readShard =>
    by_cases unread : (after shardOf manager events).shardsRead < shards ∧
        (after shardOf manager events).notifying = false
    · exact ⟨stored, _, copying.readShard unread, Window.Precedes.refl stored⟩
    · have idle : (after shardOf manager events).readShard shardOf = after shardOf manager events := if_neg unread
      exact skips (copying.skip (congrArg shardsRead idle) (congrArg groupsRead idle) (congrArg subscriber idle)
        (fun updates => by cases updates))
  | update =>
    by_cases all : (after shardOf manager events).shardsRead = shards
    · exact ⟨reading, _, copying.update all, copying.later⟩
    · have idle : (after shardOf manager events).update shards = after shardOf manager events := if_neg all
      exact skips (copying.skip (congrArg shardsRead idle) (congrArg groupsRead idle) (congrArg subscriber idle)
        fun _ => all)

end

end Following

end Grpc

end CopyTrader
