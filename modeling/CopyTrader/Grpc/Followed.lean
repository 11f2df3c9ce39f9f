import CopyTrader.Grpc.Attribution
import CopyTrader.Grpc.Following

/-!
# What the stream asks for

The requests of the stream show the groups in windows that never go back, and once the groups rest it serves their
wallets. A stream without wallets waits for the first one.
-/

namespace CopyTrader.Grpc.Following
open Lib

variable {shards : ℕ}

section

variable (shardOf : String → Fin shards) (manager : GroupManager)

/-- The requests of the stream in turn. -/
def requests (events : List FollowEvent) : List (List Pubkey) :=
  ((step shardOf).outputs (start manager) events).filterMap id

/-- The windows of the requests, none of which is ahead of the stored wallets. -/
structure Asked (events : List FollowEvent) (asked : List (Window FollowEvent)) (stored : Window FollowEvent) :
    Prop where
  answers : List.Forall₂ (Shows shardOf manager) asked (requests shardOf manager events)
  inOrder : asked.Pairwise Window.Precedes
  stale : ∀ window ∈ asked, window.Precedes stored

end

section

variable {shardOf : String → Fin shards} {manager : GroupManager} {events : List FollowEvent}
  {stored : Window FollowEvent} {asked : List (Window FollowEvent)}

theorem requests_snoc (events : List FollowEvent) (event : FollowEvent) :
    requests shardOf manager (events ++ [event]) =
      requests shardOf manager events ++ (step shardOf (after shardOf manager events) event).2.toList := by
  unfold requests
  rw [Machine.outputs_snoc, List.filterMap_append]
  rfl

theorem step_request (s : Following) (event : FollowEvent) :
    (step shardOf s event).2 = none ∨ (step shardOf s event).2 = some s.subscriber.targetWallets := by
  cases event with
  | stream move => exact s.stream.step_request s.subscriber move
  | _ => exact Or.inl rfl

theorem Asked.next (asks : Asked shardOf manager events asked stored)
    (shows : Shows shardOf manager stored (after shardOf manager events).subscriber.targetWallets)
    (event : FollowEvent) {stored' : Window FollowEvent} (later : stored.Precedes stored') :
    ∃ asked', Asked shardOf manager (events ++ [event]) asked' stored' := by
  rcases step_request (after shardOf manager events) event with none | made
  · refine ⟨asked, ?_, asks.inOrder, fun window member => (asks.stale window member).trans later⟩
    rw [requests_snoc, none, Option.toList_none, List.append_nil]
    exact asks.answers
  · refine ⟨asked ++ [stored], ?answers, ?inOrder, ?stale⟩
    case answers =>
      rw [requests_snoc, made]
      exact List.rel_append asks.answers (List.Forall₂.cons shows List.Forall₂.nil)
    case inOrder =>
      refine List.pairwise_append.mpr ⟨asks.inOrder, List.pairwise_singleton _ _, ?_⟩
      intro window member last single
      obtain rfl := List.mem_singleton.mp single
      exact asks.stale window member
    case stale =>
      intro window member
      rcases List.mem_append.mp member with before | last
      · exact (asks.stale window before).trans later
      · obtain rfl := List.mem_singleton.mp last
        exact later

theorem traced (shardOf : String → Fin shards) (manager : GroupManager) (events : List FollowEvent) :
    ∃ stored reading asked,
      Copying shardOf manager events stored reading ∧ Asked shardOf manager events asked stored := by
  induction events using List.reverseRecOn with
  | nil =>
    exact ⟨_, _, [], copying_start, List.Forall₂.nil, List.Pairwise.nil, fun window member => by cases member⟩
  | append_singleton events event ih =>
    obtain ⟨stored, reading, asked, copying, asks⟩ := ih
    obtain ⟨stored', reading', next, later⟩ := copying.next event
    obtain ⟨asked', nextAsks⟩ := asks.next copying.shows event later
    exact ⟨stored', reading', asked', next, nextAsks⟩

theorem wallets_requested (events : List FollowEvent) :
    ∀ wallets ∈ (after shardOf manager events).stream.wallets, wallets ∈ requests shardOf manager events := by
  induction events using List.reverseRecOn with
  | nil =>
    intro wallets member
    cases member
  | append_singleton events event ih =>
    intro wallets member
    rw [after_snoc] at member
    rw [requests_snoc]
    cases event with
    | stream move =>
      rcases TradeStream.step_wallets _ _ move wallets member with before | requested
      · exact List.mem_append_left _ (ih wallets before)
      · exact List.mem_append_right _ (Option.mem_toList.mpr requested)
    | edit op => exact List.mem_append_left _ (ih wallets member)
    | readShard =>
      refine List.mem_append_left _ (ih wallets ?_)
      dsimp only [step, Following.readShard] at member
      split at member <;> exact member
    | update =>
      refine List.mem_append_left _ (ih wallets ?_)
      dsimp only [step, Following.update] at member
      split at member <;> exact member
    | notify =>
      refine List.mem_append_left _ (ih wallets ?_)
      dsimp only [step, Following.notify] at member
      split at member
      · rwa [TradeStream.wallets_notified] at member
      · exact member

/-! ### Once the groups rest -/

theorem manager_of_quiet {began rest : List FollowEvent} (quiet : ∀ op, .edit op ∉ rest) :
    (after shardOf manager (began ++ rest)).manager = (after shardOf manager began).manager := by
  induction rest using List.reverseRecOn with
  | nil => rw [List.append_nil]
  | append_singleton rest event ih =>
    have before := ih fun op member => quiet op (List.mem_append_left _ member)
    rw [← List.append_assoc, after_snoc, ← before]
    cases event with
    | edit op => exact absurd (List.mem_append_right _ (List.mem_singleton_self _)) (quiet op)
    | stream move => rfl
    | readShard =>
      dsimp only [step, Following.readShard]
      split <;> rfl
    | update =>
      dsimp only [step, Following.update]
      split <;> rfl
    | notify =>
      dsimp only [step, Following.notify]
      split <;> rfl

theorem held_of_quiet {began rest point : List FollowEvent} (quiet : ∀ op, .edit op ∉ rest)
    (first : began <+: point) (last : point <+: began ++ rest) :
    Held shardOf manager point = (after shardOf manager began).manager.Targets := by
  obtain ⟨between, rfl⟩ := first
  have short : between <+: rest := (List.prefix_append_right_inj began).mp last
  funext id wallet
  rw [Held, manager_of_quiet fun op member => quiet op (short.subset member)]

theorem stored_of_refreshed {began rest : List FollowEvent} (refreshed : Refreshed shardOf manager began (began ++ rest))
    (quiet : ∀ op, .edit op ∉ rest) (wallet : Pubkey) :
    wallet ∈ (after shardOf manager (began ++ rest)).subscriber.targetWallets ↔
      wallet ∈ (after shardOf manager (began ++ rest)).manager.allTargetWallets := by
  obtain ⟨stored, reading, asked, copying, -⟩ := traced shardOf manager (began ++ rest)
  have from_began : began <+: stored.start := copying.refreshed began refreshed
  have up_to : stored.stop <+: began ++ rest := copying.later.stop.trans copying.past
  rw [GroupManager.mem_allTargetWallets, manager_of_quiet quiet]
  refine copying.shows.exact_of_quiet (fun _ => trivial) (fun point covered => ?_) wallet
  exact held_of_quiet quiet (from_began.trans covered.1) (covered.2.trans up_to)

end

/-- The stored wallets are those of the groups, and a live stream that wakes up serves them, or asks for them
and serves them once the request is sent. -/
structure Settled (shardOf : String → Fin shards) (s : Following) : Prop where
  stored : ∀ wallet, wallet ∈ s.subscriber.targetWallets ↔ wallet ∈ s.manager.allTargetWallets
  quiet : s.stream = .live s.subscriber.targetWallets none → step shardOf s (.stream .wake) = (s, none)
  asks : ∀ lastWallets, s.stream = .live lastWallets none → lastWallets ≠ s.subscriber.targetWallets →
    (step shardOf s (.stream .wake)).2 = some s.subscriber.targetWallets ∧
      (step shardOf (step shardOf s (.stream .wake)).1 (.stream (.sendEnds true))).1 =
        { s with stream := .live s.subscriber.targetWallets none }

section

variable (shardOf : String → Fin shards) (manager : GroupManager)

/-- The requests of every run show the groups as they were in windows that never go back, up to the window of
the stored wallets, which is later than every point whose pass was stored. The stream turns to nothing that it did
not ask for. -/
theorem requests_show_groups (events : List FollowEvent) :
    ∃ stored asked, Asked shardOf manager events asked stored ∧
      Shows shardOf manager stored (after shardOf manager events).subscriber.targetWallets ∧
      stored.stop <+: events ∧
      (∀ point, Refreshed shardOf manager point events → point <+: stored.start) ∧
      ∀ wallets ∈ (after shardOf manager events).stream.wallets, wallets ∈ requests shardOf manager events := by
  obtain ⟨stored, reading, asked, copying, asks⟩ := traced shardOf manager events
  have up_to : stored.stop <+: events := copying.later.stop.trans copying.past
  exact ⟨stored, asked, asks, copying.shows, up_to, copying.refreshed, wallets_requested events⟩

/-- Once a pass that began after the last edit is stored, the stream follows the groups. -/
theorem settled_of_refreshed (began rest : List FollowEvent)
    (refreshed : Refreshed shardOf manager began (began ++ rest)) (quiet : ∀ op, .edit op ∉ rest) :
    Settled shardOf (after shardOf manager (began ++ rest)) := by
  have stored := stored_of_refreshed refreshed quiet
  generalize after shardOf manager (began ++ rest) = s at stored ⊢
  obtain ⟨manager, shardsRead, groupsRead, notifying, subscriber, stream⟩ := s
  refine ⟨stored, ?quiet, ?asks⟩
  case quiet =>
    intro live
    obtain rfl : stream = .live subscriber.targetWallets none := live
    have silent : (subscriber.resubscribe subscriber.targetWallets false).2 = none := by
      simp only [GrpcSubscriber.resubscribe, ne_eq, not_true_eq_false, if_false]
    simp only [step, TradeStream.step, silent]
  case asks =>
    intro lastWallets live differs
    obtain rfl : stream = .live lastWallets none := live
    have asks : (subscriber.resubscribe lastWallets false).2 = some subscriber.targetWallets := by
      simp only [GrpcSubscriber.resubscribe, if_pos (Ne.symm differs)]
    simp only [step, TradeStream.step, asks, if_true, and_self]

end

/-- A wallet that is added is read and stored. -/
theorem settled_of_refreshed_sample :
    let s := after (fun _ => (0 : Fin 1)) (.loadOrDefault sampleConfig none)
      ([.edit (.addWallet "g1" 8)] ++ [.readShard, .update])
    Settled (fun _ => (0 : Fin 1)) s ∧ 8 ∈ s.subscriber.targetWallets := by
  intro s
  have settled : Settled (fun _ => (0 : Fin 1)) s := by
    apply settled_of_refreshed
    · exact ⟨_, List.prefix_append _ [.readShard], List.prefix_rfl, rfl, rfl⟩
    · simp
  refine ⟨settled, (settled.stored 8).mpr (GroupManager.mem_allTargetWallets.mpr ⟨"g1", ?_⟩)⟩
  exact ⟨_, rfl, by decide⟩

/-! ### The wait for a first wallet -/

/-- A stream that found no wallets is not left alone with some: there are still none, or it is about to be notified. -/
def Awaits (s : Following) : Prop :=
  s.stream.FoundNone → s.subscriber.targetWallets = [] ∨ s.notifying = true

/-- A notification of wallets does not fall between the check of the stream and its registration. -/
def Reaches (s : Following) : FollowEvent → Prop
  | .notify => s.notifying = true → s.stream = .unregistered → s.subscriber.targetWallets = []
  | _ => True

theorem update_awaits {s : Following} (awaits : s.Awaits) : (s.update shards).Awaits := by
  unfold Following.update
  split
  next =>
    intro found
    dsimp only at found ⊢
    generalize GroupManager.targetWalletsOf (s.groupsRead.mergeSort fun left right => left.id ≤ right.id) = wallets
    by_cases changed : (s.subscriber.updateTargetWallets wallets).2 = true
    · exact Or.inr (Bool.or_eq_true_iff.mpr (Or.inr changed))
    · have same := not_not.mp (mt (GrpcSubscriber.update_answer s.subscriber wallets).mpr changed)
      have kept := (GrpcSubscriber.update_targetWallets s.subscriber wallets).trans same.symm
      exact (awaits found).imp kept.trans fun notifying => Bool.or_eq_true_iff.mpr (Or.inl notifying)
  next => exact awaits

theorem notify_awaits {s : Following} (awaits : s.Awaits) : s.notify.Awaits ↔ s.Reaches .notify := by
  unfold Following.notify
  by_cases notifying : s.notifying = true
  · rw [if_pos notifying]
    constructor
    · intro after _ unregistered
      refine (after (TradeStream.foundNone_notified.mpr unregistered)).resolve_right ?_
      exact Bool.false_ne_true
    · intro reaches found
      exact Or.inl (reaches notifying (TradeStream.foundNone_notified.mp found))
  · rw [if_neg notifying]
    exact ⟨fun _ now => absurd now notifying, fun _ => awaits⟩

theorem step_awaits {shardOf : String → Fin shards} {s : Following} (event : FollowEvent) (awaits : s.Awaits) :
    (step shardOf s event).1.Awaits ↔ s.Reaches event := by
  cases event with
  | notify => exact notify_awaits awaits
  | edit op => exact ⟨fun _ => trivial, fun _ => awaits⟩
  | update => exact ⟨fun _ => trivial, fun _ => update_awaits awaits⟩
  | readShard =>
    refine ⟨fun _ => trivial, fun _ => ?_⟩
    dsimp only [step, Following.readShard]
    split <;> exact awaits
  | stream move =>
    refine ⟨fun _ => trivial, fun _ found => ?_⟩
    rcases TradeStream.foundNone_step found with before | empty
    · exact awaits before
    · exact Or.inl empty

/-- A stream that found no wallets is never left alone with some exactly if no notification of wallets falls
between its check and its registration. -/
theorem awaits_iff (shardOf : String → Fin shards) (manager : GroupManager) (events : List FollowEvent) :
    (∀ h, h <+: events → (after shardOf manager h).Awaits) ↔
      ∀ h event, h ++ [event] <+: events → (after shardOf manager h).Reaches event := by
  refine Machine.always_iff (step shardOf) (fun s event awaits => step_awaits event awaits) ?_ events
  rintro (found | found) <;> cases found

/-- The first wallet is added after the check, and its notification comes before the registration. -/
theorem wakeup_lost : ¬ ∀ manager events, (after (fun _ => (0 : Fin 1)) manager events).Awaits := by
  intro awaits
  have lost := awaits (.loadOrDefault { sampleConfig with targetWallets := [] } none)
    [.stream .checkWallets, .edit (.addWallet "g1" 8), .readShard, .update, .notify, .stream .register]
  rcases lost (Or.inr (by decide +kernel)) with empty | notifying
  · exact absurd empty (by decide +kernel)
  · exact absurd notifying (by decide +kernel)

/-! ### The reported trades -/

/-- The wallet of every reported trade is among the keys of the transaction, and a group had it at a point which
is not before any pass that has been stored. -/
theorem reported_wallet_held {shardOf : String → Fin shards} {manager : GroupManager} {events : List FollowEvent}
    {sdk : Sdk} {hashOrder : GrpcSubscriber.HashOrder} {bytes : List UInt8} {message : Message}
    {status : Option TransactionStatusMeta} {recvTime : Instant} {trade : Processor.DetectedTrade}
    (parsed : GrpcSubscriber.parseTransaction sdk (after shardOf manager events).subscriber.targetWallets hashOrder bytes
      (some message) status recvTime = .ok (some trade)) :
    trade.sourceWallet ∈ GrpcSubscriber.accountKeys message status ∧
      ∃ point id, point <+: events ∧ Held shardOf manager point id trade.sourceWallet ∧
        ∀ began, Refreshed shardOf manager began events → began <+: point := by
  have found := GrpcSubscriber.parseTransaction_wallet parsed
  have target : trade.sourceWallet ∈ (after shardOf manager events).subscriber.targetWallets :=
    List.contains_iff_mem.mp (List.find?_some found)
  obtain ⟨stored, reading, asked, copying, -⟩ := traced shardOf manager events
  obtain ⟨point, id, covered, held⟩ := copying.shows.held _ target
  have up_to : stored.stop <+: events := copying.later.stop.trans copying.past
  refine ⟨List.mem_of_find?_eq_some found, point, id, covered.2.trans up_to, held, fun began refreshed => ?_⟩
  exact (copying.refreshed began refreshed).trans covered.1

theorem sample_stored : (after (fun _ => (0 : Fin 1)) (.loadOrDefault sampleConfig none)
    [.readShard, .update]).subscriber.targetWallets = [7] := by decide +kernel

/-- A trade of the wallet of the first group is reported. -/
theorem reported_wallet_held_sample : ∃ trade,
    GrpcSubscriber.parseTransaction Processor.sampleSdk (after (fun _ => (0 : Fin 1)) (.loadOrDefault sampleConfig none)
      [.readShard, .update]).subscriber.targetWallets id [1] (some GrpcSubscriber.sampleListed) none 0 = .ok (some trade) ∧
    ∃ point id, Held (fun _ => (0 : Fin 1)) (.loadOrDefault sampleConfig none) point id trade.sourceWallet := by
  obtain ⟨trade, parsed, reads⟩ := GrpcSubscriber.parseTransaction_direct GrpcSubscriber.sampleListed_found
    GrpcSubscriber.sampleListed_first
  rw [← sample_stored] at parsed
  obtain ⟨-, point, id, -, held, -⟩ := reported_wallet_held parsed
  exact ⟨trade, parsed, point, id, held⟩

end CopyTrader.Grpc.Following
