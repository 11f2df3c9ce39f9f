import CopyTrader.Grpc.AccountSubscriber
import CopyTrader.Lib.Machine

/-!
# The re-subscription loop

A live account stream. Every 200 ms the loop reads the subscribed accounts and requests them anew
when their number is not the one it remembers; it waits until the request is sent or refused. In
between, the methods of the subscriber run in any order.
-/

namespace CopyTrader.Grpc
open Lib

/-- The loop and the subscriber it reads. What was read last and what was last sent are kept for
the results only. -/
structure LiveStream where
  subscriber : AccountSubscriber
  lastSubscribedCount : ℕ
  sending : Option (Finset Pubkey)
  lastRead : Finset Pubkey
  lastSent : Finset Pubkey

inductive StreamEvent where
  | perform (op : SubscriberOp) (now : Instant)
  | tick
  | sendEnds (ok : Bool)
  deriving DecidableEq, Repr

namespace LiveStream

/-- The stream as it is once the first request has been accepted. -/
def connected (s : AccountSubscriber) : LiveStream where
  subscriber := s
  lastSubscribedCount := s.subscribedAddresses.card
  sending := none
  lastRead := s.subscribedAddresses
  lastSent := s.subscribedAddresses

def hasChanged (lastSubscribedCount : ℕ) (currentAccounts : Finset Pubkey) : Bool :=
  currentAccounts.card ≠ lastSubscribedCount

/-- One event, and the accounts of the request that is handed to the stream. A tick waits for the
request under way. -/
def step : Machine LiveStream StreamEvent (Option (Finset Pubkey)) := fun l event =>
  match event, l.sending with
  | .perform op now, _ => ({ l with subscriber := (l.subscriber.respond now op).2 }, none)
  | .tick, none =>
    let currentAccounts := l.subscriber.subscribedAddresses
    if hasChanged l.lastSubscribedCount currentAccounts then
      ({ l with sending := some currentAccounts, lastRead := currentAccounts }, some currentAccounts)
    else ({ l with lastRead := currentAccounts }, none)
  | .sendEnds ok, some accounts =>
    -- the count is taken over whether or not the request was accepted
    ({ l with
        sending := none
        lastSubscribedCount := accounts.card
        lastSent := if ok then accounts else l.lastSent }, none)
  | .tick, some _ => (l, none)
  | .sendEnds _, none => (l, none)

/-- After a tick: the stream serves the accounts that the tick read, or the next tick requests them
again although nothing has changed. -/
def Follows (l : LiveStream) : Prop :=
  l.sending = none → l.lastSent = l.lastRead ∨ hasChanged l.lastSubscribedCount l.lastRead = true

/-- A tick finds the accounts of the tick before it, or another number of accounts; and a request
is accepted. -/
def Seen (l : LiveStream) : StreamEvent → Prop
  | .perform .. => True
  | .tick => l.sending = none →
      l.subscriber.subscribedAddresses = l.lastRead ∨ l.subscriber.subscribedAddresses.card ≠ l.lastRead.card
  | .sendEnds ok => l.sending ≠ none → ok = true

/-- The stream serves what the last tick read; a request under way is for another number of accounts. -/
structure InStep (l : LiveStream) : Prop where
  count : l.lastSubscribedCount = l.lastSent.card
  idle : l.sending = none → l.lastSent = l.lastRead
  busy : ∀ accounts, l.sending = some accounts → accounts = l.lastRead ∧ accounts.card ≠ l.lastSent.card

theorem connected_inStep (s : AccountSubscriber) : (connected s).InStep :=
  ⟨rfl, fun _ => rfl, nofun⟩

theorem hasChanged_iff {count : ℕ} {accounts : Finset Pubkey} :
    hasChanged count accounts = true ↔ accounts.card ≠ count := decide_eq_true_iff

theorem tick_inStep {l : LiveStream} (inStep : l.InStep) : (step l .tick).1.InStep ↔ l.Seen .tick := by
  obtain ⟨subscriber, count, sending, lastRead, lastSent⟩ := l
  obtain ⟨counted, idle, busy⟩ := inStep
  cases sending with
  | some accounts => exact ⟨fun _ => nofun, fun _ => ⟨counted, idle, busy⟩⟩
  | none =>
    obtain rfl : lastSent = lastRead := idle rfl
    obtain rfl : count = lastSent.card := counted
    dsimp only [step, Seen]
    by_cases changed : hasChanged lastSent.card subscriber.subscribedAddresses = true
    · rw [if_pos changed]
      have differs := hasChanged_iff.mp changed
      refine ⟨fun _ _ => Or.inr differs, fun _ => ⟨rfl, nofun, fun accounts under => ?_⟩⟩
      obtain rfl := Option.some.inj under
      exact ⟨rfl, differs⟩
    · rw [if_neg changed]
      have same : subscriber.subscribedAddresses.card = lastSent.card :=
        not_not.mp fun differs => changed (hasChanged_iff.mpr differs)
      constructor
      · intro after _
        exact Or.inl (after.idle rfl).symm
      · intro seen
        rcases seen rfl with equal | differs
        · exact ⟨rfl, fun _ => equal.symm, nofun⟩
        · exact absurd same differs

theorem sendEnds_inStep {l : LiveStream} (inStep : l.InStep) (ok : Bool) :
    (step l (.sendEnds ok)).1.InStep ↔ l.Seen (.sendEnds ok) := by
  obtain ⟨subscriber, count, sending, lastRead, lastSent⟩ := l
  obtain ⟨counted, idle, busy⟩ := inStep
  cases sending with
  | none => exact ⟨fun _ under => absurd rfl under, fun _ => ⟨counted, idle, busy⟩⟩
  | some accounts =>
    obtain ⟨rfl, differs⟩ := busy accounts rfl
    dsimp only [step, Seen]
    cases ok with
    | true => exact ⟨fun _ _ => rfl, fun _ => ⟨rfl, fun _ => rfl, nofun⟩⟩
    | false =>
      constructor
      · intro after
        exact absurd after.count differs
      · intro accepted
        cases accepted (by simp)

theorem step_inStep {l : LiveStream} (inStep : l.InStep) (event : StreamEvent) :
    (step l event).1.InStep ↔ l.Seen event := by
  cases event with
  | perform op now => exact ⟨fun _ => trivial, fun _ => ⟨inStep.count, inStep.idle, inStep.busy⟩⟩
  | tick => exact tick_inStep inStep
  | sendEnds ok => exact sendEnds_inStep inStep ok

theorem follows_of_inStep {l : LiveStream} (inStep : l.InStep) : l.Follows :=
  fun idle => Or.inl (inStep.idle idle)

/-- Once no request is under way nothing is pending: the count is that of the last tick. -/
theorem seen_of_follows {l : LiveStream} {event : StreamEvent} (inStep : l.InStep)
    (follows : (step l event).1.Follows) : l.Seen event := by
  obtain ⟨subscriber, count, sending, lastRead, lastSent⟩ := l
  obtain ⟨counted, idle, busy⟩ := inStep
  cases event with
  | perform op now => trivial
  | tick =>
    intro waits
    obtain rfl : sending = none := waits
    obtain rfl : lastSent = lastRead := idle rfl
    obtain rfl : count = lastSent.card := counted
    dsimp only [step] at follows
    by_cases changed : hasChanged lastSent.card subscriber.subscribedAddresses = true
    · exact Or.inr (hasChanged_iff.mp changed)
    · rw [if_neg changed] at follows
      rcases follows rfl with same | pending
      · exact Or.inl same.symm
      · exact absurd pending changed
  | sendEnds ok =>
    intro under
    obtain ⟨accounts, rfl⟩ := Option.ne_none_iff_exists'.mp under
    obtain ⟨rfl, differs⟩ := busy accounts rfl
    cases ok with
    | true => rfl
    | false =>
      rcases follows rfl with same | pending
      · exact absurd (congrArg Finset.card (same : lastSent = accounts).symm) differs
      · exact absurd rfl (hasChanged_iff.mp pending)

/-- After every tick of a live stream the accounts of the last accepted request are those the tick
has read, or the change is still pending, exactly when each tick finds the accounts of the tick
before it or another number of accounts, and each request is accepted. -/
theorem follows_iff_seen (s : AccountSubscriber) (events : List StreamEvent) :
    (∀ h, h <+: events → (step.after (connected s) h).Follows) ↔
      ∀ h event, h ++ [event] <+: events → (step.after (connected s) h).Seen event := by
  have kept := Machine.always_iff step (P := InStep) (fun l event inStep => step_inStep inStep event)
    (connected_inStep s) events
  rw [← kept]
  constructor
  · intro follows h
    induction h using List.reverseRecOn with
    | nil => exact fun _ => connected_inStep s
    | append_singleton h event ih =>
      intro before
      have inStep := ih ((List.prefix_append h [event]).trans before)
      have next := follows _ before
      rw [Machine.after_snoc] at next ⊢
      exact (step_inStep inStep event).mpr (seen_of_follows inStep next)
  · intro inStep h before
    exact follows_of_inStep (inStep h before)

/-- A mint with its curve and token account. -/
def trackedSample (mint curve ata : Pubkey) : List StreamEvent :=
  [.perform (.mapBondingCurve curve mint) 0, .perform (.touch mint) 0, .perform (.subscribe curve .bondingCurve) 0,
    .perform (.mapAta ata mint) 0, .perform (.touch mint) 0, .perform (.subscribe ata .ata) 0]

/-- Between two ticks one mint is untracked and another one tracked: the new accounts are never
requested. -/
theorem unseen_swap : ¬ ∀ s events, ∀ h, h <+: events → (step.after (connected s) h).Follows := by
  intro claim
  have follows := claim (step.after (connected AccountSubscriber.new) (trackedSample 5 205 105)).subscriber
    ([.perform (.bondingCurvesOf 5) 0, .perform (.unmapBondingCurve 205) 0, .perform (.unsubscribe 205) 0,
      .perform (.atasOf 5) 0, .perform (.unmapAta 105) 0, .perform (.unsubscribe 105) 0,
      .perform (.forgetTouch 5) 0] ++ trackedSample 6 206 106 ++ [.tick]) _ List.prefix_rfl
  rcases follows (by decide) with same | pending
  · exact absurd same (by decide)
  · exact absurd pending (by decide)

end LiveStream

end CopyTrader.Grpc
