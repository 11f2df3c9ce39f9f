import CopyTrader.Consensus.Votes

/-!
# What stands behind an entry and a trigger

Nothing but submissions brings a vote into the engine. So the votes of every entry, its wallet
minimum, and the wallets of every trigger go back to signals that were submitted under its key.
-/

namespace CopyTrader.Consensus
open Lib
open TokenSignals (counted mem_expire)

def ConsensusTrigger.key (trigger : ConsensusTrigger) : ConsensusKey := ⟨trigger.groupId, trigger.tokenMint⟩

/-- The votes of an entry and its minimum come from the given signals. -/
structure BackedEntry (given : BuySignal → Prop) (k : ConsensusKey) (entry : TokenSignals) : Prop where
  votes : ∀ v ∈ entry.signals, given v ∧ v.key = k
  nodup : (entry.signals.map (·.wallet)).Nodup
  opened : ∃ first, given first ∧ first.key = k ∧ entry.minWallets = first.consensusMinWallets

/-- Every wallet of a trigger voted with a counting signal, and there are as many as the entry asked
for, by the minimum it has kept since a signal opened it. -/
structure BackedTrigger (given : BuySignal → Prop) (minWallets : ℕ) (trigger : ConsensusTrigger) : Prop where
  votes : ∀ wallet ∈ trigger.wallets,
    ∃ v, given v ∧ v.key = trigger.key ∧ v.wallet = wallet ∧ v.countsForCandidateConsensus = true
  nodup : trigger.wallets.Nodup
  opened : ∃ first, given first ∧ first.key = trigger.key ∧ minWallets = first.consensusMinWallets
  enough : minWallets ≤ trigger.wallets.length

def BackedEngine (given : BuySignal → Prop) (engine : ConsensusEngine) : Prop :=
  ∀ k entry, engine.signals.get k = some entry → BackedEntry given k entry

variable {given given' : BuySignal → Prop} {k : ConsensusKey} {entry : TokenSignals} {engine : ConsensusEngine}

theorem BackedEntry.mono (imp : ∀ v, given v → given' v) (backed : BackedEntry given k entry) :
    BackedEntry given' k entry where
  votes v member := (backed.votes v member).imp_left (imp v)
  nodup := backed.nodup
  opened := backed.opened.imp fun v => And.imp_left (imp v)

theorem BackedTrigger.mono {minWallets : ℕ} {trigger : ConsensusTrigger} (imp : ∀ v, given v → given' v)
    (backed : BackedTrigger given minWallets trigger) : BackedTrigger given' minWallets trigger where
  votes wallet member := (backed.votes wallet member).imp fun v => And.imp_left (imp v)
  nodup := backed.nodup
  opened := backed.opened.imp fun v => And.imp_left (imp v)
  enough := backed.enough

theorem BackedEngine.mono (imp : ∀ v, given v → given' v) (backed : BackedEngine given engine) :
    BackedEngine given' engine := fun k entry read => (backed k entry read).mono imp

theorem BackedEngine.new : BackedEngine given ConsensusEngine.new := by
  intro k entry read
  cases read

theorem backedEntry_fresh {signal : BuySignal} (is_given : given signal) :
    BackedEntry given signal.key (TokenSignals.fresh signal) where
  votes _ member := nomatch member
  nodup := List.nodup_nil
  opened := ⟨signal, is_given, rfl, rfl⟩

/-- An entry with fewer votes and the same minimum. -/
theorem BackedEntry.sublist {entry' : TokenSignals} (backed : BackedEntry given k entry)
    (fewer : entry'.signals.Sublist entry.signals) (same : entry'.minWallets = entry.minWallets) :
    BackedEntry given k entry' where
  votes v member := backed.votes v (fewer.subset member)
  nodup := backed.nodup.sublist (fewer.map _)
  opened := by
    rw [same]
    exact backed.opened

theorem BackedEntry.submitted {entry' : TokenSignals} {now triggeredAt : Instant} {signal : BuySignal}
    {trigger : Option ConsensusTrigger} (backed : BackedEntry given signal.key entry) (is_given : given signal)
    (spec : TokenSignals.Submitted entry now signal triggeredAt entry' trigger) :
    BackedEntry given signal.key entry' where
  votes v member := by
    rcases spec.mem member with rfl | ⟨old, _⟩
    · exact ⟨is_given, rfl⟩
    · exact backed.votes v old
  nodup := spec.nodup backed.nodup
  opened := by
    rw [spec.settings.1]
    exact backed.opened

theorem BackedEntry.fired {now triggeredAt : Instant} {signal : BuySignal} {entry' : TokenSignals}
    {trigger : ConsensusTrigger} (backed : BackedEntry given signal.key entry) (is_given : given signal)
    (spec : TokenSignals.Submitted entry now signal triggeredAt entry' (some trigger)) :
    BackedTrigger given entry.minWallets trigger := by
  have after := backed.submitted is_given spec
  cases spec with
  | fired votes placed armed trigger built =>
    have key : trigger.key = signal.key := by
      rw [ConsensusTrigger.key, built.groupId, built.tokenMint]
      rfl
    constructor
    · intro wallet member
      rw [built.wallets] at member
      obtain ⟨v, counts, rfl⟩ := List.mem_map.mp member
      rw [counted, List.mem_filter] at counts
      obtain ⟨is_given, own⟩ := after.votes v counts.1
      exact ⟨v, is_given, own.trans key.symm, rfl, counts.2⟩
    · rw [built.wallets]
      exact after.nodup.sublist (List.filter_sublist.map _)
    · obtain ⟨first, is_given, own, least⟩ := backed.opened
      exact ⟨first, is_given, own.trans key.symm, least⟩
    · rw [built.wallets, List.length_map]
      exact built.enough

/-! ### The operations of the engine -/

theorem BackedEngine.entryFor {signal : BuySignal} (backed : BackedEngine given engine) (is_given : given signal) :
    BackedEntry given signal.key (engine.entryFor signal) := by
  unfold ConsensusEngine.entryFor
  cases read : engine.signals.get signal.key with
  | none => exact backedEntry_fresh is_given
  | some entry => exact backed signal.key entry read

theorem BackedEngine.submitSignal {now triggeredAt : Instant} {signal : BuySignal}
    (backed : BackedEngine given engine) (is_given : given signal) :
    BackedEngine given (engine.submitSignal now signal triggeredAt).1 := by
  intro k entry read
  rw [ConsensusEngine.submitSignal_get] at read
  split at read
  · rename_i same
    obtain rfl := Option.some.inj read
    rw [same]
    exact (backed.entryFor is_given).submitted is_given (TokenSignals.submit_cases _ now signal triggeredAt)
  · exact backed k entry read

theorem BackedEngine.trigger {now triggeredAt : Instant} {signal : BuySignal} {trigger : ConsensusTrigger}
    (backed : BackedEngine given engine) (is_given : given signal)
    (fires : (engine.submitSignal now signal triggeredAt).2 = some trigger) :
    BackedTrigger given (engine.entryFor signal).minWallets trigger := by
  have spec := TokenSignals.submit_cases (engine.entryFor signal) now signal triggeredAt
  rw [← ConsensusEngine.submitSignal_trigger, fires] at spec
  exact (backed.entryFor is_given).fired is_given spec

theorem BackedEngine.rejectSignal {groupId : String} {mint wallet : Pubkey} {signature : Signature}
    (backed : BackedEngine given engine) :
    BackedEngine given (engine.rejectSignal groupId mint wallet signature).1 := by
  intro k entry read
  rw [ConsensusEngine.rejectSignal_get] at read
  split at read
  · obtain ⟨old, found, rfl⟩ := Option.map_eq_some_iff.mp read
    exact (backed k old found).sublist List.filter_sublist rfl
  · exact backed k entry read

theorem BackedEngine.cleanupPass {now : Instant} (backed : BackedEngine given engine) :
    BackedEngine given (engine.cleanupPass now) := by
  intro k entry read
  rw [ConsensusEngine.cleanupPass_get] at read
  obtain ⟨old, found, kept⟩ := Option.bind_eq_some_iff.mp read
  rw [TokenSignals.cleanup_some kept]
  exact (backed k old found).sublist (TokenSignals.expire_sublist old now) rfl

end CopyTrader.Consensus
